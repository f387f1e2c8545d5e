import WebCapture.Capture.Message

set_option autoImplicit false

/-! # What a result asks for

What is done with a result depends on the state of its seed. Results may come before the seed was
marked as pending, since the crawler can be faster than the service that handed the request to it,
and they may come more than once, since the crawler sends a result again if it is not sure that
the first one has arrived.

So `Result.decision` never fails. A result for a seed that has ended changes nothing, but for one
case: archive details that a success is still missing are written after all.
-/

namespace WebCapture.Capture

inductive Decision where
  /-- The seed moves to `target`. With `reconcile` it was never marked as pending, and that
  comes first. -/
  | advance (target : Seed.State) (reconcile : Bool)
  /-- The capture goes on; nothing is done. -/
  | unfinished
  /-- The seed has already ended in this state; nothing is done. -/
  | alreadyFinished (state : Seed.State)
  /-- The seed was captured, but its archive details are missing and can be written now. -/
  | recordArchive
  deriving DecidableEq, Repr

/-- What a result asks for, given the state of its seed and whether it has archive details. -/
def Result.decision (result : Result) (current : Seed.State) (archived : Bool) : Decision :=
  match result.target? with
  | none => .unfinished
  | some target =>
    match current with
    | .notEnqueued => .advance target true
    | .pending => .advance target false
    | .doneSuccess =>
      if !archived && target == .doneSuccess && result.record.isSome then .recordArchive
      else .alreadyFinished .doneSuccess
    | .doneFailure => .alreadyFinished .doneFailure

end WebCapture.Capture
