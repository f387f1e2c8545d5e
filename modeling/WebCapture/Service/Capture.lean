import WebCapture.Capture.Decision
import WebCapture.Service.Submission

set_option autoImplicit false

/-! # Capturing seeds

Seeds are handed to the crawler as requests, and its results are applied to them.

To enqueue a request and to mark its seed as pending are two steps; if only the first happened, or
the result came in between, the result brings the seed through the pending state itself. Every
change of a state is a compare-and-set, so that neither side can undo what the other did. A
conflict is not an error if the other side has done the same, or more.

Results may be applied again: a result whose seed has ended changes nothing, unless the archive
details are still missing.
-/

namespace WebCapture.Service

/-- What became of a result. -/
inductive Outcome where
  /-- The seed moved to this state. -/
  | applied (state : Seed.State)
  /-- The capture goes on; nothing changed. -/
  | unfinished
  /-- The seed had ended before; nothing changed. -/
  | duplicate
  /-- The missing archive details were written. -/
  | archiveRecorded
  deriving DecidableEq, Repr

/-- What became of the seeds of a group. -/
structure GroupCapture where
  enqueued : Nat
  /-- Seeds that were pending or had ended already. -/
  skipped : Nat
  deriving DecidableEq, Repr

/-! ## Handing seeds to the crawler -/

/-- Enqueues a request for a seed, whose state does not change. -/
def captureSeed (seed : Seed) : Work (Except CaptureError Unit) := do
  match ← Work.enqueue (Capture.Request.ofSeed seed) with
  | .ok () =>
    Work.count (.enqueued true)
    return .ok ()
  | .error e =>
    Work.count (.enqueued false)
    return .error (.queue e)

/-- Marks a seed as pending, unless its result has already moved it on. -/
def markPending (seed : Seed) : Work (Except CaptureError Unit) := do
  match ← transition seed.id .notEnqueued .pending with
  | .ok () => return .ok ()
  | .error e =>
    match e.conflictingState? with
    | some state => if state ≠ .notEnqueued then return .ok () else return .error (.seed e)
    | none => return .error (.seed e)

/-- Enqueues a request for a seed and marks it as pending. -/
def captureAndMark (seed : Seed) : Work (Except CaptureError Unit) := do
  match ← captureSeed seed with
  | .error e => return .error e
  | .ok () => markPending seed

/-- Captures the seeds of a group of `total` in their order, after what `done` tells. Seeds
that are not waiting are skipped; the first error ends the work. -/
def captureSeeds (total : Nat) (done : GroupCapture) :
    List Seed → Work (Except CaptureError GroupCapture)
  | [] => return .ok done
  | seed :: more =>
    if seed.state ≠ .notEnqueued then
      captureSeeds total { done with skipped := done.skipped + 1 } more
    else do
      match ← captureAndMark seed with
      | .error e => return .error (.groupPartiallyEnqueued done.enqueued total e)
      | .ok () => captureSeeds total { done with enqueued := done.enqueued + 1 } more

def captureGroup (group : SeedGroup) : Work (Except CaptureError GroupCapture) :=
  captureSeeds group.seeds.length ⟨0, 0⟩ group.seeds

/-! ## Applying results -/

/-- The archive details that go with a move to `target`; only a success has any. -/
def archiveFor (rules : Rules) (result : Capture.Result) (target : Seed.State) :
    Except SeedError (Option Seed.Archive) :=
  match result.record, target with
  | some record, .doneSuccess => (archiveOf rules record).map some
  | _, _ => .ok none

/-- Marks a seed as pending before its result is applied, if that is needed; it may have been
marked since it was read. -/
def reconcile (id : ShadowId) (needed : Bool) : Work (Except SeedError Unit) :=
  if needed then do
    match ← transition id .notEnqueued .pending with
    | .ok () => return .ok ()
    | .error e =>
      if e.conflictingState? = some .pending then return .ok () else return .error e
  else return .ok ()

/-- Moves a pending seed to its last state and writes its archive details, if there are any. -/
def finish (id : ShadowId) (target : Seed.State) (archive : Option Seed.Archive) :
    Work (Except SeedError Unit) := do
  match ← transition id .pending target with
  | .error e => return .error e
  | .ok () =>
    match archive with
    | none => return .ok ()
    | some archive => updateArchive id archive

/-- Moves a seed to the state that its result asks for. The archive details are computed first,
so that a bad stamp changes nothing. -/
def advance (rules : Rules) (result : Capture.Result) (target : Seed.State) (reconciling : Bool) :
    Work (Except SeedError Outcome) :=
  match archiveFor rules result target with
  | .error e => return .error e
  | .ok archive => do
    match ← reconcile result.id reconciling with
    | .error e => return .error e
    | .ok () =>
      match ← finish result.id target archive with
      | .error e => return .error e
      | .ok () =>
        Work.count (.result target)
        return .ok (.applied target)

/-- Writes the archive details of a seed that had succeeded without them. -/
def recordMissingArchive (rules : Rules) (result : Capture.Result) :
    Work (Except SeedError Outcome) :=
  match result.record with
  | none => return .ok .duplicate
  | some record =>
    match archiveOf rules record with
    | .error e => return .error e
    | .ok archive => do
      match ← updateArchive result.id archive with
      | .error e => return .error e
      | .ok () => return .ok .archiveRecorded

/-- Applies a result to its seed. -/
def processResult (rules : Rules) (result : Capture.Result) : Work (Except SeedError Outcome) := do
  match ← getSeed result.id with
  | .error e => return .error e
  | .ok seed =>
    match result.decision seed.state seed.archive.isSome with
    | .advance target reconciling => advance rules result target reconciling
    | .unfinished => return .ok .unfinished
    | .alreadyFinished _ => return .ok .duplicate
    | .recordArchive => recordMissingArchive rules result

end WebCapture.Service
