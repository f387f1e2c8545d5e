set_option autoImplicit false

/-! # Planned failures

Calls can be made to fail on purpose, to see how the service copes: a plan lets some calls of one
kind pass and then fails a number of them. Plans for one kind are used up one after the other, so
that several failures of a kind can be planned with calls that succeed in between.
-/

namespace WebCapture.Simulation

/-- A plan: after `skip` calls the next `times` ones fail with `error`. -/
structure Plan (ε : Type) where
  skip : Nat
  times : Nat
  error : ε
  deriving DecidableEq, Repr

/-- Plans for calls of several kinds. Plans for the same kind apply one after the other. -/
abbrev Plans (κ ε : Type) : Type := List (κ × Plan ε)

namespace Plans

variable {κ ε : Type} [DecidableEq κ]

/-- Whether the next call of a kind fails, and the plans after it. -/
def next (plans : Plans κ ε) (kind : κ) : Option ε × Plans κ ε :=
  match plans with
  | [] => (none, [])
  | (k, plan) :: more =>
    if k = kind then
      if 0 < plan.skip then (none, (k, { plan with skip := plan.skip - 1 }) :: more)
      else if 1 < plan.times then
        (some plan.error, (k, { plan with times := plan.times - 1 }) :: more)
      else (some plan.error, more)
    else
      let (error, more) := next more kind
      (error, (k, plan) :: more)

/-- How many calls of a kind it takes to use up its plans. -/
def calls (plans : Plans κ ε) (kind : κ) : Nat :=
  match plans with
  | [] => 0
  | (k, plan) :: more =>
    (if k = kind then plan.skip + max 1 plan.times else 0) + calls more kind

end Plans

end WebCapture.Simulation
