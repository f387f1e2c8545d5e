import WebCapture.Service.Call

set_option autoImplicit false

/-! # The health of the service

The service is healthy if its queue answers, no backlog has built up, and the listener runs where
one is expected. Each of the three is rated by itself, and the whole is as good as the worst of
them (`report`).

A queue that does not answer is critical. Nobody knows its backlogs then, which calls for a
warning in itself.
-/

namespace WebCapture.Service.Health

/-- How well a part of the service is. -/
inductive Level where
  | healthy
  | warning
  | critical
  deriving DecidableEq, Repr

def Level.name : Level → String
  | .healthy => "Healthy"
  | .warning => "Warning"
  | .critical => "Critical"

def worst (levels : List Level) : Level :=
  if levels.contains .critical then .critical
  else if levels.contains .warning then .warning
  else .healthy

/-- Backlogs above these numbers call for a warning, or are critical. -/
structure Thresholds where
  warnRequests : Nat
  criticalRequests : Nat
  warnResults : Nat
  criticalResults : Nat
  deriving DecidableEq, Repr

def Thresholds.standard : Thresholds := ⟨100, 1000, 50, 500⟩

def levelOf (count warn critical : Nat) : Level :=
  if critical < count then .critical else if warn < count then .warning else .healthy

/-- How well the service is. The backlogs are missing if the queue did not tell them. -/
structure Report where
  overall : Level
  broker : Level
  backlog : Level
  listener : Level
  pending : Option (Nat × Nat)
  deriving DecidableEq, Repr

def report (thresholds : Thresholds) (pending : Option (Nat × Nat)) (listenerIsFine : Bool) :
    Report :=
  let broker : Level := if pending.isSome then .healthy else .critical
  let backlog : Level := match pending with
    | some (requests, results) =>
      worst [levelOf requests thresholds.warnRequests thresholds.criticalRequests,
        levelOf results thresholds.warnResults thresholds.criticalResults]
    | none => .warning
  let listener : Level := if listenerIsFine then .healthy else .critical
  ⟨worst [broker, backlog, listener], broker, backlog, listener, pending⟩

/-- The backlogs of both channels, if both can be told. -/
def bothPending (requests results : Except Queue.Error Nat) : Option (Nat × Nat) :=
  match requests, results with
  | .ok requests, .ok results => some (requests, results)
  | _, _ => none

/-- Looks at both channels, and at the listener if one is expected. -/
def check (thresholds : Thresholds) (expectListener : Bool) : Work Report := do
  let requests ← Work.pendingRequests
  let results ← Work.pendingResults
  let running ← Work.isListening
  return report thresholds (bothPending requests results) (!expectListener || running)

end WebCapture.Service.Health
