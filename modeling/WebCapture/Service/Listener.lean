import WebCapture.Config.Basic
import WebCapture.Service.Capture

set_option autoImplicit false

/-! # Listening for results

The listener takes results off their channel one at a time and applies them. A result that cannot
be applied is put aside, so that it neither holds up the others nor gets lost.

The listener ends when it is told to, which it notices between two polls, or when the queue has
failed too often in a row. Of the polls, one that brings a result or nothing in time ends a row of
failures; one that brings a payload which cannot be read leaves the row as it is. After a failure
the listener waits before it polls again, longer each time.

`listen` has a number of rounds that it may do. What is proved about it holds for every such
number.
-/

namespace WebCapture.Service

/-- Why the listener ended. -/
inductive ListenerExit where
  | cancelled
  /-- The queue failed `attempts` times in a row. -/
  | queueFailed (attempts : Nat) (lastError : Queue.Error)
  deriving DecidableEq, Repr

def ListenerExit.severity : ListenerExit → Severity
  | .cancelled => .low
  | .queueFailed _ _ => .critical

namespace Listener

/-- Puts a result aside; one that cannot be put aside is dropped. -/
def setAside (result : Capture.Result) : Work Unit := do
  match ← Work.park result with
  | .ok () => Work.count .parked
  | .error _ => Work.count .dropped

def handle (rules : Rules) (result : Capture.Result) : Work Unit := do
  match ← processResult rules result with
  | .ok (.applied _) => return ()
  | .ok .archiveRecorded => return ()
  | .ok .unfinished => Work.count .dropped
  | .ok .duplicate => Work.count .dropped
  | .error _ => setAside result

/-- What follows a round: another one after so many failures in a row, or the end. -/
inductive Next where
  | goOn (failures : Nat)
  | exit (reason : ListenerExit)
  deriving DecidableEq, Repr

/-- What follows a poll that failed in a way that may pass, as the last of `failures` in a
row. -/
def afterFailure (config : Config.Listener) (failures : Nat) (error : Queue.Error) :
    Work Next := do
  Work.count .dequeueFailed
  if config.retry.maxAttempts ≤ failures then return .exit (.queueFailed failures error)
  else if ← Work.pause (config.retry.delay (failures - 1)) then return .exit .cancelled
  else return .goOn failures

/-- One poll and what it brings, after so many failures in a row. A payload that cannot be read
is off the channel already; there is nothing to try again. -/
def poll (config : Config.Listener) (rules : Rules) (failures : Nat) : Work Next := do
  match ← Work.awaitResult config.pollTimeout with
  | .ok result =>
    handle rules result
    return .goOn 0
  | .error e =>
    if e.isTimeout then return .goOn 0
    else if e.isRetryable then afterFailure config (failures + 1) e
    else
      Work.count .dropped
      return .goOn failures

def round (config : Config.Listener) (rules : Rules) (failures : Nat) : Work Next := do
  if ← Work.isCancelled then return .exit .cancelled else poll config rules failures

/-- At most `fuel` rounds of the listener; none is the answer if it would go on. -/
def rounds (config : Config.Listener) (rules : Rules) :
    Nat → Nat → Work (Option ListenerExit)
  | 0, _ => return none
  | fuel + 1, failures => do
    match ← round config rules failures with
    | .exit reason => return some reason
    | .goOn failures => rounds config rules fuel failures

/-- The work of the listener in at most `fuel` rounds. -/
def listen (config : Config.Listener) (rules : Rules) (fuel : Nat) :
    Work (Option ListenerExit) := do
  Work.setListening true
  match ← rounds config rules fuel 0 with
  | none => return none
  | some reason =>
    Work.setListening false
    return some reason

end Listener

end WebCapture.Service
