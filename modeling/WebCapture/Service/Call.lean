import WebCapture.Program
import WebCapture.Queue.Basic
import WebCapture.Service.Counters
import WebCapture.Store.Basic
import WebCapture.Url.Admission

set_option autoImplicit false

/-! # What the service asks of its surroundings

The work of the service is written as programs over the calls named here: calls of the store and
of the queue, fresh ids, counting, and the passing of time. Each call is one atomic step, and
anything may happen between two of them.

Calls of the store and of the queue bring an error if they fail; the others do not fail. The
functions below the calls make one call each, with its answer as their result.
-/

namespace WebCapture.Service

inductive Call where
  | store (call : Store.Call)
  | queue (call : Queue.Call)
  /-- A fresh id for a seed. -/
  | freshSeedId
  /-- A fresh id for a group. -/
  | freshGroupId
  | count (event : Event)
  /-- Note whether the listener is running. -/
  | setListening (running : Bool)
  /-- Whether the listener is running. -/
  | isListening
  /-- Whether the work is to end. -/
  | isCancelled
  /-- Wait for some time, or until the work is to end; tells whether it is. -/
  | pause (delay : Time.Span)
  deriving DecidableEq, Repr

def Call.Answer : Call → Type
  | store call => call.Answer
  | queue call => call.Answer
  | freshSeedId => ShadowId
  | freshGroupId => ShadowId
  | count _ => Unit
  | setListening _ => Unit
  | isListening => Bool
  | isCancelled => Bool
  | pause _ => Bool

/-- Whether whoever makes the call waits: for the store, for the queue, or for time to pass. -/
def Call.takesTime : Call → Bool
  | store _ | queue _ | pause _ => true
  | _ => false

/-- A part of the work of the service. -/
abbrev Work (α : Type) : Type := Program Call Call.Answer α

namespace Work

def saveSeeds (seeds : List Seed) : Work (Except Store.Error Unit) :=
  .call (.store (.save seeds)) .done

def saveGroup (group : SeedGroup) : Work (Except Store.Error Unit) :=
  .call (.store (.saveGroup group)) .done

def getGroup (id : ShadowId) : Work (Except Store.Error SeedGroup) :=
  .call (.store (.getGroup id)) .done

def getSeed (id : ShadowId) : Work (Except Store.Error Seed) := .call (.store (.getSeed id)) .done

/-- Changes the state of a seed that is in the expected one. -/
def compareAndSet (id : ShadowId) (expected next : Seed.State) : Work (Except Store.Error Unit) :=
  .call (.store (.compareAndSet id expected next)) .done

def updateArchive (id : ShadowId) (archive : Seed.Archive) : Work (Except Store.Error Unit) :=
  .call (.store (.updateArchive id archive)) .done

def enqueue (request : Capture.Request) : Work (Except Queue.Error Unit) :=
  .call (.queue (.enqueue request)) .done

def awaitResult (timeout : Time.Span) : Work (Except Queue.Error Capture.Result) :=
  .call (.queue (.awaitResult timeout)) .done

def park (result : Capture.Result) : Work (Except Queue.Error Unit) :=
  .call (.queue (.park result)) .done

def pendingRequests : Work (Except Queue.Error Nat) := .call (.queue .pendingRequests) .done

def pendingResults : Work (Except Queue.Error Nat) := .call (.queue .pendingResults) .done

def freshSeedId : Work ShadowId := .call .freshSeedId .done

def freshGroupId : Work ShadowId := .call .freshGroupId .done

def count (event : Event) : Work Unit := .call (.count event) .done

def setListening (running : Bool) : Work Unit := .call (.setListening running) .done

def isListening : Work Bool := .call .isListening .done

def isCancelled : Work Bool := .call .isCancelled .done

/-- Waits; tells whether the work is to end. -/
def pause (delay : Time.Span) : Work Bool := .call (.pause delay) .done

end Work

end WebCapture.Service
