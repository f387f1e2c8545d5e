import WebCapture.Broker.Dialogue
import WebCapture.Queue.Basic

set_option autoImplicit false

/-! # Channels on the broker

The channels are lists that the broker keeps: payloads are appended at the end and taken from the
front. Each call of the queue is a dialogue that takes at most one command; a request that is not
complete is refused without any.

An error line of the broker becomes a failure of the transport (`ofErrorLine`), which may pass. A
result is taken with a command that waits on the side of the broker.
-/

namespace WebCapture.Queue

open Broker (Dialogue ErrorLine)

/-- The keys of the lists. -/
structure Lists where
  requests : String
  results : String
  unmatched : String
  deriving DecidableEq, Repr

def ofErrorLine (e : ErrorLine) : Error := .transport e.message

namespace Lists

def enqueue (lists : Lists) (request : Capture.Request) : Dialogue (Except Error Unit) :=
  match encodeRequest request with
  | .error e => return .error e
  | .ok payload => do
    match ← Dialogue.send (.push lists.requests payload) with
    | .ok _ => return .ok ()
    | .error e => return .error (ofErrorLine e)

def awaitResult (lists : Lists) (timeout : Time.Span) :
    Dialogue (Except Error Capture.Result) := do
  match ← Dialogue.send (.pop lists.results timeout) with
  | .ok (some payload) => return decodeResult payload
  | .ok none => return .error .timeout
  | .error e => return .error (ofErrorLine e)

def pending (key : String) : Dialogue (Except Error Nat) := do
  return (← Dialogue.send (.length key)).mapError ofErrorLine

def park (lists : Lists) (result : Capture.Result) : Dialogue (Except Error Unit) := do
  match ← Dialogue.send (.push lists.unmatched (encodeResult result)) with
  | .ok _ => return .ok ()
  | .error e => return .error (ofErrorLine e)

def answer (lists : Lists) : (call : Call) → Dialogue call.Answer
  | .enqueue request => lists.enqueue request
  | .awaitResult timeout => lists.awaitResult timeout
  | .pendingRequests => pending lists.requests
  | .pendingResults => pending lists.results
  | .park result => lists.park result

end Lists

end WebCapture.Queue
