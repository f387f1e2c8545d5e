import WebCapture.Capture.Wire
import WebCapture.Severity
import WebCapture.Time.Span

set_option autoImplicit false

/-! # The hand-over of requests and results

Requests and results are exchanged through two channels, first in first out, in their written
form. A third list keeps results that could not be applied. `Call` names what can be asked of the
channels and `Call.Answer` what comes back.

There are several ways to provide the calls: lists in memory (`Queue/Channels`), lists on a broker
(`Queue/Lists`), and both again with consumers that wait (`Queue/Memory`, `Queue/Remote`). All of
them write and read payloads with the functions of this file, and report what goes wrong as an
`Error`.

A payload that is taken off a channel is gone from it whether it can be read or not.
-/

namespace WebCapture.Queue

open Text.Utf8 (Bytes)

inductive Error where
  | invalidRequest (reason : String)
  | serialization (reason : String)
  | transport (reason : String)
  | malformed (reason : String)
  /-- Nothing arrived in time, which is no failure. -/
  | timeout
  deriving DecidableEq, Repr

namespace Error

def message : Error → String
  | invalidRequest reason => "invalid capture request: " ++ reason
  | serialization reason => "serialization error: " ++ reason
  | transport reason => "broker transport error: " ++ reason
  | malformed reason => "malformed result payload: " ++ reason
  | timeout => "operation timed out"

/-- Whether nothing failed but the time ran out. -/
def isTimeout : Error → Bool
  | timeout => true
  | _ => false

/-- Whether the same call may succeed later. -/
def isRetryable : Error → Bool
  | transport _ => true
  | _ => false

def severity : Error → Severity
  | timeout => .low
  | invalidRequest _ | malformed _ | serialization _ => .medium
  | transport _ => .high

end Error

/-- The payload of a request, if the request is complete. -/
def encodeRequest (request : Capture.Request) : Except Error Bytes :=
  match request.gap? with
  | some gap => .error (.invalidRequest gap.message)
  | none => .ok (Text.Utf8.ofString request.text)

def encodeResult (result : Capture.Result) : Bytes := Text.Utf8.ofString result.text

def decodeRequest (payload : Bytes) : Except Error Capture.Request :=
  match Capture.Request.read payload with
  | .ok request => .ok request
  | .error fault => .error (.malformed fault.message)

def decodeResult (payload : Bytes) : Except Error Capture.Result :=
  match Capture.Result.read payload with
  | .ok result => .ok result
  | .error fault => .error (.malformed fault.message)

inductive Call where
  /-- Append a request to the request channel. -/
  | enqueue (request : Capture.Request)
  /-- Take the first result off the result channel, waiting for one as long as `timeout`, or
  for ever if that is zero. -/
  | awaitResult (timeout : Time.Span)
  /-- How many requests no worker has taken yet. -/
  | pendingRequests
  /-- How many results have not been taken yet. -/
  | pendingResults
  /-- Put a result aside that could not be applied. -/
  | park (result : Capture.Result)
  deriving DecidableEq, Repr

def Call.Answer : Call → Type
  | enqueue _ => Except Error Unit
  | awaitResult _ => Except Error Capture.Result
  | pendingRequests => Except Error Nat
  | pendingResults => Except Error Nat
  | park _ => Except Error Unit

def Call.failure (error : Error) : (call : Call) → call.Answer
  | enqueue _ => Except.error error
  | awaitResult _ => Except.error error
  | pendingRequests => Except.error error
  | pendingResults => Except.error error
  | park _ => Except.error error

inductive Operation where
  | enqueue
  | awaitResult
  | pendingRequests
  | pendingResults
  | park
  deriving DecidableEq, Repr

def Call.operation : Call → Operation
  | enqueue _ => .enqueue
  | awaitResult _ => .awaitResult
  | pendingRequests => .pendingRequests
  | pendingResults => .pendingResults
  | park _ => .park

end WebCapture.Queue
