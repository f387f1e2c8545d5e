import WebCapture.Queue.Basic

set_option autoImplicit false

/-! # Channels in memory

The channels are lists of payloads; a payload is appended at the end and taken from the front.
`Channels.answer` provides the calls at a moment in which nothing else arrives: a result that is
not there yet does not come in time, and the call ends with a timeout at once.

The crawler's side of the channels is not among the calls of the service. It takes requests with
`popRequest` and brings results with `pushResult`.
-/

namespace WebCapture.Queue

open Text.Utf8 (Bytes)

/-- The channels and the list of results put aside. -/
structure Channels where
  requests : List Bytes
  results : List Bytes
  unmatched : List Bytes
  deriving DecidableEq, Repr

namespace Channels

def empty : Channels := ⟨[], [], []⟩

def pushResult (channels : Channels) (payload : Bytes) : Channels :=
  { channels with results := channels.results ++ [payload] }

/-- The first request, as a worker takes it; nothing if there is none. -/
def popRequest (channels : Channels) : Except Error (Option Capture.Request) × Channels :=
  match channels.requests with
  | [] => (.ok none, channels)
  | payload :: more => ((decodeRequest payload).map some, { channels with requests := more })

/-- The results put aside that can be read. -/
def parked (channels : Channels) : List Capture.Result :=
  channels.unmatched.filterMap fun payload => (decodeResult payload).toOption

def takeResult (channels : Channels) : Except Error Capture.Result × Channels :=
  match channels.results with
  | [] => (.error .timeout, channels)
  | payload :: more => (decodeResult payload, { channels with results := more })

def answer (channels : Channels) : (call : Call) → call.Answer × Channels
  | .enqueue request =>
    match encodeRequest request with
    | .error e => (Except.error e, channels)
    | .ok payload => (Except.ok (), { channels with requests := channels.requests ++ [payload] })
  | .awaitResult _ => channels.takeResult
  | .pendingRequests => (Except.ok channels.requests.length, channels)
  | .pendingResults => (Except.ok channels.results.length, channels)
  | .park result =>
    (Except.ok (), { channels with unmatched := channels.unmatched ++ [encodeResult result] })

end Channels

end WebCapture.Queue
