import WebCapture.Queue.Basic

set_option autoImplicit false

/-! # What happens to a queue

A queue is used by the service, which calls it, and by the crawler, which takes requests and
brings results. One consumer at a time waits for a result; while it waits, others may call the
queue, and the crawler may come. That the time of a consumer runs out is an event too, so time
itself need not be modelled.

A queue in this sense is a state with a step for each `Event`. `Sight` is all that can be seen of
an event, so that two queues that are built in different ways can be compared by what they show
(`observe`).
-/

namespace WebCapture.Queue

open Text.Utf8 (Bytes)

inductive Event where
  /-- The service calls. A consumer that waits for a result does not ask for another one. -/
  | call (call : Call)
  /-- The time of the consumer that waits is over, if it does not wait for ever. -/
  | timeUp
  /-- The crawler takes the first request. -/
  | takeRequest
  /-- The crawler brings a result, or any other payload. -/
  | bringResult (payload : Bytes)
  deriving DecidableEq, Repr

/-- What comes out of a queue. -/
inductive Output where
  /-- The answer to a call. -/
  | answer (call : Call) (answer : call.Answer)
  /-- The request that the crawler gets, if there is one. -/
  | request (request : Except Error (Option Capture.Request))

/-- What is seen of an event: what comes out, and for how long the consumer still waits, if it
does. -/
structure Sight where
  outputs : List Output
  waiting : Option Time.Span

/-- What is seen of one event after the other, and the queue after them. -/
def observe {σ : Type} (step : σ → Event → List Output × σ) (waiting : σ → Option Time.Span) :
    σ → List Event → List Sight × σ
  | state, [] => ([], state)
  | state, event :: more =>
    let (outputs, state) := step state event
    let (sights, last) := observe step waiting state more
    (⟨outputs, waiting state⟩ :: sights, last)

end WebCapture.Queue
