import WebCapture.Seed.Lifecycle

set_option autoImplicit false

/-! # Counting what happens

The service counts the events of its work and knows whether its listener is running. An event is
counted in exactly one counter, but for a result whose state is none in which a seed has ended,
which is counted in none. The submission of several seeds counts as many.
-/

namespace WebCapture.Service

inductive Event where
  | enqueued (success : Bool)
  /-- A result brought its seed to this state. -/
  | result (state : Seed.State)
  | dropped
  | parked
  | dequeueFailed
  | submitted (count : Nat)
  | rejected
  deriving DecidableEq, Repr

/-- How often each event has happened. -/
structure Counters where
  requestsEnqueued : Nat
  enqueueFailures : Nat
  resultsSucceeded : Nat
  resultsFailed : Nat
  resultsDropped : Nat
  resultsParked : Nat
  dequeueFailures : Nat
  seedsSubmitted : Nat
  urlsRejected : Nat
  deriving DecidableEq, Repr

namespace Counters

def zero : Counters := ⟨0, 0, 0, 0, 0, 0, 0, 0, 0⟩

/-- The counters after an event. A state in which a seed has not ended is no result. -/
def count (counters : Counters) : Event → Counters
  | .enqueued true => { counters with requestsEnqueued := counters.requestsEnqueued + 1 }
  | .enqueued false => { counters with enqueueFailures := counters.enqueueFailures + 1 }
  | .result .doneSuccess => { counters with resultsSucceeded := counters.resultsSucceeded + 1 }
  | .result .doneFailure => { counters with resultsFailed := counters.resultsFailed + 1 }
  | .result _ => counters
  | .dropped => { counters with resultsDropped := counters.resultsDropped + 1 }
  | .parked => { counters with resultsParked := counters.resultsParked + 1 }
  | .dequeueFailed => { counters with dequeueFailures := counters.dequeueFailures + 1 }
  | .submitted n => { counters with seedsSubmitted := counters.seedsSubmitted + n }
  | .rejected => { counters with urlsRejected := counters.urlsRejected + 1 }

def entries (counters : Counters) : List (String × Nat) := [
  ("requests_enqueued", counters.requestsEnqueued),
  ("enqueue_failures", counters.enqueueFailures),
  ("results_succeeded", counters.resultsSucceeded),
  ("results_failed", counters.resultsFailed),
  ("results_dropped", counters.resultsDropped),
  ("results_parked", counters.resultsParked),
  ("dequeue_failures", counters.dequeueFailures),
  ("seeds_submitted", counters.seedsSubmitted),
  ("urls_rejected", counters.urlsRejected)]

end Counters

end WebCapture.Service
