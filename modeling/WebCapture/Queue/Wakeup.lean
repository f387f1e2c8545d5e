import WebCapture.Queue.Channels

set_option autoImplicit false

/-! # Waiting for a result

A consumer that finds no result falls asleep until a producer wakes it. To append a result and
to wake the consumer are two steps of a producer; to ask for a ticket, to look at the channel
and to fall asleep are three steps of the consumer; and all of these interleave in any order.
A call that wakes nobody is kept, once, for the next consumer that wants to sleep.

`Wakeup.step?` does one such step, if it can be done, and `Wakeup.run?` does several. A state is
`Stuck` if the consumer sleeps though a result is there and nobody is about to wake it.
-/

namespace WebCapture.Queue

open Text.Utf8 (Bytes)

/-- What the consumer is about to do. -/
inductive Consumer where
  /-- It waits for nothing and holds no ticket. -/
  | away
  /-- It holds a ticket and is about to look at the channel. -/
  | looking
  /-- It has found the channel empty and is about to fall asleep. -/
  | drowsy
  /-- It sleeps. -/
  | asleep
  /-- It was woken, and has not noticed yet. -/
  | woken
  deriving DecidableEq, Repr

/-- A step of a producer or of the consumer. -/
inductive Move where
  /-- A producer appends a result. -/
  | append (payload : Bytes)
  /-- A producer that has appended a result wakes the consumer. -/
  | wake
  /-- The consumer asks for a ticket. -/
  | begin
  /-- The consumer takes the first result, if there is one. -/
  | look
  /-- The consumer falls asleep, unless it was called before; or it notices that it was woken. -/
  | doze
  /-- The consumer gives its ticket back, since its time is over. -/
  | leave
  deriving DecidableEq, Repr

/-- Channels with one consumer of results and any number of producers. -/
structure Wakeup where
  channels : Channels
  /-- How many producers have appended a result and are about to wake the consumer. -/
  callers : Nat
  /-- Whether a call that woke nobody is kept. -/
  kept : Bool
  consumer : Consumer
  deriving DecidableEq, Repr

namespace Wakeup

def start (channels : Channels) : Wakeup := ⟨channels, 0, false, .away⟩

/-- The state after a call to the consumer. -/
def call (state : Wakeup) : Wakeup :=
  match state.consumer with
  | .asleep => { state with consumer := .woken }
  | _ => { state with kept := true }

/-- The state after the consumer has looked at the channel. -/
def look (state : Wakeup) : Wakeup :=
  match state.channels.results with
  | [] => { state with consumer := .drowsy }
  | _ :: _ => { state with channels := state.channels.takeResult.2, consumer := .away }

/-- The state after one step; none if the step cannot be done. -/
def step? (state : Wakeup) (move : Move) : Option Wakeup :=
  match move, state.consumer with
  | .append payload, _ =>
    some { state with
      channels := state.channels.pushResult payload
      callers := state.callers + 1 }
  | .wake, _ => if state.callers = 0 then none else
      some { state.call with callers := state.callers - 1 }
  | .begin, .away => some { state with consumer := .looking }
  | .look, .looking => some state.look
  | .doze, .drowsy =>
    if state.kept then some { state with kept := false, consumer := .away }
    else some { state with consumer := .asleep }
  | .doze, .woken => some { state with consumer := .away }
  | .leave, .looking => some { state with consumer := .away }
  | .leave, .drowsy => some { state with consumer := .away }
  | .leave, .asleep => some { state with consumer := .away }
  | .leave, .woken => some { state with kept := true, consumer := .away }
  | _, _ => none

def run? (state : Wakeup) (moves : List Move) : Option Wakeup := moves.foldlM step? state

/-- The consumer sleeps though a result is there, and nobody has called it or is about to. -/
def Stuck (state : Wakeup) : Prop :=
  state.consumer = .asleep ∧ state.kept = false ∧ state.callers = 0 ∧ state.channels.results ≠ []

instance (state : Wakeup) : Decidable state.Stuck := by unfold Stuck; infer_instance

end Wakeup

end WebCapture.Queue
