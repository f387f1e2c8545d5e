import WebCapture.Queue.Events
import WebCapture.Queue.Wakeup

set_option autoImplicit false

/-! # The queue in memory

A consumer that waits for a result goes round in a loop: it asks for a ticket, looks at the
channel, and falls asleep if there is nothing. `Wakeup.settle` carries the loop out until the
consumer has a result or sleeps; how many steps that takes at most is told by `Wakeup.patience`. A
result that arrives is appended first, and then the consumer is called.

In this file nobody comes between the steps of one event. What holds if others do is proved for
`Queue/Wakeup`, on whose steps the queue is built.
-/

namespace WebCapture.Queue

open Text.Utf8 (Bytes)

namespace Wakeup

/-- How many steps the consumer may still take before it sleeps. -/
def patience (state : Wakeup) : Nat :=
  (if state.kept then 4 else 0) +
    match state.consumer with
    | .woken => 4
    | .away => 3
    | .looking => 2
    | .drowsy => 1
    | .asleep => 0

/-- The consumer goes round in its loop until it has a result or sleeps. -/
def settle (state : Wakeup) : Option (Except Error Capture.Result) × Wakeup :=
  match _consumer : state.consumer with
  | .asleep => (none, state)
  | .away => settle { state with consumer := .looking }
  | .looking =>
    match state.channels.results with
    | [] => settle { state with consumer := .drowsy }
    | _ :: _ => (some state.channels.takeResult.1, state.look)
  | .drowsy =>
    if _kept : state.kept then settle { state with kept := false, consumer := .away }
    else (none, { state with consumer := .asleep })
  | .woken => settle { state with consumer := .away }
termination_by state.patience
decreasing_by all_goals simp_all [patience]

/-- The state after a producer has appended a result and called the consumer. -/
def deliver (state : Wakeup) (payload : Bytes) : Wakeup :=
  { state with channels := state.channels.pushResult payload }.call

end Wakeup

structure Memory where
  wakeup : Wakeup
  /-- The timeout of the consumer that waits. -/
  waiting : Option Time.Span

namespace Memory

def start (channels : Channels) : Memory := ⟨.start channels, none⟩

/-- The consumer takes the first result, or waits for one. -/
def await (memory : Memory) (timeout : Time.Span) : List Output × Memory :=
  match memory.wakeup.settle with
  | (some answer, wakeup) => ([.answer (.awaitResult timeout) answer], ⟨wakeup, none⟩)
  | (none, wakeup) => ([], ⟨wakeup, some timeout⟩)

def withChannels (memory : Memory) (channels : Channels) : Memory :=
  { memory with wakeup := { memory.wakeup with channels := channels } }

def step (memory : Memory) : Event → List Output × Memory
  | .call (.awaitResult timeout) =>
    if memory.waiting.isSome then ([], memory) else memory.await timeout
  | .call call =>
    let (answer, channels) := memory.wakeup.channels.answer call
    ([.answer call answer], memory.withChannels channels)
  | .timeUp =>
    match memory.waiting with
    | none => ([], memory)
    | some timeout =>
      if timeout.isZero then ([], memory)
      else
        match memory.wakeup.step? .leave with
        | some wakeup => ([.answer (.awaitResult timeout) (.error .timeout)], ⟨wakeup, none⟩)
        | none => ([], memory)
  | .takeRequest =>
    let (request, channels) := memory.wakeup.channels.popRequest
    ([.request request], memory.withChannels channels)
  | .bringResult payload =>
    let memory := { memory with wakeup := memory.wakeup.deliver payload }
    match memory.waiting with
    | none => ([], memory)
    | some timeout => memory.await timeout

def observe (memory : Memory) (events : List Event) : List Sight × Memory :=
  Queue.observe step waiting memory events

end Memory

end WebCapture.Queue
