import WebCapture.Broker.Blocking
import WebCapture.Queue.Events
import WebCapture.Queue.Lists

set_option autoImplicit false

/-! # The queue on the broker

The channels are three lists among the keys of one broker, and so is the crawler's view of them: a
request is popped and a result is pushed by commands as well.

A consumer that waits for a result is a dialogue that stands at an empty list. Whenever something
was appended, to whatever key, the broker looks whether the dialogue can go on (`serve`). A result
that comes while nobody waits stays in its list.
-/

namespace WebCapture.Queue

open Broker (Blocked Keyspace Standing)
open Text.Utf8 (Bytes)

structure Remote where
  keys : Keyspace
  /-- The dialogue of the consumer that waits, with the timeout that it asked for. -/
  consumer : Option (Time.Span × Blocked (Except Error Capture.Result))

namespace Remote

def start (keys : Keyspace) : Remote := ⟨keys, none⟩

def waiting (remote : Remote) : Option Time.Span := remote.consumer.map (·.1)

/-- What becomes of a consumer whose dialogue has come that far. -/
def settle (timeout : Time.Span) :
    Standing (Except Error Capture.Result) × Keyspace → List Output × Remote
  | (.ended answer, keys) => ([.answer (.awaitResult timeout) answer], ⟨keys, none⟩)
  | (.waits blocked, keys) => ([], ⟨keys, some (timeout, blocked)⟩)

/-- The consumer that waits goes on, if it can. -/
def serve (remote : Remote) : List Output × Remote :=
  match remote.consumer with
  | none => ([], remote)
  | some (timeout, blocked) => settle timeout (blocked.retry remote.keys)

def readRequest (payload? : Except Broker.ErrorLine (Option Bytes)) :
    Except Error (Option Capture.Request) :=
  match payload? with
  | .ok none => .ok none
  | .ok (some payload) => (decodeRequest payload).map some
  | .error e => .error (ofErrorLine e)

def step (lists : Lists) (remote : Remote) : Event → List Output × Remote
  | .call (.awaitResult timeout) =>
    if remote.consumer.isSome then ([], remote)
    else settle timeout ((lists.awaitResult timeout).proceed remote.keys)
  | .call call =>
    let (answer, keys) := (lists.answer call).run remote.keys
    let (outputs, remote) := { remote with keys := keys }.serve
    (.answer call answer :: outputs, remote)
  | .timeUp =>
    match remote.consumer with
    | none => ([], remote)
    | some (timeout, blocked) =>
      if blocked.timeout.isZero then ([], remote)
      else settle timeout (blocked.giveUp remote.keys)
  | .takeRequest =>
    let (payload?, keys) := remote.keys.settle (remote.keys.pop lists.requests)
    ([.request (readRequest payload?)], { remote with keys := keys })
  | .bringResult payload =>
    { remote with keys := (remote.keys.answer (.push lists.results payload)).2 }.serve

def observe (lists : Lists) (remote : Remote) (events : List Event) : List Sight × Remote :=
  Queue.observe (step lists) waiting remote events

end Remote

end WebCapture.Queue
