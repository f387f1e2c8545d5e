import WebCapture.Broker.Dialogue

set_option autoImplicit false

/-! # Dialogues that wait

`Keyspace.answer` leaves waiting out: a command that takes an element off an empty list brings
nothing. Here a dialogue that takes an element off an empty list stands still instead.

A dialogue that is carried out with `Dialogue.proceed` either ends or is `Blocked`: it knows the
list that it waits for, how long it may wait, and how it goes on. It goes on when somebody has
appended an element (`retry`), or when its time is over (`giveUp`). Other dialogues may be carried
out on the same keys in between; a blocked dialogue keeps nothing of the keys it has seen.
-/

namespace WebCapture.Broker

open Text.Utf8 (Bytes)

/-- A dialogue that waits for an element of a list. -/
structure Blocked (α : Type) where
  key : String
  /-- How long the broker lets it wait; for ever if that is zero. -/
  timeout : Time.Span
  next : Except ErrorLine (Option Bytes) → Dialogue α

/-- How far a dialogue has come. -/
inductive Standing (α : Type) where
  | ended (x : α)
  | waits (blocked : Blocked α)

/-- Carries a dialogue out until it ends or has to wait. -/
def Dialogue.proceed {α : Type} : Dialogue α → Keyspace → Standing α × Keyspace
  | .done x, keys => (.ended x, keys)
  | .call (.pop key timeout) next, keys =>
    match keys.answer (.pop key timeout) with
    | (.ok none, keys) => (.waits ⟨key, timeout, next⟩, keys)
    | (reply, keys) => proceed (next reply) keys
  | .call command next, keys =>
    match keys.answer command with
    | (reply, keys) => proceed (next reply) keys

namespace Blocked

variable {α : Type}

/-- Looks at the list again, which may have an element now. -/
def retry (blocked : Blocked α) (keys : Keyspace) : Standing α × Keyspace :=
  Dialogue.proceed (.call (.pop blocked.key blocked.timeout) blocked.next) keys

/-- Goes on without an element, since the time is over. -/
def giveUp (blocked : Blocked α) (keys : Keyspace) : Standing α × Keyspace :=
  Dialogue.proceed (blocked.next (.ok none)) keys

end Blocked

end WebCapture.Broker
