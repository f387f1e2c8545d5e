import WebCapture.Broker.Blocking
import WebCapture.Proofs.Program

set_option autoImplicit false

/-! # Lists on the broker

A command that appends to a list or takes an element off changes that list and no other
(`Keyspace.answer_push`, `Keyspace.settle_pop_cons`). Lists are looked at through
`Keyspace.listAt`, for which a list without elements and a key without a value are the same; that
a list does not stay when it is empty shows nowhere else.

A dialogue that waits does what one that is carried out at once does, up to where it stands. So
what is proved about `Dialogue.run` holds for the queue with waiting as well, as long as nobody
waits (`Dialogue.run_eq_giveUp`).
-/

namespace WebCapture.Broker

open Text.Utf8 (Bytes)

/-! ## Dialogues -/

theorem Dialogue.run_bind {α β : Type} (p : Dialogue α) (f : α → Dialogue β) (keys : Keyspace) :
    Dialogue.run (p >>= f) keys = Dialogue.run (f (p.run keys).1) (p.run keys).2 :=
  Program.runState_bind _ p f keys

theorem Dialogue.run_send (command : Command) (keys : Keyspace) :
    (Dialogue.send command).run keys = keys.answer command := rfl

section

variable {α : Type} {key : String} {timeout : Time.Span} {keys keys' : Keyspace}
  {next : Except ErrorLine (Option Bytes) → Dialogue α}

/-- A dialogue stands still at an empty list. -/
theorem Dialogue.proceed_pop_none (popped : keys.settle (keys.pop key) = (.ok none, keys')) :
    proceed (.call (.pop key timeout) next) keys = (.waits ⟨key, timeout, next⟩, keys') := by
  unfold Dialogue.proceed
  rw [Keyspace.answer, popped]

/-- A dialogue goes on with the first element of a list. -/
theorem Dialogue.proceed_pop_some {payload : Bytes}
    (popped : keys.settle (keys.pop key) = (.ok (some payload), keys')) :
    proceed (.call (.pop key timeout) next) keys = proceed (next (.ok (some payload))) keys' := by
  conv => lhs; unfold Dialogue.proceed
  rw [Keyspace.answer, popped]

theorem Dialogue.proceed_pop_error {e : ErrorLine}
    (popped : keys.settle (keys.pop key) = (.error e, keys')) :
    proceed (.call (.pop key timeout) next) keys = proceed (next (.error e)) keys' := by
  conv => lhs; unfold Dialogue.proceed
  rw [Keyspace.answer, popped]

/-- What comes of a dialogue that does not wait where it has to. -/
def Standing.giveUp : Standing α × Keyspace → α × Keyspace
  | (.ended x, keys) => (x, keys)
  | (.waits blocked, keys) => (blocked.next (.ok none)).run keys

theorem Dialogue.run_pop (timeout : Time.Span)
    (more : ∀ reply keys, (next reply).run keys = Standing.giveUp ((next reply).proceed keys)) :
    run (.call (.pop key timeout) next) keys
      = Standing.giveUp (proceed (.call (.pop key timeout) next) keys) := by
  have sent : run (.call (.pop key timeout) next) keys
      = (next (keys.settle (keys.pop key)).1).run (keys.settle (keys.pop key)).2 := rfl
  rw [sent]
  rcases popped : keys.settle (keys.pop key) with ⟨e | payload | payload, keys'⟩
  · rw [proceed_pop_error popped]
    exact more _ keys'
  · rw [proceed_pop_none popped]
    rfl
  · rw [proceed_pop_some popped]
    exact more _ keys'

/-- **`Dialogue.run` carries a dialogue out that never waits.** -/
theorem Dialogue.run_eq_giveUp (dialogue : Dialogue α) (keys : Keyspace) :
    dialogue.run keys = Standing.giveUp (dialogue.proceed keys) := by
  induction dialogue generalizing keys with
  | done x => rfl
  | call command next ih =>
      cases command with
      | pop key timeout => exact run_pop timeout ih
      | _ => exact ih _ _

end

/-! ## Lists among the keys -/

namespace Keyspace

variable {keys : Keyspace} {key : String} {items : List Bytes}

theorem listAt_put (keys : Keyspace) (key key' : String) (items : List Bytes) :
    Keyspace.listAt (keys.put key (.list items)) key'
      = if key = key' then .ok items else keys.listAt key' := by
  unfold Keyspace.listAt
  rw [Table.find?_put]
  by_cases same : key = key' <;> simp [same]

theorem listAt_remove (keys : Keyspace) (key key' : String) :
    Keyspace.listAt (keys.remove key) key' = if key = key' then .ok [] else keys.listAt key' := by
  unfold Keyspace.listAt
  rw [Table.find?_remove]
  by_cases same : key = key' <;> simp [same]

/-- To append an element changes one list. -/
theorem answer_push (here : keys.listAt key = .ok items) (payload : Bytes) :
    ∃ keys', keys.answer (.push key payload) = (.ok (items.length + 1), keys') ∧
      ∀ key', keys'.listAt key' = if key = key' then .ok (items ++ [payload])
        else keys.listAt key' := by
  refine ⟨keys.put key (.list (items ++ [payload])), ?_, fun key' => listAt_put keys key key' _⟩
  simp only [Keyspace.answer, Keyspace.push, here]
  rfl

/-- To take an element off changes one list. -/
theorem settle_pop_cons {payload : Bytes} {more : List Bytes}
    (here : keys.listAt key = .ok (payload :: more)) :
    ∃ keys', keys.settle (keys.pop key) = (.ok (some payload), keys') ∧
      ∀ key', keys'.listAt key' = if key = key' then .ok more else keys.listAt key' := by
  unfold Keyspace.pop
  rw [here]
  cases more with
  | nil => exact ⟨keys.remove key, rfl, listAt_remove keys key⟩
  | cons second more =>
      exact ⟨keys.put key (.list (second :: more)), rfl, fun key' => listAt_put keys key key' _⟩

theorem settle_pop_nil (here : keys.listAt key = .ok []) :
    keys.settle (keys.pop key) = (.ok none, keys) := by
  unfold Keyspace.pop
  rw [here]
  rfl

end Keyspace

end WebCapture.Broker
