import WebCapture.Proofs.Concurrency.System
import WebCapture.Proofs.Store.Tables

set_option autoImplicit false

/-! # Calls about one seed

What comes back from a call about a stored seed depends on that seed alone, and so does what
becomes of it. `Shared.Tries` says that a call is done and answered or, where calls may fail, that
it fails and is done or not; for each call about one seed a lemma tells what that means for the
seed. Between two such calls others may act, who leave the seed alone, or do no more than mark it
as pending (`Shared.Leaves`).

Whether calls may fail, and whether marks are made, are two propositions that run through all
statements. A file that needs surroundings without failures sets the one to `False`, and one that
needs no marks the other, so that each fact about a call is stated once.
-/

namespace WebCapture.Concurrency

open Program
open Service (Call)
open Store (Tables)

def Shared.seed? (s : Shared) (id : ShadowId) : Option Seed := s.tables.seeds.find? id

def Shared.putSeed (s : Shared) (id : ShadowId) (seed : Seed) : Shared :=
  { s with tables := { s.tables with seeds := s.tables.seeds.put id seed } }

/-- No seed has archive details unless it is a success. -/
def Shared.IsConsistent (s : Shared) : Prop :=
  ∀ id seed, s.seed? id = some seed → seed.isConsistent = true

/-- A call is done and answered, or it fails if calls may fail at all. -/
def Shared.Tries (faulty : Prop) (s : Shared) (e : Exchange) (t : Shared) : Prop :=
  s.Answers e t ∨ faulty ∧ s.Fails e t

variable {s t u : Shared} {id : ShadowId} {seed : Seed} {faulty : Prop}

@[simp] theorem Shared.seed?_putSeed (s : Shared) (id key : ShadowId) (seed : Seed) :
    (s.putSeed id seed).seed? key = if id = key then some seed else s.seed? key :=
  Table.find?_put _ _ _ _

/-- Only a call of the store changes the tables, and only to what it makes of them. -/
theorem Shared.Tries.tables_cases {call : Call} {answer : call.Answer}
    (h : s.Tries faulty ⟨call, answer⟩ t) :
    t.tables = s.tables ∨ ∃ c, call = .store c ∧ t.tables = (s.tables.answer c).2 := by
  cases call with
  | store c =>
      rcases h with ⟨-, rfl⟩ | ⟨-, -, rfl | rfl⟩
      · exact .inr ⟨c, rfl, rfl⟩
      · exact .inl rfl
      · exact .inr ⟨c, rfl, rfl⟩
  | queue c => rcases h with ⟨-, rfl⟩ | ⟨-, -, rfl | rfl⟩ <;> exact .inl rfl
  | _ =>
      rcases h with same | ⟨-, impossible⟩
      · exact .inl (congrArg Shared.tables same)
      · exact impossible.elim

/-! ## What becomes of the seed -/

theorem Shared.Tries.getSeed {answer : Except Store.Error Seed}
    (h : s.Tries faulty ⟨.store (.getSeed id), answer⟩ t) (found : s.seed? id = some seed) :
    t = s ∧ (answer = .ok seed ∨ faulty ∧ ∃ e, answer = .error e) := by
  have there : s.tables.getSeed id = .ok seed := Tables.getSeed_eq_ok.mpr found
  rcases h with ⟨ha, ht⟩ | ⟨may, ⟨e, ha⟩, ht⟩
  · exact ⟨ht, .inl (ha.trans there)⟩
  · refine ⟨?_, .inr ⟨may, e, ha⟩⟩
    rcases ht with ht | ht <;> exact ht

/-- A seed that nobody stored is not found. -/
theorem Shared.Tries.getSeed_none {answer : Except Store.Error Seed}
    (h : s.Tries faulty ⟨.store (.getSeed id), answer⟩ t) (absent : s.seed? id = none) :
    t = s ∧ ∃ e, answer = .error e := by
  have missing : s.tables.getSeed id = .error (.seedNotFound id) := by
    have lost : s.tables.seeds.find? id = none := absent
    rw [Tables.getSeed, lost]
  rcases h with ⟨ha, ht⟩ | ⟨may, ⟨e, ha⟩, ht⟩
  · exact ⟨ht, _, ha.trans missing⟩
  · refine ⟨?_, e, ha⟩
    rcases ht with ht | ht <;> exact ht

/-- A move that the lifecycle allows is made, or it finds the seed in another state, or it fails. -/
theorem Shared.Tries.compareAndSet {expected next : Seed.State} {answer : Except Store.Error Unit}
    (h : s.Tries faulty ⟨.store (.compareAndSet id expected next), answer⟩ t)
    (found : s.seed? id = some seed) (consistent : seed.isConsistent = true)
    (leads : expected.leadsTo next = true) :
    (seed.state = expected ∧ answer = .ok () ∧ t.seed? id = some { seed with state := next }) ∨
    (seed.state ≠ expected ∧ answer = .error (.stateConflict id expected seed.state) ∧
      t.seed? id = some seed) ∨
    (faulty ∧ (∃ e, answer = .error e) ∧
      (t.seed? id = some seed ∨
        seed.state = expected ∧ t.seed? id = some { seed with state := next })) := by
  -- If the call is done, the seed is moved or stays as it is.
  have done : s.tables.answer (.compareAndSet id expected next) =
      if seed.state = expected then
        (.ok (), { s.tables with seeds := s.tables.seeds.put id { seed with state := next } })
      else (.error (.stateConflict id expected seed.state), s.tables) :=
    Tables.compareAndSet_of_found found consistent leads
  by_cases hs : seed.state = expected
  · rw [if_pos hs] at done
    have moved : (s.putSeed id { seed with state := next }).seed? id
        = some { seed with state := next } := by simp
    rcases h with ⟨ha, ht⟩ | ⟨may, ⟨e, ha⟩, ht | ht⟩
    · rw [done] at ha ht
      rw [ht]
      exact .inl ⟨hs, ha, moved⟩
    · rw [ht]
      exact .inr (.inr ⟨may, ⟨e, ha⟩, .inl found⟩)
    · rw [done] at ht
      rw [ht]
      exact .inr (.inr ⟨may, ⟨e, ha⟩, .inr ⟨hs, moved⟩⟩)
  · rw [if_neg hs] at done
    rcases h with ⟨ha, ht⟩ | ⟨may, ⟨e, ha⟩, ht | ht⟩
    · rw [done] at ha ht
      rw [ht]
      exact .inr (.inl ⟨hs, ha, found⟩)
    · rw [ht]
      exact .inr (.inr ⟨may, ⟨e, ha⟩, .inl found⟩)
    · rw [done] at ht
      rw [ht]
      exact .inr (.inr ⟨may, ⟨e, ha⟩, .inl found⟩)

/-- Archive details are written on a success, or the call fails. -/
theorem Shared.Tries.updateArchive {archive : Seed.Archive} {answer : Except Store.Error Unit}
    (h : s.Tries faulty ⟨.store (.updateArchive id archive), answer⟩ t)
    (found : s.seed? id = some seed) (success : seed.state = .doneSuccess)
    (named : archive.url ≠ "") :
    (answer = .ok () ∧ t.seed? id = some { seed with archive := some archive }) ∨
    (faulty ∧ (∃ e, answer = .error e) ∧
      (t.seed? id = some seed ∨ t.seed? id = some { seed with archive := some archive })) := by
  have done : s.tables.answer (.updateArchive id archive) =
      (.ok (), { s.tables with
        seeds := s.tables.seeds.put id { seed with archive := some archive } }) := by
    show s.tables.updateArchive id archive = _
    rw [Tables.updateArchive_of_found found named, if_pos success]
    rfl
  have written : (s.putSeed id { seed with archive := some archive }).seed? id
      = some { seed with archive := some archive } := by simp
  rcases h with ⟨ha, ht⟩ | ⟨may, ⟨e, ha⟩, ht | ht⟩
  · rw [done] at ha ht
    rw [ht]
    exact .inl ⟨ha, written⟩
  · rw [ht]
    exact .inr ⟨may, ⟨e, ha⟩, .inl found⟩
  · rw [done] at ht
    rw [ht]
    exact .inr ⟨may, ⟨e, ha⟩, .inr written⟩

/-- Counting changes nothing in the store. -/
theorem Shared.Tries.count {event : Service.Event} {answer : Unit}
    (h : s.Tries faulty ⟨.count event, answer⟩ t) : t = s := by
  rcases h with same | ⟨-, impossible⟩
  · exact same
  · exact impossible.elim

/-! ## What others do meanwhile -/

/-- The seed is as it was, or it was marked as pending if marks are made at all. -/
def Marked (marking : Prop) (before after : Seed) : Prop :=
  after = before ∨
    marking ∧ before.state = .notEnqueued ∧ after = { before with state := .pending }

variable {marking : Prop} {now later : Seed}

theorem Marked.refl (seed : Seed) : Marked marking seed seed := .inl rfl

theorem Marked.trans (h₁ : Marked marking seed now) (h₂ : Marked marking now later) :
    Marked marking seed later := by
  rcases h₁ with rfl | ⟨may, waiting, rfl⟩
  · exact h₂
  · rcases h₂ with rfl | ⟨-, pending, -⟩
    · exact .inr ⟨may, waiting, rfl⟩
    · cases pending

/-- Only a seed that waits is marked. -/
theorem Marked.eq (h : Marked marking seed now) (enqueued : seed.state ≠ .notEnqueued) :
    now = seed := by
  rcases h with same | ⟨-, waiting, -⟩
  · exact same
  · exact absurd waiting enqueued

theorem Marked.archive (h : Marked marking seed now) : now.archive = seed.archive := by
  rcases h with rfl | ⟨-, -, rfl⟩ <;> rfl

theorem Marked.isConsistent (h : Marked marking seed now) (consistent : seed.isConsistent = true) :
    now.isConsistent = true := by
  rcases h with rfl | ⟨-, waiting, rfl⟩
  · exact consistent
  · simpa [Seed.isConsistent, waiting] using consistent

/-- Others leave a seed as it is, or mark it if marks are made at all; and they do not store it. -/
structure Shared.Leaves (id : ShadowId) (marking : Prop) (s t : Shared) : Prop where
  stored : ∀ seed, s.seed? id = some seed → ∃ now, t.seed? id = some now ∧ Marked marking seed now
  absent : s.seed? id = none → t.seed? id = none

theorem Shared.Leaves.refl (s : Shared) : s.Leaves id marking s where
  stored seed found := ⟨seed, found, .refl seed⟩
  absent lost := lost

theorem Shared.Leaves.trans (h₁ : s.Leaves id marking t) (h₂ : t.Leaves id marking u) :
    s.Leaves id marking u where
  stored seed found := by
    obtain ⟨now, found', marked⟩ := h₁.stored seed found
    obtain ⟨later, found'', marked'⟩ := h₂.stored now found'
    exact ⟨later, found'', marked.trans marked'⟩
  absent lost := h₂.absent (h₁.absent lost)

/-- Nobody touches the seed at all. -/
theorem Shared.leaves_of_eq (same : t.seed? id = s.seed? id) : s.Leaves id marking t where
  stored seed found := ⟨seed, same.trans found, .refl seed⟩
  absent lost := same.trans lost

end WebCapture.Concurrency
