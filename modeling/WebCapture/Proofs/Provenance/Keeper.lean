import WebCapture.Proofs.Program
import WebCapture.Proofs.Store.Integrity

set_option autoImplicit false

/-! # Keepers of seeds

A keeper provides the calls of a store, each by calls of its own (`Keeper.carry`). The calls of
the keeper are atomic, and any of them may fail; between two of them others may use the keeper.
What is said here of keepers is about the addresses under which seeds are stored: in the hands of
the service they are never changed, only new seeds bring new ones, and whoever is given a seed is
given its address (`Keeper.IsLawful`).

The store in memory is such a keeper (`memory_isLawful`), whose calls are those of a store
themselves. The store on the broker is another one, in `Proofs/Provenance/Broker`. A statement
about the service over any lawful keeper holds for both.
-/

namespace WebCapture.Provenance

open Program
open Store (Tables)

/-- A way to keep seeds. -/
structure Keeper where
  State : Type
  /-- An atomic call, and what comes back from it. -/
  Call : Type
  Answer : Call → Type
  /-- What is kept before anything has happened. -/
  start : State
  answer : State → (c : Call) → Answer c × State
  /-- The answers to a call that fails. -/
  IsFailure : (c : Call) → Answer c → Prop
  /-- How a call of the store is carried out. -/
  carry : (c : Store.Call) → Program Call Answer c.Answer
  /-- The address of the seed that is stored under an id. -/
  url? : State → ShadowId → Option String

namespace Keeper

variable {k : Keeper} {s t u : k.State} {New : String → Prop}

/-! ## What happens to the seeds that are kept -/

/-- A call is answered, or it fails and is done or not. -/
def Does (k : Keeper) (s : k.State) (e : Exchange k.Call k.Answer) (t : k.State) : Prop :=
  (e.answer = (k.answer s e.call).1 ∧ t = (k.answer s e.call).2) ∨
    k.IsFailure e.call e.answer ∧ (t = s ∨ t = (k.answer s e.call).2)

/-- What is stored stays stored, with its address. -/
def Keeps (k : Keeper) (s t : k.State) : Prop :=
  ∀ id url, k.url? s id = some url → k.url? t id = some url

/-- What is stored stays stored, and the addresses that come to it satisfy `New`. -/
structure Adds (k : Keeper) (New : String → Prop) (s t : k.State) : Prop where
  keeps : k.Keeps s t
  new : ∀ id url, k.url? t id = some url → k.url? s id = some url ∨ New url

/-- The seed is stored, with its address. -/
def Knows (k : Keeper) (s : k.State) (seed : Seed) : Prop := k.url? s seed.id = some seed.url

theorem Keeps.refl (s : k.State) : k.Keeps s s := fun _ _ found => found

theorem Keeps.trans (h₁ : k.Keeps s t) (h₂ : k.Keeps t u) : k.Keeps s u :=
  fun id url found => h₂ id url (h₁ id url found)

theorem Adds.refl (s : k.State) : k.Adds New s s := ⟨.refl s, fun _ _ found => .inl found⟩

/-- Where the same addresses are stored, nothing has come to them. -/
theorem adds_of_eq (same : ∀ id, k.url? t id = k.url? s id) : k.Adds New s t where
  keeps id _ found := (same id).trans found
  new id _ found := .inl ((same id).symm.trans found)

/-- A call that fails does no more than one that is answered. -/
theorem Does.adds {e : Exchange k.Call k.Answer} (h : k.Does s e t)
    (adds : k.Adds New s (k.answer s e.call).2) : k.Adds New s t := by
  rcases h with ⟨-, rfl⟩ | ⟨-, rfl | rfl⟩
  · exact adds
  · exact .refl t
  · exact adds

/-! ## Laws -/

def newSeeds : Store.Call → List Seed
  | .save seeds => seeds
  | .saveGroup group => group.seeds
  | _ => []

/-- What the answer to a call tells about the seeds that are kept. -/
def Tells (k : Keeper) : (c : Store.Call) → c.Answer → k.State → Prop
  | .save seeds, answer, s => answer = .ok () → ∀ seed ∈ seeds, k.Knows s seed
  | .saveGroup group, answer, s => answer = .ok () → ∀ seed ∈ group.seeds, k.Knows s seed
  | .getGroup _, answer, s => ∀ group, answer = .ok group → ∀ seed ∈ group.seeds, k.Knows s seed
  | .getSeed _, answer, s => ∀ seed, answer = .ok seed → k.Knows s seed
  | .updateState _ _, _, _ => True
  | .compareAndSet _ _ _, _, _ => True
  | .updateArchive _ _, _, _ => True

/-- A keeper that keeps addresses, adds those of new seeds only, and gives seeds with the addresses
under which they are stored. -/
structure IsLawful (k : Keeper) : Prop where
  empty : ∀ id, k.url? k.start id = none
  adds : ∀ c, (k.carry c).Only fun d =>
    ∀ s, k.Adds (fun url => ∃ seed ∈ newSeeds c, seed.url = url) s (k.answer s d).2
  tells : ∀ c s, (k.carry c).Ensures (Amid k.Keeps k.Does) (fun answer t => k.Tells c answer t) s

/-- What is known stays known. -/
theorem Knows.later {seed : Seed} (h : k.Knows s seed) (kept : k.Keeps s t) : k.Knows t seed :=
  kept seed.id seed.url h

/-- A program whose calls keep what is stored keeps it, whatever others do meanwhile. -/
theorem ensures_keeps {α : Type} {p : Program k.Call k.Answer α}
    (h : p.Only fun d => ∀ s, k.Adds New s (k.answer s d).2) (s : k.State) :
    p.Ensures (Amid k.Keeps k.Does) (fun _ t => k.Keeps s t) s := by
  induction p generalizing s with
  | done x => exact .refl s
  | call d next ih =>
      rintro answer t ⟨u, relied, done⟩
      have kept : k.Keeps s t := relied.trans (done.adds (h.1 u)).keeps
      exact (ih answer (h.2 answer) t).mono fun _ _ kept' => kept.trans kept'

/-- A call of the store keeps what is stored, and is answered with what is stored. -/
theorem IsLawful.carry_ensures (lawful : k.IsLawful) (c : Store.Call) (s : k.State) :
    (k.carry c).Ensures (Amid k.Keeps k.Does)
      (fun answer t => k.Keeps s t ∧ k.Tells c answer t) s :=
  (ensures_keeps (lawful.adds c) s).and (lawful.tells c s)

end Keeper

/-! ## The store in memory -/

section Memory

open Keeper

/-- A store in memory. Its calls are atomic, and its tables fit together. -/
def memory : Keeper where
  State := { tables : Tables // tables.IsSound }
  Call := Store.Call
  Answer := Store.Call.Answer
  start := ⟨.empty, Tables.isSound_empty⟩
  answer s c := ((s.1.answer c).1, ⟨(s.1.answer c).2, (Tables.answer_changes s.1 c).sound s.2⟩)
  IsFailure c answer := ∃ error, answer = c.failure error
  carry c := .call c .done
  url? s id := (s.1.seeds.find? id).map (·.url)

variable {tables : Tables} {id : ShadowId} {seed : Seed}

/-- Whoever is found after an insertion was inserted or was there before. -/
theorem mem_of_find?_insertSeeds {seeds : List Seed}
    (fit : Store.checkBatch tables.seeds.has seeds = .ok ())
    (found : (tables.insertSeeds seeds).seeds.find? id = some seed) :
    seed ∈ seeds ∨ tables.seeds.find? id = some seed := by
  obtain ⟨-, -, distinct⟩ := Store.checkBatch_eq_ok.mp fit
  rw [Tables.find?_insertSeeds distinct] at found
  cases new : seeds.find? (·.id = id) with
  | none =>
      rw [new] at found
      exact .inr found
  | some first =>
      rw [new] at found
      exact .inl (Option.some.inj found ▸ List.mem_of_find?_eq_some new)

/-- Only seeds that are to be stored bring new addresses. -/
theorem url_of_answer (c : Store.Call) (found : (tables.answer c).2.seeds.find? id = some seed) :
    (∃ old, tables.seeds.find? id = some old ∧ old.url = seed.url) ∨
      ∃ new ∈ newSeeds c, new.url = seed.url := by
  -- A seed that was there before has not got another address.
  have written : ∀ {key : ShadowId} {old next : Seed}, tables.seeds.find? key = some old →
      (tables.seeds.put key next).find? id = some seed → next.url = old.url →
        ∃ old, tables.seeds.find? id = some old ∧ old.url = seed.url := by
    intro key old next there found same
    rw [Table.find?_put] at found
    by_cases h : key = id
    · rw [if_pos h] at found
      exact ⟨old, h ▸ there, by rw [← Option.some.inj found, same]⟩
    · rw [if_neg h] at found
      exact ⟨seed, found, rfl⟩
  have inserted : ∀ {seeds : List Seed}, Store.checkBatch tables.seeds.has seeds = .ok () →
      (tables.insertSeeds seeds).seeds.find? id = some seed →
        (∃ old, tables.seeds.find? id = some old ∧ old.url = seed.url) ∨
          ∃ new ∈ seeds, new.url = seed.url := by
    intro seeds fit found
    rcases mem_of_find?_insertSeeds fit found with new | old
    · exact .inr ⟨seed, new, rfl⟩
    · exact .inl ⟨seed, old, rfl⟩
  have made : ∀ {change : Except Store.Error Unit × Tables}, tables.IsAtomic change →
      change.2.seeds.find? id = some seed →
      tables.seeds.find? id = some seed ∨
        ∃ after, change = (.ok (), after) ∧ after.seeds.find? id = some seed := by
    rintro change (⟨after, rfl⟩ | ⟨e, rfl⟩) found
    · exact .inr ⟨after, rfl, found⟩
    · exact .inl found
  cases c with
  | getGroup key => exact .inl ⟨seed, found, rfl⟩
  | getSeed key => exact .inl ⟨seed, found, rfl⟩
  | save seeds =>
      rcases made (Tables.save_atomic seeds) found with old | ⟨after, done, found⟩
      · exact .inl ⟨seed, old, rfl⟩
      · obtain ⟨fit, rfl⟩ := Tables.save_eq_ok.mp done
        exact inserted fit found
  | saveGroup group =>
      rcases made (Tables.saveGroup_atomic group) found with old | ⟨after, done, found⟩
      · exact .inl ⟨seed, old, rfl⟩
      · obtain ⟨-, -, fit, rfl⟩ := Tables.saveGroup_eq_ok.mp done
        exact inserted fit found
  | updateState key state =>
      rcases made (Tables.setState_atomic key state) found with old | ⟨after, done, found⟩
      · exact .inl ⟨seed, old, rfl⟩
      · obtain ⟨before, there, -, rfl⟩ := Tables.setState_eq_ok.mp done
        exact .inl (written there found rfl)
  | compareAndSet key expected next =>
      rcases made (Tables.compareAndSet_atomic key expected next) found with old | ⟨after, done, found⟩
      · exact .inl ⟨seed, old, rfl⟩
      · obtain ⟨before, there, -, -, rfl⟩ := Tables.compareAndSet_eq_ok.mp done
        exact .inl (written there found rfl)
  | updateArchive key archive =>
      rcases made (Tables.updateArchive_atomic key archive) found with old | ⟨after, done, found⟩
      · exact .inl ⟨seed, old, rfl⟩
      · obtain ⟨-, before, there, -, rfl⟩ := Tables.updateArchive_eq_ok.mp done
        exact .inl (written there found rfl)

theorem memory_adds (c : Store.Call) (s : memory.State) :
    memory.Adds (fun url => ∃ seed ∈ newSeeds c, seed.url = url) s (memory.answer s c).2 where
  keeps id url found := by
    obtain ⟨seed, there, rfl⟩ := Option.map_eq_some_iff.mp found
    obtain ⟨now, there', same⟩ := (Tables.answer_changes s.1 c).keeps.seed id seed there
    simp only [Store.imprint, Prod.mk.injEq] at same
    exact Option.map_eq_some_iff.mpr ⟨now, there', same.2.1⟩
  new id url found := by
    obtain ⟨seed, there, rfl⟩ := Option.map_eq_some_iff.mp found
    rcases url_of_answer c there with ⟨old, before, same⟩ | new
    · exact .inl (Option.map_eq_some_iff.mpr ⟨old, before, same⟩)
    · exact .inr new

/-- What is found under its own id is known. -/
theorem memory_knows {s : memory.State} (found : s.1.seeds.find? seed.id = some seed) :
    memory.Knows s seed := by
  show (s.1.seeds.find? seed.id).map (·.url) = some seed.url
  rw [found]
  rfl

/-- Seeds that are read are known. -/
theorem memory_knows_of_getSeed {s : memory.State} (h : s.1.getSeed id = .ok seed) :
    memory.Knows s seed := by
  have found := Tables.getSeed_eq_ok.mp h
  obtain ⟨own, -, -⟩ := s.2.own id seed found
  exact memory_knows (own.symm ▸ found)

theorem memory_knows_of_getSeeds {s : memory.State} {ids : List ShadowId} {seeds : List Seed}
    (h : s.1.getSeeds ids = .ok seeds) (here : seed ∈ seeds) : memory.Knows s seed := by
  have read := Tables.getSeeds_eq_ok.mp h
  have there : some seed ∈ ids.map s.1.seeds.find? := read ▸ List.mem_map_of_mem here
  obtain ⟨id, -, found⟩ := List.mem_map.mp there
  exact memory_knows_of_getSeed (Tables.getSeed_eq_ok.mpr found)

theorem memory_tells {s t : memory.State} {c : Store.Call} {answer : c.Answer}
    (h : memory.Does s ⟨c, answer⟩ t) : memory.Tells c answer t := by
  rcases h with ⟨told, rfl⟩ | ⟨⟨error, failed⟩, -⟩
  · have told : answer = (s.1.answer c).1 := told
    cases c with
    | save seeds =>
        intro ok seed here
        obtain ⟨fit, written⟩ :=
          Tables.save_eq_ok.mp (Tables.eq_ok_of_answer (told.symm.trans ok))
        refine memory_knows ?_
        show (s.1.save seeds).2.seeds.find? seed.id = some seed
        rw [written]
        exact Tables.find?_insertSeeds_of_new fit here
    | saveGroup group =>
        intro ok seed here
        exact memory_knows ((Tables.saveGroup_stored (told.symm.trans ok)).2 seed here)
    | getGroup id =>
        intro group ok seed here
        have read : s.1.getGroup id = .ok group := told.symm.trans ok
        unfold Tables.getGroup at read
        split at read
        · cases read
        · split at read
          · cases read
          · rename_i seeds found
            cases read
            exact memory_knows_of_getSeeds found here
    | getSeed id =>
        intro seed ok
        exact memory_knows_of_getSeed (told.symm.trans ok)
    | _ => trivial
  · -- A call that fails tells nothing.
    obtain rfl : answer = c.failure error := failed
    cases c with
    | save seeds => exact fun impossible => nomatch impossible
    | saveGroup group => exact fun impossible => nomatch impossible
    | getGroup id => exact fun _ impossible => nomatch impossible
    | getSeed id => exact fun _ impossible => nomatch impossible
    | _ => trivial

theorem memory_isLawful : memory.IsLawful where
  empty _ := rfl
  adds c := ⟨memory_adds c, fun _ => trivial⟩
  tells _ _ _ _ := fun ⟨_, _, told⟩ => memory_tells told

end Memory

end WebCapture.Provenance
