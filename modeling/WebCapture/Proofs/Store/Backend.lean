import WebCapture.Proofs.Store.Integrity

set_option autoImplicit false

/-! # Stores of any kind

The service does not know in what kind of store its seeds are kept. A `Backend` is any store that
answers calls like the tables for which its states stand; the store in memory and the one on a
broker are of this kind. What an insertion makes of the tables it makes of any backend
(`Backend.holds_of_saved`, `Backend.holds_of_savedGroup`), and it succeeds in all backends or in
none (`Backend.saved_of_fit`, `Backend.savedGroup_of_fit`).
-/

namespace WebCapture.Store

/-! ## What is read behind an insertion -/

namespace Tables

variable {tables : Tables} {seeds : List Seed} {id : ShadowId}

/-- Seeds are read, or one of them is missing. -/
theorem getSeeds_eq_error {ids : List ShadowId} {e : Error}
    (h : tables.getSeeds ids = .error e) : ∃ id, e = .seedNotFound id := by
  induction ids with
  | nil => cases h
  | cons first more ih =>
      rw [getSeeds, getSeed] at h
      cases found : tables.seeds.find? first with
      | none =>
          rw [found] at h
          cases h
          exact ⟨first, rfl⟩
      | some seed =>
          rw [found] at h
          cases rest : tables.getSeeds more with
          | ok seeds =>
              rw [rest] at h
              cases h
          | error e' =>
              rw [rest] at h
              cases h
              exact ih rest

/-- A group is not found exactly if there is none. -/
theorem getGroup_eq_notFound :
    tables.getGroup id = .error (.groupNotFound id) ↔ tables.groups.find? id = none := by
  rw [getGroup]
  cases tables.groups.find? id with
  | none => simp
  | some members =>
      cases read : tables.getSeeds members with
      | ok seeds => simp [read]
      | error e =>
          obtain ⟨missing, rfl⟩ := getSeeds_eq_error read
          simp [read]

/-- A seed that is not new is read as before. -/
theorem getSeed_insertSeeds_of_other (fit : checkBatch tables.seeds.has seeds = .ok ())
    (other : id ∉ seeds.map (·.id)) :
    (tables.insertSeeds seeds).getSeed id = tables.getSeed id := by
  obtain ⟨-, -, distinct⟩ := checkBatch_eq_ok.mp fit
  have new : seeds.find? (·.id = id) = none := by
    rw [List.find?_eq_none]
    intro seed here same
    exact other (List.mem_map.mpr ⟨seed, here, of_decide_eq_true same⟩)
  rw [getSeed, getSeed, find?_insertSeeds distinct, new]
  rfl

/-- A group that was inserted is read as it was given. -/
theorem getGroup_inserted {group : SeedGroup}
    (fit : checkBatch tables.seeds.has group.seeds = .ok ()) :
    getGroup { tables.insertSeeds group.seeds with
      groups := tables.groups.put group.id (group.seeds.map (·.id)) } group.id = .ok group := by
  have listed : (tables.groups.put group.id (group.seeds.map (·.id))).find? group.id
      = some (group.seeds.map (·.id)) := by
    rw [Table.find?_put, if_pos rfl]
  have read : getSeeds { tables.insertSeeds group.seeds with
      groups := tables.groups.put group.id (group.seeds.map (·.id)) } (group.seeds.map (·.id))
        = .ok group.seeds := by
    rw [getSeeds_eq_ok, List.map_map]
    exact List.map_congr_left fun seed here => find?_insertSeeds_of_new fit here
  unfold getGroup
  dsimp only
  rw [listed]
  dsimp only
  rw [read]

end Tables

/-! ## Backends -/

/-- A store that answers like tables. -/
structure Backend where
  State : Type
  /-- The answer to a call, and the state after it. -/
  answer : State → (call : Call) → call.Answer × State
  /-- The state stands for these tables. -/
  Holds : State → Tables → Prop
  agrees : ∀ {s : State} {tables : Tables}, Holds s tables → ∀ call : Call, call.IsClocked →
    call.Agrees (tables.answer call).1 (answer s call).1 ∧
      Holds (answer s call).2 (tables.answer call).2

namespace Backend

/-- The store in memory stands for its own tables. -/
def memory : Backend where
  State := Tables
  answer := Tables.answer
  Holds s tables := s = tables
  agrees := by
    rintro s _ rfl call -
    refine ⟨?_, rfl⟩
    cases call with
    | save seeds => exact Iff.rfl
    | saveGroup group => exact Iff.rfl
    | _ => rfl

/-- The store on a broker stands for the tables that its keys mirror. -/
def broker (rows : Rows) : Backend where
  State := Broker.Keyspace
  answer keys call := Broker.Dialogue.run (rows.answer call) keys
  Holds keys tables := Mirrors rows tables keys
  agrees h _ clocked := answer_mirrors h clocked

variable {k : Backend} {s : k.State} {tables : Tables} {seeds : List Seed} {group : SeedGroup}

/-! ## Reading -/

def getSeed (k : Backend) (s : k.State) (id : ShadowId) : Except Error Seed :=
  (k.answer s (.getSeed id)).1

def getGroup (k : Backend) (s : k.State) (id : ShadowId) : Except Error SeedGroup :=
  (k.answer s (.getGroup id)).1

theorem getSeed_eq (h : k.Holds s tables) (id : ShadowId) : k.getSeed s id = tables.getSeed id :=
  (k.agrees h (.getSeed id) trivial).1.symm

theorem getGroup_eq (h : k.Holds s tables) (id : ShadowId) :
    k.getGroup s id = tables.getGroup id :=
  (k.agrees h (.getGroup id) trivial).1.symm

/-! ## Inserting -/

/-- Seeds that are fit for it are stored. -/
theorem saved_of_fit (h : k.Holds s tables) (fit : checkBatch tables.seeds.has seeds = .ok ()) :
    (k.answer s (.save seeds)).1 = Except.ok () := by
  have done : (tables.answer (.save seeds)).1 = Except.ok () := by
    show (tables.save seeds).1 = _
    rw [Tables.save_eq_ok.mpr ⟨fit, rfl⟩]
  exact (k.agrees h (.save seeds) trivial).1.mp done

theorem holds_of_saved (h : k.Holds s tables)
    (saved : (k.answer s (.save seeds)).1 = Except.ok ()) :
    checkBatch tables.seeds.has seeds = .ok () ∧
      k.Holds (k.answer s (.save seeds)).2 (tables.insertSeeds seeds) := by
  obtain ⟨alike, holds⟩ := k.agrees h (.save seeds) trivial
  obtain ⟨fit, after⟩ := Tables.save_eq_ok.mp (Tables.eq_ok_of_answer (alike.mpr saved))
  have after : (tables.answer (.save seeds)).2 = tables.insertSeeds seeds := after
  rw [after] at holds
  exact ⟨fit, holds⟩

/-- A group whose id is free is stored, if its seeds are fit for it. -/
theorem savedGroup_of_fit (h : k.Holds s tables) (named : group.id ≠ "")
    (free : tables.groups.has group.id = false)
    (fit : checkBatch tables.seeds.has group.seeds = .ok ()) :
    (k.answer s (.saveGroup group)).1 = Except.ok () := by
  have done : (tables.answer (.saveGroup group)).1 = Except.ok () := by
    show (tables.saveGroup group).1 = _
    rw [Tables.saveGroup_eq_ok.mpr ⟨named, free, fit, rfl⟩]
  exact (k.agrees h (.saveGroup group) trivial).1.mp done

theorem holds_of_savedGroup (h : k.Holds s tables)
    (saved : (k.answer s (.saveGroup group)).1 = Except.ok ()) :
    checkBatch tables.seeds.has group.seeds = .ok () ∧
      k.Holds (k.answer s (.saveGroup group)).2 { tables.insertSeeds group.seeds with
        groups := tables.groups.put group.id (group.seeds.map (·.id)) } := by
  obtain ⟨alike, holds⟩ := k.agrees h (.saveGroup group) trivial
  obtain ⟨-, -, fit, after⟩ := Tables.saveGroup_eq_ok.mp (Tables.eq_ok_of_answer (alike.mpr saved))
  have after : (tables.answer (.saveGroup group)).2 = { tables.insertSeeds group.seeds with
      groups := tables.groups.put group.id (group.seeds.map (·.id)) } := after
  rw [after] at holds
  exact ⟨fit, holds⟩

end Backend

end WebCapture.Store
