import WebCapture.Store.Tables

set_option autoImplicit false

/-! # What one call does to the tables

For each operation of the store in memory one lemma says when it succeeds and what the tables are
then. From these follows `Tables.answer_evolves`: a call that keeps to the lifecycle does one of
four things to the entry of a seed, of which three are steps of the seed's life.

The lemmas on success (`save_eq_ok` and its like) name every check that an operation makes, and
`IsAtomic` says of each operation that it leaves the tables alone where it fails. Whoever wants to
know what a call can do to the tables combines the two by `IsAtomic.induction` and never opens an
operation.

What follows about single seeds is said about the entry under one id, which is `none` as long as
nobody has stored a seed there.
-/

namespace WebCapture

/-! ## Archive details of seeds -/

/-- Archive details go with a success only. -/
theorem Seed.isConsistent_iff {seed : Seed} :
    seed.isConsistent = true ↔ (seed.archive ≠ none → seed.state = .doneSuccess) := by
  cases h : seed.archive <;> simp [Seed.isConsistent, h]

/-- A seed that is no success has no archive details. -/
theorem Seed.archive_eq_none {seed : Seed} (consistent : seed.isConsistent = true)
    (unfinished : seed.state ≠ .doneSuccess) : seed.archive = none :=
  Decidable.not_not.mp fun archived => unfinished (Seed.isConsistent_iff.mp consistent archived)

/-! ## Tables with entries put in -/

section Put

variable {κ ν : Type} [DecidableEq κ] {table : Table κ ν} {key key' : κ} {value value' : ν}

/-- To put in what is there already changes nothing. -/
theorem Table.put_self (found : table.find? key = some value) : table.put key value = table := by
  induction table with
  | nil => cases found
  | cons entry more ih =>
      obtain ⟨k, v⟩ := entry
      rw [Table.find?] at found
      by_cases h : k = key
      · rw [if_pos h, Option.some.injEq] at found
        rw [Table.put, if_pos h, found]
      · rw [if_neg h] at found
        rw [Table.put, if_neg h, ih found]

theorem Table.put_put (table : Table κ ν) (key : κ) (first second : ν) :
    (table.put key first).put key second = table.put key second := by
  induction table with
  | nil => simp [Table.put]
  | cons entry more ih =>
      obtain ⟨k, v⟩ := entry
      by_cases h : k = key
      · simp [Table.put, h]
      · simp [Table.put, h, ih]

/-- The order in which the values of two keys are replaced makes no difference. -/
theorem Table.put_comm (found : table.find? key = some value)
    (found' : table.find? key' = some value') (different : key ≠ key') (next next' : ν) :
    (table.put key next).put key' next' = (table.put key' next').put key next := by
  induction table with
  | nil => cases found
  | cons entry more ih =>
      obtain ⟨k, v⟩ := entry
      rw [Table.find?] at found found'
      by_cases h : k = key
      · subst h
        simp [Table.put, different]
      · by_cases h' : k = key'
        · subst h'
          simp [Table.put, h]
        · rw [if_neg h] at found
          rw [if_neg h'] at found'
          simp [Table.put, h, h', ih found found']

end Put

theorem Table.find?_eq_none {κ ν : Type} [DecidableEq κ] {table : Table κ ν} {key : κ}
    (h : key ∉ table.map Prod.fst) : table.find? key = none := by
  induction table with
  | nil => rfl
  | cons entry more ih =>
      obtain ⟨k, v⟩ := entry
      rw [List.map_cons, List.mem_cons, not_or] at h
      rw [Table.find?, if_neg (Ne.symm h.1)]
      exact ih h.2

/-- Entries with different keys take precedence over the table that they are put into. -/
theorem Table.find?_putAll {κ ν : Type} [DecidableEq κ] (table : Table κ ν)
    (entries : List (κ × ν)) (key : κ) (distinct : (entries.map Prod.fst).Nodup) :
    (table.putAll entries).find? key = (Table.find? entries key).or (table.find? key) := by
  induction entries generalizing table with
  | nil => rfl
  | cons entry more ih =>
      obtain ⟨k, v⟩ := entry
      rw [List.map_cons, List.nodup_cons] at distinct
      have later := ih (table.put k v) distinct.2
      rw [Table.find?_put] at later
      show ((table.put k v).putAll more).find? key = _
      rw [later, Table.find?]
      by_cases hk : k = key
      · subst hk
        rw [Table.find?_eq_none distinct.1, if_pos rfl, if_pos rfl]
        rfl
      · rw [if_neg hk, if_neg hk]

namespace Store

/-! ## Checks of new seeds -/

theorem newSeedViolation?_eq_none {seed : Seed} :
    newSeedViolation? seed = none ↔
      seed.url ≠ "" ∧ seed.id ≠ "" ∧ seed.state = .notEnqueued ∧ seed.archive = none := by
  unfold newSeedViolation?
  by_cases hu : seed.url = ""
  · simp [hu]
  by_cases hi : seed.id = ""
  · simp [hu, hi]
  by_cases hs : seed.state = .notEnqueued
  · by_cases ha : seed.archive = none <;> simp [hu, hi, hs, ha, Option.isSome_iff_ne_none]
  · simp [hu, hi, hs]

/-- Seeds pass the checks exactly if each is fit to be stored, no id is taken or was met before,
and no two seeds share an id. -/
theorem checkNewSeeds_eq_ok {taken : ShadowId → Bool} {before : List ShadowId}
    {seeds : List Seed} :
    checkNewSeeds taken before seeds = .ok () ↔
      (∀ seed ∈ seeds, newSeedViolation? seed = none ∧ taken seed.id = false ∧
        seed.id ∉ before) ∧ (seeds.map (·.id)).Nodup := by
  induction seeds generalizing before with
  | nil => simp [checkNewSeeds]
  | cons seed more ih =>
      rw [checkNewSeeds]
      cases hv : newSeedViolation? seed with
      | some v => simp [hv]
      | none =>
          by_cases ht : (taken seed.id || before.contains seed.id) = true
          · rw [if_pos ht]
            simp only [reduceCtorEq, false_iff, not_and]
            intro h
            obtain ⟨-, free, new⟩ := h seed List.mem_cons_self
            simp [free, new] at ht
          · rw [if_neg ht, ih]
            simp only [Bool.or_eq_true, List.contains_iff_mem, not_or,
              Bool.not_eq_true] at ht
            rw [List.forall_mem_cons, List.map_cons, List.nodup_cons, List.mem_map]
            simp only [List.mem_cons, not_or]
            constructor
            · -- The id of the first seed counts as met before for the others.
              rintro ⟨h, hn⟩
              refine ⟨⟨⟨hv, ht.1, ht.2⟩, fun s hs => ⟨(h s hs).1, (h s hs).2.1, (h s hs).2.2.2⟩⟩,
                ?_, hn⟩
              rintro ⟨s, hs, same⟩
              exact (h s hs).2.2.1 same
            · rintro ⟨⟨-, h⟩, new, hn⟩
              exact ⟨fun s hs => ⟨(h s hs).1, (h s hs).2.1,
                fun same => new ⟨s, hs, same⟩, (h s hs).2.2⟩, hn⟩

/-- A batch passes the checks exactly if it holds a seed, and all its seeds are fit to be stored
under different ids that are free. -/
theorem checkBatch_eq_ok {taken : ShadowId → Bool} {seeds : List Seed} :
    checkBatch taken seeds = .ok () ↔
      seeds ≠ [] ∧ (∀ seed ∈ seeds, newSeedViolation? seed = none ∧ taken seed.id = false) ∧
        (seeds.map (·.id)).Nodup := by
  unfold checkBatch
  by_cases h : seeds = []
  · simp [h]
  · simp [h, checkNewSeeds_eq_ok]

namespace Tables

variable {tables after : Tables} {id : ShadowId}

/-! ## The operations

An operation succeeds exactly if all its checks do, and then it is known what it has written.
-/

theorem getSeed_eq_ok {seed : Seed} :
    tables.getSeed id = .ok seed ↔ tables.seeds.find? id = some seed := by
  unfold getSeed
  cases tables.seeds.find? id <;> simp

theorem save_eq_ok {seeds : List Seed} :
    tables.save seeds = (.ok (), after) ↔
      checkBatch tables.seeds.has seeds = .ok () ∧ after = tables.insertSeeds seeds := by
  unfold save
  cases checkBatch tables.seeds.has seeds <;> simp [eq_comm]

theorem saveGroup_eq_ok {group : SeedGroup} :
    tables.saveGroup group = (.ok (), after) ↔
      group.id ≠ "" ∧ tables.groups.has group.id = false ∧
        checkBatch tables.seeds.has group.seeds = .ok () ∧
        after = { tables.insertSeeds group.seeds with
          groups := tables.groups.put group.id (group.seeds.map (·.id)) } := by
  unfold saveGroup
  by_cases hi : group.id = ""
  · simp [hi]
  by_cases hg : tables.groups.has group.id = true
  · simp [hi, hg]
  · cases checkBatch tables.seeds.has group.seeds <;> simp [hi, hg, eq_comm]

theorem setState_eq_ok {state : Seed.State} :
    tables.setState id state = (.ok (), after) ↔
      ∃ seed, tables.seeds.find? id = some seed ∧
        (seed.archive.isSome → state = .doneSuccess) ∧
        after = { tables with seeds := tables.seeds.put id { seed with state } } := by
  unfold setState getSeed
  cases tables.seeds.find? id with
  | none => simp
  | some seed =>
      by_cases h : seed.archive.isSome ∧ state ≠ .doneSuccess
      · simp only [if_pos h, Prod.mk.injEq, reduceCtorEq, false_and, false_iff, not_exists,
          Option.some.injEq]
        rintro _ ⟨rfl, allowed, -⟩
        exact h.2 (allowed h.1)
      · simp only [if_neg h, Prod.mk.injEq, true_and, Option.some.injEq, exists_eq_left']
        simp only [ne_eq, not_and, Decidable.not_not] at h
        exact ⟨fun e => ⟨h, e.symm⟩, fun e => e.2.symm⟩

theorem compareAndSet_eq_ok {expected next : Seed.State} :
    tables.compareAndSet id expected next = (.ok (), after) ↔
      ∃ seed, tables.seeds.find? id = some seed ∧ seed.state = expected ∧
        (seed.archive.isSome → next = .doneSuccess) ∧
        after = { tables with seeds := tables.seeds.put id { seed with state := next } } := by
  unfold compareAndSet
  cases h : tables.getSeed id with
  | error e =>
      simp only [Prod.mk.injEq, reduceCtorEq, false_and, false_iff, not_exists, not_and]
      intro seed hs
      rw [getSeed_eq_ok.mpr hs] at h
      cases h
  | ok seed =>
      rw [getSeed_eq_ok] at h
      by_cases he : seed.state = expected
      · simp only [he, ne_eq, not_true_eq_false, if_false, setState_eq_ok, h, Option.some.injEq,
          exists_eq_left', true_and]
      · simp [he, h]

theorem updateArchive_eq_ok {archive : Seed.Archive} :
    tables.updateArchive id archive = (.ok (), after) ↔
      archive.url ≠ "" ∧ ∃ seed, tables.seeds.find? id = some seed ∧
        seed.state = .doneSuccess ∧
        after = { tables with
          seeds := tables.seeds.put id { seed with archive := some archive } } := by
  unfold updateArchive getSeed
  by_cases hu : archive.url = ""
  · simp [hu]
  cases tables.seeds.find? id with
  | none => simp [hu]
  | some seed =>
      by_cases hs : seed.state = .doneSuccess
      · simp [hu, hs, eq_comm]
      · simp [hu, hs]

/-! ## Writing all or nothing

What a writer gives back where it fails is the tables as they were. This is shown once for each
writer, by going through its checks.
-/

/-- A call that writes has succeeded, or it has failed and left the tables as they were. -/
def IsAtomic (tables : Tables) (change : Except Error Unit × Tables) : Prop :=
  (∃ after, change = (.ok (), after)) ∨ ∃ e, change = (.error e, tables)

theorem save_atomic (seeds : List Seed) : tables.IsAtomic (tables.save seeds) := by
  unfold save
  split
  · exact .inr ⟨_, rfl⟩
  · exact .inl ⟨_, rfl⟩

theorem saveGroup_atomic (group : SeedGroup) : tables.IsAtomic (tables.saveGroup group) := by
  unfold saveGroup
  split
  · exact .inr ⟨_, rfl⟩
  · split
    · exact .inr ⟨_, rfl⟩
    · split
      · exact .inr ⟨_, rfl⟩
      · exact .inl ⟨_, rfl⟩

theorem setState_atomic (id : ShadowId) (state : Seed.State) :
    tables.IsAtomic (tables.setState id state) := by
  unfold setState
  split
  · exact .inr ⟨_, rfl⟩
  · split
    · exact .inr ⟨_, rfl⟩
    · exact .inl ⟨_, rfl⟩

theorem compareAndSet_atomic (id : ShadowId) (expected next : Seed.State) :
    tables.IsAtomic (tables.compareAndSet id expected next) := by
  unfold compareAndSet
  split
  · exact .inr ⟨_, rfl⟩
  · split
    · exact .inr ⟨_, rfl⟩
    · exact setState_atomic id next

theorem updateArchive_atomic (id : ShadowId) (archive : Seed.Archive) :
    tables.IsAtomic (tables.updateArchive id archive) := by
  unfold updateArchive
  split
  · exact .inr ⟨_, rfl⟩
  · split
    · exact .inr ⟨_, rfl⟩
    · split
      · exact .inr ⟨_, rfl⟩
      · exact .inl ⟨_, rfl⟩

/-- What holds of the tables and of what a change makes of them holds after it. -/
theorem IsAtomic.induction {P : Tables → Prop} {change : Except Error Unit × Tables}
    (atomic : tables.IsAtomic change) (kept : P tables)
    (changed : ∀ after, change = (.ok (), after) → P after) : P change.2 := by
  rcases atomic with ⟨after, done⟩ | ⟨e, failed⟩
  · rw [done]
    exact changed after done
  · rw [failed]
    exact kept

/-- A change that is answered without an error was made. -/
theorem eq_ok_of_answer {change : Except Error Unit × Tables} (h : change.1 = .ok ()) :
    change = (.ok (), change.2) := Prod.ext h rfl

/-! ## Calls about one seed that is stored -/

/-- A move that the lifecycle allows is made exactly if the seed is in the expected state. No
archive details stand against it, since none go with a state that leads anywhere. -/
theorem compareAndSet_of_found {seed : Seed} {expected next : Seed.State}
    (found : tables.seeds.find? id = some seed) (consistent : seed.isConsistent = true)
    (leads : expected.leadsTo next = true) :
    tables.compareAndSet id expected next =
      if seed.state = expected then
        (.ok (), { tables with seeds := tables.seeds.put id { seed with state := next } })
      else (.error (.stateConflict id expected seed.state), tables) := by
  have there : tables.getSeed id = .ok seed := getSeed_eq_ok.mpr found
  by_cases h : seed.state = expected
  · rw [if_pos h, compareAndSet_eq_ok]
    refine ⟨seed, found, h, fun archived => ?_, rfl⟩
    -- Only a success has archive details, and it leads nowhere.
    have success : seed.state = .doneSuccess :=
      Seed.isConsistent_iff.mp consistent (Option.isSome_iff_ne_none.mp archived)
    rw [← h, success] at leads
    cases leads
  · rw [if_neg h]
    simp only [compareAndSet, there, ne_eq, h, not_false_eq_true, if_true]

/-- Archive details are written exactly if the seed has succeeded. -/
theorem updateArchive_of_found {seed : Seed} {archive : Seed.Archive}
    (found : tables.seeds.find? id = some seed) (named : archive.url ≠ "") :
    tables.updateArchive id archive =
      if seed.state = .doneSuccess then
        (.ok (), { tables with seeds := tables.seeds.put id { seed with archive := some archive } })
      else (.error (.violation (.archiveNeedsSuccess id seed.state.name)), tables) := by
  have there : tables.getSeed id = .ok seed := getSeed_eq_ok.mpr found
  rw [updateArchive, if_neg named, there]
  by_cases h : seed.state = .doneSuccess <;> simp [h]

/-! ## The seeds that are inserted -/

/-- After an insertion a seed is found under its id, and all others where they were. -/
theorem find?_insertSeeds {seeds : List Seed} (distinct : (seeds.map (·.id)).Nodup) :
    (tables.insertSeeds seeds).seeds.find? id =
      (seeds.find? (·.id = id)).or (tables.seeds.find? id) := by
  -- The entries are looked up by the ids that the seeds carry.
  have entry : ∀ seeds : List Seed,
      Table.find? (seeds.map fun seed => (seed.id, seed)) id = seeds.find? (·.id = id) := by
    intro seeds
    induction seeds with
    | nil => rfl
    | cons seed more ih =>
        rw [List.map_cons, Table.find?, ih, List.find?_cons]
        by_cases h : seed.id = id <;> simp [h]
  unfold insertSeeds
  rw [Table.find?_putAll _ _ _ (by simpa [Function.comp_def] using distinct), entry]

/-! ## One step of a seed's life

A seed is stored, moved along the lifecycle, and gets its archive details; all other calls leave
the entry. The store itself would set any state by `updateState`, so the calls are those that keep
to the lifecycle.
-/

/-- What one call does to the entry of a seed: nothing, or a step of the seed's life. -/
inductive Evolves : Option Seed → Option Seed → Prop where
  | kept (entry : Option Seed) : Evolves entry entry
  | stored (seed : Seed) (new : newSeedViolation? seed = none) : Evolves none (some seed)
  | moved (seed : Seed) (state : Seed.State) (leads : seed.state.leadsTo state = true) :
      Evolves (some seed) (some { seed with state })
  | archived (seed : Seed) (archive : Seed.Archive) (success : seed.state = .doneSuccess) :
      Evolves (some seed) (some { seed with archive := some archive })

/-- A seed that has ended keeps its state. -/
theorem Evolves.keeps_terminal {before after : Option Seed} (h : Evolves before after)
    {seed : Seed} (hb : before = some seed) (ended : seed.state.isTerminal = true) :
    after.map (·.state) = some seed.state := by
  cases h with
  | kept => exact congrArg (Option.map _) hb
  | stored => cases hb
  | moved old state leads =>
      cases hb
      -- The lifecycle leads nowhere from a state in which a seed has ended.
      have stays : seed.state.leadsTo state = false := by
        revert ended
        cases seed.state <;> cases state <;> decide
      rw [leads] at stays
      cases stays
  | archived old archive success =>
      cases hb
      rfl

/-- No step of a seed's life leaves archive details on a seed that is no success. -/
theorem Evolves.consistent {before after : Option Seed} (h : Evolves before after)
    (hb : before.all Seed.isConsistent = true) : after.all Seed.isConsistent = true := by
  cases h with
  | kept => exact hb
  | stored seed new =>
      have bare := (newSeedViolation?_eq_none.mp new).2.2.2
      simp [Seed.isConsistent, bare]
  | moved seed state leads =>
      -- The lifecycle leads nowhere from a success, so there are no archive details yet.
      have unfinished : seed.state ≠ .doneSuccess := by
        intro success
        rw [success] at leads
        cases leads
      have bare : seed.archive = none := Seed.archive_eq_none hb unfinished
      simp [Seed.isConsistent, bare]
  | archived seed archive success => simp [Seed.isConsistent, success]

end Tables

/-- The call moves seeds only where the lifecycle leads, and only from the state that it
expects. -/
def Call.KeepsLifecycle : Call → Prop
  | .updateState _ _ => False
  | .compareAndSet _ expected next => expected.leadsTo next = true
  | _ => True

namespace Tables

variable {tables after : Tables} {id : ShadowId}

theorem insertSeeds_evolves {seeds : List Seed}
    (h : checkBatch tables.seeds.has seeds = .ok ()) :
    Evolves (tables.seeds.find? id) ((tables.insertSeeds seeds).seeds.find? id) := by
  obtain ⟨-, fit, distinct⟩ := checkBatch_eq_ok.mp h
  rw [find?_insertSeeds distinct]
  cases found : seeds.find? (·.id = id) with
  | none => exact .kept _
  | some seed =>
      -- The id of a new seed was free.
      obtain ⟨new, free⟩ := fit seed (List.mem_of_find?_eq_some found)
      have same : seed.id = id := by simpa using List.find?_some found
      have absent : tables.seeds.find? id = none := by
        rwa [same, Table.has, Option.isSome_eq_false_iff, Option.isNone_iff_eq_none] at free
      rw [absent]
      exact .stored seed new

/-- The entry at one id after a seed was put at another, or at this one. -/
theorem evolves_put {key : ShadowId} {seed seed' : Seed}
    (found : tables.seeds.find? key = some seed) (step : Evolves (some seed) (some seed')) :
    Evolves (tables.seeds.find? id) ((tables.seeds.put key seed').find? id) := by
  rw [Table.find?_put]
  by_cases hk : key = id
  · subst hk
    rw [if_pos rfl, found]
    exact step
  · rw [if_neg hk]
    exact .kept _

/-- A change that fails leaves everything as it was. -/
theorem IsAtomic.evolves {change : Except Error Unit × Tables} (atomic : tables.IsAtomic change)
    (h : ∀ after, change = (.ok (), after) →
      Evolves (tables.seeds.find? id) (after.seeds.find? id)) :
    Evolves (tables.seeds.find? id) (change.2.seeds.find? id) :=
  atomic.induction (P := fun after => Evolves _ (after.seeds.find? id)) (.kept _) h

/-- **A call that keeps to the lifecycle takes every seed one step further in its life, or leaves
it as it is.** -/
theorem answer_evolves (tables : Tables) {call : Call} (keeps : call.KeepsLifecycle)
    (id : ShadowId) :
    Evolves (tables.seeds.find? id) ((tables.answer call).2.seeds.find? id) := by
  cases call with
  | save seeds =>
      refine (save_atomic seeds).evolves fun after h => ?_
      obtain ⟨fit, rfl⟩ := save_eq_ok.mp h
      exact insertSeeds_evolves fit
  | saveGroup group =>
      refine (saveGroup_atomic group).evolves fun after h => ?_
      obtain ⟨-, -, fit, rfl⟩ := saveGroup_eq_ok.mp h
      exact insertSeeds_evolves fit
  | getGroup id => exact .kept _
  | getSeed id => exact .kept _
  | updateState id state => exact keeps.elim
  | compareAndSet key expected next =>
      refine (compareAndSet_atomic key expected next).evolves fun after h => ?_
      obtain ⟨seed, found, rfl, -, rfl⟩ := compareAndSet_eq_ok.mp h
      exact evolves_put found (.moved seed next keeps)
  | updateArchive key archive =>
      refine (updateArchive_atomic key archive).evolves fun after h => ?_
      obtain ⟨-, seed, found, success, rfl⟩ := updateArchive_eq_ok.mp h
      exact evolves_put found (.archived seed archive success)

end Tables

end Store

end WebCapture
