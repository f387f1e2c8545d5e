import WebCapture.Proofs.Store.Mirror

set_option autoImplicit false

/-! # The tables always fit together

The store in memory keeps its seeds and its groups in two tables. `Tables.Changes` lists what one
call can do to them, whatever its arguments. From this it follows that the tables stay sound:
seeds stand under their own ids, archive details go with successes, and the members of a group are
stored (`Changes.sound`). A call adds to what is stored and changes nothing about it but the state
and the archive details of a seed (`Changes.keeps`), and a call that fails does nothing at all
(`answer_failure`). `integrity` says all this about the tables after any calls.

The checks of a call are not repeated in its changes: an insertion comes with the fact that its
seeds were fit, and a write with the seed that was found. Everything else about the call is
forgotten, so that soundness is proved for five changes and not for every call with all its
errors.

That a stored group can always be read later needs both halves. Its members are stored with it,
and no call takes them away or gives them other addresses.
-/

namespace WebCapture.Store

/-- What never changes about a seed. -/
def imprint (seed : Seed) : ShadowId × String × Bool := (seed.id, seed.url, seed.isPublic)

namespace Tables

variable {tables after before : Tables} {id : ShadowId} {seed : Seed}

/-! ## What one call can do

The writers give back the tables beside their answer, also where they fail. That those of them
that fail have left the tables as they were is a fact about each writer, collected in `IsAtomic`.
-/

/-- What a call can make of the tables: it leaves them, inserts seeds, with a group or without, or
writes the state or the archive details of one seed. -/
inductive Changes (tables : Tables) : Tables → Prop where
  | kept : Changes tables tables
  | saved (seeds : List Seed) (fit : checkBatch tables.seeds.has seeds = .ok ()) :
      Changes tables (tables.insertSeeds seeds)
  | grouped (group : SeedGroup) (free : tables.groups.has group.id = false)
      (fit : checkBatch tables.seeds.has group.seeds = .ok ()) :
      Changes tables { tables.insertSeeds group.seeds with
        groups := tables.groups.put group.id (group.seeds.map (·.id)) }
  | moved {id : ShadowId} {seed : Seed} (found : tables.seeds.find? id = some seed)
      (state : Seed.State) (allowed : seed.archive.isSome → state = .doneSuccess) :
      Changes tables { tables with seeds := tables.seeds.put id { seed with state } }
  | archived {id : ShadowId} {seed : Seed} (found : tables.seeds.find? id = some seed)
      (success : seed.state = .doneSuccess) (archive : Seed.Archive) (named : archive.url ≠ "") :
      Changes tables { tables with
        seeds := tables.seeds.put id { seed with archive := some archive } }

/-- A change that fails leaves the tables, so only one that succeeds has to be looked at. -/
theorem IsAtomic.changes {change : Except Error Unit × Tables} (atomic : tables.IsAtomic change)
    (h : ∀ after, change = (.ok (), after) → tables.Changes after) : tables.Changes change.2 :=
  atomic.induction .kept h

/-- **Every call does one of five things to the tables**, whatever its arguments. -/
theorem answer_changes (tables : Tables) (call : Call) :
    tables.Changes (tables.answer call).2 := by
  cases call with
  | save seeds =>
      refine (save_atomic seeds).changes fun after h => ?_
      obtain ⟨fit, rfl⟩ := save_eq_ok.mp h
      exact .saved seeds fit
  | saveGroup group =>
      refine (saveGroup_atomic group).changes fun after h => ?_
      obtain ⟨-, free, fit, rfl⟩ := saveGroup_eq_ok.mp h
      exact .grouped group free fit
  | getGroup id => exact .kept
  | getSeed id => exact .kept
  | updateState id state =>
      refine (setState_atomic id state).changes fun after h => ?_
      obtain ⟨seed, found, allowed, rfl⟩ := setState_eq_ok.mp h
      exact .moved found state allowed
  | compareAndSet id expected next =>
      refine (compareAndSet_atomic id expected next).changes fun after h => ?_
      obtain ⟨seed, found, -, allowed, rfl⟩ := compareAndSet_eq_ok.mp h
      exact .moved found next allowed
  | updateArchive id archive =>
      refine (updateArchive_atomic id archive).changes fun after h => ?_
      obtain ⟨named, seed, found, success, rfl⟩ := updateArchive_eq_ok.mp h
      exact .archived found success archive named

theorem IsAtomic.unchanged {change : Except Error Unit × Tables} {error : Error}
    (atomic : tables.IsAtomic change) (h : change.1 = .error error) : change.2 = tables := by
  rcases atomic with ⟨after, done⟩ | ⟨e, failed⟩
  · rw [done] at h
    cases h
  · rw [failed]

/-- A call that fails leaves the tables as they were. -/
theorem answer_failure {call : Call} {error : Error}
    (h : (tables.answer call).1 = call.failure error) : (tables.answer call).2 = tables := by
  cases call with
  | save seeds => exact (save_atomic seeds).unchanged h
  | saveGroup group => exact (saveGroup_atomic group).unchanged h
  | getGroup id => rfl
  | getSeed id => rfl
  | updateState id state => exact (setState_atomic id state).unchanged h
  | compareAndSet id expected next => exact (compareAndSet_atomic id expected next).unchanged h
  | updateArchive id archive => exact (updateArchive_atomic id archive).unchanged h

/-! ## What stays

The imprint of a seed is what no call changes: its id, its address and its visibility. Groups are
not changed at all.
-/

/-- What is stored stays stored: seeds with their ids, addresses and visibility, and groups with
their members. -/
structure Keeps (before after : Tables) : Prop where
  seed : ∀ id seed, before.seeds.find? id = some seed →
    ∃ now, after.seeds.find? id = some now ∧ imprint now = imprint seed
  group : ∀ id members, before.groups.find? id = some members →
    after.groups.find? id = some members

theorem Keeps.refl (tables : Tables) : tables.Keeps tables where
  seed _ seed found := ⟨seed, found, rfl⟩
  group _ _ found := found

theorem Keeps.trans {middle : Tables} (h₁ : before.Keeps middle) (h₂ : middle.Keeps after) :
    before.Keeps after where
  seed id seed found := by
    obtain ⟨between, found', same⟩ := h₁.seed id seed found
    obtain ⟨now, found'', same'⟩ := h₂.seed id between found'
    exact ⟨now, found'', same'.trans same⟩
  group id members found := h₂.group id members (h₁.group id members found)

/-- New seeds take nobody's place. -/
theorem find?_insertSeeds_of_stored {seeds : List Seed}
    (fit : checkBatch tables.seeds.has seeds = .ok ())
    (found : tables.seeds.find? id = some seed) :
    (tables.insertSeeds seeds).seeds.find? id = some seed := by
  obtain ⟨-, fits, distinct⟩ := checkBatch_eq_ok.mp fit
  have fresh : seeds.find? (·.id = id) = none := by
    rw [List.find?_eq_none]
    intro new here same
    have free := (fits new here).2
    have taken : new.id = id := by simpa using same
    simp [Table.has, taken, found] at free
  rw [find?_insertSeeds distinct, fresh, found]
  rfl

/-- Where ids differ, a seed of a list is found by its id. -/
theorem find?_of_mem {seeds : List Seed} (distinct : (seeds.map (·.id)).Nodup)
    (here : seed ∈ seeds) : seeds.find? (·.id = seed.id) = some seed := by
  induction seeds with
  | nil => cases here
  | cons head more ih =>
      rw [List.map_cons, List.nodup_cons] at distinct
      rcases List.mem_cons.mp here with rfl | later
      · simp
      · have other : head.id ≠ seed.id := by
          intro same
          exact distinct.1 (List.mem_map.mpr ⟨seed, later, same.symm⟩)
        simp [other, ih distinct.2 later]

/-- New seeds are found under their ids. -/
theorem find?_insertSeeds_of_new {seeds : List Seed}
    (fit : checkBatch tables.seeds.has seeds = .ok ()) (here : seed ∈ seeds) :
    (tables.insertSeeds seeds).seeds.find? seed.id = some seed := by
  obtain ⟨-, -, distinct⟩ := checkBatch_eq_ok.mp fit
  rw [find?_insertSeeds distinct, find?_of_mem distinct here]
  rfl

/-- Whoever is found after an insertion is new or was there before. -/
theorem find?_insertSeeds_cases {seeds : List Seed}
    (fit : checkBatch tables.seeds.has seeds = .ok ())
    (found : (tables.insertSeeds seeds).seeds.find? id = some seed) :
    (newSeedViolation? seed = none ∧ seed.id = id) ∨ tables.seeds.find? id = some seed := by
  obtain ⟨-, fits, distinct⟩ := checkBatch_eq_ok.mp fit
  rw [find?_insertSeeds distinct] at found
  cases new : seeds.find? (·.id = id) with
  | none =>
      rw [new] at found
      exact .inr found
  | some head =>
      rw [new] at found
      obtain rfl : head = seed := Option.some.inj found
      have same : head.id = id := by simpa using List.find?_some new
      exact .inl ⟨(fits head (List.mem_of_find?_eq_some new)).1, same⟩

/-- To write a seed that is stored keeps all seeds, if what never changes about it is kept. -/
theorem keeps_put (found : tables.seeds.find? id = some seed) {next : Seed}
    (same : imprint next = imprint seed) :
    tables.Keeps { tables with seeds := tables.seeds.put id next } where
  seed key other found' := by
    show ∃ now, (tables.seeds.put id next).find? key = some now ∧ imprint now = imprint other
    rw [Table.find?_put]
    by_cases h : id = key
    · subst h
      obtain rfl : seed = other := Option.some.inj (found.symm.trans found')
      exact ⟨next, if_pos rfl, same⟩
    · exact ⟨other, by rw [if_neg h, found'], rfl⟩
  group _ _ found := found

/-- **A call adds to what is stored and takes nothing away.** -/
theorem Changes.keeps (h : tables.Changes after) : tables.Keeps after := by
  cases h with
  | kept => exact .refl tables
  | saved seeds fit =>
      refine ⟨fun id seed found => ⟨seed, ?_, rfl⟩, fun id members found => found⟩
      exact find?_insertSeeds_of_stored fit found
  | grouped group free fit =>
      refine ⟨fun id seed found => ⟨seed, ?_, rfl⟩, fun id members found => ?_⟩
      · exact find?_insertSeeds_of_stored fit found
      · -- The id of the new group was free.
        have other : group.id ≠ id := by
          rintro rfl
          simp [Table.has, found] at free
        show (tables.groups.put group.id _).find? id = some members
        rw [Table.find?_put, if_neg other]
        exact found
  | moved found state allowed => exact keeps_put found rfl
  | archived found success archive named => exact keeps_put found rfl

/-! ## What is always true of the tables -/

/-- Tables that fit together. -/
structure IsSound (tables : Tables) : Prop where
  own : ∀ id seed, tables.seeds.find? id = some seed → seed.id = id ∧ id ≠ "" ∧ seed.url ≠ ""
  archive : ∀ id seed archive, tables.seeds.find? id = some seed → seed.archive = some archive →
    seed.state = .doneSuccess ∧ archive.url ≠ ""
  group : ∀ id members, tables.groups.find? id = some members → members ≠ [] ∧ members.Nodup ∧
    ∀ member ∈ members, (tables.seeds.find? member).isSome

theorem isSound_empty : empty.IsSound where
  own _ _ found := nomatch found
  archive _ _ _ found := nomatch found
  group _ _ found := nomatch found

/-- Members that are stored stay so. -/
theorem Keeps.stored (h : tables.Keeps after) (stored : (tables.seeds.find? id).isSome) :
    (after.seeds.find? id).isSome := by
  obtain ⟨seed, found⟩ := Option.isSome_iff_exists.mp stored
  obtain ⟨now, found', -⟩ := h.seed id seed found
  rw [found']
  rfl

/-- Insertions leave seeds under their own ids, and archive details with successes. -/
theorem IsSound.seeds_insert (sound : tables.IsSound) {seeds : List Seed}
    (fit : checkBatch tables.seeds.has seeds = .ok ())
    (found : (tables.insertSeeds seeds).seeds.find? id = some seed) :
    (seed.id = id ∧ id ≠ "" ∧ seed.url ≠ "") ∧
      ∀ archive, seed.archive = some archive → seed.state = .doneSuccess ∧ archive.url ≠ "" := by
  rcases find?_insertSeeds_cases fit found with ⟨new, same⟩ | old
  · obtain ⟨addressed, named, -, bare⟩ := newSeedViolation?_eq_none.mp new
    refine ⟨⟨same, same ▸ named, addressed⟩, fun archive archived => ?_⟩
    rw [bare] at archived
    cases archived
  · exact ⟨sound.own id seed old, fun archive => sound.archive id seed archive old⟩

/-- To write a seed that is stored keeps the tables sound, if the seed is fit for it. -/
theorem IsSound.put (sound : tables.IsSound) (found : tables.seeds.find? id = some seed)
    {next : Seed} (same : imprint next = imprint seed)
    (fits : ∀ archive, next.archive = some archive →
      next.state = .doneSuccess ∧ archive.url ≠ "") :
    IsSound { tables with seeds := tables.seeds.put id next } := by
  have entry : ∀ key other, (tables.seeds.put id next).find? key = some other →
      (id = key ∧ next = other) ∨ tables.seeds.find? key = some other := by
    intro key other found'
    rw [Table.find?_put] at found'
    by_cases h : id = key
    · rw [if_pos h] at found'
      exact .inl ⟨h, Option.some.inj found'⟩
    · rw [if_neg h] at found'
      exact .inr found'
  obtain ⟨own, named, addressed⟩ := sound.own id seed found
  simp only [imprint, Prod.mk.injEq] at same
  refine ⟨fun key other found' => ?_, fun key other archive found' archived => ?_, ?_⟩
  · rcases entry key other found' with ⟨rfl, rfl⟩ | old
    · exact ⟨same.1.trans own, named, same.2.1 ▸ addressed⟩
    · exact sound.own key other old
  · rcases entry key other found' with ⟨rfl, rfl⟩ | old
    · exact fits archive archived
    · exact sound.archive key other archive old archived
  · intro key members listed
    obtain ⟨filled, distinct, stored⟩ := sound.group key members listed
    refine ⟨filled, distinct, fun member here => ?_⟩
    have kept : tables.Keeps { tables with seeds := tables.seeds.put id next } :=
      keeps_put found (by simp [imprint, same])
    exact kept.stored (stored member here)

/-- **No call breaks the tables apart.** -/
theorem Changes.sound (h : tables.Changes after) (sound : tables.IsSound) : after.IsSound := by
  have keeps : tables.Keeps after := h.keeps
  cases h with
  | kept => exact sound
  | saved seeds fit =>
      refine ⟨fun id seed found => (sound.seeds_insert fit found).1,
        fun id seed archive found => (sound.seeds_insert fit found).2 archive, ?_⟩
      intro id members listed
      -- Groups are as they were, and their members are still stored.
      obtain ⟨filled, distinct, stored⟩ := sound.group id members listed
      exact ⟨filled, distinct, fun member here => keeps.stored (stored member here)⟩
  | grouped group free fit =>
      refine ⟨fun id seed found => (sound.seeds_insert fit found).1,
        fun id seed archive found => (sound.seeds_insert fit found).2 archive, ?_⟩
      intro id members listed
      have listed : (tables.groups.put group.id (group.seeds.map (·.id))).find? id
          = some members := listed
      rw [Table.find?_put] at listed
      by_cases own : group.id = id
      · -- The members of the new group have just been stored.
        rw [if_pos own] at listed
        obtain ⟨filled, -, distinct⟩ := checkBatch_eq_ok.mp fit
        obtain rfl := Option.some.inj listed
        refine ⟨by simpa using filled, distinct, fun member here => ?_⟩
        obtain ⟨seed, there, rfl⟩ := List.mem_map.mp here
        show ((tables.insertSeeds group.seeds).seeds.find? seed.id).isSome
        rw [find?_insertSeeds_of_new fit there]
        rfl
      · rw [if_neg own] at listed
        obtain ⟨filled, distinct, stored⟩ := sound.group id members listed
        exact ⟨filled, distinct, fun member here => keeps.stored (stored member here)⟩
  | @moved id seed found state allowed =>
      refine sound.put found rfl fun archive archived => ?_
      have proper := sound.archive id seed archive found archived
      exact ⟨allowed (Option.isSome_iff_exists.mpr ⟨archive, archived⟩), proper.2⟩
  | archived found success archive named =>
      refine sound.put found rfl fun archive' archived => ?_
      rw [← Option.some.inj archived]
      exact ⟨success, named⟩

/-! ## Groups are read as they were stored

A group is kept as the ids of its members, so it is read with the seeds as they are now. They may
have come further in their lives since the group was stored, but their imprints are those that
were given.
-/

/-- Seeds are read by their ids in the order of these. -/
theorem getSeeds_eq_ok {ids : List ShadowId} {seeds : List Seed} :
    tables.getSeeds ids = .ok seeds ↔ ids.map tables.seeds.find? = seeds.map some := by
  induction ids generalizing seeds with
  | nil => cases seeds <;> simp [getSeeds]
  | cons id more ih =>
      rw [getSeeds, getSeed, List.map_cons]
      cases found : tables.seeds.find? id with
      | none => cases seeds <;> simp
      | some seed =>
          cases rest : tables.getSeeds more with
          | error e =>
              cases seeds with
              | nil => simp
              | cons head others =>
                  have unread : more.map tables.seeds.find? ≠ others.map some := by
                    intro read
                    rw [ih.mpr read] at rest
                    cases rest
                  simp [unread]
          | ok others =>
              have read := ih.mp rest
              cases seeds with
              | nil => simp
              | cons head tail => simp [read, List.map_inj_right]

/-- Seeds that are all stored can be read. -/
theorem exists_getSeeds {ids : List ShadowId}
    (stored : ∀ id ∈ ids, (tables.seeds.find? id).isSome) :
    ∃ seeds, tables.getSeeds ids = .ok seeds := by
  induction ids with
  | nil => exact ⟨[], rfl⟩
  | cons id more ih =>
      rw [List.forall_mem_cons] at stored
      obtain ⟨seed, found⟩ := Option.isSome_iff_exists.mp stored.1
      obtain ⟨seeds, read⟩ := ih stored.2
      exact ⟨seed :: seeds, by rw [getSeeds, getSeed_eq_ok.mpr found, read]⟩

/-- A group that is stored can be read. -/
theorem IsSound.getGroup (sound : tables.IsSound) {members : List ShadowId}
    (listed : tables.groups.find? id = some members) :
    ∃ seeds, tables.getGroup id = .ok ⟨seeds, id⟩ ∧
      members.map tables.seeds.find? = seeds.map some := by
  obtain ⟨-, -, stored⟩ := sound.group id members listed
  obtain ⟨seeds, read⟩ := exists_getSeeds stored
  refine ⟨seeds, ?_, getSeeds_eq_ok.mp read⟩
  simp only [Tables.getGroup, listed, read]

/-- Seeds that are found under some ids have these ids. -/
theorem IsSound.ids_of_found (sound : tables.IsSound) {ids : List ShadowId} {seeds : List Seed}
    (found : ids.map tables.seeds.find? = seeds.map some) :
    ids = seeds.map (·.id) ∧ ∀ seed ∈ seeds, tables.seeds.find? seed.id = some seed := by
  induction ids generalizing seeds with
  | nil =>
      obtain rfl : seeds = [] := List.map_eq_nil_iff.mp found.symm
      exact ⟨rfl, fun seed here => absurd here List.not_mem_nil⟩
  | cons id more ih =>
      cases seeds with
      | nil => cases found
      | cons seed others =>
          rw [List.map_cons, List.map_cons, List.cons.injEq] at found
          obtain ⟨own, -⟩ := sound.own id seed found.1
          obtain ⟨same, stored⟩ := ih found.2
          have first : tables.seeds.find? seed.id = some seed := by rw [own, found.1]
          exact ⟨by rw [List.map_cons, own, same], List.forall_mem_cons.mpr ⟨first, stored⟩⟩

/-- A group that can be read is listed with its members, and its seeds are as they are stored. -/
theorem IsSound.getGroup_eq_ok (sound : tables.IsSound) {group : SeedGroup}
    (h : tables.getGroup id = .ok group) :
    tables.groups.find? id = some (group.seeds.map (·.id)) ∧
      ∀ seed ∈ group.seeds, tables.seeds.find? seed.id = some seed := by
  cases listed : tables.groups.find? id with
  | none =>
      rw [Tables.getGroup, listed] at h
      cases h
  | some members =>
      obtain ⟨seeds, read, found⟩ := sound.getGroup listed
      obtain rfl := Except.ok.inj (h.symm.trans read)
      obtain ⟨rfl, stored⟩ := sound.ids_of_found found
      exact ⟨rfl, stored⟩

/-- The only reason why a group cannot be read is that there is none. -/
theorem IsSound.getGroup_eq_error (sound : tables.IsSound) {error : Error}
    (h : tables.getGroup id = .error error) : error = .groupNotFound id := by
  cases listed : tables.groups.find? id with
  | none =>
      rw [Tables.getGroup, listed] at h
      exact (Except.error.inj h).symm
  | some members =>
      obtain ⟨seeds, read, -⟩ := sound.getGroup listed
      rw [read] at h
      cases h

/-- A group that was stored is listed with its members, and its seeds are found. -/
theorem saveGroup_stored {group : SeedGroup}
    (stored : (tables.answer (.saveGroup group)).1 = .ok ()) :
    (tables.answer (.saveGroup group)).2.groups.find? group.id
        = some (group.seeds.map (·.id)) ∧
      ∀ seed ∈ group.seeds,
        (tables.answer (.saveGroup group)).2.seeds.find? seed.id = some seed := by
  obtain ⟨-, -, fit, written⟩ := saveGroup_eq_ok.mp (eq_ok_of_answer stored)
  have after : (tables.answer (.saveGroup group)).2 = { tables.insertSeeds group.seeds with
      groups := tables.groups.put group.id (group.seeds.map (·.id)) } := written
  rw [after]
  refine ⟨?_, fun seed here => find?_insertSeeds_of_new fit here⟩
  show (tables.groups.put group.id (group.seeds.map (·.id))).find? group.id = _
  rw [Table.find?_put, if_pos rfl]

/-- Seeds that are read by the ids of others are these others, in their order. -/
theorem map_imprint_eq {given seeds : List Seed}
    (stored : ∀ seed ∈ given, ∃ now, tables.seeds.find? seed.id = some now ∧
      imprint now = imprint seed)
    (read : (given.map (·.id)).map tables.seeds.find? = seeds.map some) :
    seeds.map imprint = given.map imprint := by
  induction given generalizing seeds with
  | nil =>
      cases seeds with
      | nil => rfl
      | cons head more => cases read
  | cons seed others ih =>
      rw [List.forall_mem_cons] at stored
      obtain ⟨⟨now, found, same⟩, rest⟩ := stored
      cases seeds with
      | nil => cases read
      | cons head more =>
          simp only [List.map_cons, List.cons.injEq, found, Option.some.injEq] at read
          obtain ⟨rfl, readRest⟩ := read
          rw [List.map_cons, List.map_cons, same, ih rest readRest]

end Tables

/-! ## After any calls -/

open Tables

theorem tablesAfter_snoc (calls : List Call) (call : Call) :
    tablesAfter (calls ++ [call]) = ((tablesAfter calls).answer call).2 := by
  rw [tablesAfter, List.foldl_append]
  rfl

theorem isSound_after (calls : List Call) : (tablesAfter calls).IsSound := by
  induction calls using List.reverseRecOn with
  | nil => exact isSound_empty
  | append_singleton calls call ih =>
      rw [tablesAfter_snoc]
      exact (answer_changes _ call).sound ih

/-- What calls have stored stays stored whatever calls come later. -/
theorem keeps_after (calls later : List Call) :
    (tablesAfter calls).Keeps (tablesAfter (calls ++ later)) := by
  induction later using List.reverseRecOn with
  | nil =>
      rw [List.append_nil]
      exact .refl _
  | append_singleton later call ih =>
      rw [← List.append_assoc, tablesAfter_snoc]
      exact ih.trans (answer_changes _ call).keeps

/-- **The store in memory always fits together.** After any calls with any arguments: the tables are
sound; a group can be read if there is one; a group whose storing succeeded is read with the seeds
that were given, in their order, with their ids, addresses and visibility; and a further call takes
nothing away, and does nothing if it fails. -/
theorem integrity (calls : List Call) :
    (tablesAfter calls).IsSound ∧
    (∀ id error, (tablesAfter calls).getGroup id = .error error → error = .groupNotFound id) ∧
    (∀ earlier group later, calls = earlier ++ .saveGroup group :: later →
      ((tablesAfter earlier).answer (.saveGroup group)).1 = .ok () →
      ∃ seeds, (tablesAfter calls).getGroup group.id = .ok ⟨seeds, group.id⟩ ∧
        seeds.map imprint = group.seeds.map imprint) ∧
    ∀ call : Call, (tablesAfter calls).Keeps ((tablesAfter calls).answer call).2 ∧
      ∀ error, ((tablesAfter calls).answer call).1 = call.failure error →
        ((tablesAfter calls).answer call).2 = tablesAfter calls := by
  have sound := isSound_after calls
  refine ⟨sound, fun id error h => sound.getGroup_eq_error h, ?_, fun call => ?_⟩
  · rintro earlier group later rfl stored
    -- Right after the call the group is listed and its seeds are stored; both stay so.
    have keeps := keeps_after (earlier ++ [.saveGroup group]) later
    rw [List.append_assoc, List.singleton_append, tablesAfter_snoc] at keeps
    obtain ⟨listed, there⟩ := saveGroup_stored stored
    obtain ⟨seeds, read, found⟩ := sound.getGroup (keeps.group _ _ listed)
    refine ⟨seeds, read, map_imprint_eq (fun seed here => ?_) found⟩
    exact keeps.seed seed.id seed (there seed here)
  · exact ⟨(answer_changes _ call).keeps, fun error failed => answer_failure failed⟩

/-- A batch with a duplicate behind a new seed, after a group was stored, changes nothing. -/
theorem integrity_late_duplicate :
    let first : Seed := ⟨"http://a.test/", true, .notEnqueued, none, "A"⟩
    let second : Seed := ⟨"http://b.test/", true, .notEnqueued, none, "B"⟩
    let third : Seed := ⟨"http://c.test/", true, .notEnqueued, none, "C"⟩
    let calls : List Call := [.saveGroup ⟨[second, first], "G"⟩, .updateState "A" .doneFailure]
    let batch : Call := .save [third, first]
    ((tablesAfter []).answer (.saveGroup ⟨[second, first], "G"⟩)).1 = .ok () ∧
      (∃ seeds, (tablesAfter calls).getGroup "G" = .ok ⟨seeds, "G"⟩ ∧
        seeds.map imprint = [("B", "http://b.test/", true), ("A", "http://a.test/", true)]) ∧
      ((tablesAfter calls).answer batch).1 = batch.failure (.duplicateId "A") ∧
      ((tablesAfter calls).answer batch).2 = tablesAfter calls := by
  intro first second third calls batch
  have stored : ((tablesAfter []).answer (.saveGroup ⟨[second, first], "G"⟩)).1 = .ok () := rfl
  have refused : ((tablesAfter calls).answer batch).1 = batch.failure (.duplicateId "A") := rfl
  obtain ⟨-, -, groups, further⟩ := integrity calls
  exact ⟨stored, groups [] _ [.updateState "A" .doneFailure] rfl stored, refused,
    (further batch).2 _ refused⟩

end WebCapture.Store
