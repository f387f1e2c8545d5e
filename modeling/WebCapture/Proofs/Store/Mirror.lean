import WebCapture.Proofs.Broker.Lists
import WebCapture.Proofs.Store.Rows
import WebCapture.Proofs.Store.Tables

set_option autoImplicit false

/-! # The store on the broker is the store in memory

The keys of a broker mirror the tables of a store in memory if each seed stands at its key in its
row, and each group as the list of its members. Every call keeps the mirror and is answered alike
on both sides (`answer_mirrors`), whence no sequence of calls tells the two stores apart
(`stores_agree`).

The two sides do their work in different orders. In memory a writer looks at the tables, checks,
and writes; on the broker the checks that need no stored value come first, and one script does the
rest. So a call is compared as a whole, with what its script does to the keys, and its error with
that of the tables.

Rows are text. What is written into a row has to be read back, and of a time in the archive
details this is true only if it is one that clocks can show: such are the times that stamps tell
(`hasClockTime_of_record`), and `Mirrors` says so of all that is stored. It says that groups have
members, too, since a list without any is no value of the broker.
-/

namespace WebCapture.Store

open Broker (Dialogue ErrorLine Keyspace Script Value)
open Broker.Dialogue (run_bind run_send)
open Text.Utf8 (Bytes ofString)

/-! ## Dialogues -/

/-- A script that succeeds is run once. -/
theorem run_runScript {script : Script} {names args : List String} {keys keys' : Keyspace}
    {x : script.Answer} (h : keys.run script names args = (.ok x, keys')) :
    (Dialogue.runScript script names args).run keys = (.ok x, keys') := by
  rw [Dialogue.runScript, run_bind, run_send]
  have answer : keys.answer (.run script names args) = (.ok x, keys') := h
  rw [answer]
  rfl

/-! ## The mirror

Seeds and groups have keys of different kinds, so that to write the one never touches the other.
`Mirrors.put_seed` and `Mirrors.put_group` are the only ways in which the mirror is changed.
-/

/-- The keys of a broker mirror the tables of a store: seeds are kept in their rows, groups as
lists of ids. The tables are such that everything can be read back. -/
structure Mirrors (rows : Rows) (tables : Tables) (keys : Keyspace) : Prop where
  seed : ∀ id, keys.find? (rows.seedKey id)
    = (tables.seeds.find? id).map fun seed => .hash (rowOf seed)
  group : ∀ id, keys.find? (rows.groupKey id)
    = (tables.groups.find? id).map fun members => .list (members.map ofString)
  own : ∀ {id seed}, tables.seeds.find? id = some seed → seed.id = id
  clock : ∀ {id seed}, tables.seeds.find? id = some seed → HasClockTime seed.archive
  members : ∀ {id members}, tables.groups.find? id = some members → members ≠ []

namespace Mirrors

variable {rows : Rows} {tables : Tables} {keys : Keyspace} {id : ShadowId} {seed : Seed}

theorem empty (rows : Rows) : Mirrors rows .empty [] where
  seed _ := rfl
  group _ := rfl
  own h := nomatch h
  clock h := nomatch h
  members h := nomatch h

theorem hashAt_of_seed (h : Mirrors rows tables keys) (found : tables.seeds.find? id = some seed) :
    keys.hashAt (rows.seedKey id) = .ok (rowOf seed) := by
  rw [Keyspace.hashAt, h.seed, found]
  rfl

theorem hashAt_of_none (h : Mirrors rows tables keys) (absent : tables.seeds.find? id = none) :
    keys.hashAt (rows.seedKey id) = .ok [] := by
  rw [Keyspace.hashAt, h.seed, absent]
  rfl

theorem listAt (h : Mirrors rows tables keys) (id : ShadowId) :
    keys.listAt (rows.groupKey id)
      = .ok (((tables.groups.find? id).getD []).map ofString) := by
  rw [Keyspace.listAt, h.group]
  cases tables.groups.find? id <;> rfl

/-- The mirror after a seed was written on both sides. -/
theorem put_seed (h : Mirrors rows tables keys) (own : seed.id = id)
    (clock : HasClockTime seed.archive) :
    Mirrors rows { tables with seeds := tables.seeds.put id seed }
      (keys.put (rows.seedKey id) (.hash (rowOf seed))) where
  seed other := by
    rw [Table.find?_put, Table.find?_put, h.seed]
    by_cases same : id = other
    · rw [if_pos (congrArg rows.seedKey same), if_pos same]
      rfl
    · have apart : rows.seedKey id ≠ rows.seedKey other := mt (String.append_right_inj _).mp same
      rw [if_neg apart, if_neg same]
  group other := by
    rw [Table.find?_put, if_neg Rows.seedKey_ne_groupKey, h.group]
  own {other seed'} found := by
    rw [Table.find?_put] at found
    by_cases same : id = other
    · rw [if_pos same] at found
      rw [← Option.some.inj found, own, same]
    · rw [if_neg same] at found
      exact h.own found
  clock {other seed'} found := by
    rw [Table.find?_put] at found
    by_cases same : id = other
    · rw [if_pos same] at found
      rwa [← Option.some.inj found]
    · rw [if_neg same] at found
      exact h.clock found
  members found := h.members found

/-- The mirror after a group was written on both sides. -/
theorem put_group (h : Mirrors rows tables keys) {members : List ShadowId} (filled : members ≠ []) :
    Mirrors rows { tables with groups := tables.groups.put id members }
      (keys.put (rows.groupKey id) (.list (members.map ofString))) where
  seed other := by
    rw [Table.find?_put, if_neg (Ne.symm Rows.seedKey_ne_groupKey), h.seed]
  group other := by
    rw [Table.find?_put, Table.find?_put, h.group]
    by_cases same : id = other
    · rw [if_pos (congrArg rows.groupKey same), if_pos same]
      rfl
    · have apart : rows.groupKey id ≠ rows.groupKey other := mt (String.append_right_inj _).mp same
      rw [if_neg apart, if_neg same]
  own found := h.own found
  clock found := h.clock found
  members {other ids} found := by
    rw [Table.find?_put] at found
    by_cases same : id = other
    · rw [if_pos same] at found
      rwa [← Option.some.inj found]
    · rw [if_neg same] at found
      exact h.members found

end Mirrors

/-! ## Reading

To read changes nothing on either side. A seed is read back from its row, and a group by reading
the rows of its members one after the other.
-/

variable {rows : Rows} {tables : Tables} {keys : Keyspace}

/-- A row of the mirror, or the absence of one, is read as the tables tell. -/
theorem Mirrors.seedOfRow (h : Mirrors rows tables keys) (id : ShadowId) :
    ∃ row, keys.hashAt (rows.seedKey id) = .ok row ∧ Store.seedOfRow id row = tables.getSeed id := by
  cases found : tables.seeds.find? id with
  | none =>
      refine ⟨[], h.hashAt_of_none found, ?_⟩
      rw [Tables.getSeed, found]
      rfl
  | some seed =>
      refine ⟨rowOf seed, h.hashAt_of_seed found, ?_⟩
      rw [Tables.getSeed, found, ← h.own found]
      exact seedOfRow_rowOf (h.clock found)

theorem run_getSeed (h : Mirrors rows tables keys) (id : ShadowId) :
    (rows.getSeed id).run keys = (tables.getSeed id, keys) := by
  obtain ⟨row, found, read⟩ := h.seedOfRow id
  have answer : keys.answer (.fields (rows.seedKey id)) = (.ok row, keys) := by
    rw [Keyspace.answer, found]
  rw [Rows.getSeed, run_bind, run_send, answer, ← read]
  rfl

theorem memberIds_map (members : List ShadowId) :
    Rows.memberIds (members.map ofString) = .ok members := by
  have spelled : (members.map ofString).mapM Text.Utf8.toString? = some members := by
    rw [List.mapM_map]
    induction members with
    | nil => rfl
    | cons id more ih =>
        rw [List.mapM_cons, ih, Function.comp_apply, Text.Utf8.toString?_ofString]
        rfl
  rw [Rows.memberIds, spelled]

/-- The rows of several seeds are read as the tables tell, up to the first that is missing. -/
theorem run_readAll (h : Mirrors rows tables keys) (ids : List ShadowId) :
    ∃ found, (Dialogue.readAll (ids.map rows.seedKey)).run keys = (.ok found, keys) ∧
      Rows.seedsOfRows (ids.zip found) = tables.getSeeds ids := by
  induction ids with
  | nil => exact ⟨[], rfl, rfl⟩
  | cons id more ih =>
      obtain ⟨row, first, read⟩ := h.seedOfRow id
      obtain ⟨others, rest, readOthers⟩ := ih
      have answer : keys.answer (.fields (rows.seedKey id)) = (.ok row, keys) := by
        rw [Keyspace.answer, first]
      refine ⟨row :: others, ?_, ?_⟩
      · rw [List.map_cons, Dialogue.readAll, run_bind, run_send, answer, run_bind, rest]
        rfl
      · rw [List.zip_cons_cons, Rows.seedsOfRows, read, readOthers, Tables.getSeeds]
        cases tables.getSeed id with
        | error e => rfl
        | ok seed => cases tables.getSeeds more <;> rfl

theorem run_getGroup (h : Mirrors rows tables keys) (id : ShadowId) :
    (rows.getGroup id).run keys = (tables.getGroup id, keys) := by
  have answer : keys.answer (.range (rows.groupKey id))
      = (.ok (((tables.groups.find? id).getD []).map ofString), keys) := by
    rw [Keyspace.answer, h.listAt]
  rw [Rows.getGroup, run_bind, run_send, answer]
  simp only [memberIds_map, Tables.getGroup]
  cases found : tables.groups.find? id with
  | none => rfl
  | some members =>
      obtain ⟨rowsFound, run, read⟩ := run_readAll h members
      cases members with
      | nil => exact absurd rfl (h.members found)
      | cons first more =>
          simp only [Option.getD_some]
          rw [run_bind, run]
          simp only [read]
          cases tables.getSeeds (first :: more) <;> rfl

/-! ## Changes of a seed

A script finds the row of the seed, compares and writes, and it fails where the tables would. A
seed that is not there is told from one in another state before anything is written.
-/

/-- The outcome of a call on both sides: the same answer, and keys that mirror the tables. -/
def Alike {α : Type} (rows : Rows) (broker : α × Keyspace) (memory : α × Tables) : Prop :=
  broker.1 = memory.1 ∧ Mirrors rows memory.2 broker.2

/-- What becomes of a seed that is found when its state is written, unless another was
expected. -/
theorem run_setState (h : Mirrors rows tables keys) {id : ShadowId} {seed : Seed}
    (found : tables.seeds.find? id = some seed) {expected : Option Seed.State}
    (fits : ∀ state ∈ expected, seed.state = state) (next : Seed.State) :
    Alike rows (Dialogue.run (rows.writeState id expected next) keys)
      (tables.setState id next) := by
  have row := h.hashAt_of_seed found
  obtain ⟨state, archived⟩ := find?_rowOf seed
  have current : keys.field (rows.seedKey id) "state" = .ok (some seed.state.name) := by
    simp only [Keyspace.field, row, state]
  have address : keys.field (rows.seedKey id) "archival_url"
      = .ok ((rowOf seed).find? "archival_url") := by
    simp only [Keyspace.field, row]
  -- The script takes an empty text for a state that nobody expects.
  have passes : ¬((expected.map Seed.State.name).getD "" ≠ "" ∧
      seed.state.name ≠ (expected.map Seed.State.name).getD "") := by
    cases expected with
    | none => exact fun h => h.1 rfl
    | some state => exact fun h => h.2 (congrArg _ (fits state rfl))
  have named : next.name ≠ "DoneSuccess" ↔ next ≠ .doneSuccess := by
    cases next <;> decide
  by_cases bad : seed.archive.isSome ∧ next ≠ .doneSuccess
  · -- Both refuse to take a success away from an archived seed.
    have memory : tables.setState id next
        = (.error (.violation (.archivedCannotBecome id next)), tables) := by
      rw [Tables.setState, Tables.getSeed, found]
      exact if_pos bad
    have broker : keys.run .setState [rows.seedKey id]
        [(expected.map Seed.State.name).getD "", next.name] = (.ok (2, seed.state.name), keys) := by
      simp only [Keyspace.run, Keyspace.runSetState, List.headD_cons, List.getD_cons_zero,
        List.getD_cons_succ, current, if_neg passes, address, archived]
      rw [if_pos ⟨named.mpr bad.2, bad.1⟩]
    rw [Rows.writeState, run_bind, run_runScript broker, memory]
    exact ⟨rfl, h⟩
  · -- Both write the state and leave the rest of the seed as it is.
    have memory : tables.setState id next
        = (.ok (), { tables with seeds := tables.seeds.put id { seed with state := next } }) := by
      rw [Tables.setState, Tables.getSeed, found]
      exact if_neg bad
    have broker : keys.run .setState [rows.seedKey id]
        [(expected.map Seed.State.name).getD "", next.name]
          = (.ok (3, seed.state.name),
            keys.put (rows.seedKey id) (.hash (rowOf { seed with state := next }))) := by
      simp only [Keyspace.run, Keyspace.runSetState, List.headD_cons, List.getD_cons_zero,
        List.getD_cons_succ, current, if_neg passes, address, archived]
      rw [if_neg (fun both => bad ⟨both.2, named.mp both.1⟩)]
      simp only [Keyspace.setFields, row, rowOf_setState]
    have own := h.own found
    have clock := h.clock found
    rw [Rows.writeState, run_bind, run_runScript broker, memory]
    exact ⟨rfl, h.put_seed own clock⟩

theorem run_writeState_of_none (h : Mirrors rows tables keys) {id : ShadowId}
    (absent : tables.seeds.find? id = none) (expected : Option Seed.State) (next : Seed.State) :
    Dialogue.run (rows.writeState id expected next) keys = (.error (.seedNotFound id), keys) := by
  have broker : keys.run .setState [rows.seedKey id]
      [(expected.map Seed.State.name).getD "", next.name] = (.ok (0, ""), keys) := by
    simp only [Keyspace.run, Keyspace.runSetState, List.headD_cons, Keyspace.field,
      h.hashAt_of_none absent, Table.find?]
  rw [Rows.writeState, run_bind, run_runScript broker]
  rfl

theorem run_updateState (h : Mirrors rows tables keys) (id : ShadowId) (next : Seed.State) :
    Alike rows (Dialogue.run (rows.writeState id none next) keys)
      (tables.setState id next) := by
  cases found : tables.seeds.find? id with
  | some seed =>
      refine run_setState h found (fun state here => ?_) next
      cases here
  | none =>
      have memory : tables.setState id next = (.error (.seedNotFound id), tables) := by
        rw [Tables.setState, Tables.getSeed, found]
      rw [memory, run_writeState_of_none h found]
      exact ⟨rfl, h⟩

theorem run_compareAndSet (h : Mirrors rows tables keys) (id : ShadowId)
    (expected next : Seed.State) :
    Alike rows (Dialogue.run (rows.writeState id (some expected) next) keys)
      (tables.compareAndSet id expected next) := by
  cases found : tables.seeds.find? id with
  | none =>
      have memory : tables.compareAndSet id expected next = (.error (.seedNotFound id), tables) := by
        rw [Tables.compareAndSet, Tables.getSeed, found]
      rw [memory, run_writeState_of_none h found]
      exact ⟨rfl, h⟩
  | some seed =>
      by_cases fits : seed.state = expected
      · have memory : tables.compareAndSet id expected next = tables.setState id next := by
          rw [Tables.compareAndSet, Tables.getSeed, found]
          exact if_neg (not_not_intro fits)
        rw [memory]
        exact run_setState h found (fun state here => fits.trans (Option.some.inj here)) next
      · have memory : tables.compareAndSet id expected next
            = (.error (.stateConflict id expected seed.state), tables) := by
          rw [Tables.compareAndSet, Tables.getSeed, found]
          exact if_pos fits
        have current : keys.field (rows.seedKey id) "state" = .ok (some seed.state.name) := by
          simp only [Keyspace.field, h.hashAt_of_seed found, (find?_rowOf seed).1]
        -- States have different names, none of them empty, so that the script sees the conflict.
        have differs : expected.name ≠ "" ∧ seed.state.name ≠ expected.name := by
          revert fits
          cases expected <;> cases seed.state <;> decide
        have broker : keys.run .setState [rows.seedKey id]
            [((some expected).map Seed.State.name).getD "", next.name]
              = (.ok (1, seed.state.name), keys) := by
          simp only [Keyspace.run, Keyspace.runSetState, List.headD_cons, List.getD_cons_zero,
            Option.map_some, Option.getD_some, current, if_pos differs]
        rw [Rows.writeState, run_bind, run_runScript broker, memory]
        simp only [rowState_name]
        exact ⟨rfl, h⟩

theorem run_updateArchive (h : Mirrors rows tables keys) (id : ShadowId) {archive : Seed.Archive}
    (clock : archive.harvestedAt.IsClockTime) :
    Alike rows (Dialogue.run (rows.updateArchive id archive) keys)
      (tables.updateArchive id archive) := by
  -- Both look at the address before they look for the seed.
  by_cases bare : archive.url = ""
  · rw [Rows.updateArchive, if_pos bare, Tables.updateArchive, if_pos bare]
    exact ⟨rfl, h⟩
  rw [Rows.updateArchive, if_neg bare, Tables.updateArchive, if_neg bare]
  cases found : tables.seeds.find? id with
  | none =>
      have broker : keys.run .setArchive [rows.seedKey id]
          [archive.url, archive.harvestedAt.text] = (.ok (0, ""), keys) := by
        simp only [Keyspace.run, Keyspace.runSetArchive, List.headD_cons, Keyspace.field,
          h.hashAt_of_none found, Table.find?]
      rw [run_bind, run_runScript broker, Tables.getSeed, found]
      exact ⟨rfl, h⟩
  | some seed =>
      have row := h.hashAt_of_seed found
      have current : keys.field (rows.seedKey id) "state" = .ok (some seed.state.name) := by
        simp only [Keyspace.field, row, (find?_rowOf seed).1]
      have named : seed.state.name ≠ "DoneSuccess" ↔ seed.state ≠ .doneSuccess := by
        cases seed.state <;> decide
      rw [Tables.getSeed, found]
      by_cases early : seed.state ≠ .doneSuccess
      · have broker : keys.run .setArchive [rows.seedKey id]
            [archive.url, archive.harvestedAt.text] = (.ok (2, seed.state.name), keys) := by
          simp only [Keyspace.run, Keyspace.runSetArchive, List.headD_cons, current,
            if_pos (named.mpr early)]
        rw [run_bind, run_runScript broker]
        simp only [if_pos early]
        exact ⟨rfl, h⟩
      · have broker : keys.run .setArchive [rows.seedKey id]
            [archive.url, archive.harvestedAt.text] = (.ok (3, seed.state.name),
              keys.put (rows.seedKey id) (.hash (rowOf { seed with archive := some archive }))) := by
          simp only [Keyspace.run, Keyspace.runSetArchive, List.headD_cons, current,
            if_neg (mt named.mp early), Keyspace.setFields, row, List.getD_cons_zero,
            List.getD_cons_succ, rowOf_setArchive]
        have readable : HasClockTime (some archive) := by
          intro details here
          rwa [← Option.some.inj here]
        have own := h.own found
        rw [run_bind, run_runScript broker]
        simp only [if_neg early]
        exact ⟨rfl, h.put_seed own readable⟩

/-! ## Insertions

The script inserts seed after seed, in memory they are all inserted at once. The induction is over
the seeds that are left, with tables into which the earlier ones were inserted already.
-/

/-- The tables with new seeds, which are appended to a group if one is given. -/
def insertInto (group : Option ShadowId) (tables : Tables) (seeds : List Seed) : Tables :=
  match group with
  | none => tables.insertSeeds seeds
  | some id => { tables.insertSeeds seeds with
      groups := tables.groups.put id ((tables.groups.find? id).getD [] ++ seeds.map (·.id)) }

/-- To insert several seeds into a group is to insert the first and then the others. -/
theorem insertInto_cons (group : Option ShadowId) (tables : Tables) (seed second : Seed)
    (more : List Seed) :
    insertInto group tables (seed :: second :: more)
      = insertInto group (insertInto group tables [seed]) (second :: more) := by
  cases group with
  | none => rfl
  | some id =>
      simp only [insertInto, Table.find?_put, if_true, Option.getD_some, Table.put_put, List.map_cons,
        List.map_nil, List.append_assoc, List.cons_append, List.nil_append]
      rfl

/-- One round of the script that inserts seeds. -/
theorem insertRows_cons (h : Mirrors rows tables keys) {seed : Seed}
    (new : newSeedViolation? seed = none) (free : tables.seeds.find? seed.id = none)
    (group : Option ShadowId) (moreKeys args : List String) :
    ∃ keys', keys.insertRows (group.map rows.groupKey) (rows.seedKey seed.id :: moreKeys)
        (rowArguments seed ++ args) = keys'.insertRows (group.map rows.groupKey) moreKeys args ∧
      Mirrors rows (insertInto group tables [seed]) keys' := by
  -- The script writes the three fields that a row without archive details has.
  have bare : seed.archive = none := (newSeedViolation?_eq_none.mp new).2.2.2
  have clock : HasClockTime seed.archive := by
    intro details here
    rw [bare] at here
    cases here
  have own : seed.id = seed.id := rfl
  have mirror := h.put_seed own clock
  have written : keys.setFields (rows.seedKey seed.id) [("url", seed.url),
      ("public", if seed.isPublic then "1" else "0"), ("state", seed.state.name)]
        = .ok (keys.put (rows.seedKey seed.id) (.hash (rowOf seed))) := by
    rw [Keyspace.setFields, h.hashAt_of_none free]
    simp only [rowOf_insert bare]
  have arguments : rowArguments seed ++ args
      = seed.id :: seed.url :: (if seed.isPublic then "1" else "0") :: seed.state.name :: args := rfl
  rw [arguments]
  cases group with
  | none =>
      refine ⟨_, ?_, mirror⟩
      simp only [Option.map_none, Keyspace.insertRows, List.getD_cons_succ, List.getD_cons_zero,
        written, List.drop_succ_cons, List.drop_zero]
  | some id =>
      have filled : (tables.groups.find? id).getD [] ++ [seed.id] ≠ [] := by
        intro none
        cases (List.append_eq_nil_iff.mp none).2
      refine ⟨_, ?_, mirror.put_group filled⟩
      simp only [Option.map_some, Keyspace.insertRows, List.getD_cons_succ, List.getD_cons_zero,
        written, List.drop_succ_cons, List.drop_zero, Keyspace.push, mirror.listAt id,
        List.map_append, List.map_cons, List.map_nil]

/-- The script that inserts seeds does so on the keys as on the tables. -/
theorem insertRows_mirrors (group : Option ShadowId) {seeds : List Seed} (filled : seeds ≠ [])
    (h : Mirrors rows tables keys)
    (new : ∀ seed ∈ seeds, newSeedViolation? seed = none ∧ tables.seeds.find? seed.id = none)
    (distinct : (seeds.map (·.id)).Nodup) :
    ∃ keys', keys.insertRows (group.map rows.groupKey) (seeds.map fun seed => rows.seedKey seed.id)
        (seeds.flatMap rowArguments) = (.ok (), keys') ∧
      Mirrors rows (insertInto group tables seeds) keys' := by
  induction seeds generalizing tables keys with
  | nil => exact absurd rfl filled
  | cons seed more ih =>
      obtain ⟨fit, free⟩ := new seed List.mem_cons_self
      obtain ⟨keys₁, round, mirror⟩ := insertRows_cons h fit free group
        (more.map fun seed => rows.seedKey seed.id) (more.flatMap rowArguments)
      rw [List.map_cons, List.flatMap_cons, round]
      cases more with
      | nil => exact ⟨keys₁, rfl, mirror⟩
      | cons second more =>
          rw [List.map_cons, List.nodup_cons] at distinct
          rw [insertInto_cons]
          -- The ids of the others are free still, since they differ from the first.
          refine ih (List.cons_ne_nil _ _) mirror (fun other here => ?_) distinct.2
          obtain ⟨fit', free'⟩ := new other (List.mem_cons_of_mem _ here)
          refine ⟨fit', ?_⟩
          have differs : seed.id ≠ other.id := by
            intro same
            exact distinct.1 (same ▸ List.mem_map_of_mem here)
          have one : (insertInto group tables [seed]).seeds = tables.seeds.put seed.id seed := by
            cases group <;> rfl
          rw [one, Table.find?_put, if_neg differs, free']

/-- The first key that is taken is found unless all are free. -/
theorem firstTaken_eq_zero {keys : Keyspace} {names : List String} {position : Nat}
    (positive : 0 < position) :
    keys.firstTaken position names = 0 ↔ ∀ name ∈ names, keys.find? name = none := by
  induction names generalizing position with
  | nil =>
      refine ⟨fun _ name here => ?_, fun _ => rfl⟩
      cases here
  | cons name more ih =>
      rw [Keyspace.firstTaken, List.forall_mem_cons, Table.has]
      cases keys.find? name with
      | none => simpa using ih (Nat.succ_pos position)
      | some value =>
          simp only [Option.isSome_some, if_true, reduceCtorEq, false_and, iff_false]
          omega

/-- Seeds can be inserted if they pass the checks among themselves and all ids are free. -/
def Insertable (group : Option ShadowId) (tables : Tables) (seeds : List Seed) : Prop :=
  checkBatch (fun _ => false) seeds = .ok () ∧
    (∀ id ∈ group, tables.groups.find? id = none) ∧
    ∀ seed ∈ seeds, tables.seeds.find? seed.id = none

/-- All keys of an insertion are free if all its ids are. -/
theorem firstTaken_insertion (h : Mirrors rows tables keys) (group : Option ShadowId)
    (seeds : List Seed) :
    keys.firstTaken 1 ((group.map rows.groupKey).toList
        ++ seeds.map fun seed => rows.seedKey seed.id) = 0 ↔
      (∀ id ∈ group, tables.groups.find? id = none) ∧
        ∀ seed ∈ seeds, tables.seeds.find? seed.id = none := by
  rw [firstTaken_eq_zero Nat.one_pos, List.forall_mem_append, List.forall_mem_map]
  refine and_congr ?_ ?_
  · cases group with
    | none => simp
    | some id => simp [h.group]
  · simp only [h.seed, Option.map_eq_none_iff]

/-- The first argument tells the script whether the first key is that of a group. -/
theorem runInsert_single {keys keys' : Keyspace} {names args : List String}
    (nothing : keys.firstTaken 1 names = 0)
    (written : keys.insertRows none names args = (.ok (), keys')) :
    keys.runInsert names ("0" :: args) = (.ok 0, keys') := by
  have single : (("0" :: args).head? == some "1") = false := rfl
  simp only [Keyspace.runInsert, nothing, single, Bool.false_eq_true, if_false,
    List.drop_succ_cons, List.drop_zero, written]

theorem runInsert_grouped {keys keys' : Keyspace} {name : String} {names args : List String}
    (nothing : keys.firstTaken 1 (name :: names) = 0)
    (written : keys.insertRows (some name) names args = (.ok (), keys')) :
    keys.runInsert (name :: names) ("1" :: args) = (.ok 0, keys') := by
  have grouped : (some "1" == some "1") = true := rfl
  simp only [Keyspace.runInsert, nothing, List.head?_cons, grouped, if_true,
    List.drop_succ_cons, List.drop_zero, written]

/-- What can be inserted is inserted on the broker as in memory. -/
theorem run_insert (h : Mirrors rows tables keys) {group : Option ShadowId} {seeds : List Seed}
    (fits : Insertable group tables seeds) :
    Alike rows (Dialogue.run (rows.insert group seeds) keys)
      ((.ok () : Except Error Unit), insertInto group tables seeds) := by
  obtain ⟨passes, free⟩ := fits
  obtain ⟨filled, fit, distinct⟩ := checkBatch_eq_ok.mp passes
  obtain ⟨keys', written, mirror⟩ := insertRows_mirrors group filled h
    (fun seed here => ⟨(fit seed here).1, free.2 seed here⟩) distinct
  have nothing := (firstTaken_insertion h group seeds).mpr free
  have broker : keys.run .insert
      ((group.map rows.groupKey).toList ++ seeds.map fun seed => rows.seedKey seed.id)
      (toString group.toList.length :: seeds.flatMap rowArguments) = (.ok 0, keys') := by
    cases group with
    | none => exact runInsert_single nothing written
    | some id =>
        have one : toString (some id).toList.length = "1" := by
          rw [Option.toList_some, List.length_singleton]
          rfl
        rw [one]
        exact runInsert_grouped nothing written
  rw [Rows.insert, passes]
  simp only [run_bind, run_runScript broker]
  exact ⟨rfl, mirror⟩

/-- What cannot be inserted changes nothing. -/
theorem run_insert_error (h : Mirrors rows tables keys) {group : Option ShadowId}
    {seeds : List Seed} (unfit : ¬Insertable group tables seeds) :
    ∃ e, Dialogue.run (rows.insert group seeds) keys = (.error e, keys) := by
  cases passes : checkBatch (fun _ => false) seeds with
  | error e =>
      rw [Rows.insert, passes]
      exact ⟨e, rfl⟩
  | ok =>
      -- The seeds fit, so it is a key that was taken, and the script stops before it writes.
      have taken := mt (firstTaken_insertion h group seeds).mp fun free => unfit ⟨passes, free⟩
      cases position : keys.firstTaken 1 ((group.map rows.groupKey).toList
          ++ seeds.map fun seed => rows.seedKey seed.id) with
      | zero => exact absurd position taken
      | succ n =>
          have broker : keys.run .insert
              ((group.map rows.groupKey).toList ++ seeds.map fun seed => rows.seedKey seed.id)
              (toString group.toList.length :: seeds.flatMap rowArguments)
                = (.ok (n + 1), keys) := by
            rw [Keyspace.run, Keyspace.runInsert, position]
            rfl
          rw [Rows.insert, passes]
          simp only [run_bind, run_runScript broker]
          exact ⟨_, rfl⟩

theorem save_eq_ok_iff_insertable {seeds : List Seed} {after : Tables} :
    tables.save seeds = (.ok (), after) ↔
      Insertable none tables seeds ∧ after = insertInto none tables seeds := by
  rw [Tables.save_eq_ok, checkBatch_eq_ok, Insertable, checkBatch_eq_ok]
  simp only [Table.has, Option.isSome_eq_false_iff, Option.isNone_iff_eq_none, forall_and,
    insertInto]
  constructor
  · rintro ⟨⟨filled, ⟨fit, free⟩, distinct⟩, rfl⟩
    refine ⟨⟨⟨filled, ⟨fit, fun _ _ => trivial⟩, distinct⟩, fun id here => ?_, free⟩, rfl⟩
    cases here
  · rintro ⟨⟨⟨filled, ⟨fit, -⟩, distinct⟩, -, free⟩, rfl⟩
    exact ⟨⟨filled, ⟨fit, free⟩, distinct⟩, rfl⟩

theorem saveGroup_eq_ok_iff_insertable {group : SeedGroup} {after : Tables}
    (named : group.id ≠ "") :
    tables.saveGroup group = (.ok (), after) ↔
      Insertable (some group.id) tables group.seeds ∧
        after = insertInto (some group.id) tables group.seeds := by
  rw [Tables.saveGroup_eq_ok, checkBatch_eq_ok, Insertable, checkBatch_eq_ok]
  simp only [Table.has, Option.isSome_eq_false_iff, Option.isNone_iff_eq_none, forall_and,
    insertInto]
  constructor
  · rintro ⟨-, new, ⟨filled, ⟨fit, free⟩, distinct⟩, rfl⟩
    refine ⟨⟨⟨filled, ⟨fit, fun _ _ => trivial⟩, distinct⟩, fun id here => ?_, free⟩, ?_⟩
    · rwa [← Option.some.inj here]
    · rw [new]
      rfl
  · rintro ⟨⟨⟨filled, ⟨fit, -⟩, distinct⟩, new, free⟩, rfl⟩
    have absent := new group.id rfl
    refine ⟨named, absent, ⟨filled, ⟨fit, free⟩, distinct⟩, ?_⟩
    rw [absent]
    rfl

/-! ## All calls -/

/-- The times in a call are times that clocks show. -/
def Call.IsClocked : Call → Prop
  | .updateArchive _ archive => archive.harvestedAt.IsClockTime
  | _ => True

/-- Two stores answer a call alike: an insertion succeeds in both or in none, and all else has
the same answer. -/
def Call.Agrees : (call : Call) → call.Answer → call.Answer → Prop
  | .save _, x, y => x = .ok () ↔ y = .ok ()
  | .saveGroup _, x, y => x = .ok () ↔ y = .ok ()
  | .getGroup _, x, y => x = y
  | .getSeed _, x, y => x = y
  | .updateState _ _, x, y => x = y
  | .compareAndSet _ _ _, x, y => x = y
  | .updateArchive _ _, x, y => x = y

/-- An insertion has the same outcome on both sides, up to the error. -/
theorem insert_mirrors (h : Mirrors rows tables keys) {group : Option ShadowId}
    {seeds : List Seed} {change : Except Error Unit × Tables} (atomic : tables.IsAtomic change)
    (memory : ∀ after, change = (.ok (), after) ↔
      Insertable group tables seeds ∧ after = insertInto group tables seeds) :
    (change.1 = .ok () ↔ (Dialogue.run (rows.insert group seeds) keys).1 = .ok ()) ∧
      Mirrors rows change.2 (Dialogue.run (rows.insert group seeds) keys).2 := by
  by_cases fits : Insertable group tables seeds
  · obtain ⟨answer, mirror⟩ := run_insert h fits
    rw [(memory _).mpr ⟨fits, rfl⟩, answer]
    exact ⟨Iff.rfl, mirror⟩
  · obtain ⟨e, broker⟩ := run_insert_error h fits
    rw [broker]
    rcases atomic with ⟨after, rfl⟩ | ⟨e', rfl⟩
    · exact absurd ((memory after).mp rfl).1 fits
    · refine ⟨?_, h⟩
      constructor <;> intro none <;> cases none

/-- **Every call is answered alike by the two stores and keeps the mirror.** -/
theorem answer_mirrors (h : Mirrors rows tables keys) {call : Call} (clocked : call.IsClocked) :
    call.Agrees (tables.answer call).1 (Dialogue.run (rows.answer call) keys).1 ∧
      Mirrors rows (tables.answer call).2 (Dialogue.run (rows.answer call) keys).2 := by
  cases call with
  | save seeds =>
      exact insert_mirrors h (Tables.save_atomic seeds) fun after => save_eq_ok_iff_insertable
  | saveGroup group =>
      -- A group without a name is refused before the broker is asked.
      by_cases named : group.id = ""
      · have memory : tables.saveGroup group = (.error (.violation .emptyGroupId), tables) := by
          rw [Tables.saveGroup, if_pos named]
        have broker : rows.answer (.saveGroup group)
            = .done (Except.error (.violation .emptyGroupId) : Except Error Unit) := if_pos named
        rw [Tables.answer, memory, broker]
        refine ⟨?_, h⟩
        constructor <;> intro none <;> cases none
      · have broker : rows.answer (.saveGroup group) = rows.insert (some group.id) group.seeds :=
          if_neg named
        rw [broker]
        exact insert_mirrors h (Tables.saveGroup_atomic group) fun after =>
          saveGroup_eq_ok_iff_insertable named
  | getGroup id =>
      have alike : Alike rows (Dialogue.run (rows.getGroup id) keys)
          (tables.getGroup id, tables) := by
        rw [run_getGroup h]
        exact ⟨rfl, h⟩
      exact ⟨alike.1.symm, alike.2⟩
  | getSeed id =>
      have alike : Alike rows (Dialogue.run (rows.getSeed id) keys) (tables.getSeed id, tables) := by
        rw [run_getSeed h]
        exact ⟨rfl, h⟩
      exact ⟨alike.1.symm, alike.2⟩
  | updateState id state =>
      obtain ⟨answer, mirror⟩ := run_updateState h id state
      exact ⟨answer.symm, mirror⟩
  | compareAndSet id expected next =>
      obtain ⟨answer, mirror⟩ := run_compareAndSet h id expected next
      exact ⟨answer.symm, mirror⟩
  | updateArchive id archive =>
      obtain ⟨answer, mirror⟩ := run_updateArchive h id clocked
      exact ⟨answer.symm, mirror⟩

/-! ## Histories

A history is a list of calls. The stores start empty, which is mirrored by a broker without keys,
and every call keeps the mirror.
-/

def tablesAfter (calls : List Call) : Tables :=
  calls.foldl (fun tables call => (tables.answer call).2) .empty

def keysAfter (rows : Rows) (calls : List Call) : Keyspace :=
  calls.foldl (fun keys call => (Dialogue.run (rows.answer call) keys).2) []

theorem mirrors_after (rows : Rows) {calls : List Call} (clocked : ∀ call ∈ calls, call.IsClocked) :
    Mirrors rows (tablesAfter calls) (keysAfter rows calls) := by
  have onward : ∀ (calls : List Call), (∀ call ∈ calls, call.IsClocked) →
      ∀ tables keys, Mirrors rows tables keys →
        Mirrors rows (calls.foldl (fun tables call => (tables.answer call).2) tables)
          (calls.foldl (fun keys call => (Dialogue.run (rows.answer call) keys).2) keys) := by
    intro calls
    induction calls with
    | nil => exact fun _ tables keys h => h
    | cons call more ih =>
        intro clocked tables keys h
        rw [List.forall_mem_cons] at clocked
        exact ih clocked.2 _ _ (answer_mirrors h clocked.1).2
  exact onward calls clocked .empty [] (.empty rows)

/-- A store in memory has no trouble of its own. -/
theorem getSeed_ne_backend (tables : Tables) (id : ShadowId) (reason : String) :
    tables.getSeed id ≠ .error (.backend reason) := by
  intro h
  unfold Tables.getSeed at h
  split at h <;> cases h

theorem getGroup_ne_backend (tables : Tables) (id : ShadowId) (reason : String) :
    tables.getGroup id ≠ .error (.backend reason) := by
  have seeds : ∀ ids, tables.getSeeds ids ≠ .error (.backend reason) := by
    intro ids
    induction ids with
    | nil =>
        intro h
        cases h
    | cons id more ih =>
        intro h
        rw [Tables.getSeeds] at h
        split at h
        · rename_i e failed
          cases h
          exact getSeed_ne_backend tables id reason failed
        · split at h
          · rename_i e failed
            cases h
            exact ih failed
          · cases h
  intro h
  unfold Tables.getGroup at h
  split at h
  · cases h
  · split at h
    · rename_i e failed
      cases h
      exact seeds _ failed
    · cases h

/-- **The two stores implement one contract.** After any calls with times that clocks show, made
of a store in memory and of one on a broker that had no keys: any further call is answered alike
by both, every seed and every group reads the same, and no reading fails for want of a proper
row. -/
theorem stores_agree (rows : Rows) {calls : List Call} (clocked : ∀ call ∈ calls, call.IsClocked) :
    (∀ call : Call, call.IsClocked → call.Agrees ((tablesAfter calls).answer call).1
      (Dialogue.run (rows.answer call) (keysAfter rows calls)).1) ∧
    ∀ id, (Dialogue.run (rows.getSeed id) (keysAfter rows calls)).1 = (tablesAfter calls).getSeed id ∧
      (Dialogue.run (rows.getGroup id) (keysAfter rows calls)).1 = (tablesAfter calls).getGroup id ∧
      ∀ reason, (Dialogue.run (rows.getSeed id) (keysAfter rows calls)).1
          ≠ .error (.backend reason) ∧
        (Dialogue.run (rows.getGroup id) (keysAfter rows calls)).1 ≠ .error (.backend reason) := by
  have h := mirrors_after rows clocked
  refine ⟨fun call here => (answer_mirrors h here).1, fun id => ?_⟩
  rw [run_getSeed h, run_getGroup h]
  exact ⟨rfl, rfl, fun reason => ⟨getSeed_ne_backend _ id reason, getGroup_ne_backend _ id reason⟩⟩

/-- A seed that was harvested in a leap second reads the same from both stores. -/
theorem stores_agree_leap_second :
    let seed : Seed := ⟨"http://a.test/", true, .notEnqueued, none, "A"⟩
    let archive : Seed.Archive := ⟨"http://b.test/", .ofClock ⟨2016, 12, 31⟩ 23 59 60 123000000⟩
    let calls : List Call :=
      [.saveGroup ⟨[seed], "G"⟩, .updateState "A" .doneSuccess, .updateArchive "A" archive]
    (tablesAfter calls).getSeed "A"
        = .ok { seed with state := .doneSuccess, archive := some archive } ∧
      (Dialogue.run ((Rows.mk "web:").getSeed "A") (keysAfter ⟨"web:"⟩ calls)).1
        = .ok { seed with state := .doneSuccess, archive := some archive } := by
  intro seed archive calls
  have clocked : ∀ call ∈ calls, call.IsClocked := by
    intro call here
    simp only [calls, List.mem_cons, List.not_mem_nil, or_false] at here
    rcases here with rfl | rfl | rfl
    · trivial
    · trivial
    · exact ⟨⟨2016, 12, 31⟩, 23, 59, 60, 123, by decide, by decide, by decide, by decide, by decide,
        by decide, by decide, rfl⟩
  have memory : (tablesAfter calls).getSeed "A"
      = .ok { seed with state := .doneSuccess, archive := some archive } := rfl
  obtain ⟨reads, -⟩ := (stores_agree ⟨"web:"⟩ clocked).2 "A"
  exact ⟨memory, reads.trans memory⟩

end WebCapture.Store
