import WebCapture.Proofs.Provenance.Keeper
import WebCapture.Proofs.Store.Mirror

set_option autoImplicit false

/-! # A keeper on the broker

A store on the broker sends commands, and between two of them others may send theirs. `urlAt` is
the address in the row at a key. Of all commands that the store sends, only an insertion changes
it, and only at keys that had no value (`runInsert_adds`). Thus the store on the broker is a
lawful keeper: `broker_isLawful`.

Reading is harder to follow than writing. A row is read by one command and turned into a seed
later, when others may have written; but the address in a row does not change, so the address that
was read is the one that is stored then, too. A group is read in many commands, one for each
member, and the same holds for each of them.
-/

namespace WebCapture.Provenance

open Program
open Broker (Command Dialogue ErrorLine Keyspace Script Value)
open Store (Rows rowArguments)
open Keeper

/-! ## Addresses in rows -/

def urlAt (keys : Keyspace) (key : String) : Option String :=
  match keys.find? key with
  | some (.hash fields) => fields.find? "url"
  | _ => none

variable {keys keys' : Keyspace} {rows : Rows} {key : String}

theorem urlAt_put (keys : Keyspace) (key key' : String) (value : Value) :
    urlAt (keys.put key value) key' = if key = key' then urlAt [(key', value)] key'
      else urlAt keys key' := by
  unfold urlAt
  rw [Table.find?_put]
  by_cases same : key = key' <;> simp [same, Table.find?]

/-- The hash at a key has the address of the row. -/
theorem find?_url_of_hashAt {fields : Table String String} (h : keys.hashAt key = .ok fields) :
    fields.find? "url" = urlAt keys key := by
  unfold Keyspace.hashAt at h
  unfold urlAt
  split at h
  · rename_i absent
    cases h
    rw [absent]
    rfl
  · rename_i found
    cases h
    rw [found]
  · cases h

/-- To set fields writes an address if it is among them, and changes no other. -/
theorem urlAt_setFields {entries : List (String × String)} (key' : String) (url : Option String)
    (h : keys.setFields key entries = .ok keys')
    (sets : ∀ old : Table String String,
      (old.putAll entries).find? "url" = url.or (old.find? "url")) :
    urlAt keys' key' = if key = key' then url.or (urlAt keys key') else urlAt keys key' := by
  unfold Keyspace.setFields at h
  split at h
  · cases h
  · rename_i old there
    cases h
    rw [urlAt_put]
    by_cases same : key = key'
    · subst same
      rw [if_pos rfl, if_pos rfl, ← find?_url_of_hashAt there, ← sets old]
      simp [urlAt, Table.find?]
    · rw [if_neg same, if_neg same]

/-- Fields that are no addresses leave all addresses as they are. -/
theorem urlAt_setFields_silent {entries : List (String × String)} {key' : String}
    (h : keys.setFields key entries = .ok keys')
    (silent : ∀ old : Table String String, (old.putAll entries).find? "url" = old.find? "url") :
    urlAt keys' key' = urlAt keys key' := by
  rw [urlAt_setFields key' none h silent]
  simp

/-- Lists have no addresses. -/
theorem urlAt_push {payload : Text.Utf8.Bytes} {length : Nat} {key' : String}
    (h : keys.push key payload = .ok (length, keys')) : urlAt keys' key' = urlAt keys key' := by
  unfold Keyspace.push at h
  split at h
  · cases h
  · rename_i items there
    cases h
    rw [urlAt_put]
    by_cases same : key = key'
    · subst same
      rw [if_pos rfl]
      unfold Keyspace.listAt at there
      unfold urlAt
      split at there
      · rename_i absent
        simp [absent, Table.find?]
      · rename_i found
        simp [found, Table.find?]
      · cases there
    · rw [if_neg same]

/-! ## Scripts that write no addresses

A script that sets a field other than the address leaves all addresses as they are, whether or not
it finds a row.
-/

theorem urlAt_run {script : Script} (other : script ≠ .insert) (keys : Keyspace)
    (names args : List String) (key : String) :
    urlAt (keys.run script names args).2 key = urlAt keys key := by
  cases script with
  | insert => exact absurd rfl other
  | _ =>
      simp only [Keyspace.run, Keyspace.runSetState, Keyspace.runSetArchive]
      -- A script that stops early has written nothing.
      repeat' split
      all_goals first
        | rfl
        | exact urlAt_setFields_silent ‹_› fun old => by simp [Table.putAll]

/-! ## Insertions

The script writes row after row. It has looked at all keys before, so that none of the rows that
it writes was there.
-/

/-- The address of the seed is written into its row, and no other address is changed. -/
def WritesRow (rows : Rows) (seed : Seed) (keys keys' : Keyspace) : Prop :=
  ∀ key, urlAt keys' key = if rows.seedKey seed.id = key then some seed.url else urlAt keys key

/-- One round of the insertion writes the row of a seed, or the insertion stops there. -/
theorem insertRows_round (rows : Rows) (keys : Keyspace) (group : Option String) (seed : Seed)
    (more args : List String) :
    ∃ keys', (keys' = keys ∨ WritesRow rows seed keys keys') ∧
      ((∃ e, keys.insertRows group (rows.seedKey seed.id :: more) (rowArguments seed ++ args)
          = (.error e, keys')) ∨
        WritesRow rows seed keys keys' ∧
          keys.insertRows group (rows.seedKey seed.id :: more) (rowArguments seed ++ args)
            = keys'.insertRows group more args) := by
  have arguments : rowArguments seed ++ args
      = seed.id :: seed.url :: (if seed.isPublic then "1" else "0") :: seed.state.name :: args :=
    rfl
  rw [arguments]
  simp only [Keyspace.insertRows, List.getD_cons_succ, List.getD_cons_zero, List.drop_succ_cons,
    List.drop_zero]
  cases written : keys.setFields (rows.seedKey seed.id) [("url", seed.url),
      ("public", if seed.isPublic then "1" else "0"), ("state", seed.state.name)] with
  | error e => exact ⟨keys, .inl rfl, .inl ⟨e, rfl⟩⟩
  | ok keys₁ =>
      have row : WritesRow rows seed keys keys₁ := fun key =>
        urlAt_setFields key (some seed.url) written fun old => by simp [Table.putAll]
      cases group with
      | none => exact ⟨keys₁, .inr row, .inr ⟨row, rfl⟩⟩
      | some groupKey =>
          dsimp only
          cases listed : keys₁.push groupKey (Text.Utf8.ofString seed.id) with
          | error e => exact ⟨keys₁, .inr row, .inl ⟨e, rfl⟩⟩
          | ok pushed =>
              obtain ⟨length, keys₂⟩ := pushed
              have row₂ : WritesRow rows seed keys keys₂ := fun key =>
                (urlAt_push listed).trans (row key)
              exact ⟨keys₂, .inr row₂, .inr ⟨row₂, rfl⟩⟩

def inserted (rows : Rows) (keys : Keyspace) (group : Option String) (seeds : List Seed) :
    Except ErrorLine Unit × Keyspace :=
  keys.insertRows group (seeds.map fun seed => rows.seedKey seed.id) (seeds.flatMap rowArguments)

/-- **An insertion writes the addresses of its seeds at their keys, and no others.** -/
theorem urlAt_inserted (rows : Rows) (keys : Keyspace) (group : Option String) (seeds : List Seed)
    (key : String) :
    urlAt (inserted rows keys group seeds).2 key = urlAt keys key ∨
      ∃ seed ∈ seeds, rows.seedKey seed.id = key ∧
        urlAt (inserted rows keys group seeds).2 key = some seed.url := by
  induction seeds generalizing keys with
  | nil => exact .inl rfl
  | cons seed more ih =>
      obtain ⟨keys₁, near, ⟨e, stopped⟩ | ⟨row, goesOn⟩⟩ :=
        insertRows_round rows keys group seed (more.map fun seed => rows.seedKey seed.id)
          (more.flatMap rowArguments)
      · have after : inserted rows keys group (seed :: more) = (.error e, keys₁) := stopped
        rw [after]
        rcases near with rfl | row
        · exact .inl rfl
        · by_cases own : rows.seedKey seed.id = key
          · exact .inr ⟨seed, List.mem_cons_self, own, (row key).trans (if_pos own)⟩
          · exact .inl ((row key).trans (if_neg own))
      · have after : inserted rows keys group (seed :: more) = inserted rows keys₁ group more :=
          goesOn
        rw [after]
        rcases ih keys₁ with same | ⟨later, there, own, written⟩
        · by_cases own : rows.seedKey seed.id = key
          · exact .inr ⟨seed, List.mem_cons_self, own,
              same.trans ((row key).trans (if_pos own))⟩
          · exact .inl (same.trans ((row key).trans (if_neg own)))
        · exact .inr ⟨later, List.mem_cons_of_mem _ there, own, written⟩

/-- An insertion that comes to its end has written all addresses. -/
theorem urlAt_of_inserted {group : Option String} {seeds : List Seed}
    (distinct : (seeds.map (·.id)).Nodup) (h : (inserted rows keys group seeds).1 = .ok ())
    {seed : Seed} (here : seed ∈ seeds) :
    urlAt (inserted rows keys group seeds).2 (rows.seedKey seed.id) = some seed.url := by
  induction seeds generalizing keys with
  | nil => cases here
  | cons first more ih =>
      obtain ⟨keys₁, -, ⟨e, stopped⟩ | ⟨row, goesOn⟩⟩ :=
        insertRows_round rows keys group first (more.map fun seed => rows.seedKey seed.id)
          (more.flatMap rowArguments)
      · have after : inserted rows keys group (first :: more) = (.error e, keys₁) := stopped
        rw [after] at h
        cases h
      · have after : inserted rows keys group (first :: more) = inserted rows keys₁ group more :=
          goesOn
        rw [List.map_cons, List.nodup_cons] at distinct
        rw [after] at h ⊢
        rcases List.mem_cons.mp here with rfl | later
        · -- The rows behind it are at other keys.
          rcases urlAt_inserted rows keys₁ group more (rows.seedKey seed.id) with
            same | ⟨other, there, own, -⟩
          · exact same.trans ((row _).trans (if_pos rfl))
          · have alike : other.id = seed.id := (String.append_right_inj _).mp own
            exact absurd (List.mem_map.mpr ⟨other, there, alike⟩) distinct.1
        · exact ih distinct.2 h later

def insertNames (rows : Rows) (group : Option ShadowId) (seeds : List Seed) : List String :=
  (group.map rows.groupKey).toList ++ seeds.map fun seed => rows.seedKey seed.id

def insertArguments (group : Option ShadowId) (seeds : List Seed) : List String :=
  toString group.toList.length :: seeds.flatMap rowArguments

/-- The insertion writes all rows if none of its keys has a value, and else nothing. -/
theorem runInsert_eq (rows : Rows) (keys : Keyspace) (group : Option ShadowId) (seeds : List Seed) :
    keys.runInsert (insertNames rows group seeds) (insertArguments group seeds) =
      match keys.firstTaken 1 (insertNames rows group seeds) with
      | 0 => ((inserted rows keys (group.map rows.groupKey) seeds).1.map fun _ => 0,
          (inserted rows keys (group.map rows.groupKey) seeds).2)
      | position => (.ok position, keys) := by
  have rest : keys.insertRows
      (if (insertArguments group seeds).head? == some "1" then
        (insertNames rows group seeds).head? else none)
      (if (insertArguments group seeds).head? == some "1" then
        (insertNames rows group seeds).drop 1 else insertNames rows group seeds)
      ((insertArguments group seeds).drop 1)
        = inserted rows keys (group.map rows.groupKey) seeds := by
    cases group with
    | none => rfl
    | some id =>
        have one : insertArguments (some id) seeds = "1" :: seeds.flatMap rowArguments := by
          rw [insertArguments, Option.toList_some, List.length_singleton]
          rfl
        rw [one]
        rfl
  unfold Keyspace.runInsert
  dsimp only
  rw [rest]
  cases keys.firstTaken 1 (insertNames rows group seeds) with
  | zero =>
      cases inserted rows keys (group.map rows.groupKey) seeds with
      | mk result after => cases result <;> rfl
  | succ n => rfl

/-! ## The keeper -/

/-- A store on the broker. Its calls are commands. -/
def broker (rows : Rows) : Keeper where
  State := Keyspace
  Call := Command
  Answer := Command.Reply
  start := []
  answer keys command := keys.answer command
  IsFailure command answer :=
    ∃ error, answer = (Except.error error : Except ErrorLine command.Answer)
  carry c := rows.answer c
  url? keys id := urlAt keys (rows.seedKey id)

variable {New : String → Prop}

/-- **An insertion adds the addresses of its seeds, and changes none that were there.** -/
theorem runInsert_adds (keys : Keyspace) (group : Option ShadowId) (seeds : List Seed) :
    (broker rows).Adds (fun url => ∃ seed ∈ seeds, seed.url = url) keys
      (keys.runInsert (insertNames rows group seeds) (insertArguments group seeds)).2 := by
  rw [runInsert_eq]
  cases position : keys.firstTaken 1 (insertNames rows group seeds) with
  | succ n => exact .refl (k := broker rows) keys
  | zero =>
      have free := (Store.firstTaken_eq_zero Nat.one_pos).mp position
      refine ⟨fun id url found => ?_, fun id url found => ?_⟩
      · rcases urlAt_inserted rows keys (group.map rows.groupKey) seeds (rows.seedKey id) with
          same | ⟨seed, here, own, -⟩
        · exact same.trans found
        · -- A key that has a value is not among those of the insertion.
          have named : rows.seedKey id ∈ insertNames rows group seeds :=
            List.mem_append_right _ (List.mem_map.mpr ⟨seed, here, own⟩)
          have absent : urlAt keys (rows.seedKey id) = none := by
            rw [urlAt, free _ named]
          exact nomatch absent.symm.trans found
      · rcases urlAt_inserted rows keys (group.map rows.groupKey) seeds (rows.seedKey id) with
          same | ⟨seed, here, own, written⟩
        · exact .inl (same.symm.trans found)
        · exact .inr ⟨seed, here, Option.some.inj (written.symm.trans found)⟩

/-- An insertion that succeeds has written all addresses. -/
theorem knows_of_runInsert {group : Option ShadowId} {seeds : List Seed}
    (fit : Store.checkBatch (fun _ => false) seeds = .ok ())
    (h : keys.runInsert (insertNames rows group seeds) (insertArguments group seeds)
      = (.ok 0, keys'))
    {seed : Seed} (here : seed ∈ seeds) : (broker rows).Knows keys' seed := by
  obtain ⟨-, -, distinct⟩ := Store.checkBatch_eq_ok.mp fit
  rw [runInsert_eq] at h
  cases position : keys.firstTaken 1 (insertNames rows group seeds) with
  | succ n =>
      rw [position] at h
      cases h
  | zero =>
      rw [position, Prod.mk.injEq] at h
      obtain ⟨ended, rfl⟩ := h
      have whole : (inserted rows keys (group.map rows.groupKey) seeds).1 = .ok () := by
        cases result : (inserted rows keys (group.map rows.groupKey) seeds).1 with
        | error e =>
            rw [result] at ended
            cases ended
        | ok => rfl
      exact urlAt_of_inserted distinct whole here

/-! ## Dialogues

A script may take two commands: one that finds that the broker does not know it, and one that
loads and runs it. The first one changes nothing.
-/

/-- A script is run, and perhaps loaded. -/
theorem runScript_only {P : Command → Prop} {script : Script} {names args : List String}
    (run : P (.run script names args)) (load : P (.load script)) :
    (Dialogue.runScript script names args).Only P := by
  refine ⟨run, fun answer => ?_⟩
  cases answer with
  | ok x => exact only_pure
  | error e =>
      show Only P (if e.isUnknownScript then _ else _)
      split
      · refine ⟨load, fun answer => ?_⟩
        cases answer with
        | ok => exact ⟨run, fun _ => trivial⟩
        | error e => exact only_pure
      · exact only_pure

/-- An answer that is no error line came with what the command has done. -/
theorem done_of_ok (rows : Rows) {command : Command} {x : command.Answer}
    {s t : (broker rows).State}
    (h : (broker rows).Does s ⟨command, (Except.ok x : Except ErrorLine command.Answer)⟩ t) :
    Keyspace.answer s command = (.ok x, t) := by
  rcases h with ⟨told, rfl⟩ | ⟨⟨error, impossible⟩, -⟩
  · exact Prod.ext told.symm rfl
  · cases impossible

/-- Others send commands that keep what is stored, and then one command is sent. -/
def Turn (rows : Rows) : Keyspace → Exchange Command Command.Reply → Keyspace → Prop :=
  Amid (broker rows).Keeps (broker rows).Does

/-- A script that brings an answer was run at the end. -/
theorem runScript_ensures (rows : Rows) (script : Script) (names args : List String)
    (s : Keyspace) :
    (Dialogue.runScript script names args).Ensures (Turn rows)
      (fun answer t => ∀ x, answer = .ok x →
        ∃ u : Keyspace, u.run script names args = (.ok x, t)) s := by
  have failed : ∀ (e : ErrorLine) (t : Keyspace) (x : script.Answer),
      (Except.error e : Except ErrorLine script.Answer) = .ok x →
        ∃ u : Keyspace, u.run script names args = (.ok x, t) :=
    fun _ _ _ impossible => nomatch impossible
  have ran : ∀ (answer : Except ErrorLine script.Answer) (s t : Keyspace),
      Turn rows s ⟨.run script names args, answer⟩ t → ∀ x, answer = .ok x →
        ∃ u : Keyspace, u.run script names args = (.ok x, t) := by
    rintro answer s t ⟨u, -, done⟩ x rfl
    exact ⟨u, done_of_ok rows done⟩
  intro answer t first
  cases answer with
  | ok x => exact ran (.ok x) s t first
  | error e =>
      show Ensures (Turn rows) _ (if e.isUnknownScript then _ else _) t
      split
      · intro loaded t' _
        cases loaded with
        | error e => exact failed e t'
        | ok =>
            intro answer t'' second
            exact ran answer t' t'' second
      · exact failed e t

/-! ## What the commands of the store add

Most calls send commands that are silent. The insertions are the only ones of which it has to be
said what they bring.
-/

/-- Commands that read leave all addresses as they are, and so do scripts but for insertions. -/
def IsSilent (command : Command) : Prop :=
  ∀ keys : Keyspace, ∀ key, urlAt (keys.answer command).2 key = urlAt keys key

theorem IsSilent.adds {command : Command} (h : IsSilent command)
    (s : (broker rows).State) : (broker rows).Adds New s ((broker rows).answer s command).2 :=
  adds_of_eq (k := broker rows) fun id => h s (rows.seedKey id)

theorem writeState_silent (rows : Rows) (id : ShadowId) (expected : Option Seed.State)
    (next : Seed.State) : (rows.writeState id expected next).Only IsSilent := by
  refine only_bind (runScript_only (fun keys key => urlAt_run (by decide) keys _ _ key)
    fun _ _ => rfl) fun answer => ?_
  cases answer with
  | error e => exact only_pure
  | ok found =>
      split <;> exact only_pure

theorem updateArchive_silent (rows : Rows) (id : ShadowId) (archive : Seed.Archive) :
    (rows.updateArchive id archive).Only IsSilent := by
  unfold Rows.updateArchive
  split
  · exact only_pure
  · refine only_bind (runScript_only (fun keys key => urlAt_run (by decide) keys _ _ key)
      fun _ _ => rfl) fun answer => ?_
    cases answer with
    | error e => exact only_pure
    | ok found =>
        split <;> exact only_pure

theorem readAll_silent (names : List String) : (Dialogue.readAll names).Only IsSilent := by
  induction names with
  | nil => exact only_pure
  | cons name more ih =>
      have reads : (Dialogue.send (.fields name)).Only IsSilent :=
        ⟨fun _ _ => rfl, fun _ => trivial⟩
      refine only_bind reads fun first => only_bind ih fun rest => ?_
      cases first <;> cases rest <;> exact only_pure

theorem getGroup_silent (rows : Rows) (id : ShadowId) :
    (rows.getGroup id).Only IsSilent := by
  have lists : (Dialogue.send (.range (rows.groupKey id))).Only IsSilent :=
    ⟨fun _ _ => rfl, fun _ => trivial⟩
  refine only_bind lists fun answer => ?_
  cases answer with
  | error e => exact only_pure
  | ok items =>
      dsimp only
      split
      · exact only_pure
      · exact only_pure
      · refine only_bind (readAll_silent _) fun found => ?_
        cases found <;> exact only_pure

theorem getSeed_silent (rows : Rows) (id : ShadowId) :
    (rows.getSeed id).Only IsSilent := by
  refine ⟨fun _ _ => rfl, fun answer => ?_⟩
  cases answer <;> exact only_pure

theorem insert_adds (rows : Rows) (group : Option ShadowId) (seeds : List Seed) :
    (rows.insert group seeds).Only fun d => ∀ s : (broker rows).State,
      (broker rows).Adds (fun url => ∃ seed ∈ seeds, seed.url = url) s
        ((broker rows).answer s d).2 := by
  unfold Rows.insert
  split
  · exact only_pure
  · have loads : IsSilent (.load .insert) := fun _ _ => rfl
    refine only_bind (runScript_only (fun s => runInsert_adds s group seeds) loads.adds)
      fun answer => ?_
    cases answer with
    | error e => exact only_pure
    | ok position =>
        dsimp only
        split <;> exact only_pure

/-- A group without an id is refused, and any other is inserted with its seeds. -/
theorem answer_saveGroup (rows : Rows) (group : SeedGroup)
    {Q : Dialogue (Except Store.Error Unit) → Prop}
    (refused : Q (pure (Except.error (.violation .emptyGroupId))))
    (inserts : Q (rows.insert (some group.id) group.seeds)) :
    Q (rows.answer (.saveGroup group)) := by
  show Q (if group.id = "" then pure (Except.error (.violation .emptyGroupId))
    else rows.insert (some group.id) group.seeds)
  split
  · exact refused
  · exact inserts

/-- The commands of the store add the addresses of new seeds only. -/
theorem broker_adds (rows : Rows) (c : Store.Call) :
    (rows.answer c).Only fun d => ∀ s : (broker rows).State,
      (broker rows).Adds (fun url => ∃ seed ∈ newSeeds c, seed.url = url) s
        ((broker rows).answer s d).2 := by
  cases c with
  | save seeds => exact insert_adds rows none seeds
  | saveGroup group =>
      exact answer_saveGroup (Q := fun dialogue => dialogue.Only _) rows group only_pure
        (insert_adds rows (some group.id) group.seeds)
  | getGroup id => exact (getGroup_silent rows id).mono fun _ silent => silent.adds
  | getSeed id => exact (getSeed_silent rows id).mono fun _ silent => silent.adds
  | updateState id state =>
      exact (writeState_silent rows id none state).mono fun _ silent => silent.adds
  | compareAndSet id expected next =>
      exact (writeState_silent rows id (some expected) next).mono fun _ silent => silent.adds
  | updateArchive id archive =>
      exact (updateArchive_silent rows id archive).mono fun _ silent => silent.adds

/-! ## What the answers tell

What is read is told at the end of a call, when it may be out of date but for the addresses.
-/

theorem lookup_eq_find? (fields : Table String String) (name : String) :
    fields.lookup name = fields.find? name := by
  induction fields with
  | nil => rfl
  | cons entry more ih =>
      obtain ⟨key, value⟩ := entry
      rw [List.lookup_cons, Table.find?, ih]
      by_cases same : key = name
      · simp [same]
      · simp [same, beq_eq_false_iff_ne.mpr (Ne.symm same)]

/-- A seed that is read from a row has the id under which it was looked for, and the address in the
row. -/
theorem seedOfRow_eq_ok {id : ShadowId} {row : Table String String} {seed : Seed}
    (h : Store.seedOfRow id row = .ok seed) : seed.id = id ∧ row.find? "url" = some seed.url := by
  unfold Store.seedOfRow at h
  split at h
  · cases h
  · obtain ⟨url, hurl, h⟩ := bind_eq_ok.mp h
    obtain ⟨isPublic, -, h⟩ := bind_eq_ok.mp h
    obtain ⟨name, -, h⟩ := bind_eq_ok.mp h
    obtain ⟨state, -, h⟩ := bind_eq_ok.mp h
    obtain ⟨archive, -, h⟩ := bind_eq_ok.mp h
    cases h
    refine ⟨rfl, ?_⟩
    unfold Store.rowField at hurl
    rw [lookup_eq_find?] at hurl
    split at hurl
    · rename_i found
      cases hurl
      exact found
    · cases hurl

/-- The row that was read for a seed has the address that is stored. -/
def Row.Tells (rows : Rows) (s : (broker rows).State) (id : ShadowId) (row : Table String String) :
    Prop :=
  ∀ url, row.find? "url" = some url → (broker rows).url? s id = some url

/-- A row that is read tells the address that is stored. -/
theorem row_tells {s t : (broker rows).State} {id : ShadowId} {row : Table String String}
    (h : (broker rows).Does s ⟨.fields (rows.seedKey id),
      (Except.ok row : Except ErrorLine (List (String × String)))⟩ t) :
    Row.Tells rows t id row := by
  have answered := done_of_ok rows h
  obtain ⟨read, rfl⟩ := Prod.mk.inj answered
  intro url found
  exact (find?_url_of_hashAt read).symm.trans found

/-- Rows that are read one after the other tell the addresses that are stored in the end. -/
theorem readAll_ensures (rows : Rows) (ids : List ShadowId) (s : Keyspace) :
    (Dialogue.readAll (ids.map rows.seedKey)).Ensures (Turn rows)
      (fun answer t => ∀ found, answer = .ok found → List.Forall₂ (Row.Tells rows t) ids found)
      s := by
  induction ids generalizing s with
  | nil =>
      rintro found same
      cases same
      exact .nil
  | cons id more ih =>
      rintro first t ⟨u, -, done⟩
      -- What the first row tells is still so when the others have been read.
      have silent : (Dialogue.readAll (more.map rows.seedKey)).Only fun d =>
          ∀ s : (broker rows).State,
            (broker rows).Adds (fun _ => False) s ((broker rows).answer s d).2 :=
        (readAll_silent (more.map rows.seedKey)).mono fun _ silent => silent.adds
      have keeps : (Dialogue.readAll (more.map rows.seedKey)).Ensures (Turn rows)
          (fun _ v => (broker rows).Keeps t v) t :=
        ensures_keeps (k := broker rows) silent t
      show Ensures (Turn rows) _ (Dialogue.readAll (more.map rows.seedKey) >>= _) t
      refine ensures_bind.mpr (((ih t).and keeps).mono ?_)
      rintro rest v ⟨told, kept⟩
      cases first with
      | error e => exact fun found impossible => nomatch impossible
      | ok row =>
          cases rest with
          | error e => exact fun found impossible => nomatch impossible
          | ok others =>
              rintro found same
              cases same
              have head : Row.Tells rows v id row := fun url there =>
                kept id url (row_tells done url there)
              exact .cons head (told others rfl)

/-- Seeds that are read from rows that tell addresses are known. -/
theorem knows_of_seedsOfRows {s : (broker rows).State} {ids : List ShadowId}
    {found : List (Table String String)} (told : List.Forall₂ (Row.Tells rows s) ids found)
    {seeds : List Seed} (h : Rows.seedsOfRows (ids.zip found) = .ok seeds) {seed : Seed}
    (here : seed ∈ seeds) : (broker rows).Knows s seed := by
  induction told generalizing seeds with
  | nil =>
      cases h
      cases here
  | @cons id row ids found head rest ih =>
      rw [List.zip_cons_cons, Rows.seedsOfRows] at h
      obtain ⟨first, read, h⟩ := bind_eq_ok.mp h
      obtain ⟨others, readRest, h⟩ := bind_eq_ok.mp h
      cases h
      rcases List.mem_cons.mp here with rfl | later
      · obtain ⟨rfl, there⟩ := seedOfRow_eq_ok read
        exact head _ there
      · exact ih readRest later

/-- A group that is read has the addresses that are stored. -/
theorem getGroup_tells (rows : Rows) (id : ShadowId) (s : Keyspace) :
    (rows.getGroup id).Ensures (Turn rows) (fun answer t => ∀ group, answer = .ok group →
      ∀ seed ∈ group.seeds, (broker rows).Knows t seed) s := by
  unfold Rows.getGroup
  refine ensures_bind.mpr (ensures_of_forall fun items t => ?_)
  cases items with
  | error e => exact fun group impossible => nomatch impossible
  | ok items =>
      dsimp only
      split
      · exact fun group impossible => nomatch impossible
      · exact fun group impossible => nomatch impossible
      · rename_i members _ _
        refine ensures_bind.mpr ((readAll_ensures rows members t).mono fun found v told => ?_)
        cases found with
        | error e => exact fun group impossible => nomatch impossible
        | ok found =>
            intro group read seed here
            cases seeds : Rows.seedsOfRows (members.zip found) with
            | error e =>
                rw [seeds] at read
                cases read
            | ok list =>
                rw [seeds] at read
                cases read
                exact knows_of_seedsOfRows (told found rfl) seeds here

/-- A seed that is read has the address that is stored. -/
theorem getSeed_tells (rows : Rows) (id : ShadowId) (s : Keyspace) :
    (rows.getSeed id).Ensures (Turn rows) (fun answer t => ∀ seed, answer = .ok seed →
      (broker rows).Knows t seed) s := by
  rintro row t ⟨u, -, done⟩
  cases row with
  | error e => exact fun seed impossible => nomatch impossible
  | ok row =>
      intro seed read
      obtain ⟨rfl, there⟩ := seedOfRow_eq_ok read
      exact row_tells done _ there

/-- Seeds that were inserted have their addresses stored. -/
theorem insert_tells (rows : Rows) (group : Option ShadowId) (seeds : List Seed) (s : Keyspace) :
    (rows.insert group seeds).Ensures (Turn rows) (fun answer t => answer = .ok () →
      ∀ seed ∈ seeds, (broker rows).Knows t seed) s := by
  unfold Rows.insert
  split
  · exact fun impossible => nomatch impossible
  · rename_i fit
    refine ensures_bind.mpr ((runScript_ensures rows .insert (insertNames rows group seeds)
      (insertArguments group seeds) s).mono fun position t ran => ?_)
    cases position with
    | error e => exact fun impossible => nomatch impossible
    | ok position =>
        dsimp only
        split
        · rename_i first
          subst first
          obtain ⟨u, ran⟩ := ran 0 rfl
          exact fun _ seed here => knows_of_runInsert fit ran here
        · exact fun impossible => nomatch impossible

/-- **A store on the broker is a lawful keeper**, though others may act between its commands. -/
theorem broker_isLawful (rows : Rows) : (broker rows).IsLawful where
  empty _ := rfl
  adds c := broker_adds rows c
  tells c s := by
    cases c with
    | save seeds => exact insert_tells rows none seeds s
    | saveGroup group =>
        exact answer_saveGroup (Q := fun dialogue => dialogue.Ensures (Turn rows) _ s) rows group
          (fun impossible => nomatch impossible) (insert_tells rows (some group.id) group.seeds s)
    | getGroup id => exact getGroup_tells rows id s
    | getSeed id => exact getSeed_tells rows id s
    | _ => exact ensures_of_forall fun _ _ => trivial

end WebCapture.Provenance
