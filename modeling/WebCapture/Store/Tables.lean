import WebCapture.Store.Basic
import WebCapture.Table

set_option autoImplicit false

/-! # A store in memory

Seeds and groups are kept in two tables, by their ids; a group is stored as the list of the ids of
its members. A group is read by looking its members up, one by one, and they are found since
nothing takes a seed out of the table.

The calls of this store are the shortest way to say what a store does. The store on the broker is
proved to answer like it in `Proofs/Store/Mirror`.
-/

namespace WebCapture.Store

structure Tables where
  seeds : Table ShadowId Seed
  /-- The members of each group, in the order of submission. -/
  groups : Table ShadowId (List ShadowId)
  deriving DecidableEq, Repr

namespace Tables

def empty : Tables := ⟨[], []⟩

def insertSeeds (tables : Tables) (seeds : List Seed) : Tables :=
  { tables with seeds := tables.seeds.putAll (seeds.map fun seed => (seed.id, seed)) }

def getSeed (tables : Tables) (id : ShadowId) : Except Error Seed :=
  match tables.seeds.find? id with
  | some seed => .ok seed
  | none => .error (.seedNotFound id)

def getSeeds (tables : Tables) : List ShadowId → Except Error (List Seed)
  | [] => .ok []
  | id :: more =>
    match tables.getSeed id with
    | .error e => .error e
    | .ok seed =>
      match tables.getSeeds more with
      | .error e => .error e
      | .ok seeds => .ok (seed :: seeds)

def getGroup (tables : Tables) (id : ShadowId) : Except Error SeedGroup :=
  match tables.groups.find? id with
  | none => .error (.groupNotFound id)
  | some members =>
    match tables.getSeeds members with
    | .error e => .error e
    | .ok seeds => .ok ⟨seeds, id⟩

/-! ## Writing

Every call that writes gives its answer and the tables after it. All checks are made before the first
entry is written, so that a call that fails has written nothing.
-/

def save (tables : Tables) (seeds : List Seed) : Except Error Unit × Tables :=
  match checkBatch tables.seeds.has seeds with
  | .error e => (.error e, tables)
  | .ok () => (.ok (), tables.insertSeeds seeds)

def saveGroup (tables : Tables) (group : SeedGroup) : Except Error Unit × Tables :=
  if group.id = "" then (.error (.violation .emptyGroupId), tables)
  else if tables.groups.has group.id then (.error (.duplicateId group.id), tables)
  else
    match checkBatch tables.seeds.has group.seeds with
    | .error e => (.error e, tables)
    | .ok () =>
      (.ok (), { tables.insertSeeds group.seeds with
        groups := tables.groups.put group.id (group.seeds.map (·.id)) })

/-- Changes the state of a seed; a seed with archive details stays successful. -/
def setState (tables : Tables) (id : ShadowId) (state : Seed.State) : Except Error Unit × Tables :=
  match tables.getSeed id with
  | .error e => (.error e, tables)
  | .ok seed =>
    if seed.archive.isSome ∧ state ≠ .doneSuccess then
      (.error (.violation (.archivedCannotBecome id state)), tables)
    else (.ok (), { tables with seeds := tables.seeds.put id { seed with state } })

/-- Changes the state of a seed that is in the expected one. -/
def compareAndSet (tables : Tables) (id : ShadowId) (expected next : Seed.State) :
    Except Error Unit × Tables :=
  match tables.getSeed id with
  | .error e => (.error e, tables)
  | .ok seed =>
    if seed.state ≠ expected then (.error (.stateConflict id expected seed.state), tables)
    else tables.setState id next

def updateArchive (tables : Tables) (id : ShadowId) (archive : Seed.Archive) :
    Except Error Unit × Tables :=
  if archive.url = "" then (.error (.violation .emptyArchiveUrl), tables)
  else
    match tables.getSeed id with
    | .error e => (.error e, tables)
    | .ok seed =>
      if seed.state ≠ .doneSuccess then
        (.error (.violation (.archiveNeedsSuccess id seed.state.name)), tables)
      else
        (.ok (), { tables with seeds := tables.seeds.put id { seed with archive := some archive } })

def answer (tables : Tables) : (call : Call) → call.Answer × Tables
  | .save seeds => tables.save seeds
  | .saveGroup group => tables.saveGroup group
  | .getGroup id => (tables.getGroup id, tables)
  | .getSeed id => (tables.getSeed id, tables)
  | .updateState id state => tables.setState id state
  | .compareAndSet id expected next => tables.compareAndSet id expected next
  | .updateArchive id archive => tables.updateArchive id archive

end Tables

end WebCapture.Store
