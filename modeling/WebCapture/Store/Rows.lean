import WebCapture.Broker.Dialogue
import WebCapture.Store.Basic
import WebCapture.Time.Reading

set_option autoImplicit false

/-! # A store on the broker

Every process that talks to one broker shares this store. A seed is a hash with the fields `url`,
`public` and `state` and, once it is archived, `archival_url` and `harvested_at`; a group is a
list of the ids of its members. Seeds and groups have keys of their own, behind the prefix of the
store.

New seeds and changes of state are written by scripts, each of which is one atomic step. What is
to be checked before anything is written is checked in the script, except for what can be seen
from the seeds themselves, which is checked before the script is sent. The code that a script
brings back is turned into the answer of the call.

A row that was not written by this store may lack a field or hold a state with no name; reading
such a row is an error of the backend, which names the seed and the field.
-/

namespace WebCapture.Store

open Broker (Dialogue ErrorLine)

def ofErrorLine (e : ErrorLine) : Error := .backend e.message

/-! ## Rows -/

def rowState (text : String) : Except Error Seed.State :=
  match Seed.State.ofName? text with
  | some state => .ok state
  | none => .error (.backend ("stored state: " ++ Seed.noStateMessage text))

/-- A field that a row must have. -/
def rowField (id : ShadowId) (row : List (String × String)) (name : String) :
    Except Error String :=
  match row.lookup name with
  | some value => .ok value
  | none => .error (.backend ("seed " ++ id ++ " has no " ++ name ++ " field"))

/-- The archive details in a row: both fields or none. -/
def rowArchive (id : ShadowId) (row : List (String × String)) :
    Except Error (Option Seed.Archive) :=
  match row.lookup "archival_url", row.lookup "harvested_at" with
  | none, none => .ok none
  | some url, some time =>
    match Time.read time with
    | .ok instant => .ok (some ⟨url, instant⟩)
    | .error fault => .error (.backend ("seed " ++ id ++ " harvest time: " ++ fault.message))
  | _, _ => .error (.backend ("seed " ++ id ++ " has incomplete archive details"))

/-- The seed in a row. There is no row without fields. -/
def seedOfRow (id : ShadowId) (row : List (String × String)) : Except Error Seed :=
  if row = [] then .error (.seedNotFound id)
  else do
    let url ← rowField id row "url"
    let isPublic := (← rowField id row "public") == "1"
    let state ← rowState (← rowField id row "state")
    let archive ← rowArchive id row
    return ⟨url, isPublic, state, archive, id⟩

def rowArguments (seed : Seed) : List String :=
  [seed.id, seed.url, if seed.isPublic then "1" else "0", seed.state.name]

/-! ## Calls -/

/-- The keys of a store start with its own prefix. -/
structure Rows where
  keyPrefix : String
  deriving DecidableEq, Repr

namespace Rows

def seedKey (rows : Rows) (id : ShadowId) : String := rows.keyPrefix ++ "seed:" ++ id

def groupKey (rows : Rows) (id : ShadowId) : String := rows.keyPrefix ++ "group:" ++ id

/-- Stores new seeds, with a group if its id is given, unless one of the ids is taken. -/
def insert (rows : Rows) (group : Option ShadowId) (seeds : List Seed) :
    Dialogue (Except Error Unit) :=
  match checkBatch (fun _ => false) seeds with
  | .error e => return .error e
  | .ok () => do
    let ids := group.toList ++ seeds.map (·.id)
    let keys := (group.map rows.groupKey).toList ++ seeds.map fun seed => rows.seedKey seed.id
    let args := toString group.toList.length :: seeds.flatMap rowArguments
    match ← Dialogue.runScript .insert keys args with
    | .error e => return .error (ofErrorLine e)
    | .ok position =>
      if position = 0 then return .ok ()
      else return .error (.duplicateId (ids.getD (position - 1) ""))

/-- Changes the state of a seed, which must be in the expected state if there is one. -/
def writeState (rows : Rows) (id : ShadowId) (expected : Option Seed.State) (next : Seed.State) :
    Dialogue (Except Error Unit) := do
  let args := [(expected.map Seed.State.name).getD "", next.name]
  match ← Dialogue.runScript .setState [rows.seedKey id] args with
  | .error e => return .error (ofErrorLine e)
  | .ok (0, _) => return .error (.seedNotFound id)
  | .ok (1, current) =>
    return (rowState current).bind fun actual =>
      .error (.stateConflict id (expected.getD next) actual)
  | .ok (2, _) => return .error (.violation (.archivedCannotBecome id next))
  | .ok (_, _) => return .ok ()

def seedsOfRows : List (ShadowId × List (String × String)) → Except Error (List Seed)
  | [] => .ok []
  | (id, row) :: more => do
    let seed ← seedOfRow id row
    let seeds ← seedsOfRows more
    return seed :: seeds

def memberIds (items : List Text.Utf8.Bytes) : Except Error (List ShadowId) :=
  match items.mapM Text.Utf8.toString? with
  | some ids => .ok ids
  | none => .error (.backend "Invalid UTF-8- TypeError")

/-- Reads a group; one without members does not exist. -/
def getGroup (rows : Rows) (id : ShadowId) : Dialogue (Except Error SeedGroup) := do
  match ← Dialogue.send (.range (rows.groupKey id)) with
  | .error e => return .error (ofErrorLine e)
  | .ok items =>
    match memberIds items with
    | .error e => return .error e
    | .ok [] => return .error (.groupNotFound id)
    | .ok members =>
      match ← Dialogue.readAll (members.map rows.seedKey) with
      | .error e => return .error (ofErrorLine e)
      | .ok found => return (seedsOfRows (members.zip found)).map fun seeds => ⟨seeds, id⟩

def getSeed (rows : Rows) (id : ShadowId) : Dialogue (Except Error Seed) := do
  match ← Dialogue.send (.fields (rows.seedKey id)) with
  | .error e => return .error (ofErrorLine e)
  | .ok row => return seedOfRow id row

def updateArchive (rows : Rows) (id : ShadowId) (archive : Seed.Archive) :
    Dialogue (Except Error Unit) :=
  if archive.url = "" then return .error (.violation .emptyArchiveUrl)
  else do
    let args := [archive.url, archive.harvestedAt.text]
    match ← Dialogue.runScript .setArchive [rows.seedKey id] args with
    | .error e => return .error (ofErrorLine e)
    | .ok (0, _) => return .error (.seedNotFound id)
    | .ok (2, current) => return .error (.violation (.archiveNeedsSuccess id current))
    | .ok (_, _) => return .ok ()

def answer (rows : Rows) : (call : Call) → Dialogue call.Answer
  | .save seeds => rows.insert none seeds
  | .saveGroup group =>
    if group.id = "" then return Except.error (.violation .emptyGroupId)
    else rows.insert (some group.id) group.seeds
  | .getGroup id => rows.getGroup id
  | .getSeed id => rows.getSeed id
  | .updateState id state => rows.writeState id none state
  | .compareAndSet id expected next => rows.writeState id (some expected) next
  | .updateArchive id archive => rows.updateArchive id archive

end Rows

end WebCapture.Store
