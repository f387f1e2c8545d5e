import WebCapture.Broker.Command
import WebCapture.Table

set_option autoImplicit false

/-! # What the broker keeps

A key of the broker holds a hash of named fields or a list of payloads. There are no empty hashes
and no empty lists: the key of a list is gone when its last element was taken. `Keyspace.answer`
says what each command does to the keys and what it answers; waiting is left out, so that a list
that is empty has nothing to give.

Operations on a key that holds the other kind of value fail with `ErrorLine.wrongKind`, and
commands that fail leave all keys as they were. Scripts are not undone in this way.
-/

namespace WebCapture.Broker

open Text.Utf8 (Bytes)

inductive Value where
  | hash (fields : Table String String)
  | list (items : List Bytes)
  deriving DecidableEq, Repr

abbrev Keyspace : Type := Table String Value

namespace Keyspace

/-! ## Operations on keys -/

/-- The list at a key; a key without a value is an empty list. -/
def listAt (keys : Keyspace) (key : String) : Except ErrorLine (List Bytes) :=
  match keys.find? key with
  | none => .ok []
  | some (.list items) => .ok items
  | some (.hash _) => .error .wrongKind

/-- The hash at a key; a key without a value is an empty hash. -/
def hashAt (keys : Keyspace) (key : String) : Except ErrorLine (Table String String) :=
  match keys.find? key with
  | none => .ok []
  | some (.hash fields) => .ok fields
  | some (.list _) => .error .wrongKind

/-- Appends to the list at a key, and tells its length. -/
def push (keys : Keyspace) (key : String) (payload : Bytes) :
    Except ErrorLine (Nat × Keyspace) :=
  match keys.listAt key with
  | .error e => .error e
  | .ok items => .ok (items.length + 1, keys.put key (.list (items ++ [payload])))

/-- Takes the first element off the list at a key. A list without elements does not stay. -/
def pop (keys : Keyspace) (key : String) : Except ErrorLine (Option Bytes × Keyspace) :=
  match keys.listAt key with
  | .error e => .error e
  | .ok [] => .ok (none, keys)
  | .ok [payload] => .ok (some payload, keys.remove key)
  | .ok (payload :: more) => .ok (some payload, keys.put key (.list more))

def setFields (keys : Keyspace) (key : String) (fields : List (String × String)) :
    Except ErrorLine Keyspace :=
  match keys.hashAt key with
  | .error e => .error e
  | .ok old => .ok (keys.put key (.hash (old.putAll fields)))

def field (keys : Keyspace) (key name : String) : Except ErrorLine (Option String) :=
  match keys.hashAt key with
  | .error e => .error e
  | .ok fields => .ok (fields.find? name)

/-! ## Scripts

A script is given keys and arguments. If one of its steps fails it stops there; what it has
written up to then stays written.
-/

/-- The position, counted from 1, of the first key that has a value; 0 if none has. -/
def firstTaken (keys : Keyspace) (position : Nat) : List String → Nat
  | [] => 0
  | key :: more => if keys.has key then position else firstTaken keys (position + 1) more

/-- Writes one seed for each key, taking four arguments for it: the id, the address, whether it
is public, and the state. With `group` the id is appended to the list at that key. -/
def insertRows (keys : Keyspace) (group : Option String) :
    List String → List String → Except ErrorLine Unit × Keyspace
  | [], _ => (.ok (), keys)
  | key :: moreKeys, args =>
    let arg (i : Nat) : String := args.getD i ""
    match keys.setFields key [("url", arg 1), ("public", arg 2), ("state", arg 3)] with
    | .error e => (.error e, keys)
    | .ok keys =>
      match group with
      | none => insertRows keys group moreKeys (args.drop 4)
      | some groupKey =>
        match keys.push groupKey (Text.Utf8.ofString (arg 0)) with
        | .error e => (.error e, keys)
        | .ok (_, keys) => insertRows keys group moreKeys (args.drop 4)

/-- The insertion. The first argument is the number of group keys, 0 or 1, which come before
the keys of the seeds. -/
def runInsert (keys : Keyspace) (names args : List String) : Except ErrorLine Nat × Keyspace :=
  match keys.firstTaken 1 names with
  | 0 =>
    let grouped := args.head? == some "1"
    let group := if grouped then names.head? else none
    let rows := if grouped then names.drop 1 else names
    match keys.insertRows group rows (args.drop 1) with
    | (.ok (), keys) => (.ok 0, keys)
    | (.error e, keys) => (.error e, keys)
  | position => (.ok position, keys)

/-- The change of a state. The arguments are the expected state, empty for any, and the next.
The code is 0 without a seed, 1 if it was in another state, 2 if it has archive details that
the next state must not have, and 3 if the state was written. -/
def runSetState (keys : Keyspace) (names args : List String) :
    Except ErrorLine (Nat × String) × Keyspace :=
  let key := names.headD ""
  let expected := args.getD 0 ""
  let next := args.getD 1 ""
  match keys.field key "state" with
  | .error e => (.error e, keys)
  | .ok none => (.ok (0, ""), keys)
  | .ok (some current) =>
    if expected ≠ "" ∧ current ≠ expected then (.ok (1, current), keys)
    else
      match keys.field key "archival_url" with
      | .error e => (.error e, keys)
      | .ok archived =>
        if next ≠ "DoneSuccess" ∧ archived.isSome then (.ok (2, current), keys)
        else
          match keys.setFields key [("state", next)] with
          | .error e => (.error e, keys)
          | .ok keys => (.ok (3, current), keys)

/-- The writing of archive details. The arguments are the address of the replay and the time
of the harvest. The code is 0 without a seed, 2 if it is not successful, and 3 if the details
were written. -/
def runSetArchive (keys : Keyspace) (names args : List String) :
    Except ErrorLine (Nat × String) × Keyspace :=
  let key := names.headD ""
  match keys.field key "state" with
  | .error e => (.error e, keys)
  | .ok none => (.ok (0, ""), keys)
  | .ok (some current) =>
    if current ≠ "DoneSuccess" then (.ok (2, current), keys)
    else
      match keys.setFields key
          [("archival_url", args.getD 0 ""), ("harvested_at", args.getD 1 "")] with
      | .error e => (.error e, keys)
      | .ok keys => (.ok (3, current), keys)

def run (keys : Keyspace) :
    (script : Script) → List String → List String → Except ErrorLine script.Answer × Keyspace
  | .insert, names, args => keys.runInsert names args
  | .setState, names, args => keys.runSetState names args
  | .setArchive, names, args => keys.runSetArchive names args

/-! ## Commands -/

/-- The outcome of a change: the keys stay as they were if it fails. -/
def settle {α : Type} (keys : Keyspace) (change : Except ErrorLine (α × Keyspace)) :
    Except ErrorLine α × Keyspace :=
  match change with
  | .ok (x, keys) => (.ok x, keys)
  | .error e => (.error e, keys)

/-- The answer to a command, and the keys after it. -/
def answer (keys : Keyspace) : (command : Command) → Except ErrorLine command.Answer × Keyspace
  | .ping => (.ok (), keys)
  | .push key payload => keys.settle (keys.push key payload)
  | .length key => ((keys.listAt key).map List.length, keys)
  | .range key => (keys.listAt key, keys)
  | .fields key => (keys.hashAt key, keys)
  | .pop key _ => keys.settle (keys.pop key)
  | .run script names args => keys.run script names args
  | .load _ => (.ok (), keys)

end Keyspace

end WebCapture.Broker
