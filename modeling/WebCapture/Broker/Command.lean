import WebCapture.Broker.ErrorLine
import WebCapture.Text.Utf8
import WebCapture.Time.Span

set_option autoImplicit false

/-! # Commands to the broker

The service speaks to its broker in a handful of commands. A command is a value of `Command`, and
the type of what it brings back depends on it (`Command.Answer`), so that no answer has to be
taken apart that the command cannot have. `Command.words` is how a command is written; the words
are what the broker is sent, and what is noted of it.

Three scripts stand for what must be done as one step: an insertion of new seeds, a change of
state and the writing of archive details. What they do to the keys is said in `Broker/Keyspace`.
-/

namespace WebCapture.Broker

open Text.Utf8 (Bytes)

/-- The scripts that the broker runs as one step. -/
inductive Script where
  /-- Writes new seeds, and perhaps a group that lists them, unless one of the keys exists. -/
  | insert
  /-- Changes the state of a seed. -/
  | setState
  /-- Writes the archive details of a seed. -/
  | setArchive
  deriving DecidableEq, Repr

def Script.name : Script → String
  | .insert => "INSERT"
  | .setState => "SET_STATE"
  | .setArchive => "SET_METADATA"

/-- What a script brings back: the insertion a position, 0 if nothing was in the way; the
others a code and the state that they found. -/
abbrev Script.Answer : Script → Type
  | .insert => Nat
  | .setState => Nat × String
  | .setArchive => Nat × String

inductive Command where
  | ping
  /-- Append to a list. -/
  | push (key : String) (payload : Bytes)
  /-- The length of a list. -/
  | length (key : String)
  /-- All elements of a list. -/
  | range (key : String)
  /-- All fields of a hash. -/
  | fields (key : String)
  /-- Take the first element off a list, waiting for one at most as long as `timeout`. -/
  | pop (key : String) (timeout : Time.Span)
  | run (script : Script) (keys args : List String)
  | load (script : Script)
  deriving DecidableEq, Repr

namespace Command

/-- What a command brings back if it succeeds. -/
abbrev Answer : Command → Type
  | ping => Unit
  | push _ _ => Nat
  | length _ => Nat
  | range _ => List Bytes
  | fields _ => List (String × String)
  | pop _ _ => Option Bytes
  | run script _ _ => script.Answer
  | load _ => Unit

/-- The word with which a command starts. -/
def name : Command → String
  | ping => "PING"
  | push _ _ => "RPUSH"
  | length _ => "LLEN"
  | range _ => "LRANGE"
  | fields _ => "HGETALL"
  | pop _ _ => "BLPOP"
  | run _ _ _ => "EVALSHA"
  | load _ => "SCRIPT"

def words (command : Command) : List String :=
  command.name :: match command with
    | ping => []
    | push key payload => [key, String.ofList (Text.Utf8.display payload)]
    | length key => [key]
    | range key => [key, "0", "-1"]
    | fields key => [key]
    | pop key timeout => [key, Decimal.inCommands.write timeout.toFloat]
    | run script keys args => [script.name, toString keys.length] ++ keys ++ args
    | load script => ["LOAD", script.name]

end Command

end WebCapture.Broker
