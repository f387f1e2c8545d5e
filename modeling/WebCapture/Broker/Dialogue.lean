import WebCapture.Broker.Keyspace
import WebCapture.Program

set_option autoImplicit false

/-! # Dialogues with the broker

A dialogue is a `Program` whose calls are commands; each of them either brings its answer or an
error line. A dialogue says nothing about the broker that carries it out. `Dialogue.run` carries
it out as a whole on the keys of a broker that does not fail; on others, where commands fail or
where others send commands in between, it goes command by command.

A script is not sent with every call. `runScript` asks for it by its name, and sends it in full
only if the broker does not know it yet.
-/

namespace WebCapture.Broker

def Command.Reply (command : Command) : Type := Except ErrorLine command.Answer

/-- A part of the talk with the broker. -/
abbrev Dialogue (α : Type) : Type := Program Command Command.Reply α

namespace Dialogue

def send (command : Command) : Dialogue (Except ErrorLine command.Answer) := .call command .done

/-- Runs a script; one that the broker does not know is loaded first. -/
def runScript (script : Script) (keys args : List String) :
    Dialogue (Except ErrorLine script.Answer) := do
  match ← send (.run script keys args) with
  | .ok answer => return .ok answer
  | .error e =>
    if e.isUnknownScript then
      match ← send (.load script) with
      | .ok () => send (.run script keys args)
      | .error e => return .error e
    else return .error e

/-- Reads several hashes. All commands are sent; the first error line is the answer. -/
def readAll : List String → Dialogue (Except ErrorLine (List (List (String × String))))
  | [] => return .ok []
  | key :: more => do
    let first ← send (.fields key)
    let rest ← readAll more
    match first, rest with
    | .error e, _ => return .error e
    | .ok _, .error e => return .error e
    | .ok fields, .ok others => return .ok (fields :: others)

def run {α : Type} (dialogue : Dialogue α) (keys : Keyspace) : α × Keyspace :=
  dialogue.runState (fun command keys => keys.answer command) keys

end Dialogue

end WebCapture.Broker
