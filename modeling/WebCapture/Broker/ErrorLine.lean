set_option autoImplicit false

/-! # Error lines of the broker

The broker answers a command that it cannot carry out with one line: a code and perhaps a reason,
with a blank between them. Some codes are known by a name of their own, and the message then shows
this name; a line with any other code is shown as it came.
-/

namespace WebCapture.Broker

/-- A line with which the broker reports an error. -/
structure ErrorLine where
  line : String
  deriving DecidableEq, Repr

def codeNames : List (String × String) := [
  ("ERR", "ResponseError"), ("EXECABORT", "ExecAbortError"), ("LOADING", "BusyLoadingError"),
  ("NOSCRIPT", "NoScriptError"), ("MOVED", "Moved"), ("ASK", "Ask"), ("TRYAGAIN", "TryAgain"),
  ("CLUSTERDOWN", "ClusterDown"), ("CROSSSLOT", "CrossSlot"), ("MASTERDOWN", "MasterDown"),
  ("READONLY", "ReadOnly"), ("NOTBUSY", "NotBusy")]

namespace ErrorLine

/-- The code, which ends at the first blank. -/
def code (e : ErrorLine) : String := String.ofList (e.line.toList.takeWhile (· != ' '))

/-- What follows the code and the blank behind it, if there is a blank. -/
def reason? (e : ErrorLine) : Option String :=
  match e.line.toList.dropWhile (· != ' ') with
  | [] => none
  | _ :: reason => some (String.ofList reason)

def isUnknownScript (e : ErrorLine) : Bool := e.code == "NOSCRIPT"

def message (e : ErrorLine) : String :=
  match codeNames.lookup e.code, e.reason? with
  | some name, some reason => "An error was signalled by the server - " ++ name ++ ": " ++ reason
  | some name, none => "An error was signalled by the server- " ++ name
  | none, some reason => e.code ++ ": " ++ reason
  | none, none => e.code ++ ": Unknown extension error encountered"

def wrongKind : ErrorLine := ⟨"WRONGTYPE Operation against a key holding the wrong kind of value"⟩

end ErrorLine

end WebCapture.Broker
