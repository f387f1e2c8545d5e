import WebCapture.CommandLine.Commands

set_option autoImplicit false

/-! # The program

`run` is all that the program does with a command line. It reads the words, then the settings, and
then does the task of the command.

Settings come from three places, each of which is stronger than the one before: the file of
settings, the environment, and the options in front of the command. They are checked after all
three were looked at. The program ends with a code (`Exit.code`): 0 for a task that succeeded and
for a request for help, 1 for a task that failed or could not begin, and 2 for a command line that
is wrong.
-/

namespace WebCapture.CommandLine.Application

open Config (Settings)

def name : String := "capture-coordinator"

def version : String := "0.1.0"

/-! ## Settings -/

/-- Why the program does not start. -/
inductive StartFailure where
  /-- The file of settings cannot be read. -/
  | reading (path : String) (error : FileError)
  /-- The file holds no settings. -/
  | parsing (path : String) (fault : Json.Fault)
  /-- The settings cannot be used. -/
  | problem (text : String)

def StartFailure.lines : StartFailure → List String
  | .reading path error => ["Error: reading " ++ path, "", "Caused by:", "    " ++ error.message]
  | .parsing path fault => ["Error: parsing " ++ path, "", "Caused by:", "    " ++ fault.message]
  | .problem text => ["Error: invalid configuration: " ++ text]

/-- A part of the start of the program. -/
abbrev Start (α : Type) : Type := ExceptT StartFailure (Program Call Call.Answer) α

def ask (call : Call) : Start call.Answer := ExceptT.lift (.call call .done)

def settingsIn : Option String → Start Settings
  | none => pure .standard
  | some path => do
    match ← ask (.readFile path) with
    | .error error => throw (.reading path error)
    | .ok text =>
      match Settings.read text with
      | .error fault => throw (.parsing path fault)
      | .ok settings => return settings

/-- The variables of the environment that matter. -/
def usedVariables : List String := ["BROKER_URL", "VALKEY_ADDR", "VALKEY_PORT", "ARCHIVE_BASE_URL"]

/-- The values of variables of the environment. -/
def lookUp : List String → Start (List (String × String))
  | [] => pure []
  | name :: more => do
    let value ← ask (.environment name)
    let others ← lookUp more
    match value with
    | some value => return (name, value) :: others
    | none => return others

def settings (arguments : Arguments) : Start Settings := do
  let fromFile ← settingsIn arguments.config
  let found ← lookUp usedVariables
  let settings := arguments.override (fromFile.withEnvironment fun name => found.lookup name)
  match settings.problem? with
  | some problem => throw (.problem problem)
  | none => return settings

/-! ## The run -/

inductive Exit where
  | success
  | failure
  /-- The command line asks for something else, or is wrong. -/
  | usage (error : UsageError)
  deriving DecidableEq, Repr

def Exit.code : Exit → Nat
  | .success => 0
  | .failure => 1
  | .usage .displayHelp => 0
  | .usage .displayVersion => 0
  | .usage _ => 2

def forAll (call : String → Call) : List String → Program Call Call.Answer Unit
  | [] => .done ()
  | line :: more => .call (call line) fun _ => forAll call more

/-- The task of a command, and how it ended in the log. -/
def perform (settings : Settings) (command : Command) : Program Call Call.Answer Exit := do
  forAll (.log .info) ["Configuration loaded successfully", "Broker: " ++ settings.broker.url,
    "Archive base URL: " ++ settings.archiveBase]
  match ← (command.task settings).run with
  | .ok () =>
    forAll (.log .info) [name ++ " stopped"]
    return .success
  | .error failure =>
    forAll (.log .error) ["Application error: " ++ failure.message]
    return .failure

/-- Starts the program and does what the command line says. -/
def start (arguments : Arguments) : Program Call Call.Answer Exit := do
  forAll (.log .info) ["Starting " ++ name ++ " v" ++ version]
  match ← (settings arguments).run with
  | .ok settings => perform settings arguments.command
  | .error failure =>
    forAll .complain failure.lines
    return .failure

/-- All that the program does with a command line. -/
def run (words : List String) : Program Call Call.Answer Exit :=
  match Arguments.read words with
  | .ok arguments => start arguments
  | .error .displayVersion => do
    forAll .print [name ++ " " ++ version]
    return .usage .displayVersion
  | .error error => return .usage error

end WebCapture.CommandLine.Application
