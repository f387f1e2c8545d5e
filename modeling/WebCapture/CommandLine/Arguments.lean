import WebCapture.CommandLine.Words
import WebCapture.Config.Basic

set_option autoImplicit false

/-! # The command line of the program

The program has five commands. Options in front of the command change the settings; those behind
it belong to the command.

What may stand where is said by one `Level` for the front and one for each command.
`CommandLine/Words` takes the words of a level apart, so that here only the values have to be
looked up by their names. A request for help or for the version ends the reading as an error does.
-/

namespace WebCapture.CommandLine

inductive Command where
  /-- Apply results until the end. -/
  | serve (healthInterval : Nat)
  /-- Submit addresses as one group, and perhaps wait for their captures. -/
  | submit (urls : List String) (input : Option String) (wait : Bool) (waitTimeout : Nat)
  /-- Tell whether an address would be admitted. -/
  | validateUrl (url : String) (strict : Bool)
  /-- Tell how the broker and the queue are. -/
  | health (json : Bool)
  /-- Check a file of settings. -/
  | validateConfig (path : String)
  deriving DecidableEq, Repr

structure Arguments where
  command : Command
  config : Option String
  brokerUrl : Option String
  archiveBase : Option String
  pollTimeout : Option Nat
  metricsAddress : Option String
  strictUrls : Bool
  verbose : Bool
  deriving DecidableEq, Repr

/-! ## What may be given -/

/-- An option without a letter that need not be given. -/
def option (name : String) (action : Action) : Choice := ⟨name, none, action, false⟩

def helpChoice : Choice := ⟨"help", some 'h', .help, false⟩

/-- What may stand in front of a command. -/
def topLevel : Level where
  choices := [
    option "config" (.value .path), option "broker-url" (.value .text),
    option "archive-base-url" (.value .text), option "poll-timeout" (.value .number),
    option "metrics-addr" (.value .text), option "strict-urls" .flag, option "verbose" .flag,
    helpChoice, ⟨"version", some 'V', .version, false⟩]
  positional := none
  subcommands := ["serve", "submit", "validate-url", "health", "validate-config", "help"]

def serveLevel : Level := ⟨[option "health-interval" (.value .number), helpChoice], none, []⟩

def submitLevel : Level where
  choices := [
    ⟨"input", some 'i', .value .path, false⟩, option "wait" .flag,
    option "wait-timeout" (.value .number), helpChoice]
  positional := some ⟨"urls", true, false⟩
  subcommands := []

def validateUrlLevel : Level :=
  ⟨[option "strict" .flag, helpChoice], some ⟨"url", false, true⟩, []⟩

def healthLevel : Level := ⟨[option "json" .flag, helpChoice], none, []⟩

def validateConfigLevel : Level :=
  ⟨[⟨"config", some 'c', .value .path, true⟩, helpChoice], none, []⟩

/-! ## Taking the values -/

def textOf (found : Table String (List String)) (name : String) : Option String :=
  (found.find? name).bind List.head?

def numberOf (found : Table String (List String)) (name : String) : Option Nat :=
  (textOf found name).bind number?

/-- Reads the words behind a command that has no commands of its own. -/
def readLevel (level : Level) (words : List String) :
    Except UsageError (Table String (List String)) := do
  let (reading, _) ← read level .start words
  finish level reading

/-- What a request for help brings: help, if every word names a command below the last. -/
def helpOn (words : List String) : UsageError :=
  match words with
  | [] => .displayHelp
  | [command] => if topLevel.subcommands.contains command then .displayHelp else .invalidSubcommand
  | _ => .invalidSubcommand

/-- Reads a command and the words behind it. -/
def readCommand (name : String) (words : List String) : Except UsageError Command :=
  match name with
  | "serve" => do
    let found ← readLevel serveLevel words
    return .serve ((numberOf found "health-interval").getD 60)
  | "submit" => do
    let found ← readLevel submitLevel words
    return .submit ((found.find? "urls").getD []) (textOf found "input") (found.has "wait")
      ((numberOf found "wait-timeout").getD 300)
  | "validate-url" => do
    let found ← readLevel validateUrlLevel words
    return .validateUrl ((textOf found "url").getD "") (found.has "strict")
  | "health" => do
    let found ← readLevel healthLevel words
    return .health (found.has "json")
  | "validate-config" => do
    let found ← readLevel validateConfigLevel words
    return .validateConfig ((textOf found "config").getD "")
  | _ => .error (helpOn words)

def Arguments.read (words : List String) : Except UsageError Arguments := do
  match ← CommandLine.read topLevel .start words with
  | (reading, none) =>
    let found ← finish topLevel reading
    throw (if found = [] then .displayHelpOnMissing else .missingSubcommand)
  | (reading, some (name, more)) =>
    let command ← readCommand name more
    let found ← finish topLevel reading
    return {
      command
      config := textOf found "config"
      brokerUrl := textOf found "broker-url"
      archiveBase := textOf found "archive-base-url"
      pollTimeout := numberOf found "poll-timeout"
      metricsAddress := textOf found "metrics-addr"
      strictUrls := found.has "strict-urls"
      verbose := found.has "verbose" }

/-- The settings after the options in front of the command were looked at. -/
def Arguments.override (arguments : Arguments) (settings : Config.Settings) : Config.Settings :=
  { settings with
    broker := { settings.broker with url := arguments.brokerUrl.getD settings.broker.url }
    archiveBase := arguments.archiveBase.getD settings.archiveBase
    listener := { settings.listener with
      pollTimeout :=
        (arguments.pollTimeout.map Time.Span.ofSeconds).getD settings.listener.pollTimeout }
    metricsAddress := arguments.metricsAddress.orElse fun _ => settings.metricsAddress
    strictUrls := arguments.strictUrls || settings.strictUrls }

end WebCapture.CommandLine
