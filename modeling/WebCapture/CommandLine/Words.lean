import WebCapture.Table
import WebCapture.Text.Digits

set_option autoImplicit false

/-! # Reading a command line

A command line is a list of words: options with and without values, values that stand alone, and
the name of a subcommand, behind which the words belong to that subcommand. `Level` describes what
may stand on one level, and `read` takes the words of a level apart.

A word that starts with two dashes names an option, perhaps with a value behind an equals sign;
behind a single dash every letter is an option of its own, up to one that takes a value. Behind
two dashes that stand alone there are no more options.

The value of an option is checked when the next option begins or the words end, so that a word
that is no option at all is complained about first.
-/

namespace WebCapture.CommandLine

/-- What is wrong with a command line, or is asked for instead of a command. -/
inductive UsageError where
  | displayHelp
  | displayVersion
  /-- Nothing was given at all. -/
  | displayHelpOnMissing
  | unknownArgument
  | invalidSubcommand
  | missingSubcommand
  /-- The text of a value is not what the option takes. -/
  | valueValidation
  /-- An option lacks its value. -/
  | invalidValue
  /-- An option is given twice. -/
  | argumentConflict
  | missingRequiredArgument
  /-- An option that takes no value is given one. -/
  | tooManyValues
  deriving DecidableEq, Repr

inductive ValueKind where
  | text
  /-- The path of a file, which is not empty. -/
  | path
  /-- A number in 64 bits. -/
  | number
  deriving DecidableEq, Repr

inductive Action where
  | flag
  | value (kind : ValueKind)
  | help
  | version
  deriving DecidableEq, Repr

/-- An option, named by a word and perhaps by a letter. -/
structure Choice where
  name : String
  letter : Option Char
  action : Action
  required : Bool
  deriving DecidableEq, Repr

/-- The values that stand alone. -/
structure Positional where
  name : String
  many : Bool
  required : Bool
  deriving DecidableEq, Repr

/-- What may stand on one level of a command line. -/
structure Level where
  choices : List Choice
  positional : Option Positional
  subcommands : List String
  deriving DecidableEq, Repr

/-- What has been read of a level. -/
structure Reading where
  /-- The options and values that are settled. -/
  settled : Table String (List String)
  /-- An option or value that is not settled yet, with the values so far. -/
  pending : Option (String × List String)
  /-- Whether the next word is the value of the pending option. -/
  awaiting : Bool
  /-- Whether values that stand alone have been seen. -/
  positional : Bool
  /-- Whether the rest of the words stand alone, whatever they look like. -/
  escaped : Bool

def Reading.start : Reading := ⟨[], none, false, false, false⟩

/-- The number that a text denotes: digits, perhaps behind a plus sign. -/
def number? (text : String) : Option Nat :=
  Text.numberBelow? 0x10000000000000000 (Text.withoutPlus text.toList)

def checkValue (kind : ValueKind) (text : String) : Except UsageError Unit :=
  match kind with
  | .text => .ok ()
  | .path => if text = "" then .error .invalidValue else .ok ()
  | .number => if (number? text).isSome then .ok () else .error .valueValidation

namespace Reading

/-- Settles an option or a value with its texts. -/
def settle (level : Level) (reading : Reading) (name : String) (texts : List String) :
    Except UsageError Reading :=
  match level.choices.find? (·.name == name) with
  | some choice =>
    match choice.action, texts with
    | .value _, [] => .error .invalidValue
    | action, _ =>
      if reading.settled.has name then .error .argumentConflict
      else
        match action with
        | .value kind =>
          match checkValue kind (texts.headD "") with
          | .error e => .error e
          | .ok () => .ok { reading with settled := reading.settled.put name texts }
        | .help => .error .displayHelp
        | .version => .error .displayVersion
        | .flag => .ok { reading with settled := reading.settled.put name texts }
  | none =>
    let before := (reading.settled.find? name).getD []
    .ok { reading with settled := reading.settled.put name (before ++ texts) }

/-- Settles what is pending. -/
def settlePending (level : Level) (reading : Reading) : Except UsageError Reading :=
  match reading.pending with
  | none => .ok reading
  | some (name, texts) =>
    { reading with pending := none, awaiting := false }.settle level name texts

/-- Takes an option, with the value that is attached to it, if there is one. -/
def takeChoice (level : Level) (reading : Reading) (choice : Choice) (attached : Option String) :
    Except UsageError Reading :=
  match choice.action, attached with
  | .value _, none => do
    let reading ← reading.settlePending level
    return { reading with pending := some (choice.name, []), awaiting := true }
  | .value _, some text => do (← reading.settlePending level).settle level choice.name [text]
  | _, some _ => .error .tooManyValues
  | _, none => do (← reading.settlePending level).settle level choice.name []

/-- Takes an option that is named by a word, perhaps with a value behind an equals sign. -/
def takeLong (level : Level) (reading : Reading) (body : List Char) :
    Except UsageError Reading :=
  let name := String.ofList (body.takeWhile (· != '='))
  let attached := match body.dropWhile (· != '=') with
    | [] => none
    | _ :: text => some (String.ofList text)
  match level.choices.find? (·.name == name) with
  | none => .error .unknownArgument
  | some choice => reading.takeChoice level choice attached

/-- Takes options that are named by letters; the rest behind an option with a value is its
value. -/
def takeShort (level : Level) (reading : Reading) : List Char → Except UsageError Reading
  | [] => .ok reading
  | letter :: more =>
    match level.choices.find? (·.letter == some letter) with
    | none => .error .unknownArgument
    | some choice =>
      match choice.action with
      | .value _ =>
        match more with
        | [] => reading.takeChoice level choice none
        | '=' :: text => reading.takeChoice level choice (some (String.ofList text))
        | text => reading.takeChoice level choice (some (String.ofList text))
      | _ =>
        match reading.takeChoice level choice none with
        | .error e => .error e
        | .ok reading => reading.takeShort level more

/-- Takes a value that stands alone. -/
def takePositional (level : Level) (reading : Reading) (word : String) :
    Except UsageError Reading :=
  match level.positional with
  | some positional =>
    if positional.many then
      match reading.pending with
      | some (name, texts) =>
        if name = positional.name then
          .ok { reading with pending := some (name, texts ++ [word]), positional := true }
        else do
          let reading ← reading.settlePending level
          return { reading with pending := some (positional.name, [word]), positional := true }
      | none =>
        .ok { reading with pending := some (positional.name, [word]), positional := true }
    else if reading.positional then .error .unknownArgument
    else do
      let reading ← reading.settlePending level
      return { reading with pending := some (positional.name, [word]), positional := true }
  | none =>
    if level.subcommands = [] then .error .unknownArgument
    else if reading.escaped && level.subcommands.contains word then .error .unknownArgument
    else .error .invalidSubcommand

def takeWord (level : Level) (reading : Reading) (word : String) : Except UsageError Reading :=
  if reading.escaped then reading.takePositional level word
  else
    match word.toList with
    | ['-', '-'] => .ok { reading with escaped := true }
    | '-' :: '-' :: body => reading.takeLong level body
    | '-' :: letter :: more => reading.takeShort level (letter :: more)
    | _ =>
      if reading.awaiting then
        .ok { reading with
          pending := reading.pending.map fun (name, texts) => (name, texts ++ [word])
          awaiting := false }
      else reading.takePositional level word

def isSubcommand (level : Level) (reading : Reading) (word : String) : Bool :=
  !reading.escaped && !reading.awaiting && level.subcommands.contains word

end Reading

/-- Reads the words of a level up to a subcommand; gives what was read, and the subcommand with
the words behind it. -/
def read (level : Level) (reading : Reading) :
    List String → Except UsageError (Reading × Option (String × List String))
  | [] => .ok (reading, none)
  | word :: more =>
    if reading.isSubcommand level word then .ok (reading, some (word, more))
    else
      match reading.takeWord level word with
      | .error e => .error e
      | .ok reading => read level reading more

/-- The options and values of a level that has been read to its end. -/
def finish (level : Level) (reading : Reading) :
    Except UsageError (Table String (List String)) := do
  let reading ← reading.settlePending level
  let missing (name : String) (required : Bool) : Bool := required && !reading.settled.has name
  if level.choices.any fun choice => missing choice.name choice.required then
    throw .missingRequiredArgument
  if level.positional.any fun positional => missing positional.name positional.required then
    throw .missingRequiredArgument
  return reading.settled

end WebCapture.CommandLine
