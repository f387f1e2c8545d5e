import WebCapture.Text.Quoted

set_option autoImplicit false

/-! # What can be wrong with a JSON text

A text can break off, break the grammar of JSON, or hold a value that is not what is expected
where it stands: this is the `Problem`. The first one in the text is the one that is reported, as a
`Fault`, together with its position.
-/

namespace WebCapture.Json

/-- What a text breaks off in. -/
inductive Place where
  | value
  | object
  | list
  | string
  deriving DecidableEq, Repr

/-- A value as a message tells of it. -/
inductive Found where
  | null
  | boolean (value : Bool)
  | integer (value : Int)
  /-- A number with a fraction, an exponent or too many digits, as it is written in messages. -/
  | float (text : String)
  | string (text : String)
  | list
  | object
  deriving DecidableEq, Repr

inductive Problem where
  | endIn (place : Place)
  | noValue
  | noLiteral
  | noColon
  | noListComma
  | noObjectComma
  | keyNotString
  | trailingComma
  | trailingText
  | badNumber
  | numberOutOfRange
  | badEscape
  | controlCharacter
  | loneSurrogate
  | unfinishedPair
  | badCharacter
  /-- A value of the wrong kind. -/
  | wrongKind (found : Found) (expected : String)
  /-- A value of the right kind that is out of range. -/
  | wrongValue (found : Found) (expected : String)
  | missingField (name : String)
  | repeatedField (name : String)
  | unknownField (name : String) (known : List String)
  | unknownVariant (name : String) (known : List String)
  /-- A list with too few elements. -/
  | tooShort (length : Nat) (expected : String)
  /-- Numbers that are too large together. -/
  | overflow (what : String)
  deriving DecidableEq, Repr

/-- The kinds of problem: a text that breaks off, one that is no JSON, and one with a value that
is not wanted. -/
inductive Category where
  | ending
  | grammar
  | data
  deriving DecidableEq, Repr

def Problem.category : Problem → Category
  | .endIn _ => .ending
  | .wrongKind .. | .wrongValue .. | .missingField _ | .repeatedField _ | .unknownField ..
  | .unknownVariant .. | .tooShort .. | .overflow _ => .data
  | _ => .grammar

def named (name : String) : String := "\x60" ++ name ++ "\x60"

def Found.text : Found → String
  | .null => "null"
  | .boolean value => "boolean " ++ named (if value then "true" else "false")
  | .integer value => "integer " ++ named (toString value)
  | .float text => "floating point " ++ named text
  | .string text => "string " ++ Text.quoted text
  | .list => "sequence"
  | .object => "map"

def choice : List String → String
  | [a] => named a
  | [a, b] => named a ++ " or " ++ named b
  | names => "one of " ++ ", ".intercalate (names.map named)

def Problem.message : Problem → String
  | .endIn .value => "EOF while parsing a value"
  | .endIn .object => "EOF while parsing an object"
  | .endIn .list => "EOF while parsing a list"
  | .endIn .string => "EOF while parsing a string"
  | .noValue => "expected value"
  | .noLiteral => "expected ident"
  | .noColon => "expected " ++ named ":"
  | .noListComma => "expected " ++ named "," ++ " or " ++ named "]"
  | .noObjectComma => "expected " ++ named "," ++ " or " ++ named "\x7d"
  | .keyNotString => "key must be a string"
  | .trailingComma => "trailing comma"
  | .trailingText => "trailing characters"
  | .badNumber => "invalid number"
  | .numberOutOfRange => "number out of range"
  | .badEscape => "invalid escape"
  | .controlCharacter => "control character (\\u0000-\\u001F) found while parsing a string"
  | .loneSurrogate => "lone leading surrogate in hex escape"
  | .unfinishedPair => "unexpected end of hex escape"
  | .badCharacter => "invalid unicode code point"
  | .wrongKind found expected => "invalid type: " ++ found.text ++ ", expected " ++ expected
  | .wrongValue found expected => "invalid value: " ++ found.text ++ ", expected " ++ expected
  | .missingField name => "missing field " ++ named name
  | .repeatedField name => "duplicate field " ++ named name
  | .unknownField name known => "unknown field " ++ named name ++ ", expected " ++ choice known
  | .unknownVariant name known =>
    "unknown variant " ++ named name ++ ", expected " ++ choice known
  | .tooShort length expected =>
    "invalid length " ++ toString length ++ ", expected " ++ expected
  | .overflow what => "overflow deserializing " ++ what

/-- A place in a text: its line, counted from one, and how many bytes of the line are in front. -/
structure Position where
  line : Nat
  column : Nat
  deriving DecidableEq, Repr

/-- A problem at its place in the text. -/
structure Fault where
  problem : Problem
  position : Position
  deriving DecidableEq, Repr

def Fault.category (fault : Fault) : Category := fault.problem.category

/-- The fault in words, which end with its place. -/
def Fault.message (fault : Fault) : String :=
  fault.problem.message ++ " at line " ++ toString fault.position.line ++ " column " ++
    toString fault.position.column

end WebCapture.Json
