import WebCapture.Json.Number

set_option autoImplicit false

/-! # Decoding values

A `Decoder` takes one value of an expected kind off the front of a text. `decode` applies one to a
whole text, behind which only blanks may stand.

Records are objects with known members; they may also be written as lists of their fields in
order. A `Record` says what the fields are and how each changes a draft; `Record.decoder` reads
the members in whatever order they come, and finishes the draft when the record ends. A member
that is given twice is refused at the second one. Members that are no fields are skipped as
values, unless the record is closed.

Readers go from one position of the text to a later one and never back, so the first problem in
the text is the one that is told. The only ones that wait are problems with a record as a whole:
they are told with the place at which the record would have ended (`pastObject`, `pastList`).
-/

namespace WebCapture.Json

open Source (skipBlanks)

/-- Takes a value off the front of a text. -/
abbrev Decoder (α : Type) : Type := Source → Except Halt (α × Source)

def startsNumber (u : Option Char) : Bool := u == some '-' || isDigit u

/-- What is wrong with a text that goes on with a value of another kind. The value is read, so that
the place is behind it, but a list or an object is not entered. -/
def unexpected (expected : String) (source : Source) : Halt :=
  let literal (rest : Source) (letters : List Char) (found : Found) : Halt :=
    match readLiteral letters rest with
    | .error e => e
    | .ok rest => (Problem.wrongKind found expected).before rest
  match source with
  | some 'n' :: rest => literal rest ['u', 'l', 'l'] .null
  | some 't' :: rest => literal rest ['r', 'u', 'e'] (.boolean true)
  | some 'f' :: rest => literal rest ['a', 'l', 's', 'e'] (.boolean false)
  | some '"' :: rest =>
    match readString rest with
    | .error e => e
    | .ok (text, rest) => (Problem.wrongKind (.string text) expected).before rest
  | some '[' :: _ => (Problem.wrongKind .list expected).before source
  | some '\x7b' :: _ => (Problem.wrongKind .object expected).before source
  | u :: _ =>
    if startsNumber u then
      match readNumber source with
      | .error e => e
      | .ok (number, rest) => (Problem.wrongKind number.found expected).before rest
    else Problem.noValue.upon source
  | [] => Problem.noValue.atEnd

/-- Decodes a value that starts behind blanks. -/
def value {α : Type} (read : Decoder α) : Decoder α := fun source =>
  match skipBlanks source with
  | [] => .error (Problem.endIn .value).atEnd
  | u :: rest => read (u :: rest)

def string : Decoder String := value fun source =>
  match source with
  | some '"' :: rest => readString rest
  | _ => .error (unexpected "a string" source)

def boolean : Decoder Bool := value fun source =>
  match source with
  | some 't' :: rest => (readLiteral ['r', 'u', 'e'] rest).map fun rest => (true, rest)
  | some 'f' :: rest => (readLiteral ['a', 'l', 's', 'e'] rest).map fun rest => (false, rest)
  | _ => .error (unexpected "a boolean" source)

def null : Decoder Unit := value fun source =>
  match source with
  | some 'n' :: rest => (readLiteral ['u', 'l', 'l'] rest).map fun rest => ((), rest)
  | _ => .error (unexpected "unit" source)

/-- A number, given the name of its kind and what makes it one of that kind. -/
def numberOf {α : Type} (kind : String) (accept : Number → Except Problem α) : Decoder α :=
  value fun source =>
    match source with
    | u :: _ =>
      if startsNumber u then
        match readNumber source with
        | .error e => .error e
        | .ok (number, rest) =>
          match accept number with
          | .error problem => .error (problem.before rest)
          | .ok x => .ok (x, rest)
      else .error (unexpected kind source)
    | [] => .error Problem.noValue.atEnd

/-- A natural number up to `limit`. -/
def natural (kind : String) (limit : Nat) : Decoder Nat :=
  numberOf kind fun number =>
    match number with
    | .integer n =>
      if 0 ≤ n ∧ n ≤ limit then .ok n.toNat else .error (.wrongValue number.found kind)
    | .float _ => .error (.wrongKind number.found kind)

def size : Decoder Nat := natural "usize" maxWord

def word : Decoder Nat := natural "u64" maxWord

def halfWord : Decoder Nat := natural "u32" 0xFFFFFFFF

def float : Decoder Float :=
  numberOf "f64" fun number =>
    match number with
    | .integer n => .ok (if 0 ≤ n then Float.ofNat n.toNat else -(Float.ofNat n.natAbs))
    | .float x => .ok x

def nullable {α : Type} (decoder : Decoder α) : Decoder (Option α) := fun source =>
  match skipBlanks source with
  | some 'n' :: rest => (readLiteral ['u', 'l', 'l'] rest).map fun rest => (none, rest)
  | rest =>
    match decoder rest with
    | .error e => .error e
    | .ok (x, rest) => .ok (some x, rest)

/-! ## Lists

The elements are read until there is no further one, and `endList` takes the bracket that is left.
Both tell a comma before the bracket as such.
-/

/-- Goes on to the next element of a list, if there is one; `first` tells that none has been
read yet. -/
def nextElement (first : Bool) (source : Source) : Except Halt (Bool × Source) :=
  match skipBlanks source with
  | [] => .error (Problem.endIn .list).atEnd
  | some ']' :: rest => .ok (false, some ']' :: rest)
  | u :: rest =>
    if first then .ok (true, u :: rest)
    else if u = some ',' then
      match skipBlanks rest with
      | [] => .error (Problem.endIn .value).atEnd
      | some ']' :: rest => .error (Problem.trailingComma.upon (some ']' :: rest))
      | rest => .ok (true, rest)
    else .error (Problem.noListComma.upon (u :: rest))

def endList (source : Source) : Except Halt Source :=
  match skipBlanks source with
  | [] => .error (Problem.endIn .list).atEnd
  | some ']' :: rest => .ok rest
  | some ',' :: rest =>
    match skipBlanks rest with
    | some ']' :: rest => .error (Problem.trailingComma.upon (some ']' :: rest))
    | rest => .error (Problem.trailingText.upon rest)
  | rest => .error (Problem.trailingText.upon rest)

/-- The elements of a list up to its end; there are at most `fuel`. -/
def elements {α : Type} (decoder : Decoder α) : Nat → Bool → Decoder (List α)
  | 0, _, _ => .error (Problem.endIn .list).atEnd
  | fuel + 1, first, source =>
    match nextElement first source with
    | .error e => .error e
    | .ok (false, rest) => .ok ([], rest)
    | .ok (true, rest) =>
      match decoder rest with
      | .error e => .error e
      | .ok (x, rest) =>
        match elements decoder fuel false rest with
        | .error e => .error e
        | .ok (xs, rest) => .ok (x :: xs, rest)

def list {α : Type} (decoder : Decoder α) : Decoder (List α) := value fun source =>
  match source with
  | some '[' :: rest =>
    match elements decoder (rest.length + 1) true rest with
    | .error e => .error e
    | .ok (xs, rest) =>
      match endList rest with
      | .error e => .error e
      | .ok rest => .ok (xs, rest)
  | _ => .error (unexpected "a sequence" source)

/-! ## Names

One of several values is known by its name. It may also be written as an object with that name as
its key, which is how a variant with data would be written; the data can only be the null here.
-/

def readColon (source : Source) : Except Halt Source :=
  match skipBlanks source with
  | [] => .error (Problem.endIn .object).atEnd
  | some ':' :: rest => .ok rest
  | rest => .error (Problem.noColon.upon rest)

def lookUp {α : Type} (known : List (String × α)) (name : String) : Except Problem α :=
  match known.find? (·.1 == name) with
  | some (_, x) => .ok x
  | none => .error (.unknownVariant name (known.map (·.1)))

/-- One of several values, written as its name, or as an object with the name as its only key
and the null as its value. -/
def variant {α : Type} (known : List (String × α)) : Decoder α := value fun source =>
  match source with
  | some '"' :: rest =>
    match readString rest with
    | .error e => .error e
    | .ok (name, rest) =>
      match lookUp known name with
      | .error problem => .error (problem.before rest)
      | .ok x => .ok (x, rest)
  | some '\x7b' :: rest => do
    let (name, rest) ← value (fun source =>
      match source with
      | some '"' :: rest => readString rest
      | _ => .error (unexpected "variant identifier" source)) rest
    let x ← (lookUp known name).mapError (·.before rest)
    let rest ← readColon rest
    let (_, rest) ← null rest
    match skipBlanks rest with
    | [] => .error (Problem.endIn .object).atEnd
    | some '\x7d' :: rest => .ok (x, rest)
    | rest => .error (Problem.noValue.before rest)
  | _ => .error (Problem.noValue.upon source)

/-! ## Records

Whether a field was given is asked of the draft, so that a record has as many places as its draft
has. Fields of one kind are made with `field`.
-/

/-- A field of a record that is read into a draft of type `σ`. -/
structure Field (σ : Type) where
  name : String
  /-- Whether the draft has a value for the field. -/
  isSet : σ → Bool
  /-- Reads a value and gives the change to the draft. -/
  read : Decoder (σ → σ)
  /-- Whether a list of the fields may end before this one. -/
  optional : Bool

/-- A field with a place of its own in the draft. -/
def field {σ α : Type} (name : String) (decoder : Decoder α) (get : σ → Option α)
    (set : σ → α → σ) (optional : Bool) : Field σ where
  name := name
  isSet := fun draft => (get draft).isSome
  read := fun source =>
    match decoder source with
    | .error e => .error e
    | .ok (x, rest) => .ok (fun draft => set draft x, rest)
  optional := optional

/-- How a record is read: its fields are gathered in a draft, which is finished at the end. -/
structure Record (σ α : Type) where
  /-- The record as a message calls it. -/
  title : String
  /-- The record as a message about a list of its fields calls it. -/
  listTitle : String
  fields : List (Field σ)
  /-- Whether members that are no fields are refused. -/
  closed : Bool
  draft : σ
  finish : σ → Except Problem α

/-- Goes on to the next member of an object, if there is one: the text then goes on behind the
quote that opens its key. -/
def nextMember (first : Bool) (source : Source) : Except Halt (Bool × Source) :=
  match skipBlanks source with
  | [] => .error (Problem.endIn .object).atEnd
  | some '\x7d' :: rest => .ok (false, rest)
  | u :: rest =>
    if first then
      if u = some '"' then .ok (true, rest) else .error (Problem.keyNotString.upon (u :: rest))
    else if u = some ',' then
      match skipBlanks rest with
      | [] => .error (Problem.endIn .value).atEnd
      | some '"' :: rest => .ok (true, rest)
      | some '\x7d' :: rest => .error (Problem.trailingComma.upon (some '\x7d' :: rest))
      | rest => .error (Problem.keyNotString.upon rest)
    else .error (Problem.noObjectComma.upon (u :: rest))

/-- What is left when a record is given up and its end was looked for. A problem with the fields of a
record is told with the place that is reached then. -/
def pastObject (source : Source) : Source :=
  match skipBlanks source with
  | some '\x7d' :: rest => rest
  | rest => rest

/-- As `pastObject`, for a record that is written as a list. -/
def pastList (source : Source) : Source :=
  match skipBlanks source with
  | some ']' :: rest => rest
  | some ',' :: rest => skipBlanks rest
  | rest => rest

def readMember {σ α : Type} (record : Record σ α) (draft : σ) (key : String) (source : Source) :
    Except Halt (σ × Source) :=
  match record.fields.find? (·.name == key) with
  | some field =>
    if field.isSet draft then .error ((Problem.repeatedField key).before (pastObject source))
    else
      match readColon source with
      | .error e => .error e
      | .ok rest =>
        match field.read rest with
        | .error e => .error e
        | .ok (change, rest) => .ok (change draft, rest)
  | none =>
    if record.closed then
      .error ((Problem.unknownField key (record.fields.map (·.name))).before (pastObject source))
    else
      match readColon source with
      | .error e => .error e
      | .ok rest =>
        match skipValue rest with
        | .error e => .error e
        | .ok rest => .ok (draft, rest)

/-- Reads the members of an object and its end; there are at most `fuel`. -/
def readMembers {σ α : Type} (record : Record σ α) : Nat → Bool → σ → Decoder σ
  | 0, _, _, _ => .error (Problem.endIn .object).atEnd
  | fuel + 1, first, draft, source =>
    match nextMember first source with
    | .error e => .error e
    | .ok (false, rest) => .ok (draft, rest)
    | .ok (true, rest) =>
      match readString rest with
      | .error e => .error e
      | .ok (key, rest) =>
        match readMember record draft key rest with
        | .error e => .error e
        | .ok (draft, rest) => readMembers record fuel false draft rest

/-- Reads fields from a list in their order, of which `count` have been read. -/
def readFields {σ α : Type} (record : Record σ α) : List (Field σ) → Nat → σ → Decoder σ
  | [], _, draft, source => .ok (draft, source)
  | field :: more, count, draft, source =>
    match nextElement (count == 0) source with
    | .error e => .error e
    | .ok (false, rest) =>
      if field.optional then readFields record more count draft rest
      else .error ((Problem.tooShort count record.listTitle).before (pastList rest))
    | .ok (true, rest) =>
      match field.read rest with
      | .error e => .error e
      | .ok (change, rest) => readFields record more (count + 1) (change draft) rest

def Record.decoder {σ α : Type} (record : Record σ α) : Decoder α := value fun source =>
  match source with
  | some '[' :: rest =>
    match readFields record record.fields 0 record.draft rest with
    | .error e => .error e
    | .ok (draft, rest) =>
      match record.finish draft with
      | .error problem => .error (problem.before (pastList rest))
      | .ok x =>
        match endList rest with
        | .error e => .error e
        | .ok rest => .ok (x, rest)
  | some '\x7b' :: rest =>
    match readMembers record (rest.length + 1) true record.draft rest with
    | .error e => .error e
    | .ok (draft, rest) =>
      match record.finish draft with
      | .error problem => .error (problem.before rest)
      | .ok x => .ok (x, rest)
  | _ => .error (unexpected record.title source)

/-- A field that was read, or a complaint that it is missing. -/
def required {α : Type} (name : String) (x : Option α) : Except Problem α :=
  match x with
  | some x => .ok x
  | none => .error (.missingField name)

def decode {α : Type} (decoder : Decoder α) (source : Source) : Except Fault α :=
  match decoder source with
  | .error halt => .error (source.fault halt)
  | .ok (x, rest) =>
    let rest := skipBlanks rest
    if rest = [] then .ok x else .error (source.fault (Problem.trailingText.upon rest))

end WebCapture.Json
