import WebCapture.Json.Source
import WebCapture.Text.Digits

set_option autoImplicit false

/-! # Reading the parts of a JSON text

The text is read once, from front to back. Each reader here takes one part off the front of what
is left, a string or a literal, and gives back the rest, or halts with a problem at its place.

Values that nobody asks for are skipped; only their structure is checked, with a list of the
brackets that are open. Skipping does not call itself for a value inside another one, so brackets
may be nested as deep as they come: `skipPart` takes one part, and `skipParts` goes on until no
bracket is open. Strings that are skipped need not be text, and halves of escapes in them need not
match.
-/

namespace WebCapture.Json

open Source (skipBlanks)

/-! ## Literals -/

def readLiteral : List Char → Source → Except Halt Source
  | [], source => .ok source
  | _ :: _, [] => .error (Problem.endIn .value).atEnd
  | c :: more, u :: rest =>
    if u = some c then readLiteral more rest else .error (Problem.noLiteral.upon (u :: rest))

/-! ## Strings

A string that is read has to be text, and its escapes have to make up characters. Four hexadecimal
digits are looked at together, so that a problem with one of them is told behind all four.
-/

/-- The number that four units denote in hexadecimal. -/
def hexNumber? (a b c d : Option Char) : Option Nat := do
  let a ← Text.digitValue? 16 (← a)
  let b ← Text.digitValue? 16 (← b)
  let c ← Text.digitValue? 16 (← c)
  let d ← Text.digitValue? 16 (← d)
  return ((a * 16 + b) * 16 + c) * 16 + d

/-- What is wrong where four hexadecimal digits should be: there are not even four bytes, or
one of them is no digit. All four count as read. -/
def hexHalt (source : Source) : Halt :=
  if source.size < 4 then (Problem.endIn .string).atEnd else ⟨.badEscape, source.size - 4⟩

def readHex (source : Source) : Except Halt (Nat × Source) :=
  match source with
  | a :: b :: c :: d :: rest =>
    match hexNumber? a b c d with
    | some n => .ok (n, rest)
    | none => .error (hexHalt source)
  | _ => .error (hexHalt source)

/-- Reads the second half of a pair of escapes, whose first half was `high`. -/
def readLowHalf (high : Nat) (source : Source) : Except Halt (Char × Source) :=
  match source with
  | [] => .error (Problem.endIn .string).atEnd
  | some '\\' :: [] => .error (Problem.endIn .string).atEnd
  | some '\\' :: some 'u' :: rest =>
    match readHex rest with
    | .error e => .error e
    | .ok (low, rest) =>
      if 0xDC00 ≤ low ∧ low ≤ 0xDFFF then
        .ok (Char.ofNat ((high - 0xD800) * 0x400 + (low - 0xDC00) + 0x10000), rest)
      else .error (Problem.loneSurrogate.before rest)
  | some '\\' :: rest => .error (Problem.unfinishedPair.upon rest)
  | _ => .error (Problem.unfinishedPair.upon source)

/-- Reads what follows `\u`: a code point, or a pair of escapes for a code point that four
digits cannot denote. -/
def readCodePoint (source : Source) : Except Halt (Char × Source) :=
  match readHex source with
  | .error e => .error e
  | .ok (n, rest) =>
    if 0xDC00 ≤ n ∧ n ≤ 0xDFFF then .error (Problem.loneSurrogate.before rest)
    else if 0xD800 ≤ n ∧ n ≤ 0xDBFF then readLowHalf n rest
    else .ok (Char.ofNat n, rest)

/-- The character that a backslash and the character `c` stand for. -/
def simpleEscape? (c : Char) : Option Char :=
  match c with
  | '"' => some '"'
  | '\\' => some '\\'
  | '/' => some '/'
  | 'b' => some '\x08'
  | 'f' => some '\x0c'
  | 'n' => some '\n'
  | 'r' => some '\r'
  | 't' => some '\t'
  | _ => none

def readEscape (source : Source) : Except Halt (Char × Source) :=
  match source with
  | [] => .error (Problem.endIn .string).atEnd
  | none :: _ => .error (Problem.badEscape.upon source)
  | some c :: rest =>
    if c = 'u' then readCodePoint rest
    else match simpleEscape? c with
      | some x => .ok (x, rest)
      | none => .error (Problem.badEscape.upon source)

theorem readHex_length {source rest : Source} {n : Nat} (h : readHex source = .ok (n, rest)) :
    rest.length < source.length := by
  unfold readHex at h
  split at h
  · split at h
    · simp only [Except.ok.injEq, Prod.mk.injEq] at h
      obtain ⟨_, rfl⟩ := h
      simp only [List.length_cons]
      omega
    · cases h
  · cases h

theorem readLowHalf_length {high : Nat} {source rest : Source} {c : Char}
    (h : readLowHalf high source = .ok (c, rest)) : rest.length < source.length := by
  unfold readLowHalf at h
  split at h
  · cases h
  · cases h
  · split at h
    · cases h
    · next hread =>
      split at h
      · simp only [Except.ok.injEq, Prod.mk.injEq] at h
        obtain ⟨_, rfl⟩ := h
        have := readHex_length hread
        simp only [List.length_cons]
        omega
      · cases h
  · cases h
  · cases h

theorem readCodePoint_length {source rest : Source} {c : Char}
    (h : readCodePoint source = .ok (c, rest)) : rest.length < source.length := by
  unfold readCodePoint at h
  split at h
  · cases h
  · next hread =>
    have := readHex_length hread
    split at h
    · cases h
    · split at h
      · exact Nat.lt_trans (readLowHalf_length h) this
      · simp only [Except.ok.injEq, Prod.mk.injEq] at h
        obtain ⟨_, rfl⟩ := h
        exact this

theorem readEscape_length {source rest : Source} {c : Char}
    (h : readEscape source = .ok (c, rest)) : rest.length < source.length := by
  unfold readEscape at h
  split at h
  · cases h
  · cases h
  · split at h
    · have := readCodePoint_length h
      simp only [List.length_cons]
      omega
    · split at h
      · simp only [Except.ok.injEq, Prod.mk.injEq] at h
        obtain ⟨_, rfl⟩ := h
        simp
      · cases h

/-- Whether a unit may not stand in a string as it is. -/
def isControl (u : Option Char) : Bool :=
  match u with
  | some c => c.toNat < 0x20
  | none => false

/-- Reads a string behind its opening quote. -/
def readUnits : Source → Except Halt (List (Option Char) × Source)
  | [] => .error (Problem.endIn .string).atEnd
  | u :: rest =>
    if u = some '"' then .ok ([], rest)
    else if u = some '\\' then
      match _hread : readEscape rest with
      | .error e => .error e
      | .ok (c, rest') =>
        match readUnits rest' with
        | .error e => .error e
        | .ok (units, after) => .ok (some c :: units, after)
    else if isControl u then .error (Problem.controlCharacter.upon (u :: rest))
    else
      match readUnits rest with
      | .error e => .error e
      | .ok (units, after) => .ok (u :: units, after)
termination_by source => source.length
decreasing_by
  · have := readEscape_length _hread
    simp only [List.length_cons]
    omega
  · simp

/-- Reads a string behind its opening quote; all its bytes must be parts of characters. -/
def readString (source : Source) : Except Halt (String × Source) :=
  match readUnits source with
  | .error e => .error e
  | .ok (units, rest) =>
    match units.mapM id with
    | some cs => .ok (String.ofList cs, rest)
    | none => .error (Problem.badCharacter.before rest)

/-! ## Skipping values

What is to come next is told by a `Next`, beside the open brackets. Both together take the place
of the calls that a reader of nested values would be in.
-/

/-- Skips what follows a backslash. Halves of pairs need not match here. -/
def skipEscape (source : Source) : Except Halt Source :=
  match source with
  | [] => .error (Problem.endIn .string).atEnd
  | none :: _ => .error (Problem.badEscape.upon source)
  | some c :: rest =>
    if c = 'u' then
      match readHex rest with
      | .error e => .error e
      | .ok (_, rest) => .ok rest
    else if (simpleEscape? c).isSome then .ok rest
    else .error (Problem.badEscape.upon source)

theorem skipEscape_length {source rest : Source} (h : skipEscape source = .ok rest) :
    rest.length < source.length := by
  unfold skipEscape at h
  split at h
  · cases h
  · cases h
  · split at h
    · split at h
      · cases h
      · next hread =>
        have := readHex_length hread
        simp only [Except.ok.injEq] at h
        subst h
        simp only [List.length_cons]
        omega
    · split at h
      · simp only [Except.ok.injEq] at h
        subst h
        simp
      · cases h

/-- Skips a string behind its opening quote. -/
def skipString : Source → Except Halt Source
  | [] => .error (Problem.endIn .string).atEnd
  | u :: rest =>
    if u = some '"' then .ok rest
    else if u = some '\\' then
      match _hread : skipEscape rest with
      | .error e => .error e
      | .ok rest' => skipString rest'
    else if isControl u then .error (Problem.controlCharacter.before (u :: rest))
    else skipString rest
termination_by source => source.length
decreasing_by
  · have := skipEscape_length _hread
    simp only [List.length_cons]
    omega
  · simp

def isDigit (u : Option Char) : Bool :=
  match u with
  | some c => c.isDigit
  | none => false

def skipExponent (source : Source) : Except Halt Source :=
  match source with
  | u :: rest =>
    if u = some 'e' ∨ u = some 'E' then
      let rest := match rest with
        | some '+' :: rest => rest
        | some '-' :: rest => rest
        | _ => rest
      if rest.takeWhile isDigit = [] then .error (Problem.badNumber.upon rest)
      else .ok (rest.dropWhile isDigit)
    else .ok source
  | [] => .ok source

def skipFraction (source : Source) : Except Halt Source :=
  match source with
  | some '.' :: rest =>
    if rest.takeWhile isDigit = [] then .error (Problem.badNumber.upon rest)
    else skipExponent (rest.dropWhile isDigit)
  | _ => skipExponent source

def skipNumber (source : Source) : Except Halt Source :=
  match source with
  | some '0' :: rest =>
    if rest.head?.any isDigit then .error (Problem.badNumber.upon rest) else skipFraction rest
  | _ =>
    if source.takeWhile isDigit = [] then .error (Problem.badNumber.upon source)
    else skipFraction (source.dropWhile isDigit)

inductive Bracket where
  | list
  | object
  deriving DecidableEq, Repr

/-- What the text goes on with: a value, what may follow a value, or what may follow an opening
bracket. -/
inductive Next where
  | value
  | afterValue
  | afterOpening
  deriving DecidableEq, Repr

def skipKey (source : Source) : Except Halt Source :=
  match skipBlanks source with
  | [] => .error (Problem.endIn .object).atEnd
  | some '"' :: rest =>
    match skipString rest with
    | .error e => .error e
    | .ok rest =>
      match skipBlanks rest with
      | [] => .error (Problem.endIn .object).atEnd
      | some ':' :: rest => .ok rest
      | rest => .error (Problem.noColon.upon rest)
  | rest => .error (Problem.keyNotString.upon rest)

/-- Goes on to the next value behind a bracket or a comma: in an object its key comes first. -/
def enter (open_ : List Bracket) (source : Source) :
    Except Halt (List Bracket × Next × Source) :=
  match open_ with
  | .object :: _ => (skipKey source).map fun rest => (open_, .value, rest)
  | _ => .ok (open_, .value, source)

/-- Skips one part of a value, given the brackets that are open. -/
def skipPart (open_ : List Bracket) (next : Next) (source : Source) :
    Except Halt (List Bracket × Next × Source) :=
  let source := skipBlanks source
  match next with
  | .value =>
    match source with
    | [] => .error (Problem.endIn .value).atEnd
    | some 'n' :: rest =>
      (readLiteral ['u', 'l', 'l'] rest).map fun rest => (open_, .afterValue, rest)
    | some 't' :: rest =>
      (readLiteral ['r', 'u', 'e'] rest).map fun rest => (open_, .afterValue, rest)
    | some 'f' :: rest =>
      (readLiteral ['a', 'l', 's', 'e'] rest).map fun rest => (open_, .afterValue, rest)
    | some '-' :: rest => (skipNumber rest).map fun rest => (open_, .afterValue, rest)
    | some '"' :: rest => (skipString rest).map fun rest => (open_, .afterValue, rest)
    | some '[' :: rest => .ok (.list :: open_, .afterOpening, rest)
    | some '\x7b' :: rest => .ok (.object :: open_, .afterOpening, rest)
    | u :: _ =>
      if isDigit u then (skipNumber source).map fun rest => (open_, .afterValue, rest)
      else .error (Problem.noValue.upon source)
  | .afterOpening =>
    match open_, source with
    | .list :: _, [] => .error (Problem.endIn .list).atEnd
    | .object :: _, [] => .error (Problem.endIn .object).atEnd
    | .list :: outer, some ']' :: rest => .ok (outer, .afterValue, rest)
    | .object :: outer, some '\x7d' :: rest => .ok (outer, .afterValue, rest)
    | _, _ => enter open_ source
  | .afterValue =>
    match open_, source with
    | .list :: _, [] => .error (Problem.endIn .list).atEnd
    | .object :: _, [] => .error (Problem.endIn .object).atEnd
    | .list :: outer, some ']' :: rest => .ok (outer, .afterValue, rest)
    | .object :: outer, some '\x7d' :: rest => .ok (outer, .afterValue, rest)
    | _, some ',' :: rest => enter open_ rest
    | .list :: _, _ => .error (Problem.noListComma.upon source)
    | _, _ => .error (Problem.noObjectComma.upon source)

/-- Skips parts until no bracket is open and a value has ended; each part but an entry into
brackets takes something off the text, so `fuel` may be twice its length. -/
def skipParts : Nat → List Bracket → Next → Source → Except Halt Source
  | _, [], .afterValue, source => .ok source
  | 0, _, _, _ => .error (Problem.endIn .value).atEnd
  | fuel + 1, open_, next, source =>
    match skipPart open_ next source with
    | .error e => .error e
    | .ok (open_, next, rest) => skipParts fuel open_ next rest

def skipValue (source : Source) : Except Halt Source :=
  skipParts (2 * source.length + 1) [] .value source

end WebCapture.Json
