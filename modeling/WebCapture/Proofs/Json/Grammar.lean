import Mathlib.Data.List.Forall2
import WebCapture.Json.Text
import WebCapture.Text.Digits

set_option autoImplicit false

/-! # The grammar of JSON

Which texts are JSON values (`IsValue`), and which of them are strings with given characters
(`Spells`), however they are written: any character may be escaped, lists and objects may have
blanks around their parts, and values may be nested as deep as one likes. `Item` and `Member` are
the parts of lists and objects as they are written.

The grammar is stated over characters and does not mention the reader. The inductive predicates
have one constructor for each way to write a thing, and the shapes of lists and objects are told
by their pieces: `IsListOf` and `IsObjectOf` for the pieces themselves, `IsList` and `IsObject`
for what each of them holds.

Strings come in two kinds. What `Spells` says has characters; what is only `IsInner` may hold
escapes that are halves of code points, which a reader accepts where nobody asks for the string.
-/

namespace WebCapture.Json

/-- Nothing but blanks, as they may stand between the parts of a text. -/
def IsBlank (cs : List Char) : Prop := ∀ c ∈ cs, c = ' ' ∨ c = '\n' ∨ c = '\t' ∨ c = '\r'

-- Only the characters of the text are looked at, not all that there are.
instance (cs : List Char) : Decidable (IsBlank cs) := List.decidableBAll _ cs

theorem isBlank_nil : IsBlank [] := by
  intro c hc
  cases hc

/-! ## Strings -/

def shortEscapes : List (Char × Char) :=
  [('"', '"'), ('\\', '\\'), ('/', '/'), ('b', '\x08'), ('f', '\x0c'), ('n', '\n'), ('r', '\r'),
    ('t', '\t')]

/-- Four hexadecimal digits, their letters in either case, that denote a number. -/
def IsHex (digits : List Char) (n : Nat) : Prop :=
  digits.length = 4 ∧ Text.number? 16 digits = some n

def IsPlainChar (c : Char) : Prop := c ≠ '"' ∧ c ≠ '\\' ∧ 0x20 ≤ c.toNat

instance (c : Char) : Decidable (IsPlainChar c) :=
  inferInstanceAs (Decidable (c ≠ '"' ∧ c ≠ '\\' ∧ 0x20 ≤ c.toNat))

/-- What stands between the quotes of a string, and the characters of that string. A character is
written as it is, with a short escape, with its code point, or with two halves that make up its
code point. -/
inductive Spells : List Char → List Char → Prop
  | nil : Spells [] []
  | plain {c : Char} {inner cs : List Char} (plain : IsPlainChar c) (more : Spells inner cs) :
      Spells (c :: inner) (c :: cs)
  | short {letter c : Char} {inner cs : List Char} (known : (letter, c) ∈ shortEscapes)
      (more : Spells inner cs) : Spells ('\\' :: letter :: inner) (c :: cs)
  | point {digits : List Char} {c : Char} {inner cs : List Char} (hex : IsHex digits c.toNat)
      (more : Spells inner cs) : Spells ('\\' :: 'u' :: (digits ++ inner)) (c :: cs)
  | pair {high low : List Char} {a b : Nat} {c : Char} {inner cs : List Char}
      (hexHigh : IsHex high (0xD800 + a)) (hexLow : IsHex low (0xDC00 + b)) (smallHigh : a < 0x400)
      (smallLow : b < 0x400) (whole : c.toNat = 0x10000 + a * 0x400 + b) (more : Spells inner cs) :
      Spells ('\\' :: 'u' :: (high ++ '\\' :: 'u' :: (low ++ inner))) (c :: cs)

/-- Characters that may stand in a string as they are spell themselves. -/
theorem Spells.behind_plain {front inner cs : List Char} (plain : ∀ c ∈ front, IsPlainChar c)
    (more : Spells inner cs) : Spells (front ++ inner) (front ++ cs) := by
  induction front with
  | nil => exact more
  | cons c front ih =>
      exact .plain (plain c List.mem_cons_self) (ih fun d hd => plain d (List.mem_cons_of_mem c hd))

/-- What may stand between the quotes of a string that nobody reads: code points in escapes need
not be those of characters. -/
inductive IsInner : List Char → Prop
  | nil : IsInner []
  | plain {c : Char} {inner : List Char} (plain : IsPlainChar c) (more : IsInner inner) :
      IsInner (c :: inner)
  | short {letter c : Char} {inner : List Char} (known : (letter, c) ∈ shortEscapes)
      (more : IsInner inner) : IsInner ('\\' :: letter :: inner)
  | point {digits : List Char} {n : Nat} {inner : List Char} (hex : IsHex digits n)
      (more : IsInner inner) : IsInner ('\\' :: 'u' :: (digits ++ inner))

def quoted (inner : List Char) : List Char := '"' :: (inner ++ ['"'])

def IsString (text : List Char) (s : String) : Prop :=
  ∃ inner, Spells inner s.toList ∧ text = quoted inner

/-! ## Numbers -/

def IsDigits (cs : List Char) : Prop := cs ≠ [] ∧ ∀ c ∈ cs, c.isDigit = true

instance (cs : List Char) : Decidable (IsDigits cs) :=
  have : Decidable (∀ c ∈ cs, c.isDigit = true) := List.decidableBAll _ cs
  inferInstanceAs (Decidable (cs ≠ [] ∧ ∀ c ∈ cs, c.isDigit = true))

/-- The digits in front of the point, without a needless zero. -/
inductive IsWhole : List Char → Prop
  | zero : IsWhole ['0']
  | positive {digits : List Char} (numeral : IsDigits digits) (first : digits.head? ≠ some '0') :
      IsWhole digits

inductive IsFraction : List Char → Prop
  | absent : IsFraction []
  | present {digits : List Char} (numeral : IsDigits digits) : IsFraction ('.' :: digits)

inductive IsExponent : List Char → Prop
  | absent : IsExponent []
  | present {mark : Char} {sign digits : List Char} (marked : mark = 'e' ∨ mark = 'E')
      (signed : sign = [] ∨ sign = ['+'] ∨ sign = ['-']) (numeral : IsDigits digits) :
      IsExponent (mark :: (sign ++ digits))

inductive IsUnsigned : List Char → Prop
  | parts {whole fraction exponent : List Char} (isWhole : IsWhole whole)
      (isFraction : IsFraction fraction) (isExponent : IsExponent exponent) :
      IsUnsigned (whole ++ (fraction ++ exponent))

/-! ## Lists and objects -/

structure Item where
  front : List Char
  value : List Char
  back : List Char

def Item.text (item : Item) : List Char := item.front ++ (item.value ++ item.back)

/-- Around the value there are only blanks. -/
structure Item.IsPadded (item : Item) : Prop where
  front : IsBlank item.front
  back : IsBlank item.back

instance (item : Item) : Decidable item.IsPadded :=
  decidable_of_iff (IsBlank item.front ∧ IsBlank item.back)
    ⟨fun h => ⟨h.1, h.2⟩, fun h => ⟨h.front, h.back⟩⟩

/-- A member of an object: what stands between the quotes of its key, with the blanks around the
key, and its item. -/
structure Member where
  front : List Char
  key : List Char
  back : List Char
  item : Item

def Member.text (member : Member) : List Char :=
  member.front ++ (quoted member.key ++ (member.back ++ ':' :: member.item.text))

/-- Around the key and the value there are only blanks. -/
structure Member.IsPadded (member : Member) : Prop where
  front : IsBlank member.front
  back : IsBlank member.back
  item : member.item.IsPadded

instance (member : Member) : Decidable member.IsPadded :=
  decidable_of_iff (IsBlank member.front ∧ IsBlank member.back ∧ member.item.IsPadded)
    ⟨fun h => ⟨h.1, h.2.1, h.2.2⟩, fun h => ⟨h.front, h.back, h.item⟩⟩

/-- The text consists of pieces between two brackets, with commas between them; where there are no
pieces there may be blanks. -/
def IsEnclosed (opening closing : Char) (pieces : List (List Char)) (text : List Char) : Prop :=
  ∃ inner, (inner = separated pieces ∨ pieces = [] ∧ IsBlank inner) ∧
    text = opening :: (inner ++ [closing])

structure IsListOf (items : List Item) (text : List Char) : Prop where
  enclosed : IsEnclosed '[' ']' (items.map Item.text) text
  padded : ∀ item ∈ items, item.IsPadded

structure IsObjectOf (members : List Member) (text : List Char) : Prop where
  enclosed : IsEnclosed '\x7b' '\x7d' (members.map Member.text) text
  padded : ∀ member ∈ members, member.IsPadded

/-- The text is a list whose items hold certain things, in this order. -/
def IsList {ι : Type} (holds : List Char → ι → Prop) (xs : List ι) (text : List Char) : Prop :=
  ∃ items, IsListOf items text ∧ List.Forall₂ (fun item x => holds item.value x) items xs

/-- The text is an object whose members tell certain things, in this order. -/
def IsObject {ι : Type} (tells : Member → ι → Prop) (xs : List ι) (text : List Char) : Prop :=
  ∃ members, IsObjectOf members text ∧ List.Forall₂ tells members xs

inductive IsValue : List Char → Prop
  | null : IsValue ['n', 'u', 'l', 'l']
  | boolean (b : Bool) : IsValue (booleanText b)
  | positive {text : List Char} (number : IsUnsigned text) : IsValue text
  | negative {text : List Char} (number : IsUnsigned text) : IsValue ('-' :: text)
  | string {inner : List Char} (string : IsInner inner) : IsValue (quoted inner)
  | list {items : List Item} {text : List Char} (parts : IsListOf items text)
      (values : ∀ item ∈ items, IsValue item.value) : IsValue text
  | object {members : List Member} {text : List Char} (parts : IsObjectOf members text)
      (keys : ∀ member ∈ members, IsInner member.key)
      (values : ∀ member ∈ members, IsValue member.item.value) : IsValue text

/-! ## Commas

A list of pieces with commas between them is taken apart from the front, into a first piece and
others each with the comma before it. In this form every piece but the first is alike.
-/

/-- Pieces behind others, each with the comma before it. -/
def behind (pieces : List (List Char)) : List Char := pieces.flatMap fun piece => ',' :: piece

theorem behind_cons (piece : List Char) (more : List (List Char)) :
    behind (piece :: more) = ',' :: (piece ++ behind more) := rfl

theorem separated_cons (piece : List Char) (more : List (List Char)) :
    separated (piece :: more) = piece ++ behind more := by
  induction more generalizing piece with
  | nil => exact (List.append_nil piece).symm
  | cons second more ih =>
      rw [separated, ih, behind_cons, List.append_assoc]
      · rfl
      · simp

theorem length_le_behind (pieces : List (List Char)) : pieces.length ≤ (behind pieces).length := by
  induction pieces with
  | nil => exact Nat.le_refl 0
  | cons piece more ih =>
      rw [behind_cons, List.length_cons, List.length_cons, List.length_append]
      omega

/-- Between brackets there are blanks, or a first piece and others behind it. -/
theorem IsEnclosed.cases {opening closing : Char} {pieces : List (List Char)} {text : List Char}
    (h : IsEnclosed opening closing pieces text) :
    (pieces = [] ∧ ∃ blank, IsBlank blank ∧ text = opening :: (blank ++ [closing])) ∨
      ∃ piece more, pieces = piece :: more ∧
        text = opening :: (piece ++ (behind more ++ [closing])) := by
  obtain ⟨inner, shape, rfl⟩ := h
  cases pieces with
  | nil =>
      refine .inl ⟨rfl, inner, ?_, rfl⟩
      rcases shape with rfl | ⟨-, blank⟩
      · exact isBlank_nil
      · exact blank
  | cons piece more =>
      refine .inr ⟨piece, more, rfl, ?_⟩
      rcases shape with rfl | ⟨impossible, -⟩
      · rw [separated_cons, List.append_assoc]
      · cases impossible

end WebCapture.Json
