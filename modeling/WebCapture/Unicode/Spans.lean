set_option autoImplicit false

/-! # Tables of code points

A property of characters is given as a table of spans: ranges of code points in ascending order,
each with a value. A table is written down as text, one word per span, so that it can be compared
with a printed list; `words` and `readHex` read the pieces that all such texts share. `lookup?`
finds the span of a code point by halving.

A word that is not written as it should be is read as some span nevertheless: reading tables does
not fail, and the tables are fixed.
-/

namespace WebCapture.Unicode

/-- The code points `first` to `last`, which share one value. -/
structure Span (α : Type) where
  first : Nat
  last : Nat
  value : α

/-! ## Looking up -/

/-- The span among those at positions `lo ≤ i < hi` that holds `n`. The spans must be disjoint
and in ascending order. -/
def search {α : Type} (table : Array (Span α)) (n lo hi : Nat) : Option (Span α) :=
  if lo < hi then
    match table[(lo + hi) / 2]? with
    | none => none
    | some s =>
      if n < s.first then search table n lo ((lo + hi) / 2)
      else if s.last < n then search table n ((lo + hi) / 2 + 1) hi
      else some s
  else none
termination_by hi - lo

def lookup? {α : Type} (table : Array (Span α)) (n : Nat) : Option (Span α) :=
  search table n 0 table.size

def covers {α : Type} (table : Array (Span α)) (c : Char) : Bool :=
  (lookup? table c.toNat).isSome

/-! ## Reading a written table -/

/-- One more character of a text that is being cut into words. -/
def pushWord (state : List (List Char) × List Char) (c : Char) : List (List Char) × List Char :=
  if c = ' ' ∨ c = '\n' then
    if state.2 = [] then state else (state.2.reverse :: state.1, [])
  else (state.1, c :: state.2)

def words (text : String) : List (List Char) :=
  let (done, last) := text.toList.foldl pushWord ([], [])
  (if last = [] then done else last.reverse :: done).reverse

/-- The value of a lower-case hexadecimal digit; any other character counts as zero. -/
def hexDigitValue (c : Char) : Nat :=
  if '0' ≤ c ∧ c ≤ '9' then c.toNat - '0'.toNat
  else if 'a' ≤ c ∧ c ≤ 'f' then c.toNat - 'a'.toNat + 10
  else 0

def readHex (digits : List Char) : Nat :=
  digits.foldl (fun n c => 16 * n + hexDigitValue c) 0

/-- The part of a word before the first `mark`, and the part behind it, empty if there is no
`mark`. -/
def cut (mark : Char) (word : List Char) : List Char × List Char :=
  (word.takeWhile (· != mark), (word.dropWhile (· != mark)).drop 1)

/-- The pieces of a word between the marks `mark`. -/
def pieces (mark : Char) (word : List Char) : List (List Char) :=
  let (done, last) := word.foldl
    (fun (state : List (List Char) × List Char) c =>
      if c = mark then (state.2.reverse :: state.1, []) else (state.1, c :: state.2)) ([], [])
  (last.reverse :: done).reverse

/-- A range written `a` or `a-b`, with its value. -/
def readSpan {α : Type} (range : List Char) (value : α) : Span α :=
  match cut '-' range with
  | (a, []) => ⟨readHex a, readHex a, value⟩
  | (a, b) => ⟨readHex a, readHex b, value⟩

/-- A set of code points, written as ranges. -/
def readSet (text : String) : Array (Span Unit) :=
  ((words text).map fun w => readSpan w ()).toArray

/-- A table of classes, written as words `range:class`. -/
def readClasses {α : Type} (ofName : List Char → α) (text : String) : Array (Span α) :=
  ((words text).map fun w => let (range, name) := cut ':' w; readSpan range (ofName name)).toArray

end WebCapture.Unicode
