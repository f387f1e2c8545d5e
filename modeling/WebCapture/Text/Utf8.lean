set_option autoImplicit false

/-! # Text as bytes

What travels through a broker is a sequence of bytes. `encode` writes characters as bytes, one to
four for each; `units` reads bytes back, and keeps a byte that belongs to no character as `none`
instead of giving up, so that a reader can decide what such a byte means where it stands.

Every text is read back as itself (`units_encode`, `decode?_encode` in `Proofs/Text/Utf8`). Bytes
that no text is written as are damaged text; it is shown with a replacement character for each
stretch that could have been the beginning of a character.
-/

namespace WebCapture.Text.Utf8

abbrev Bytes := List UInt8

/-- The continuation byte that carries the low six bits of `n`. -/
def continuation (n : Nat) : UInt8 := UInt8.ofNat (0x80 + n % 64)

def encodeChar (c : Char) : Bytes :=
  let n := c.toNat
  if n < 0x80 then [UInt8.ofNat n]
  else if n < 0x800 then [UInt8.ofNat (0xC0 + n / 64), continuation n]
  else if n < 0x10000 then
    [UInt8.ofNat (0xE0 + n / 4096), continuation (n / 64), continuation n]
  else
    [UInt8.ofNat (0xF0 + n / 262144), continuation (n / 4096), continuation (n / 64),
      continuation n]

def encode (cs : List Char) : Bytes := cs.flatMap encodeChar

def ofString (s : String) : Bytes := encode s.toList

/-- The six bits that a continuation byte carries. -/
def continuationValue? (b : UInt8) : Option Nat :=
  if 0x80 ≤ b.toNat ∧ b.toNat < 0xC0 then some (b.toNat - 0x80) else none

/-- The values of the first `k` bytes, if all of them are continuation bytes. -/
def continuations? : Nat → Bytes → Option (List Nat)
  | 0, _ => some []
  | _ + 1, [] => none
  | k + 1, b :: rest => do
    let v ← continuationValue? b
    let vs ← continuations? k rest
    return v :: vs

/-- The character that starts with the byte `b` and goes on in `rest`, with the number of bytes
that it takes from `rest`. A character must be written in as few bytes as possible, and the
code points set aside for pairs in other encodings are no characters. -/
def firstChar? (b : UInt8) (rest : Bytes) : Option (Char × Nat) :=
  let n := b.toNat
  if n < 0x80 then some (Char.ofNat n, 0)
  else if 0xC2 ≤ n ∧ n < 0xE0 then
    match continuations? 1 rest with
    | some [x] => some (Char.ofNat ((n - 0xC0) * 64 + x), 1)
    | _ => none
  else if 0xE0 ≤ n ∧ n < 0xF0 then
    match continuations? 2 rest with
    | some [x, y] =>
      let v := (n - 0xE0) * 4096 + x * 64 + y
      if 0x800 ≤ v ∧ ¬(0xD800 ≤ v ∧ v < 0xE000) then some (Char.ofNat v, 2) else none
    | _ => none
  else if 0xF0 ≤ n ∧ n < 0xF5 then
    match continuations? 3 rest with
    | some [x, y, z] =>
      let v := (n - 0xF0) * 262144 + x * 4096 + y * 64 + z
      if 0x10000 ≤ v ∧ v < 0x110000 then some (Char.ofNat v, 3) else none
    | _ => none
  else none

/-- The characters that bytes spell; a byte that is part of no character is `none`. -/
def units : Bytes → List (Option Char)
  | [] => []
  | b :: rest =>
    match firstChar? b rest with
    | some (c, k) => some c :: units (rest.drop k)
    | none => none :: units rest
termination_by bytes => bytes.length
decreasing_by all_goals simp; try omega

def decode? (bytes : Bytes) : Option (List Char) := (units bytes).mapM id

def toString? (bytes : Bytes) : Option String := (decode? bytes).map String.ofList

/-! ## Damaged text -/

/-- How many bytes behind a first byte `b` still belong to a character that is cut short or
goes wrong later: as many as could be continued to a character. -/
def damagedLength (b : UInt8) (rest : Bytes) : Nat :=
  let n := b.toNat
  let second (lo hi : Nat) : Bool := match rest with
    | c :: _ => lo ≤ c.toNat && c.toNat < hi
    | [] => false
  let third : Bool := match rest with
    | _ :: c :: _ => (continuationValue? c).isSome
    | _ => false
  if 0xE0 ≤ n ∧ n < 0xF0 then
    if second (if n = 0xE0 then 0xA0 else 0x80) (if n = 0xED then 0xA0 else 0xC0) then 1 else 0
  else if 0xF0 ≤ n ∧ n < 0xF5 then
    if second (if n = 0xF0 then 0x90 else 0x80) (if n = 0xF4 then 0x90 else 0xC0) then
      if third then 2 else 1
    else 0
  else 0

/-- The text that bytes spell, with the replacement character for each stretch of bytes that
spells none. -/
def display : Bytes → List Char
  | [] => []
  | b :: rest =>
    match firstChar? b rest with
    | some (c, k) => c :: display (rest.drop k)
    | none => '\uFFFD' :: display (rest.drop (damagedLength b rest))
termination_by bytes => bytes.length
decreasing_by all_goals simp; try omega

end WebCapture.Text.Utf8
