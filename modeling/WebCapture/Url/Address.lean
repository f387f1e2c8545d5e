import WebCapture.Text.Blank
import WebCapture.Text.Digits

set_option autoImplicit false

/-! # Numeric host addresses

A host may be given by its number instead of a name. An address of four octets is accepted in
every spelling that readers of addresses have ever understood: one to four numbers, each decimal,
octal or hexadecimal, the last one filling all octets that are left. An address of eight pieces
has the usual colon form, with one gap of zeros and perhaps a four octet tail. Both are written in
one form only, `Ipv4.text` and `Ipv6.text`.

The many spellings are why hosts are judged by their number and not by their text: `127.1`,
`0x7f000001` and `2130706433` are all the machine itself. `isLoopback` and `isPrivate` say which
numbers are not for others to reach, and `Ipv6.mapped?` finds the addresses of four octets that
are written as one of eight pieces.

`Proofs/Url/Address` shows that the written form is read as the address it was written for.
-/

namespace WebCapture.Url

open Text (decimal digitValue? number? numberBelow?)

/-! ## Addresses of four octets -/

structure Ipv4 where
  a : Fin 256
  b : Fin 256
  c : Fin 256
  d : Fin 256
  deriving DecidableEq, Repr

def Ipv4.ofNat (n : Nat) : Ipv4 :=
  ⟨Fin.ofNat 256 (n / 16777216), Fin.ofNat 256 (n / 65536), Fin.ofNat 256 (n / 256),
    Fin.ofNat 256 n⟩

def Ipv4.text (ip : Ipv4) : List Char :=
  ['.'].intercalate [decimal ip.a.val, decimal ip.b.val, decimal ip.c.val, decimal ip.d.val]

/-- The addresses of the machine itself: `127.0.0.0/8`. -/
def Ipv4.isLoopback (ip : Ipv4) : Bool := ip.a.val == 127

/-- The addresses of private networks: `10.0.0.0/8`, `172.16.0.0/12` and `192.168.0.0/16`. -/
def Ipv4.isPrivate (ip : Ipv4) : Bool :=
  ip.a.val == 10 || (ip.a.val == 172 && 16 ≤ ip.b.val && ip.b.val < 32) ||
    (ip.a.val == 192 && ip.b.val == 168)

/-! ### Reading -/

/-- The base of a part of an address, and its digits. -/
def splitBase : List Char → Nat × List Char
  | '0' :: 'x' :: digits => (16, digits)
  | '0' :: 'X' :: digits => (16, digits)
  | '0' :: c :: digits => (8, c :: digits)
  | digits => (10, digits)

def addressPart? (cs : List Char) : Option Nat :=
  if cs = [] then none else number? (splitBase cs).1 (splitBase cs).2

/-- The parts of a dotted text; a dot at the very end ends the last part. -/
def dottedParts (cs : List Char) : List (List Char) :=
  let parts := cs.splitOn '.'
  if parts.getLast? = some [] then parts.dropLast else parts

/-- Whether the last part of a host makes it an address: it is a number, or written like one. -/
def endsInNumber (cs : List Char) : Bool :=
  match (dottedParts cs).getLast? with
  | none => false
  | some last => (last != [] && last.all (·.isDigit)) || (addressPart? last).isSome

/-- The address with the given parts: all but the last are octets, and the last one fills the
octets that are left. -/
def Ipv4.ofParts? (parts : List Nat) : Option Ipv4 :=
  match parts with
  | [n] => if n < 4294967296 then some (Ipv4.ofNat n) else none
  | [x, n] => if x < 256 ∧ n < 16777216 then some (Ipv4.ofNat (x * 16777216 + n)) else none
  | [x, y, n] =>
    if x < 256 ∧ y < 256 ∧ n < 65536 then some (Ipv4.ofNat (x * 16777216 + y * 65536 + n))
    else none
  | [x, y, z, n] =>
    if x < 256 ∧ y < 256 ∧ z < 256 ∧ n < 256 then
      some (Ipv4.ofNat (x * 16777216 + y * 65536 + z * 256 + n))
    else none
  | _ => none

def Ipv4.read? (cs : List Char) : Option Ipv4 :=
  match (dottedParts cs).mapM addressPart? with
  | some parts => Ipv4.ofParts? parts
  | none => none

/-! ## Addresses of eight pieces -/

/-- An address of eight pieces of sixteen bits. -/
structure Ipv6 where
  pieces : List (Fin 65536)
  length_eq : pieces.length = 8
  deriving DecidableEq, Repr

/-- The address of the machine itself, `::1`. -/
def Ipv6.isLoopback (ip : Ipv6) : Bool := ip.pieces.map (·.val) == [0, 0, 0, 0, 0, 0, 0, 1]

/-- The addresses of private networks, `fc00::/7`. -/
def Ipv6.isPrivate (ip : Ipv6) : Bool :=
  match ip.pieces with
  | p :: _ => p.val / 512 == 126
  | [] => false

/-- The four octet address that an address stands for, if it is one of those that do. -/
def Ipv6.mapped? (ip : Ipv6) : Option Ipv4 :=
  match ip.pieces.map (·.val) with
  | [0, 0, 0, 0, 0, 0xFFFF, p, q] => some (Ipv4.ofNat (p * 65536 + q))
  | _ => none

/-! ### Writing -/

def leadingZeros (pieces : List Nat) : Nat := (pieces.takeWhile (· == 0)).length

/-- Where the longest run of zeros starts, and how long it is; of several the first. -/
def longestZeros : Nat → List Nat → Nat × Nat
  | index, [] => (index, 0)
  | index, p :: rest =>
    let here := leadingZeros (p :: rest)
    let (later, length) := longestZeros (index + 1) rest
    if length ≤ here then (index, here) else (later, length)

def colonText (pieces : List Nat) : List Char := [':'].intercalate (pieces.map Text.hex)

/-- The pieces in hexadecimal; two colons stand for the longest run of two or more zeros. -/
def Ipv6.text (ip : Ipv6) : List Char :=
  let pieces := ip.pieces.map (·.val)
  let (start, length) := longestZeros 0 pieces
  if 2 ≤ length then
    colonText (pieces.take start) ++ [':', ':'] ++ colonText (pieces.drop (start + length))
  else colonText pieces

/-! ### Reading -/

/-- An octet in decimal without a leading zero. -/
def octet? (cs : List Char) : Option Nat :=
  if cs.head? = some '0' ∧ cs ≠ ['0'] then none
  else numberBelow? 256 cs

/-- The two pieces that a dotted tail of four octets fills. -/
def dottedTail? (cs : List Char) : Option (List Nat) :=
  match (cs.splitOn '.').mapM octet? with
  | some [a, b, c, d] => some [a * 256 + b, c * 256 + d]
  | _ => none

/-- A piece that is not the last one, with the text behind its colon. -/
def splitPiece (cs : List Char) : List Char × List Char :=
  ((cs.take 4).takeWhile (digitValue? 16 · |>.isSome),
    cs.drop ((cs.take 4).takeWhile (digitValue? 16 · |>.isSome)).length)

/-- Reads pieces from `cs` behind the pieces `done`. The gap, once it has been met, is the number
of pieces up to it and the zero that it stands for at least. -/
def readPieces? (cs : List Char) (done : List Nat) (gap : Option Nat) :
    Option (List Nat × Option Nat) :=
  if cs = [] then some (done, gap)
  else if 8 ≤ done.length then none
  else
    match cs with
    | [] => some (done, gap)
    | ':' :: rest =>
      if gap.isSome then none else readPieces? rest (done ++ [0]) (some (done.length + 1))
    | c :: more =>
      match splitPiece (c :: more) with
      | (digits, []) => (number? 16 digits).map fun n => (done ++ [n], gap)
      | (digits, ':' :: rest) =>
        if digits = [] ∨ rest = [] then none
        else if _h : rest.length < (c :: more).length then
          match number? 16 digits with
          | some n => readPieces? rest (done ++ [n]) gap
          | none => none
        else none
      | (digits, '.' :: _) =>
        if digits = [] ∨ 6 < done.length then none
        else (dottedTail? (c :: more)).map fun tail => (done ++ tail, gap)
      | _ => none
termination_by cs.length
decreasing_by
  · simp
  · exact _h

/-- The eight pieces: zeros fill the gap. -/
def fillGap? (pieces : List Nat) : Option Nat → Option (List Nat)
  | none => some pieces
  | some gap =>
    some (pieces.take gap ++ List.replicate (8 - pieces.length) 0 ++ pieces.drop gap)

/-- The address of the pieces that were read, if there are eight. -/
def Ipv6.ofPieces? (read : Option (List Nat × Option Nat)) : Option Ipv6 :=
  match read with
  | none => none
  | some (pieces, gap) =>
    match fillGap? pieces gap with
    | none => none
    | some eight =>
      if h : (eight.map (Fin.ofNat 65536)).length = 8 then
        some ⟨eight.map (Fin.ofNat 65536), h⟩
      else none

def Ipv6.read? (cs : List Char) : Option Ipv6 :=
  Ipv6.ofPieces? <| match cs with
    | ':' :: ':' :: rest => readPieces? rest [0] (some 1)
    | ':' :: _ => none
    | [] => none
    | [_] => none
    | _ => readPieces? cs [] none

end WebCapture.Url
