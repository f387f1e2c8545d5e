import WebCapture.Text.Utf8
import WebCapture.Time.Instant

set_option autoImplicit false

/-! # Reading points in time

Two written forms are read here: the long form `2024-01-01T12:00:00.000Z`, with any fraction and
any offset from universal time, and runs of digits `20240101120000`, which crawlers stamp on
captures.

Readers take bytes off the front and give the rest. A text that breaks off is too short, one that
goes on behind the end is too long, a number that no clock shows is out of range, and anything
else is invalid.
-/

namespace WebCapture.Time

open Text.Utf8 (Bytes)

/-- What keeps a text from being read as a point in time. -/
inductive Fault where
  | outOfRange
  | invalid
  | tooShort
  | tooLong
  deriving DecidableEq, Repr

def Fault.message : Fault → String
  | .outOfRange => "input is out of range"
  | .invalid => "input contains invalid characters"
  | .tooShort => "premature end of input"
  | .tooLong => "trailing input"

def digit? (b : UInt8) : Option Nat :=
  if 0x30 ≤ b.toNat ∧ b.toNat ≤ 0x39 then some (b.toNat - 0x30) else none

/-- The number that decimal digits denote; a byte that is no digit counts as zero. -/
def number (digits : Bytes) : Nat :=
  digits.foldl (fun n b => 10 * n + (digit? b).getD 0) 0

def readDigits (width : Nat) (bytes : Bytes) : Except Fault (Nat × Bytes) :=
  if bytes.length < width then .error .tooShort
  else if (bytes.take width).all (digit? · |>.isSome) then
    .ok (number (bytes.take width), bytes.drop width)
  else .error .invalid

def readBetween (width lo hi : Nat) (bytes : Bytes) : Except Fault (Nat × Bytes) := do
  let (n, rest) ← readDigits width bytes
  if lo ≤ n ∧ n ≤ hi then return (n, rest) else throw .outOfRange

def readMark (marks : List Char) (bytes : Bytes) : Except Fault Bytes :=
  match bytes with
  | [] => .error .tooShort
  | b :: rest => if marks.any (·.toNat == b.toNat) then .ok rest else .error .invalid

/-- Reads the fraction of a second, in nanoseconds, if there is one. Digits behind the ninth
do not count. -/
def readFraction (bytes : Bytes) : Except Fault (Nat × Bytes) :=
  match bytes with
  | 0x2E :: rest =>
    let digits := rest.takeWhile (digit? · |>.isSome)
    if digits = [] then .error (if rest = [] then .tooShort else .invalid)
    else
      let kept := digits.take 9
      .ok (number kept * Nat.pow 10 (9 - kept.length), rest.dropWhile (digit? · |>.isSome))
  | _ => .ok (0, bytes)

/-- Reads the sign of an offset, a minus sign of either kind being one. -/
def readSign (bytes : Bytes) : Except Fault (Int × Bytes) :=
  match bytes with
  | [] => .error .tooShort
  | 0x2B :: rest => .ok (1, rest)
  | 0x2D :: rest => .ok (-1, rest)
  | 0xE2 :: 0x88 :: 0x92 :: rest => .ok (-1, rest)
  | _ => .error .invalid

/-- Reads an offset from universal time, in seconds. -/
def readOffset (bytes : Bytes) : Except Fault (Int × Bytes) :=
  match bytes with
  | 0x5A :: rest => .ok (0, rest)
  | 0x7A :: rest => .ok (0, rest)
  | _ => do
    let (sign, rest) ← readSign bytes
    let (hours, rest) ← readDigits 2 rest
    let rest ← readMark [':'] rest
    let (minutes, rest) ← readDigits 2 rest
    if minutes < 60 then return (sign * (hours * 3600 + minutes * 60 : Nat), rest)
    else throw .outOfRange

def read (text : String) : Except Fault Instant := do
  let (year, rest) ← readDigits 4 (Text.Utf8.ofString text)
  let rest ← readMark ['-'] rest
  let (month, rest) ← readBetween 2 1 12 rest
  let rest ← readMark ['-'] rest
  let (day, rest) ← readBetween 2 1 31 rest
  let rest ← readMark ['T', 't', ' '] rest
  let (hour, rest) ← readBetween 2 0 23 rest
  let rest ← readMark [':'] rest
  let (minute, rest) ← readBetween 2 0 59 rest
  let rest ← readMark [':'] rest
  let (second, rest) ← readBetween 2 0 60 rest
  let (nanos, rest) ← readFraction rest
  let (offset, rest) ← readOffset rest
  if 86400 ≤ offset.natAbs then throw .outOfRange
  if rest ≠ [] then throw .tooLong
  let date : Date := ⟨year, month, day⟩
  if date.isValid then return (Instant.ofClock date hour minute second nanos).behind offset
  else throw .outOfRange

/-- The point in time that fourteen digits denote, `YYYYMMDDhhmmss`, with `nanos` behind it. -/
def ofDigits? (digits : Bytes) (nanos : Nat) : Option Instant :=
  let part (start width : Nat) := number ((digits.drop start).take width)
  let date : Date := ⟨part 0 4, part 4 2, part 6 2⟩
  if date.isValid ∧ part 8 2 ≤ 23 ∧ part 10 2 ≤ 59 ∧ part 12 2 ≤ 60 then
    some (Instant.ofClock date (part 8 2) (part 10 2) (part 12 2) nanos)
  else none

end WebCapture.Time
