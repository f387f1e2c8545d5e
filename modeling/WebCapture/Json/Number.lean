import WebCapture.Decimal.Shortest
import WebCapture.Json.Scanner

set_option autoImplicit false

/-! # Reading numbers

A number without fraction and exponent is read exactly if it fits into 64 bits. Any other is read
as a floating point number: as many digits as fit into 64 bits, times or divided by a power of
ten. Digits that do not fit count for the exponent only. This is not always the number nearest to
the text, but one that is written with few digits is read as meant.
-/

namespace WebCapture.Json

inductive Number where
  | integer (value : Int)
  | float (value : Float)

def Number.found : Number → Found
  | .integer value => .integer value
  | .float value => .float (Decimal.inMessages.write value)

def maxWord : Nat := 0xFFFFFFFFFFFFFFFF

/-- The value of a digit; a unit that is no digit counts as zero. -/
def digitValue (u : Option Char) : Nat :=
  match u with
  | some c => c.toNat - '0'.toNat
  | none => 0

/-- Appends digits to a number as long as it fits into 64 bits, and tells how many are left
over. -/
def appendDigits (n : Nat) : List (Option Char) → Nat × Nat
  | [] => (n, 0)
  | u :: more =>
    let next := n * 10 + digitValue u
    if next ≤ maxWord then appendDigits next more else (n, more.length + 1)

/-- The power of ten with this exponent, up to 308. -/
def powerOfTen (exponent : Nat) : Float := Float.ofScientific 1 false exponent

/-- `x · 10 ^ exponent`, in steps of at most 308 powers of ten; a number that is not zero
vanishes after a few steps down. -/
def scale (x : Float) (exponent : Int) : Nat → Except Problem Float
  | 0 => .ok 0
  | fuel + 1 =>
    if exponent.natAbs ≤ 308 then
      if 0 ≤ exponent then
        let y := x * powerOfTen exponent.natAbs
        if y.isInf then .error .numberOutOfRange else .ok y
      else .ok (x / powerOfTen exponent.natAbs)
    else if x == 0 then .ok x
    else if 0 ≤ exponent then .error .numberOutOfRange
    else scale (x / powerOfTen 308) (exponent + 308) fuel

/-- The floating point number `± significand · 10 ^ exponent`. -/
def floatOf (negative : Bool) (significand : Nat) (exponent : Int) : Except Problem Number :=
  match scale (Float.ofNat significand) exponent 4 with
  | .error e => .error e
  | .ok x => .ok (.float (if negative then -x else x))

/-- What is left behind the digit with which an exponent is too large for 32 bits. -/
def behindExcess (n : Nat) : Source → Source
  | [] => []
  | u :: rest =>
    let next := n * 10 + digitValue u
    if 0x80000000 ≤ next then rest else behindExcess next rest

def readExponent (negative : Bool) (significand : Nat) (exponent : Int) (source : Source) :
    Except Halt (Number × Source) :=
  let (down, rest) := match source with
    | some '+' :: rest => (false, rest)
    | some '-' :: rest => (true, rest)
    | _ => (false, source)
  let digits := rest.takeWhile isDigit
  if digits = [] then .error ((if rest = [] then .endIn .value else .badNumber : Problem).upon rest)
  else
    let size := digits.foldl (fun n u => n * 10 + digitValue u) 0
    let after := rest.dropWhile isDigit
    if 0x80000000 ≤ size then
      if significand ≠ 0 ∧ down = false then
        .error (Problem.numberOutOfRange.before (behindExcess 0 rest))
      else .ok (.float (if negative then -0.0 else 0.0), after)
    else
      match floatOf negative significand (if down then exponent - size else exponent + size) with
      | .error problem => .error (problem.before after)
      | .ok number => .ok (number, after)

/-- Reads what may follow the digits in front of the point and those behind it. -/
def readRest (negative : Bool) (significand : Nat) (exponent : Int) (source : Source) :
    Except Halt (Number × Source) :=
  match source with
  | some 'e' :: rest => readExponent negative significand exponent rest
  | some 'E' :: rest => readExponent negative significand exponent rest
  | _ =>
    match floatOf negative significand exponent with
    | .error problem => .error (problem.before source)
    | .ok number => .ok (number, source)

def readFraction (negative : Bool) (significand : Nat) (exponent : Int) (source : Source) :
    Except Halt (Number × Source) :=
  let digits := source.takeWhile isDigit
  if digits = [] then
    .error ((if source = [] then .endIn .value else .badNumber : Problem).upon source)
  else
    let (significand, left) := appendDigits significand digits
    readRest negative significand (exponent - (digits.length - left : Nat))
      (source.dropWhile isDigit)

/-- Reads what follows the digits in front of the point, `left` of which did not fit into
`significand`. -/
def readTail (negative : Bool) (significand left : Nat) (source : Source) :
    Except Halt (Number × Source) :=
  match source with
  | some '.' :: rest => readFraction negative significand left rest
  | some 'e' :: _ => readRest negative significand left source
  | some 'E' :: _ => readRest negative significand left source
  | _ =>
    if left ≠ 0 then readRest negative significand left source
    else if negative = false then .ok (.integer significand, source)
    else if significand ≠ 0 ∧ significand ≤ 0x8000000000000000 then
      .ok (.integer (-significand), source)
    else .ok (.float (-(Float.ofNat significand)), source)

def readUnsigned (negative : Bool) (source : Source) : Except Halt (Number × Source) :=
  match source with
  | [] => .error (Problem.endIn .value).atEnd
  | some '0' :: rest =>
    if rest.head?.any isDigit then .error (Problem.badNumber.upon rest)
    else readTail negative 0 0 rest
  | _ =>
    let digits := source.takeWhile isDigit
    if digits = [] then .error (Problem.badNumber.upon source)
    else
      let (significand, left) := appendDigits 0 digits
      readTail negative significand left (source.dropWhile isDigit)

def readNumber (source : Source) : Except Halt (Number × Source) :=
  match source with
  | some '-' :: rest => readUnsigned true rest
  | _ => readUnsigned false source

end WebCapture.Json
