set_option autoImplicit false

/-! # The shortest decimal of a binary number

A binary floating point number stands for all real numbers that round to it. Of the decimals among
these, `shortest` gives one with the fewest digits, and of several the nearest.

The search goes by grids: the multiples of `10 ^ unit` that round to the number, from coarse to
fine. All arithmetic is on integers. A number with a mantissa at a power of two has a lower
neighbour that is only half as far away as the upper one, so the interval around it is not
symmetric (`Binary.atPower`).
-/

namespace WebCapture

/-- The decimal `digits · 10 ^ exponent`. -/
structure Decimal where
  digits : Nat
  exponent : Int
  deriving DecidableEq, Repr

namespace Decimal

/-- A positive binary number `mantissa · 2 ^ exponent`; `atPower` says that its lower
neighbour is only half as far away as its upper one. -/
structure Binary where
  mantissa : Nat
  exponent : Int
  atPower : Bool
  deriving DecidableEq, Repr

def Binary.ofBits (bits : Nat) : Binary :=
  let fraction : Nat := bits % 0x10000000000000
  let scale : Nat := bits / 0x10000000000000 % 0x800
  if scale = 0 then ⟨fraction, -1074, false⟩
  else ⟨fraction + 0x10000000000000, (scale : Int) - 1075, fraction == 0 && scale != 1⟩

/-- The numerator and denominator of `n · 2 ^ two · 10 ^ ten`. -/
def ratio (n : Nat) (two ten : Int) : Nat × Nat :=
  (n * Nat.pow 2 two.toNat * Nat.pow 10 ten.toNat,
    Nat.pow 2 (-two).toNat * Nat.pow 10 (-ten).toNat)

def digitCount (n : Nat) : Nat := (Nat.toDigits 10 n).length

/-- The exponent `e` with `10 ^ (e - 1) ≤ x < 10 ^ e` for a positive binary number. -/
def magnitude (x : Binary) : Int :=
  let (num, den) := ratio x.mantissa x.exponent 0
  let guess : Int := (digitCount num : Int) - digitCount den
  let (num', den') := ratio x.mantissa x.exponent (-guess)
  if num' < den' then guess else guess + 1

/-- The multiple of `10 ^ unit` that rounds to `x` and is nearest to it, if there is one. -/
def onGrid? (x : Binary) (unit : Int) : Option Nat :=
  let (num, den) := ratio (4 * x.mantissa) (x.exponent - 2) (-unit)
  let (upper, _) := ratio (4 * x.mantissa + 2) (x.exponent - 2) (-unit)
  let (lower, _) := ratio (4 * x.mantissa - (if x.atPower then 1 else 2)) (x.exponent - 2) (-unit)
  let closed := x.mantissa % 2 = 0
  let rounds (n : Nat) : Bool :=
    if closed then lower ≤ n * den && n * den ≤ upper else lower < n * den && n * den < upper
  let below := num / den
  let above := below + 1
  match rounds below, rounds above with
  | true, true =>
    let down := num - below * den
    let up := above * den - num
    if down < up then some below
    else if up < down then some above
    else if below % 2 = 0 then some below
    else some above
  | true, false => some below
  | false, true => some above
  | false, false => none

/-- The first of the grids with `count`, `count + 1`, … digits that has a number for `x`. -/
def firstGrid (x : Binary) (top : Int) (count : Nat) : Nat → Decimal
  | 0 => ⟨x.mantissa, 0⟩
  | fuel + 1 =>
    match onGrid? x (top - count) with
    | some n => ⟨n, top - count⟩
    | none => firstGrid x top (count + 1) fuel

/-- A decimal without zeros at the end of its digits; at most `fuel` of them are taken off. -/
def stripped (d : Decimal) : Nat → Decimal
  | 0 => d
  | fuel + 1 =>
    if d.digits ≠ 0 ∧ d.digits % 10 = 0 then
      (⟨d.digits / 10, d.exponent + 1⟩ : Decimal).stripped fuel
    else d

/-- The shortest decimal that rounds to a positive binary number. Seventeen digits are always
enough. -/
def shortest (x : Binary) : Decimal :=
  if x.mantissa = 0 then ⟨0, 0⟩ else (firstGrid x (magnitude x) 1 17).stripped 17

/-! ## Written form -/

/-- How numbers are written: positionally if the exponent of the first digit lies between
`least` and `most`, otherwise with an exponent, which may show a plus sign. -/
structure Format where
  least : Int
  most : Int
  plus : Bool

/-- The written form of a decimal: always with a point in positional form, and in the other
form with a point behind the first digit if there are more. -/
def Format.text (format : Format) (d : Decimal) : List Char :=
  let digits := Nat.toDigits 10 d.digits
  let first : Int := digits.length + d.exponent - 1
  if d.digits = 0 then ['0', '.', '0']
  else if first < format.least ∨ format.most < first then
    let point := if digits.length = 1 then [] else '.' :: digits.drop 1
    let sign := if first < 0 then ['-'] else if format.plus then ['+'] else []
    digits.take 1 ++ point ++ ['e'] ++ sign ++ Nat.toDigits 10 first.natAbs
  else if 0 ≤ d.exponent then
    digits ++ List.replicate d.exponent.toNat '0' ++ ['.', '0']
  else if 0 ≤ first then
    digits.take (first.toNat + 1) ++ ['.'] ++ digits.drop (first.toNat + 1)
  else ['0', '.'] ++ List.replicate (-first - 1).toNat '0' ++ digits

def Format.write (format : Format) (x : Float) : String :=
  let bits := x.toBits.toNat
  let sign := if 0x8000000000000000 ≤ bits then ['-'] else []
  String.ofList (sign ++ format.text (shortest (Binary.ofBits (bits % 0x8000000000000000))))

/-- Messages write numbers of moderate size positionally, and others with a signed exponent. -/
def inMessages : Format := ⟨-5, 15, true⟩

/-- The broker is sent numbers with a bare exponent. -/
def inCommands : Format := ⟨-5, 15, false⟩

end Decimal

end WebCapture
