set_option autoImplicit false

/-! # Numbers in digits

Numbers are written without leading zeros. A number that is read may have any number of digits, so
that every reader says below which limit it has to be. The bases are ten and sixteen; the letters
of the latter are written in lower case and read in either.
-/

namespace WebCapture.Text

/-! ## Writing -/

def decimal (n : Nat) : List Char := Nat.toDigits 10 n

def hex (n : Nat) : List Char := Nat.toDigits 16 n

/-! ## Reading -/

def digitValue? (base : Nat) (c : Char) : Option Nat :=
  let v? :=
    if '0' ≤ c ∧ c ≤ '9' then some (c.toNat - '0'.toNat)
    else if 'a' ≤ c ∧ c ≤ 'f' then some (c.toNat - 'a'.toNat + 10)
    else if 'A' ≤ c ∧ c ≤ 'F' then some (c.toNat - 'A'.toNat + 10)
    else none
  match v? with
  | some v => if v < base then some v else none
  | none => none

/-- The number that digits denote; no digits denote zero. -/
def number? (base : Nat) (cs : List Char) : Option Nat :=
  cs.foldlM (fun n c => (digitValue? base c).map (base * n + ·)) 0

/-- The number that decimal digits denote, if there are any and the number is below a limit. -/
def numberBelow? (limit : Nat) (cs : List Char) : Option Nat :=
  if cs = [] then none
  else
    match number? 10 cs with
    | some n => if n < limit then some n else none
    | none => none

def withoutPlus : List Char → List Char
  | '+' :: cs => cs
  | cs => cs

end WebCapture.Text
