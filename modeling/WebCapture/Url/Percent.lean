import WebCapture.Text.Digits
import WebCapture.Text.Utf8

set_option autoImplicit false

/-! # Percent escapes

Characters that may not stand in a part of an address are written as escapes: each of their bytes
as a percent sign and two hexadecimal digits. Which ASCII characters need an escape depends on the
part; all others always do.

Percent signs themselves need none, so a text that has its escapes is left as it is when it is
escaped once more (`escape_of_escaped`), and an escape that was submitted stays the one it was.
Escapes are read back only in host names.
-/

namespace WebCapture.Url

open WebCapture.Text

def hexDigit (n : Nat) : Char :=
  if n < 10 then Char.ofNat ('0'.toNat + n) else Char.ofNat ('A'.toNat + (n - 10))

def escapeByte (b : UInt8) : List Char :=
  ['%', hexDigit (b.toNat / 16), hexDigit (b.toNat % 16)]

/-- The ASCII characters that need an escape in some part of an address. -/
abbrev EscapeSet := List Char

/-- Whether a character needs an escape: controls and characters beyond ASCII always do. -/
def needsEscape (set : EscapeSet) (c : Char) : Bool :=
  c.toNat < 0x20 || 0x7F ≤ c.toNat || c ∈ set

def escapeChar (set : EscapeSet) (c : Char) : List Char :=
  if needsEscape set c then (Utf8.encodeChar c).flatMap escapeByte else [c]

def escape (set : EscapeSet) (cs : List Char) : List Char := cs.flatMap (escapeChar set)

def fragmentSet : EscapeSet := [' ', '"', '<', '>', Char.ofNat 0x60]

def pathSet : EscapeSet := fragmentSet ++ ['#', '?', '\x7b', '\x7d']

def querySet : EscapeSet := [' ', '"', '#', '<', '>', '\'']

def userSet : EscapeSet := pathSet ++ ['/', ':', ';', '=', '@', '[', '\\', ']', '^', '|']

/-! ## Reading -/

/-- The bytes of a text in which escapes stand for bytes; a percent sign without two digits
behind it stands for itself. -/
def unescape : List Char → Utf8.Bytes
  | [] => []
  | '%' :: a :: b :: rest =>
    match Text.digitValue? 16 a, Text.digitValue? 16 b with
    | some x, some y => UInt8.ofNat (x * 16 + y) :: unescape rest
    | _, _ => Utf8.encodeChar '%' ++ unescape (a :: b :: rest)
  | c :: rest => Utf8.encodeChar c ++ unescape rest

end WebCapture.Url
