set_option autoImplicit false

/-! # Blanks around a text

Submitted lines come from people and files, with blanks of all kinds around them. `isBlank` names
the white space characters; `trimBy` removes characters from both ends. Which characters count as
blanks differs from place to place: an address, for one, may have control characters at its ends
that are no white space.
-/

namespace WebCapture.Text

/-- White space: the ASCII blanks, the next-line control, and the spaces and line separators
of other scripts. -/
def isBlank (c : Char) : Bool :=
  let n := c.toNat
  (9 ≤ n && n ≤ 13) || n == 0x20 || n == 0x85 || n == 0xA0 || n == 0x1680 ||
    (0x2000 ≤ n && n ≤ 0x200A) || n == 0x2028 || n == 0x2029 || n == 0x202F || n == 0x205F ||
    n == 0x3000

/-- `cs` without the characters at either end that satisfy `p`. -/
def trimBy (p : Char → Bool) (cs : List Char) : List Char :=
  ((cs.dropWhile p).reverse.dropWhile p).reverse

end WebCapture.Text
