import WebCapture.Text.Blank
import WebCapture.Unicode.NameMapping
import WebCapture.Unicode.Composition
import WebCapture.Unicode.Direction
import WebCapture.Url.Punycode

set_option autoImplicit false

/-! # Host names in ASCII

One host has many spellings: capital letters, full-width letters, characters that leave no trace,
an ASCII form for labels that are not ASCII. `toAscii?` brings a name into the one form that is
compared, stored and sent.

Names of plain ASCII labels only lose their case; all others go through the character mapping,
canonical composition and the checks on their labels. A name goes through this once: its ASCII
form is not read again, and so nothing here says that the form is its own ASCII form. Where that
is needed it is asked for by name (`Host.IsOwnForm`).

The checks on labels are those for names that are shown: where joiners may stand, which characters
a label may begin with, and in which order letters of both directions may follow each other.
-/

namespace WebCapture.Url.HostName

/-- The mark of a label that is an ASCII form. -/
def asciiMark : List Char := ['x', 'n', '-', '-']

def lower (c : Char) : Char :=
  if 'A' ≤ c ∧ c ≤ 'Z' then Char.ofNat (c.toNat + 32) else c

/-- ASCII characters that may not stand in a host name: controls, the blank, and those that end
a host in an address. -/
def isForbidden (c : Char) : Bool :=
  c.toNat ≤ 0x20 || c.toNat == 0x7F ||
    c ∈ ['%', '#', '/', ':', '<', '>', '?', '@', '[', '\\', ']', '^', '|']

def isAscii (c : Char) : Bool := c.toNat < 0x80

def isMarked (label : List Char) : Bool := (label.take 4).map lower == asciiMark

/-- Whether a name consists of ASCII labels none of which is the ASCII form of another. -/
def isPlain (cs : List Char) : Bool :=
  cs.all isAscii && (cs.splitOn '.').all (!isMarked ·)

/-! ## Names beyond ASCII -/

/-- The characters that take the place of `c`, or nothing if `c` may not stand in a name. -/
def mapChar? (c : Char) : Option (List Char) :=
  match Unicode.nameStatus c with
  | .kept => some [c]
  | .dropped => some []
  | .replaced cs => some cs
  | .refused => none

def mapText? (cs : List Char) : Option (List Char) :=
  (cs.mapM mapChar?).map fun parts => Unicode.compose parts.flatten

/-- How many characters a label beyond ASCII may have. -/
def maxShown : Nat := 1000

/-- How many characters an ASCII form may have behind its mark. -/
def maxForm : Nat := 2000

/-- The label that is shown for a label, which the mark tells to be read as an ASCII form. -/
def shownLabel? (label : List Char) : Option (List Char) :=
  if isMarked label then
    if !label.all isAscii || maxForm + 4 < label.length then none
    else match Punycode.decode? (label.drop 4) with
      | none => none
      | some shown =>
        if shown.all isAscii then none
        else if mapText? shown = some shown then some shown
        else none
  else some label

/-! ### Checks on labels -/

/-- Whether the characters before a non-joiner, nearest first, end in one that joins to what
follows. -/
def joinsAfter : List Char → Bool
  | [] => false
  | c :: more =>
    match Unicode.joiningKind c with
    | .transparent => joinsAfter more
    | .after => true
    | .both => true
    | _ => false

/-- Whether the characters behind a non-joiner start with one that joins to what comes before. -/
def joinsBefore : List Char → Bool
  | [] => false
  | c :: more =>
    match Unicode.joiningKind c with
    | .transparent => joinsBefore more
    | .before => true
    | .both => true
    | _ => false

/-- Whether every joiner and non-joiner stands where it changes what is seen: behind a
character that kills a vowel, or, for a non-joiner, between two characters that would join.
`before` holds the characters passed, nearest first. -/
def joinersFit (before : List Char) : List Char → Bool
  | [] => true
  | c :: rest =>
    let killed := match before with
      | b :: _ => Unicode.combiningClass b == 9
      | [] => false
    let fits :=
      if c = '\u200D' then killed
      else if c = '\u200C' then killed || (joinsAfter before && joinsBefore rest)
      else true
    fits && joinersFit (c :: before) rest

def isShort (label : List Char) : Bool := label.all isAscii || label.length ≤ maxShown

def startsWell (label : List Char) : Bool :=
  match label with
  | c :: _ => !Unicode.isMark c
  | [] => true

def labelFits (label : List Char) : Bool :=
  isShort label && startsWell label && joinersFit [] label

/-- Whether a character makes a name one that is written from right to left in part. -/
def isRightward (c : Char) : Bool :=
  match Unicode.direction c with
  | .right => true
  | .arabicLetter => true
  | .arabicNumber => true
  | _ => false

/-- The class of the last character that is no mark. -/
def lastDirection (label : List Char) : Option Unicode.Direction :=
  (label.map Unicode.direction).reverse.find? (· != .mark)

/-- Whether a label of a name with right-to-left parts keeps its order when it is shown. -/
def directionFits (label : List Char) : Bool :=
  let classes := label.map Unicode.direction
  match classes.head? with
  | none => true
  | some .left =>
    classes.all (· ∈ [.left, .number, .numberSign, .separator, .numberEnd, .neutral, .boundary,
      .mark]) &&
    (lastDirection label) ∈ [some .left, some .number]
  | some first =>
    (first == .right || first == .arabicLetter) &&
    classes.all (· ∈ [.right, .arabicLetter, .arabicNumber, .number, .numberSign, .separator,
      .numberEnd, .neutral, .boundary, .mark]) &&
    (lastDirection label) ∈ [some .right, some .arabicLetter, some .number, some .arabicNumber] &&
    !(classes.contains .number && classes.contains .arabicNumber)

/-! ### The ASCII form -/

def asciiLabel (shown : List Char) : List Char :=
  if shown.all isAscii then shown else asciiMark ++ Punycode.encode shown

def international? (cs : List Char) : Option (List Char) := do
  let mapped ← mapText? cs
  let shown ← (mapped.splitOn '.').mapM shownLabel?
  if shown.any (·.any isForbidden) then none
  else if !shown.all labelFits then none
  else if shown.any (·.any isRightward) && !shown.all directionFits then none
  else some (['.'].intercalate (shown.map asciiLabel))

def plain? (cs : List Char) : Option (List Char) :=
  if cs.any isForbidden then none else some (cs.map lower)

def toAscii? (cs : List Char) : Option (List Char) :=
  if isPlain cs then plain? cs else international? cs

end WebCapture.Url.HostName
