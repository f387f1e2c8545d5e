import WebCapture.Json.Fault
import WebCapture.Text.Utf8

set_option autoImplicit false

/-! # Texts that are read

A `Source` is what is left of a JSON text. The text is read once, from front to back, so the bytes
that are left tell how far reading has come: a reader that cannot go on returns a `Halt`, the
problem with the number of bytes behind it, and only who knows the whole text makes a `Fault` of
it, with the line and the column (`Source.fault`).

Positions are counted in bytes. A line break belongs to the line it ends, so the position behind
it is column zero of the next line (`Source.position_firstLine`, `Source.position_laterLine`).
-/

namespace WebCapture.Json

/-- What is left of a text. A byte that is part of no character is `none`. -/
abbrev Source := List (Option Char)

/-- A problem, and how many bytes of the text are left behind the place where it is noticed. -/
structure Halt where
  problem : Problem
  left : Nat
  deriving DecidableEq, Repr

namespace Source

def ofBytes (bytes : Text.Utf8.Bytes) : Source := Text.Utf8.units bytes

def ofString (s : String) : Source := s.toList.map some

def unitSize : Option Char → Nat
  | some c => c.utf8Size
  | none => 1

def size : Source → Nat
  | [] => 0
  | u :: rest => unitSize u + size rest

def isBlank (u : Option Char) : Bool :=
  u == some ' ' || u == some '\n' || u == some '\t' || u == some '\r'

def skipBlanks (source : Source) : Source := source.dropWhile isBlank

/-! ## Positions -/

/-- The position `count` bytes behind `start`, where the text goes on with `source`. The place may be
inside a character. -/
def advance (start : Position) (count : Nat) : Source → Position
  | [] => start
  | u :: rest =>
    if count = 0 then start
    else if u = some '\n' then advance ⟨start.line + 1, 0⟩ (count - 1) rest
    else advance ⟨start.line, start.column + min count (unitSize u)⟩ (count - unitSize u) rest

/-- The position behind the first `count` bytes. -/
def position (source : Source) (count : Nat) : Position := source.advance ⟨1, 0⟩ count

/-- The fault in a text, given where its reader halted. -/
def fault (source : Source) (halt : Halt) : Fault :=
  ⟨halt.problem, source.position (source.size - halt.left)⟩

end Source

/-- The problem is noticed in front of what is left. -/
def Problem.before (problem : Problem) (rest : Source) : Halt := ⟨problem, rest.size⟩

/-- The problem is noticed at the first byte of what is left, which counts as read. -/
def Problem.upon (problem : Problem) (rest : Source) : Halt := ⟨problem, rest.size - 1⟩

def Problem.atEnd (problem : Problem) : Halt := ⟨problem, 0⟩

end WebCapture.Json
