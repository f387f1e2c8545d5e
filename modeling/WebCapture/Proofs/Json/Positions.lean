import WebCapture.Json.Decoder

set_option autoImplicit false

/-! # The line and the column of a fault

A reader that halts in front of some rest of the text tells the position behind what it has read
(`fault_before`). `Source.advance` walks over a text to find that position. Walking over two texts
is walking over the one and then over the other (`advance_append`), every line break starts a line
(`line_advance`), and within a line the bytes are counted (`advance_inLine`). So the line is one
more than the breaks in front, and the column is the number of bytes since the last of them
(`position_firstLine`, `position_laterLine`).
-/

namespace WebCapture.Json.Source

theorem unitSize_pos (u : Option Char) : 0 < unitSize u := by
  cases u with
  | none => exact Nat.one_pos
  | some c => exact c.utf8Size_pos

theorem size_cons (u : Option Char) (rest : Source) : size (u :: rest) = unitSize u + size rest :=
  rfl

theorem size_append (front rest : Source) : size (front ++ rest) = size front + size rest := by
  induction front with
  | nil => exact (Nat.zero_add _).symm
  | cons u front ih => rw [List.cons_append, size_cons, size_cons, ih, Nat.add_assoc]

/-- A halt in front of the rest is a fault behind what was read. -/
theorem fault_before (problem : Problem) (front rest : Source) :
    fault (front ++ rest) (problem.before rest)
      = ⟨problem, position (front ++ rest) (size front)⟩ := by
  rw [fault, Problem.before, size_append, Nat.add_sub_cancel]

/-- A line break in front: the next line begins. -/
theorem advance_break (start : Position) (count : Nat) (rest : Source) :
    advance start (unitSize (some '\n') + count) (some '\n' :: rest)
      = advance ⟨start.line + 1, 0⟩ count rest := by
  have one : unitSize (some '\n') + count = count + 1 := Nat.add_comm 1 count
  rw [one]
  rfl

/-- Any other unit in front: its bytes are counted, if all of them are wanted. -/
theorem advance_other (start : Position) (count : Nat) {u : Option Char} (other : u ≠ some '\n')
    (rest : Source) :
    advance start (unitSize u + count) (u :: rest)
      = advance ⟨start.line, start.column + unitSize u⟩ count rest := by
  have wanted : unitSize u + count ≠ 0 := by
    have := unitSize_pos u
    omega
  rw [advance, if_neg wanted, if_neg other, Nat.min_eq_right (Nat.le_add_right _ _),
    Nat.add_sub_cancel_left]

theorem advance_append (start : Position) (front rest : Source) (count : Nat) :
    advance start (size front + count) (front ++ rest)
      = advance (advance start (size front) front) count rest := by
  induction front generalizing start with
  | nil =>
      rw [List.nil_append, advance]
      exact congrArg (advance start · rest) (Nat.zero_add count)
  | cons u front ih =>
      rw [List.cons_append, size_cons, Nat.add_assoc]
      by_cases h : u = some '\n'
      · subst h
        rw [advance_break, advance_break]
        exact ih _
      · rw [advance_other _ _ h, advance_other _ _ h]
        exact ih _

theorem line_advance (start : Position) (front : Source) :
    (advance start (size front) front).line = start.line + front.count (some '\n') := by
  induction front generalizing start with
  | nil => rfl
  | cons u front ih =>
      rw [size_cons]
      by_cases h : u = some '\n'
      · subst h
        rw [advance_break, ih, List.count_cons_self]
        show start.line + 1 + _ = _
        omega
      · rw [advance_other _ _ h, ih, List.count_cons_of_ne h]

theorem advance_zero (start : Position) (rest : Source) : advance start 0 rest = start := by
  cases rest <;> rfl

variable {line : Source} (h : some '\n' ∉ line) (rest : Source)

include h

theorem advance_inLine (start : Position) :
    advance start (size line) (line ++ rest) = ⟨start.line, start.column + size line⟩ := by
  induction line generalizing start with
  | nil => exact advance_zero start rest
  | cons u line ih =>
      obtain ⟨other, others⟩ := not_or.mp (mt List.mem_cons.mpr h)
      rw [List.cons_append, size_cons, advance_other _ _ (Ne.symm other), ih others, Nat.add_assoc]

/-- **A fault in the first line**: the bytes in front of it are counted. -/
theorem position_firstLine : position (line ++ rest) (size line) = ⟨1, size line⟩ := by
  rw [position, advance_inLine h, Nat.zero_add]

/-- **A fault in a later line**: the bytes are counted from the last line break. -/
theorem position_laterLine (front : Source) :
    position (front ++ some '\n' :: (line ++ rest)) (size front + (size line + 1))
      = ⟨front.count (some '\n') + 2, size line⟩ := by
  have breaks : (advance ⟨1, 0⟩ (size front) front).line + 1 = front.count (some '\n') + 2 := by
    rw [line_advance]
    show 1 + _ + 1 = _
    omega
  have behind : size line + 1 = unitSize (some '\n') + size line := Nat.add_comm _ _
  rw [position, behind, advance_append, advance_break, advance_inLine h, breaks, Nat.zero_add]

omit h

example : (decode null (ofString " \nnul!")).mapError Fault.message
    = .error "expected ident at line 2 column 4" := by rfl

end WebCapture.Json.Source
