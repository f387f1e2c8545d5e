import Mathlib.Data.List.DropRight
import WebCapture.Proofs.Json.Strings
import WebCapture.Proofs.Text.Blank

set_option autoImplicit false

/-! # Values that nobody asks for are skipped

Whatever a member holds that nobody reads, if it is a JSON value then it is taken off the text and
nothing else is (`skipValue_isValue`).

The reader does one part of a value at a time and keeps a list of open brackets, while the grammar
is nested. So what is proved of a value is about any list of open brackets and any fuel to spare
(`SkipsValue`), and a bracket with its pieces is skipped if its pieces are (`SkipsPiece`). The
induction over `IsValue` has one case for each kind of value; lists and objects share theirs, with
the bracket as a parameter.

Fuel is counted along: a value needs at most two parts for each of its characters, which is what
`skipValue` provides.
-/

namespace WebCapture.Json

open Source (skipBlanks)
open Text (takeWhile_append_stop dropWhile_append_stop)

/-! ## What follows a number -/

def inNumber (u : Option Char) : Bool :=
  isDigit u || u == some '.' || u == some 'e' || u == some 'E'

/-- What follows does not go on with a number. -/
def Ends (rest : Source) : Prop := ∀ u ∈ rest.head?, inNumber u = false

theorem ends_cons {u : Option Char} (h : inNumber u = false) (rest : Source) :
    Ends (u :: rest) := by
  intro v hv
  obtain rfl : u = v := by simpa using hv
  exact h

/-- Blanks may stand before the end. -/
theorem Ends.behind_blanks {cs : List Char} (blank : IsBlank cs) {rest : Source} (h : Ends rest) :
    Ends (cs.map some ++ rest) := by
  cases cs with
  | nil => exact h
  | cons c cs =>
      have visible := blank c List.mem_cons_self
      refine ends_cons ?_ _
      rcases visible with rfl | rfl | rfl | rfl <;> rfl

theorem Ends.not_digit {rest : Source} (h : Ends rest) : ∀ u ∈ rest.head?, isDigit u = false := by
  intro u hu
  have stop := h u hu
  simp only [inNumber, Bool.or_eq_false_iff] at stop
  exact stop.1.1.1

/-! ## Numbers

A number ends where the text does not go on with one. What follows a number is therefore part of
all statements about it (`Ends`); behind a piece there is a comma, a bracket or a blank, which
will do.
-/

theorem isDigit_of_mem {digits : List Char} (h : IsDigits digits) :
    ∀ u ∈ digits.map some, isDigit u = true := by
  intro u hu
  obtain ⟨c, hc, rfl⟩ := List.mem_map.1 hu
  exact h.2 c hc

/-- Digits are told apart from what follows. -/
theorem span_digits {digits : List Char} (h : IsDigits digits) {rest : Source}
    (stop : ∀ u ∈ rest.head?, isDigit u = false) :
    (digits.map some ++ rest).takeWhile isDigit ≠ [] ∧
      (digits.map some ++ rest).dropWhile isDigit = rest := by
  constructor
  · rw [takeWhile_append_stop (isDigit_of_mem h) stop]
    simpa using h.1
  · exact dropWhile_append_stop (isDigit_of_mem h) stop

/-- Digits start with one. -/
theorem IsDigits.cons {digits : List Char} (h : IsDigits digits) :
    ∃ d more, digits = d :: more ∧ d.isDigit = true := by
  obtain ⟨d, more, rfl⟩ := List.exists_cons_of_ne_nil h.1
  exact ⟨d, more, rfl, h.2 d List.mem_cons_self⟩

def behindSign (source : Source) : Source :=
  match source with
  | some '+' :: rest => rest
  | some '-' :: rest => rest
  | _ => source

/-- A digit is no sign. -/
theorem behindSign_digit {d : Char} (h : d.isDigit = true) (rest : Source) :
    behindSign (some d :: rest) = some d :: rest := by
  unfold behindSign
  split
  · rename_i plus
    cases plus
    cases h
  · rename_i minus
    cases minus
    cases h
  · rfl

theorem skipExponent_unmarked {u : Option Char} (h : ¬(u = some 'e' ∨ u = some 'E'))
    (rest : Source) : skipExponent (u :: rest) = .ok (u :: rest) :=
  if_neg h

theorem skipExponent_marked {u : Option Char} (h : u = some 'e' ∨ u = some 'E') (rest : Source) :
    skipExponent (u :: rest)
      = if (behindSign rest).takeWhile isDigit = [] then
          .error (Problem.badNumber.upon (behindSign rest))
        else .ok ((behindSign rest).dropWhile isDigit) :=
  if_pos h

theorem skipExponent_isExponent {exponent : List Char} (h : IsExponent exponent) {rest : Source}
    (ends : Ends rest) : skipExponent (exponent.map some ++ rest) = .ok rest := by
  cases h with
  | absent =>
      cases rest with
      | nil => rfl
      | cons u rest =>
          have stop := ends u rfl
          simp only [inNumber, Bool.or_eq_false_iff, beq_eq_false_iff_ne] at stop
          have unmarked : ¬(u = some 'e' ∨ u = some 'E') := by
            rintro (mark | mark)
            · exact stop.1.2 mark
            · exact stop.2 mark
          exact skipExponent_unmarked unmarked rest
  | @present mark sign digits marked signed numeral =>
      obtain ⟨some_digits, behind_digits⟩ := span_digits numeral ends.not_digit
      have isMark : some mark = some 'e' ∨ some mark = some 'E' := by simpa using marked
      have shape : (mark :: (sign ++ digits)).map some ++ rest
          = some mark :: (sign.map some ++ (digits.map some ++ rest)) := by simp
      have unsigned : behindSign (sign.map some ++ (digits.map some ++ rest))
          = digits.map some ++ rest := by
        rcases signed with rfl | rfl | rfl
        · obtain ⟨d, more, rfl, isDigit⟩ := numeral.cons
          exact behindSign_digit isDigit _
        · rfl
        · rfl
      rw [shape, skipExponent_marked isMark, unsigned, if_neg some_digits, behind_digits]

/-- Behind the digits in front of the point or of the exponent there is no digit. -/
theorem exponent_not_digit {exponent : List Char} (h : IsExponent exponent) {rest : Source}
    (ends : Ends rest) : ∀ u ∈ (exponent.map some ++ rest).head?, isDigit u = false := by
  cases h with
  | absent => exact ends.not_digit
  | present marked _ _ =>
      intro u hu
      obtain rfl : some _ = u := by simpa using hu
      rcases marked with rfl | rfl <;> rfl

theorem fraction_not_digit {fraction exponent : List Char} (h : IsFraction fraction)
    (h' : IsExponent exponent) {rest : Source} (ends : Ends rest) :
    ∀ u ∈ (fraction.map some ++ (exponent.map some ++ rest)).head?, isDigit u = false := by
  cases h with
  | absent => exact exponent_not_digit h' ends
  | present _ =>
      intro u hu
      obtain rfl : some '.' = u := by simpa using hu
      rfl

theorem skipFraction_isFraction {fraction exponent : List Char} (h : IsFraction fraction)
    (h' : IsExponent exponent) {rest : Source} (ends : Ends rest) :
    skipFraction (fraction.map some ++ (exponent.map some ++ rest)) = .ok rest := by
  cases h with
  | absent =>
      rw [List.map_nil, List.nil_append, skipFraction]
      · exact skipExponent_isExponent h' ends
      · -- Neither an exponent nor what follows the number starts with a point.
        intro after point
        cases h' with
        | absent =>
            obtain rfl : rest = some '.' :: after := point
            have stop := ends (some '.') rfl
            cases stop
        | present marked _ _ =>
            rw [List.map_cons, List.cons_append] at point
            cases point
            rcases marked with marked | marked <;> cases marked
  | present numeral =>
      obtain ⟨some_digits, behind_digits⟩ := span_digits numeral (exponent_not_digit h' ends)
      rw [List.map_cons, List.cons_append, skipFraction, if_neg some_digits, behind_digits]
      exact skipExponent_isExponent h' ends

/-- A number is skipped if what follows does not go on with it. -/
theorem skipNumber_isUnsigned {text : List Char} (h : IsUnsigned text) {rest : Source}
    (ends : Ends rest) : skipNumber (text.map some ++ rest) = .ok rest := by
  obtain @⟨whole, fraction, exponent, isWhole, isFraction, isExponent⟩ := h
  rw [List.map_append, List.map_append, List.append_assoc, List.append_assoc]
  have stop := fraction_not_digit isFraction isExponent ends
  have skipped := skipFraction_isFraction isFraction isExponent ends
  cases isWhole with
  | zero =>
      have unmarked : ¬(fraction.map some ++ (exponent.map some ++ rest)).head?.any isDigit := by
        rw [Option.any_eq_true]
        rintro ⟨u, here, digit⟩
        rw [stop u here] at digit
        cases digit
      rw [List.map_cons, List.map_nil, List.cons_append, List.nil_append, skipNumber,
        if_neg unmarked, skipped]
  | positive numeral first =>
      obtain ⟨some_digits, behind_digits⟩ := span_digits numeral stop
      rw [skipNumber, if_neg some_digits, behind_digits, skipped]
      intro after zero
      obtain ⟨d, more, rfl, -⟩ := numeral.cons
      rw [List.map_cons, List.cons_append] at zero
      cases zero
      exact first rfl

/-! ## Single parts

A part is a bracket, a key, a comma or a value without parts. Each of them takes one round of
`skipParts`.
-/

theorem mem_digits {d : Char} (h : d.isDigit = true) :
    d ∈ ['0', '1', '2', '3', '4', '5', '6', '7', '8', '9'] := by
  have all : ∀ n < 58, 48 ≤ n →
      Char.ofNat n ∈ ['0', '1', '2', '3', '4', '5', '6', '7', '8', '9'] := by decide
  simp only [Char.isDigit, Bool.and_eq_true, decide_eq_true_eq, ge_iff_le, UInt32.le_iff_toNat_le]
    at h
  have known := all d.toNat (Nat.lt_succ_of_le h.2) h.1
  rwa [Char.ofNat_toNat] at known

theorem skipPart_digit {d : Char} (h : d.isDigit = true) (open_ : List Bracket) (rest : Source) :
    skipPart open_ .value (some d :: rest)
      = (skipNumber (some d :: rest)).map fun rest => (open_, .afterValue, rest) := by
  have known := mem_digits h
  simp only [List.mem_cons, List.not_mem_nil, or_false] at known
  rcases known with rfl | rfl | rfl | rfl | rfl | rfl | rfl | rfl | rfl | rfl <;> rfl

/-- A number starts with a digit. -/
theorem IsUnsigned.cons {text : List Char} (h : IsUnsigned text) :
    ∃ d more, text = d :: more ∧ d.isDigit = true := by
  obtain ⟨isWhole, -, -⟩ := h
  cases isWhole with
  | zero => exact ⟨'0', _, rfl, rfl⟩
  | positive numeral _ =>
      obtain ⟨d, more, rfl, isDigit⟩ := numeral.cons
      exact ⟨d, _, rfl, isDigit⟩

def resume (fuel : Nat) (part : Except Halt (List Bracket × Next × Source)) :
    Except Halt Source :=
  match part with
  | .error e => .error e
  | .ok (open_, next, rest) => skipParts fuel open_ next rest

section

variable {open_ : List Bracket} {next : Next}

theorem skipParts_step (goesOn : open_ ≠ [] ∨ next ≠ .afterValue) (fuel : Nat) (source : Source) :
    skipParts (fuel + 1) open_ next source = resume fuel (skipPart open_ next source) := by
  rw [skipParts]
  · rfl
  · rintro rfl rfl
    rcases goesOn with h | h <;> exact h rfl

/-- Blanks in front of a part do not matter. -/
theorem skipParts_congr (goesOn : open_ ≠ [] ∨ next ≠ .afterValue) {source source' : Source}
    (h : skipBlanks source = skipBlanks source') (fuel : Nat) :
    skipParts fuel open_ next source = skipParts fuel open_ next source' := by
  have same : skipPart open_ next source = skipPart open_ next source' := by
    unfold skipPart
    rw [h]
  cases fuel with
  | zero =>
      have ending : ∀ source, skipParts 0 open_ next source = .error (Problem.endIn .value).atEnd := by
        intro source
        rw [skipParts]
        rintro rfl rfl
        rcases goesOn with h | h <;> exact h rfl
      rw [ending, ending]
  | succ fuel => rw [skipParts_step goesOn, skipParts_step goesOn, same]

end

/-! ## Pieces between brackets

Lists and objects differ in their brackets and in what a piece is: an item, or a member with its
key. All else is common to both.
-/

def Bracket.opening : Bracket → Char
  | .list => '['
  | .object => '\x7b'

def Bracket.closing : Bracket → Char
  | .list => ']'
  | .object => '\x7d'

/-- The text is skipped as a value, in at most two parts for each character. -/
def SkipsValue (text : List Char) : Prop :=
  ∃ k ≤ 2 * text.length, ∀ (fuel : Nat) (open_ : List Bracket) (rest : Source), Ends rest →
    skipParts (fuel + k) open_ .value (text.map some ++ rest)
      = skipParts fuel open_ .afterValue rest

/-- Behind an opening bracket or a comma the piece is skipped. -/
def SkipsPiece (bracket : Bracket) (piece : List Char) : Prop :=
  ∃ k ≤ 2 * piece.length, ∀ (fuel : Nat) (outer : List Bracket) (rest : Source), Ends rest →
    resume (fuel + k) (enter (bracket :: outer) (piece.map some ++ rest))
      = skipParts fuel (bracket :: outer) .afterValue rest

/-- The text starts with something else than a blank or a closing bracket. -/
def Starts (text : List Char) : Prop :=
  ∃ c tail, text = c :: tail ∧ Source.isBlank (some c) = false ∧ c ≠ ']' ∧ c ≠ '\x7d'

/-- The text does so behind blanks. -/
def StartsPadded (text : List Char) : Prop :=
  ∃ front back, IsBlank front ∧ Starts back ∧ text = front ++ back

/-- Blanks are skipped up to a text that starts with none. -/
theorem Starts.skipBlanks {text : List Char} (h : Starts text) {front : List Char}
    (blank : IsBlank front) (rest : Source) :
    skipBlanks (front.map some ++ (text.map some ++ rest)) = text.map some ++ rest := by
  obtain ⟨c, tail, rfl, visible, -, -⟩ := h
  exact skipBlanks_to blank visible _

/-- A value is skipped with the blanks around it, whatever brackets are open. -/
theorem SkipsValue.padded {item : Item} (h : SkipsValue item.value) (padded : item.IsPadded) :
    ∃ k ≤ 2 * item.text.length, ∀ (fuel : Nat) (bracket : Bracket) (outer : List Bracket)
      (rest : Source), Ends rest →
        skipParts (fuel + k) (bracket :: outer) .value (item.text.map some ++ rest)
          = skipParts fuel (bracket :: outer) .afterValue rest := by
  obtain ⟨k, short, skips⟩ := h
  refine ⟨k, ?_, ?_⟩
  · have long : item.text.length = item.front.length + (item.value.length + item.back.length) := by
      rw [Item.text, List.length_append, List.length_append]
    omega
  · intro fuel bracket outer rest ends
    have shape : item.text.map some ++ rest
        = item.front.map some ++ (item.value.map some ++ (item.back.map some ++ rest)) := by
      simp [Item.text]
    rw [shape, skipParts_congr (.inr (by simp)) (skipBlanks_append padded.front _),
      skips _ _ _ (ends.behind_blanks padded.back),
      skipParts_congr (.inl (by simp)) (skipBlanks_append padded.back _)]

theorem skipsPiece_item {item : Item} (h : SkipsValue item.value) (padded : item.IsPadded) :
    SkipsPiece .list item.text := by
  obtain ⟨k, short, skips⟩ := h.padded padded
  exact ⟨k, short, fun fuel outer rest ends => skips fuel .list outer rest ends⟩

/-- A key is skipped with its colon. -/
theorem skipKey_member {front key back : List Char} (h : IsInner key) (blank : IsBlank front)
    (blank' : IsBlank back) (rest : Source) :
    skipKey (front.map some ++ some '"' :: (key.map some ++ some '"' ::
      (back.map some ++ some ':' :: rest))) = .ok rest := by
  have colon : Source.isBlank (some ':') = false := rfl
  rw [skipKey, skipBlanks_to blank rfl]
  simp only [skipString_inner h, skipBlanks_to blank' colon]

theorem skipsPiece_member {member : Member} (h : SkipsValue member.item.value)
    (key : IsInner member.key) (padded : member.IsPadded) : SkipsPiece .object member.text := by
  obtain ⟨k, short, skips⟩ := h.padded padded.item
  refine ⟨k, ?_, ?_⟩
  · have long : member.item.text.length ≤ member.text.length := by
      simp only [Member.text, List.length_append, List.length_cons]
      omega
    omega
  · intro fuel outer rest ends
    have shape : member.text.map some ++ rest
        = member.front.map some ++ some '"' :: (member.key.map some ++ some '"' ::
          (member.back.map some ++ some ':' :: (member.item.text.map some ++ rest))) := by
      simp [Member.text, quoted]
    have entered : enter (.object :: outer) (member.text.map some ++ rest)
        = .ok (.object :: outer, .value, member.item.text.map some ++ rest) := by
      rw [enter, shape, skipKey_member key padded.front padded.back]
      rfl
    rw [entered]
    exact skips fuel .object outer rest ends

theorem Starts.item {item : Item} (padded : item.IsPadded) (h : Starts item.value) :
    StartsPadded item.text := by
  obtain ⟨c, tail, shape, visible⟩ := h
  exact ⟨item.front, c :: (tail ++ item.back), padded.front, ⟨c, _, rfl, visible⟩,
    by rw [Item.text, shape, List.cons_append]⟩

theorem Starts.member {member : Member} (padded : member.IsPadded) : StartsPadded member.text :=
  ⟨member.front, _, padded.front, ⟨'"', _, rfl, rfl, by decide, by decide⟩, rfl⟩

theorem enter_skipBlanks (bracket : Bracket) (outer : List Bracket) (fuel : Nat) (source : Source) :
    resume fuel (enter (bracket :: outer) (skipBlanks source))
      = resume fuel (enter (bracket :: outer) source) := by
  have twice : skipBlanks (skipBlanks source) = skipBlanks source := List.dropWhile_idempotent ..
  cases bracket with
  | list => exact skipParts_congr (.inr (by simp)) twice fuel
  | object => rw [enter, enter, skipKey, skipKey, twice]

/-- Behind an opening bracket the first piece is entered. -/
theorem skipParts_afterOpening {bracket : Bracket} {text : List Char} (h : StartsPadded text)
    (outer : List Bracket) (fuel : Nat) (rest : Source) :
    skipParts (fuel + 1) (bracket :: outer) .afterOpening (text.map some ++ rest)
      = resume fuel (enter (bracket :: outer) (text.map some ++ rest)) := by
  obtain ⟨front, back, blank, ⟨c, tail, rfl, visible, noList, noObject⟩, rfl⟩ := h
  have shape : (front ++ c :: tail).map some ++ rest
      = front.map some ++ some c :: (tail.map some ++ rest) := by simp
  have enters : skipPart (bracket :: outer) .afterOpening
      (front.map some ++ some c :: (tail.map some ++ rest))
        = enter (bracket :: outer)
            (skipBlanks (front.map some ++ some c :: (tail.map some ++ rest))) := by
    unfold skipPart
    rw [skipBlanks_to blank visible]
    cases bracket with
    | list => simp [noList]
    | object => simp [noObject]
  rw [shape, skipParts_step (.inr (by simp)), enters, enter_skipBlanks]

theorem ends_behind (bracket : Bracket) (pieces : List (List Char)) (rest : Source) :
    Ends ((behind pieces).map some ++ some bracket.closing :: rest) := by
  cases pieces with
  | nil => cases bracket <;> exact ends_cons rfl _
  | cons piece more =>
      rw [behind_cons, List.map_cons, List.cons_append]
      exact ends_cons rfl _

/-- The pieces behind others are skipped up to the closing bracket: the comma and the bracket take
one part each. -/
theorem skipParts_behind {bracket : Bracket} {pieces : List (List Char)}
    (h : ∀ piece ∈ pieces, SkipsPiece bracket piece) :
    ∃ k ≤ 2 * (behind pieces).length, ∀ (fuel : Nat) (outer : List Bracket) (rest : Source),
      skipParts (fuel + k + 1) (bracket :: outer) .afterValue
          ((behind pieces).map some ++ some bracket.closing :: rest)
        = skipParts fuel outer .afterValue rest := by
  induction pieces with
  | nil =>
      refine ⟨0, Nat.zero_le _, fun fuel outer rest => ?_⟩
      cases bracket <;> rfl
  | cons piece more ih =>
      obtain ⟨k, short, skips⟩ := h piece List.mem_cons_self
      obtain ⟨k', short', skips'⟩ := ih fun other here => h other (List.mem_cons_of_mem _ here)
      refine ⟨k' + 1 + k, ?_, fun fuel outer rest => ?_⟩
      · rw [behind_cons, List.length_cons, List.length_append]
        omega
      · have shape : (behind (piece :: more)).map some ++ some bracket.closing :: rest
            = some ',' :: (piece.map some ++
              ((behind more).map some ++ some bracket.closing :: rest)) := by
          simp [behind_cons]
        have comma : ∀ after, skipPart (bracket :: outer) .afterValue (some ',' :: after)
            = enter (bracket :: outer) after := by
          intro after
          cases bracket <;> rfl
        have parts : fuel + (k' + 1 + k) = fuel + k' + 1 + k := by omega
        rw [shape, skipParts_step (.inl (by simp)), comma, parts,
          skips _ _ _ (ends_behind bracket more rest)]
        exact skips' fuel outer rest

/-- What stands between brackets is skipped with them. -/
theorem skipsValue_enclosed {bracket : Bracket} {pieces : List (List Char)} {text : List Char}
    (enclosed : IsEnclosed bracket.opening bracket.closing pieces text)
    (h : ∀ piece ∈ pieces, SkipsPiece bracket piece)
    (starts : ∀ piece ∈ pieces, StartsPadded piece) :
    SkipsValue text := by
  have opened : ∀ fuel open_ after,
      skipParts (fuel + 1) open_ .value (some bracket.opening :: after)
        = skipParts fuel (bracket :: open_) .afterOpening after := by
    intro fuel open_ after
    rw [skipParts_step (.inr (by simp))]
    cases bracket <;> rfl
  rcases enclosed.cases with ⟨rfl, blanks, blank, rfl⟩ | ⟨piece, more, rfl, rfl⟩
  · refine ⟨2, ?_, fun fuel open_ rest _ => ?_⟩
    · simp only [List.length_cons, List.length_append]
      omega
    · have shape : (bracket.opening :: (blanks ++ [bracket.closing])).map some ++ rest
          = some bracket.opening :: (blanks.map some ++ some bracket.closing :: rest) := by simp
      rw [shape, opened, skipParts_congr (.inr (by simp)) (skipBlanks_append blank _),
        skipParts_step (.inr (by simp))]
      cases bracket <;> rfl
  · obtain ⟨k, short, skips⟩ := h piece List.mem_cons_self
    obtain ⟨k', short', skips'⟩ :=
      skipParts_behind fun other here => h other (List.mem_cons_of_mem _ here)
    refine ⟨k' + 1 + k + 2, ?_, fun fuel open_ rest _ => ?_⟩
    · simp only [List.length_cons, List.length_append]
      omega
    · have shape : (bracket.opening :: (piece ++ (behind more ++ [bracket.closing]))).map some
            ++ rest
          = some bracket.opening :: (piece.map some ++
            ((behind more).map some ++ some bracket.closing :: rest)) := by simp
      -- The fuel is shared out: one for the bracket, then the first piece and those behind it.
      have parts : fuel + (k' + 1 + k + 2) = fuel + k' + 1 + k + 1 + 1 := by omega
      rw [shape, parts, opened, skipParts_afterOpening (starts piece List.mem_cons_self),
        skips _ _ _ (ends_behind bracket more rest)]
      exact skips' fuel open_ rest

/-! ## Values -/

/-- A text that is skipped as one part is skipped. -/
theorem skipsValue_part {text : List Char} (long : 0 < text.length)
    (h : ∀ (open_ : List Bracket) (rest : Source), Ends rest →
      skipPart open_ .value (text.map some ++ rest) = .ok (open_, .afterValue, rest)) :
    SkipsValue text := by
  refine ⟨1, by omega, fun fuel open_ rest ends => ?_⟩
  rw [skipParts_step (.inr (by simp)), h open_ rest ends]
  rfl

theorem skipPart_number {text : List Char} (h : IsUnsigned text) (open_ : List Bracket)
    {rest : Source} (ends : Ends rest) :
    skipPart open_ .value (text.map some ++ rest) = .ok (open_, .afterValue, rest) := by
  have skipped := skipNumber_isUnsigned h ends
  obtain ⟨d, more, rfl, digit⟩ := h.cons
  rw [List.map_cons, List.cons_append] at skipped ⊢
  rw [skipPart_digit digit, skipped]
  rfl

/-- No value starts with a blank or a closing bracket. -/
theorem IsValue.starts {text : List Char} (h : IsValue text) : Starts text := by
  have starts : ∀ (c : Char) (tail : List Char), Source.isBlank (some c) = false → c ≠ ']' →
      c ≠ '\x7d' → Starts (c :: tail) :=
    fun c tail visible noList noObject => ⟨c, tail, rfl, visible, noList, noObject⟩
  cases h with
  | null => exact starts _ _ rfl (by decide) (by decide)
  | boolean b => cases b <;> exact starts _ _ rfl (by decide) (by decide)
  | positive number =>
      obtain ⟨d, more, rfl, digit⟩ := number.cons
      have known := mem_digits digit
      simp only [List.mem_cons, List.not_mem_nil, or_false] at known
      rcases known with rfl | rfl | rfl | rfl | rfl | rfl | rfl | rfl | rfl | rfl <;>
        exact starts _ _ rfl (by decide) (by decide)
  | negative _ => exact starts _ _ rfl (by decide) (by decide)
  | string _ => exact starts _ _ rfl (by decide) (by decide)
  | list parts _ =>
      obtain ⟨inner, -, rfl⟩ := parts.enclosed
      exact starts _ _ rfl (by decide) (by decide)
  | object parts _ _ =>
      obtain ⟨inner, -, rfl⟩ := parts.enclosed
      exact starts _ _ rfl (by decide) (by decide)

theorem IsValue.skips {text : List Char} (h : IsValue text) : SkipsValue text := by
  induction h with
  | null => exact skipsValue_part (by decide) fun open_ rest _ => rfl
  | boolean b => cases b <;> exact skipsValue_part (by decide) fun open_ rest _ => rfl
  | positive number =>
      obtain ⟨d, more, rfl, -⟩ := number.cons
      exact skipsValue_part (Nat.zero_lt_succ _) fun open_ rest ends =>
        skipPart_number number open_ ends
  | negative number =>
      refine skipsValue_part (Nat.zero_lt_succ _) fun open_ rest ends => ?_
      have minus : ∀ after, skipPart open_ .value (some '-' :: after)
          = (skipNumber after).map fun rest => (open_, .afterValue, rest) := fun _ => rfl
      rw [List.map_cons, List.cons_append, minus, skipNumber_isUnsigned number ends]
      rfl
  | @string inner string =>
      refine skipsValue_part (Nat.zero_lt_succ _) fun open_ rest _ => ?_
      have quote : ∀ after, skipPart open_ .value (some '"' :: after)
          = (skipString after).map fun rest => (open_, .afterValue, rest) := fun _ => rfl
      have shape : (quoted inner).map some ++ rest
          = some '"' :: (inner.map some ++ some '"' :: rest) := by simp [quoted]
      rw [shape, quote, skipString_inner string]
      rfl
  | list parts values ih =>
      -- The pieces are the items with the blanks around them.
      have enclosed : IsEnclosed Bracket.list.opening Bracket.list.closing _ _ := parts.enclosed
      refine skipsValue_enclosed enclosed ?_ ?_
      · intro piece here
        obtain ⟨item, inside, rfl⟩ := List.mem_map.1 here
        exact skipsPiece_item (ih item inside) (parts.padded item inside)
      · intro piece here
        obtain ⟨item, inside, rfl⟩ := List.mem_map.1 here
        exact (values item inside).starts.item (parts.padded item inside)
  | object parts keys values ih =>
      -- The pieces are the members: a key, a colon and a value.
      have enclosed : IsEnclosed Bracket.object.opening Bracket.object.closing _ _ :=
        parts.enclosed
      refine skipsValue_enclosed enclosed ?_ ?_
      · intro piece here
        obtain ⟨member, inside, rfl⟩ := List.mem_map.1 here
        exact skipsPiece_member (ih member inside) (keys member inside)
          (parts.padded member inside)
      · intro piece here
        obtain ⟨member, inside, rfl⟩ := List.mem_map.1 here
        exact Starts.member (parts.padded member inside)

/-- **A value that nobody asks for is skipped, and nothing else is.** -/
theorem skipValue_isValue {front text : List Char} (blank : IsBlank front) (h : IsValue text)
    {rest : Source} (ends : Ends rest) :
    skipValue (front.map some ++ (text.map some ++ rest)) = .ok rest := by
  obtain ⟨k, short, skips⟩ := h.skips
  obtain ⟨fuel, enough⟩ : ∃ fuel,
      2 * (front.map some ++ (text.map some ++ rest)).length + 1 = fuel + k := by
    refine Nat.exists_eq_add_of_le' ?_
    simp only [List.length_append, List.length_map]
    omega
  rw [skipValue, enough, skipParts_congr (.inr (by simp)) (skipBlanks_append blank _),
    skips _ _ _ ends, skipParts]

end WebCapture.Json
