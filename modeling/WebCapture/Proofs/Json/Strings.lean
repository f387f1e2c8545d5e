import WebCapture.Json.Scanner
import WebCapture.Proofs.Json.Grammar
import WebCapture.Proofs.Text.Utf8

set_option autoImplicit false

/-! # Strings and blanks are taken off a text

A string is read as the characters that it spells, whichever way it spells them
(`readString_spells`), and a string that nobody reads is skipped (`skipString_inner`). What is
written with the usual escapes spells what was to be written (`spells_escaped`), and so everything
that is written is among the texts of the grammar (`isString_stringText`, `isList_listText`,
`isObject_objectText`).

The reader goes along the text and not along the characters, so the inductions are over `Spells`
and `IsInner`, with one case for each way to write a character.
-/

namespace WebCapture.Json

open Source (skipBlanks)

/-! ## Blanks -/

theorem isBlank_of_mem {cs : List Char} (h : IsBlank cs) :
    ∀ u ∈ cs.map some, Source.isBlank u = true := by
  intro u hu
  obtain ⟨c, hc, rfl⟩ := List.mem_map.1 hu
  rcases h c hc with rfl | rfl | rfl | rfl <;> rfl

theorem skipBlanks_append {cs : List Char} (h : IsBlank cs) (rest : Source) :
    skipBlanks (cs.map some ++ rest) = skipBlanks rest := by
  rw [skipBlanks, List.dropWhile_append_of_pos (isBlank_of_mem h), ← skipBlanks]

theorem skipBlanks_visible {u : Option Char} (visible : Source.isBlank u = false) (rest : Source) :
    skipBlanks (u :: rest) = u :: rest := by
  rw [skipBlanks, List.dropWhile_cons_of_neg (by simp [visible])]

/-- Blanks are skipped up to what is none. -/
theorem skipBlanks_to {cs : List Char} (h : IsBlank cs) {u : Option Char}
    (visible : Source.isBlank u = false) (rest : Source) :
    skipBlanks (cs.map some ++ u :: rest) = u :: rest := by
  rw [skipBlanks_append h, skipBlanks_visible visible]

def IsBlankByte (b : UInt8) : Prop := b = 0x20 ∨ b = 0x0A ∨ b = 0x09 ∨ b = 0x0D

instance (b : UInt8) : Decidable (IsBlankByte b) := inferInstanceAs (Decidable (_ ∨ _))

theorem toNat_of_isBlank {c : Char} (h : Source.isBlank (some c) = true) :
    c.toNat = 0x20 ∨ c.toNat = 0x0A ∨ c.toNat = 0x09 ∨ c.toNat = 0x0D := by
  simp only [Source.isBlank, Bool.or_eq_true, beq_iff_eq, Option.some.injEq] at h
  rcases h with ((rfl | rfl) | rfl) | rfl <;> decide

/-- A number that is too large for a blank is no code point of one. -/
theorem isBlank_ofNat {n : Nat} (large : 0x80 ≤ n) :
    Source.isBlank (some (Char.ofNat n)) = false := by
  rw [← Bool.not_eq_true]
  intro blank
  have small := toNat_of_isBlank blank
  have code : (Char.ofNat n).toNat = n ∨ (Char.ofNat n).toNat = 0 := by
    by_cases valid : n.isValidChar
    · left
      rw [Char.ofNat, dif_pos valid]
      rfl
    · right
      rw [Char.ofNat, dif_neg valid]
      rfl
  omega

/-- A blank takes one byte, and only a blank starts with that byte. -/
theorem firstChar?_blank {b : UInt8} {bytes : Text.Utf8.Bytes} {c : Char} {k : Nat}
    (first : Text.Utf8.firstChar? b bytes = some (c, k)) (blank : Source.isBlank (some c) = true) :
    k = 0 ∧ IsBlankByte b := by
  have small : ∀ {n k' : Nat}, some (Char.ofNat n, k') = some (c, k) → n < 0x80 := by
    intro n k' same
    cases same
    refine Nat.lt_of_not_le fun large => ?_
    rw [isBlank_ofNat large] at blank
    cases blank
  unfold Text.Utf8.firstChar? at first
  dsimp only at first
  split at first
  · rename_i ascii
    cases first
    -- There are few enough characters of one byte to look at each.
    have blanks : ∀ n < 0x80, Source.isBlank (some (Char.ofNat n)) = true →
        n = 0x20 ∨ n = 0x0A ∨ n = 0x09 ∨ n = 0x0D := by decide
    have code := blanks b.toNat ascii blank
    refine ⟨rfl, ?_⟩
    rw [IsBlankByte, ← UInt8.toNat_inj, ← UInt8.toNat_inj, ← UInt8.toNat_inj, ← UInt8.toNat_inj]
    exact code
  · -- All other characters are beyond the blanks.
    split at first
    · split at first
      · have := small first
        omega
      · cases first
    split at first
    · split at first
      · split at first
        · have := small first
          omega
        · cases first
      · cases first
    split at first
    · split at first
      · split at first
        · have := small first
          omega
        · cases first
      · cases first
    · cases first

/-- **Bytes hold nothing but blanks if each of them is one.** -/
theorem skipBlanks_ofBytes (bytes : Text.Utf8.Bytes) :
    skipBlanks (Source.ofBytes bytes) = [] ↔ ∀ b ∈ bytes, IsBlankByte b := by
  have ascii : ∀ b : UInt8, IsBlankByte b → ∀ more, ∃ c, Source.isBlank (some c) = true ∧
      Text.Utf8.firstChar? b more = some (c, 0) := by
    rintro b (rfl | rfl | rfl | rfl) more <;> exact ⟨_, rfl, rfl⟩
  induction bytes with
  | nil => simp [Source.ofBytes, Text.Utf8.units, skipBlanks]
  | cons b more ih =>
      rw [Source.ofBytes] at ih ⊢
      constructor
      · intro empty
        rw [Text.Utf8.units] at empty
        split at empty
        · rename_i c k first
          cases blank : Source.isBlank (some c) with
          | false => rw [skipBlanks_visible blank] at empty; cases empty
          | true =>
              obtain ⟨rfl, isBlank⟩ := firstChar?_blank first blank
              rw [skipBlanks, List.dropWhile_cons_of_pos blank] at empty
              intro b' hb'
              rcases List.mem_cons.1 hb' with rfl | inside
              · exact isBlank
              · exact ih.1 empty b' inside
        · cases empty
      · intro all
        obtain ⟨c, blank, first⟩ := ascii b (all b List.mem_cons_self) more
        rw [Text.Utf8.units, first]
        dsimp only
        rw [skipBlanks, List.dropWhile_cons_of_pos blank]
        exact ih.2 fun b' hb' => all b' (List.mem_cons_of_mem b hb')

/-! ## Escapes

Three kinds of escapes denote a character: one letter behind the backslash, four digits, and two
times four digits for a character beyond those.
-/

/-- Four hexadecimal digits denote the same number in a row as one by one. -/
theorem hexNumber?_eq (a b c d : Char) :
    hexNumber? (some a) (some b) (some c) (some d) = Text.number? 16 [a, b, c, d] := by
  simp only [hexNumber?, Text.number?, List.foldlM_cons, List.foldlM_nil, Option.bind_eq_bind,
    Option.bind_some]
  cases Text.digitValue? 16 a <;> cases Text.digitValue? 16 b <;>
    cases Text.digitValue? 16 c <;> cases Text.digitValue? 16 d <;>
    simp [Nat.mul_comm]

theorem readHex_isHex {digits : List Char} {n : Nat} (h : IsHex digits n) (rest : Source) :
    readHex (digits.map some ++ rest) = .ok (n, rest) := by
  obtain ⟨four, denotes⟩ := h
  obtain ⟨a, b, c, d, rfl⟩ : ∃ a b c d, digits = [a, b, c, d] := by
    match digits, four with
    | [a, b, c, d], _ => exact ⟨a, b, c, d, rfl⟩
  simp only [List.map_cons, List.map_nil, List.cons_append, List.nil_append, readHex,
    hexNumber?_eq, denotes]

theorem simpleEscape?_of_mem {letter c : Char} (h : (letter, c) ∈ shortEscapes) :
    letter ≠ 'u' ∧ simpleEscape? letter = some c := by
  revert letter c
  have all : ∀ pair ∈ shortEscapes, pair.1 ≠ 'u' ∧ simpleEscape? pair.1 = some pair.2 := by decide
  intro letter c h
  exact all _ h

theorem readEscape_short {letter c : Char} (h : (letter, c) ∈ shortEscapes) (rest : Source) :
    readEscape (some letter :: rest) = .ok (c, rest) := by
  obtain ⟨other, known⟩ := simpleEscape?_of_mem h
  simp only [readEscape, if_neg other, known]

/-- The code point of a character is no half of a pair. -/
theorem readEscape_point {digits : List Char} {c : Char} (h : IsHex digits c.toNat)
    (rest : Source) : readEscape (some 'u' :: (digits.map some ++ rest)) = .ok (c, rest) := by
  have unpaired := (Text.Utf8.toNat_char c).2
  have low : ¬(0xDC00 ≤ c.toNat ∧ c.toNat ≤ 0xDFFF) := by omega
  have high : ¬(0xD800 ≤ c.toNat ∧ c.toNat ≤ 0xDBFF) := by omega
  simp only [readEscape, if_true, readCodePoint, readHex_isHex h, if_neg low, if_neg high,
    Char.ofNat_toNat]

/-- Two halves are read as the character that they make up. -/
theorem readEscape_pair {high low : List Char} {a b : Nat} {c : Char}
    (hexHigh : IsHex high (0xD800 + a)) (hexLow : IsHex low (0xDC00 + b)) (smallHigh : a < 0x400)
    (smallLow : b < 0x400) (whole : c.toNat = 0x10000 + a * 0x400 + b) (rest : Source) :
    readEscape (some 'u' :: (high.map some ++ some '\\' :: some 'u' :: (low.map some ++ rest)))
      = .ok (c, rest) := by
  have notLow : ¬(0xDC00 ≤ 0xD800 + a ∧ 0xD800 + a ≤ 0xDFFF) := by omega
  have isHigh : 0xD800 ≤ 0xD800 + a ∧ 0xD800 + a ≤ 0xDBFF := by omega
  have isLow : 0xDC00 ≤ 0xDC00 + b ∧ 0xDC00 + b ≤ 0xDFFF := by omega
  have value : (0xD800 + a - 0xD800) * 0x400 + (0xDC00 + b - 0xDC00) + 0x10000 = c.toNat := by omega
  simp only [readEscape, if_true, readCodePoint, readHex_isHex hexHigh, if_neg notLow,
    if_pos isHigh, readLowHalf, readHex_isHex hexLow, if_pos isLow, value, Char.ofNat_toNat]

/-! ## Reading strings -/

def withFront (c : Char) (read : Except Halt (List (Option Char) × Source)) :
    Except Halt (List (Option Char) × Source) :=
  read.map fun found => (some c :: found.1, found.2)

/-- An escape is read as the character that it stands for. -/
theorem readUnits_escape {source rest : Source} {c : Char} (h : readEscape source = .ok (c, rest)) :
    readUnits (some '\\' :: source) = withFront c (readUnits rest) := by
  rw [readUnits, if_neg (by decide), if_pos rfl]
  split
  · rename_i failed
    rw [h] at failed
    cases failed
  · rename_i c' rest' read
    rw [h] at read
    cases read
    cases readUnits rest <;> rfl

theorem not_isControl {c : Char} (h : IsPlainChar c) : ¬isControl (some c) = true := by
  have visible : ¬c.toNat < 0x20 := Nat.not_lt.2 h.2.2
  simpa [isControl] using visible

/-- A character that may stand in a string as it is is read as itself. -/
theorem readUnits_plain {c : Char} (h : IsPlainChar c) (rest : Source) :
    readUnits (some c :: rest) = withFront c (readUnits rest) := by
  rw [readUnits, if_neg (by simpa using h.1), if_neg (by simpa using h.2.1),
    if_neg (not_isControl h)]
  cases readUnits rest <;> rfl

/-- The units of a string are those of the characters that it spells. -/
theorem readUnits_spells {inner cs : List Char} (h : Spells inner cs) (rest : Source) :
    readUnits (inner.map some ++ some '"' :: rest) = .ok (cs.map some, rest) := by
  induction h with
  | nil => rw [List.map_nil, List.nil_append, readUnits, if_pos rfl]
  | plain plain _ ih =>
      rw [List.map_cons, List.cons_append, readUnits_plain plain, ih]
      rfl
  | short known _ ih =>
      rw [List.map_cons, List.map_cons, List.cons_append, List.cons_append,
        readUnits_escape (readEscape_short known _), ih]
      rfl
  | point hex _ ih =>
      rw [List.map_cons, List.map_cons, List.map_append, List.cons_append, List.cons_append,
        List.append_assoc, readUnits_escape (readEscape_point hex _), ih]
      rfl
  | @pair high low _ _ _ inner _ hexHigh hexLow smallHigh smallLow whole _ ih =>
      have shape : ('\\' :: 'u' :: (high ++ '\\' :: 'u' :: (low ++ inner))).map some
            ++ some '"' :: rest
          = some '\\' :: some 'u' :: (high.map some ++ some '\\' :: some 'u' ::
            (low.map some ++ (inner.map some ++ some '"' :: rest))) := by simp
      rw [shape, readUnits_escape (readEscape_pair hexHigh hexLow smallHigh smallLow whole _), ih]
      rfl

/-- **A string is read as the characters that it spells.** -/
theorem readString_spells {inner : List Char} {s : String} (h : Spells inner s.toList)
    (rest : Source) : readString (inner.map some ++ some '"' :: rest) = .ok (s, rest) := by
  have whole : (s.toList.map some).mapM id = some s.toList := by
    rw [List.mapM_map]
    induction s.toList with
    | nil => rfl
    | cons c cs ih =>
        rw [List.mapM_cons, ih]
        rfl
  simp only [readString, readUnits_spells h, whole, String.ofList_toList]

/-! ## Skipping strings -/

theorem skipString_escape {source rest : Source} (h : skipEscape source = .ok rest) :
    skipString (some '\\' :: source) = skipString rest := by
  rw [skipString, if_neg (by decide), if_pos rfl]
  split
  · rename_i failed
    rw [h] at failed
    cases failed
  · rename_i rest' skipped
    rw [h] at skipped
    cases skipped
    rfl

/-- **A string that nobody reads is skipped.** -/
theorem skipString_inner {inner : List Char} (h : IsInner inner) (rest : Source) :
    skipString (inner.map some ++ some '"' :: rest) = .ok rest := by
  induction h with
  | nil => rw [List.map_nil, List.nil_append, skipString, if_pos rfl]
  | plain plain _ ih =>
      rw [List.map_cons, List.cons_append, skipString, if_neg (by simpa using plain.1),
        if_neg (by simpa using plain.2.1), if_neg (not_isControl plain), ih]
  | @short letter c inner known _ ih =>
      obtain ⟨other, simple⟩ := simpleEscape?_of_mem known
      have skipped : ∀ rest, skipEscape (some letter :: rest) = .ok rest := by
        intro rest
        rw [skipEscape, if_neg other, simple]
        rfl
      rw [List.map_cons, List.map_cons, List.cons_append, List.cons_append,
        skipString_escape (skipped _), ih]
  | @point digits n inner hex _ ih =>
      have skipped : ∀ rest, skipEscape (some 'u' :: (digits.map some ++ rest)) = .ok rest := by
        intro rest
        simp only [skipEscape, if_true, readHex_isHex hex]
      rw [List.map_cons, List.map_cons, List.map_append, List.cons_append, List.cons_append,
        List.append_assoc, skipString_escape (skipped _), ih]

/-! ## Writing

What is written uses short escapes where there are any, four digits for other controls, and leaves
every other character as it is.
-/

/-- The digits with which a control character is written denote it. -/
theorem isHex_control : ∀ n < 0x20,
    IsHex (List.replicate (4 - (Nat.toDigits 16 n).length) '0' ++ Nat.toDigits 16 n) n := by
  unfold IsHex
  decide

/-- **A character spells itself the way in which it is written.** -/
theorem spells_escapedChar (c : Char) {inner cs : List Char} (more : Spells inner cs) :
    Spells (escapedChar c ++ inner) (c :: cs) := by
  unfold escapedChar
  split
  -- Seven characters have escapes of their own.
  iterate 7 exact .short (by decide) more
  · rename_i quote backslash _ _ _ _ _
    split
    · rename_i control
      have written := Spells.point (isHex_control c.toNat control) more
      simpa using written
    · rename_i visible
      exact .plain ⟨quote, backslash, Nat.not_lt.1 visible⟩ more

theorem spells_escaped (cs : List Char) : Spells (cs.flatMap escapedChar) cs := by
  induction cs with
  | nil => exact .nil
  | cons c cs ih => exact spells_escapedChar c ih

/-- A string is written as one that spells it. -/
theorem isString_stringText (s : String) : IsString (stringText s) s :=
  ⟨s.toList.flatMap escapedChar, spells_escaped s.toList, rfl⟩

/-- A list is written as one of its written items. -/
theorem isList_listText {α : Type} {holds : List Char → α → Prop} {write : α → List Char}
    (h : ∀ x, holds (write x) x) (xs : List α) : IsList holds xs (listText (xs.map write)) := by
  refine ⟨xs.map fun x => ⟨[], write x, []⟩, ⟨⟨_, .inl rfl, ?_⟩, ?_⟩, ?_⟩
  · have texts : (xs.map fun x => (⟨[], write x, []⟩ : Item)).map Item.text = xs.map write := by
      simp [Item.text]
    rw [texts]
    rfl
  · intro item here
    obtain ⟨x, -, rfl⟩ := List.mem_map.1 here
    exact ⟨isBlank_nil, isBlank_nil⟩
  · rw [List.forall₂_map_left_iff, List.forall₂_same]
    exact fun x _ => h x

def writtenMember (member : String × List Char) : Member :=
  ⟨[], member.1.toList.flatMap escapedChar, [], ⟨[], member.2, []⟩⟩

theorem writtenMember_isPadded (member : String × List Char) : (writtenMember member).IsPadded :=
  ⟨isBlank_nil, isBlank_nil, isBlank_nil, isBlank_nil⟩

/-- An object is written as one of its written members. -/
theorem isEnclosed_objectText (members : List (String × List Char)) :
    IsEnclosed '\x7b' '\x7d' ((members.map writtenMember).map Member.text)
      (objectText members) := by
  refine ⟨_, .inl rfl, ?_⟩
  have texts : (members.map writtenMember).map Member.text
      = members.map fun member => stringText member.1 ++ [':'] ++ member.2 := by
    rw [List.map_map]
    refine List.map_congr_left fun member _ => ?_
    simp [Member.text, Item.text, writtenMember, quoted, stringText]
  rw [texts]
  rfl

theorem isObject_objectText {ι : Type} {tells : Member → ι → Prop}
    {members : List (String × List Char)} {xs : List ι}
    (h : List.Forall₂ (fun member x => tells (writtenMember member) x) members xs) :
    IsObject tells xs (objectText members) := by
  refine ⟨members.map writtenMember, ⟨isEnclosed_objectText members, ?_⟩, ?_⟩
  · intro member here
    obtain ⟨written, -, rfl⟩ := List.mem_map.1 here
    exact writtenMember_isPadded written
  · rwa [List.forall₂_map_left_iff]

end WebCapture.Json
