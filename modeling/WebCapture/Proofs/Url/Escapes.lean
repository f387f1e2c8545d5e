import WebCapture.Proofs.Text.Utf8
import WebCapture.Url.Percent

set_option autoImplicit false

/-! # Escapes are made once

A text with escapes holds no character that needs one, so that to escape it again changes nothing.
A text without percent signs is what it stands for.

This is so for a set of characters that leaves those alone with which escapes are written
(`EscapeSet.SparesEscapes`): the percent sign and the digits. The sets for paths, queries and
fragments do.
-/

namespace WebCapture.Url

open WebCapture.Text

def escapeChars : List Char := "%0123456789ABCDEF".toList

/-- The set leaves the characters alone that escapes are written with. -/
def EscapeSet.SparesEscapes (set : EscapeSet) : Prop :=
  escapeChars.all (!needsEscape set ·) = true

/-- No character of the text needs an escape. -/
def Escaped (set : EscapeSet) (cs : List Char) : Prop := ∀ c ∈ cs, needsEscape set c = false

theorem pathSet_sparesEscapes : pathSet.SparesEscapes := by
  unfold EscapeSet.SparesEscapes
  decide

theorem querySet_sparesEscapes : querySet.SparesEscapes := by
  unfold EscapeSet.SparesEscapes
  decide

theorem fragmentSet_sparesEscapes : fragmentSet.SparesEscapes := by
  unfold EscapeSet.SparesEscapes
  decide

variable {set : EscapeSet} {cs : List Char}

theorem hexDigit_mem {n : Nat} (h : n < 16) : hexDigit n ∈ escapeChars := by
  have all : ∀ n : Fin 16, hexDigit n.val ∈ escapeChars := by decide
  exact all ⟨n, h⟩

theorem mem_escapeByte {b : UInt8} {c : Char} (h : c ∈ escapeByte b) : c ∈ escapeChars := by
  have small : b.toNat < 256 := b.toNat_lt
  simp only [escapeByte, List.mem_cons, List.not_mem_nil, or_false] at h
  rcases h with rfl | rfl | rfl
  · decide
  · exact hexDigit_mem (by omega)
  · exact hexDigit_mem (by omega)

/-- What stands in a text with escapes: characters that need none, and those of escapes. -/
theorem mem_escape {c : Char} (h : c ∈ escape set cs) :
    (c ∈ cs ∧ needsEscape set c = false) ∨ c ∈ escapeChars := by
  rw [escape, List.mem_flatMap] at h
  obtain ⟨first, here, h⟩ := h
  rw [escapeChar] at h
  -- A character is written by its bytes or as it is.
  split at h
  · obtain ⟨b, -, h⟩ := List.mem_flatMap.mp h
    exact .inr (mem_escapeByte h)
  · rename_i plain
    rw [List.mem_singleton] at h
    rw [h]
    exact .inl ⟨here, Bool.eq_false_iff.mpr plain⟩

theorem escaped_escape (spares : set.SparesEscapes) (cs : List Char) :
    Escaped set (escape set cs) := by
  intro c h
  rcases mem_escape h with ⟨-, plain⟩ | h
  · exact plain
  · have plain := List.all_eq_true.mp spares c h
    simpa using plain

/-- **A text with escapes stays as it is when it is escaped again.** -/
theorem escape_of_escaped (h : Escaped set cs) : escape set cs = cs := by
  induction cs with
  | nil => rfl
  | cons c rest ih =>
      obtain ⟨first, more⟩ := List.forall_mem_cons.mp h
      rw [escape, List.flatMap_cons, escapeChar, first]
      exact congrArg (c :: ·) (ih more)

/-- A text without percent signs holds no escapes. -/
theorem unescape_of_none (h : ∀ c ∈ cs, c ≠ '%') : unescape cs = Utf8.encode cs := by
  induction cs with
  | nil => rw [unescape, Utf8.encode, List.flatMap_nil]
  | cons c rest ih =>
      obtain ⟨first, more⟩ := List.forall_mem_cons.mp h
      rw [unescape, ih more, Utf8.encode, Utf8.encode, List.flatMap_cons]
      exact fun a b tail percent => absurd percent first

/-- A character that needs an escape stands nowhere in a text with escapes. -/
theorem Escaped.free (h : Escaped set cs) {mark : Char} (hm : mark ∈ set) :
    ∀ c ∈ cs, c ≠ mark := by
  rintro c hc rfl
  have plain := h c hc
  simp only [needsEscape, Bool.or_eq_false_iff, decide_eq_false_iff_not] at plain
  exact plain.2 hm

/-- If the blank needs an escape, a text with escapes holds no blanks and controls. -/
theorem Escaped.visible (h : Escaped set cs) (blank : ' ' ∈ set) :
    ∀ c ∈ cs, 0x20 < c.toNat := by
  intro c hc
  have plain := h c hc
  simp only [needsEscape, Bool.or_eq_false_iff, decide_eq_false_iff_not] at plain
  have notBlank : c.toNat ≠ 0x20 := fun same => h.free blank c hc (Char.toNat_inj.mp same)
  omega

end WebCapture.Url
