import Mathlib.Data.List.Forall2
import Mathlib.Data.String.Basic
import WebCapture.Proofs.Text.Blank
import WebCapture.Service.Submission

set_option autoImplicit false

/-! # The lines of a submission

The lines of a text are admitted one by one and in their order (`admitLines_eq_ok`), up to the
first that is not (`admitLines_eq_error`). The sizes that are checked before are those of the
whole text; what its lines take of them is said by `spent_linesOf`.

The number with which lines are counted on is a parameter, since the induction is over the lines
that are left.
-/

namespace WebCapture.Service

variable {strict : Bool} {number : Nat} {line : String} {lines front back : List String}

/-! ## Lines that are admitted -/

/-- Behind a line that is admitted the lines are numbered on. -/
theorem admitLines_cons {url : Url.CleanUrl} (h : Url.vet line strict = .ok url) :
    admitLines strict number (line :: lines) =
      (admitLines strict (number + 1) lines).map (url :: ·) := by
  rw [admitLines, h]
  cases admitLines strict (number + 1) lines <;> rfl

/-- All lines are admitted if each of them is. -/
theorem admitLines_eq_ok {urls : List Url.CleanUrl} :
    admitLines strict number lines = .ok urls ↔
      List.Forall₂ (fun line url => Url.vet line strict = .ok url) lines urls := by
  induction lines generalizing number urls with
  | nil => cases urls <;> simp [admitLines]
  | cons line more ih =>
      cases vetted : Url.vet line strict with
      | error refusal => cases urls <;> simp [admitLines, vetted]
      | ok first =>
          rw [admitLines_cons vetted]
          have onward : ∀ urls, admitLines strict (number + 1) more = .ok urls ↔
              List.Forall₂ (fun line url => Url.vet line strict = .ok url) more urls := fun _ => ih
          cases rest : admitLines strict (number + 1) more with
          | error e => cases urls <;> simp [Except.map, ← onward, rest]
          | ok others => cases urls <;> simp [Except.map, ← onward, rest, vetted]

def Admitted (strict : Bool) (line : String) : Prop := ∃ url, Url.vet line strict = .ok url

/-- **The first line that is not admitted is told with its number.** -/
theorem admitLines_eq_error {e : SeedError} :
    admitLines strict number lines = .error e ↔
      ∃ front line back refusal, lines = front ++ line :: back ∧
        (∀ earlier ∈ front, Admitted strict earlier) ∧ Url.vet line strict = .error refusal ∧
        e = .invalidUrl (number + front.length) refusal := by
  -- The lines that are left are counted on from `number`, so the number varies.
  induction lines generalizing number with
  | nil =>
      constructor
      · intro h
        cases h
      · rintro ⟨front, line, back, refusal, impossible, -⟩
        cases front <;> cases impossible
  | cons first more ih =>
      -- Either the first line is the one that is refused, or it lies in front of that one.
      cases vetted : Url.vet first strict with
      | error refusal =>
          rw [admitLines, vetted]
          constructor
          · intro h
            cases h
            exact ⟨[], first, more, refusal, rfl, by simp, vetted, rfl⟩
          · rintro ⟨front, line, back, refusal', parts, admitted, refused, rfl⟩
            cases front with
            | nil =>
                cases parts
                cases vetted.symm.trans refused
                rfl
            | cons head front =>
                cases parts
                obtain ⟨url, fine⟩ := admitted first List.mem_cons_self
                cases vetted.symm.trans fine
      | ok url =>
          have onward : admitLines strict number (first :: more) = .error e ↔
              admitLines strict (number + 1) more = .error e := by
            rw [admitLines_cons vetted]
            cases admitLines strict (number + 1) more <;> simp [Except.map]
          rw [onward, ih]
          constructor
          · rintro ⟨front, line, back, refusal, rfl, admitted, refused, rfl⟩
            refine ⟨first :: front, line, back, refusal, rfl, ?_, refused, ?_⟩
            · exact List.forall_mem_cons.mpr ⟨⟨url, vetted⟩, admitted⟩
            · rw [List.length_cons, Nat.add_assoc, Nat.add_comm 1]
          · rintro ⟨front, line, back, refusal, parts, admitted, refused, rfl⟩
            cases front with
            | nil =>
                cases parts
                cases vetted.symm.trans refused
            | cons head front =>
                cases parts
                refine ⟨front, line, back, refusal, rfl, ?_, refused, ?_⟩
                · exact (List.forall_mem_cons.mp admitted).2
                · rw [List.length_cons, Nat.add_assoc, Nat.add_comm 1]

/-- Lines are admitted if each of them is, and only then. -/
theorem exists_admitLines_eq_ok :
    (∃ urls, admitLines strict number lines = .ok urls) ↔ ∀ line ∈ lines, Admitted strict line := by
  constructor
  · rintro ⟨urls, admitted⟩
    have each := admitLines_eq_ok.mp admitted
    clear admitted
    induction each with
    | nil => simp
    | cons vetted more ih => exact List.forall_mem_cons.mpr ⟨⟨_, vetted⟩, ih⟩
  · intro admitted
    cases outcome : admitLines strict number lines with
    | ok urls => exact ⟨urls, rfl⟩
    | error e =>
        obtain ⟨front, line, back, refusal, rfl, -, refused, -⟩ := admitLines_eq_error.mp outcome
        obtain ⟨url, vetted⟩ := admitted line (by simp)
        cases refused.symm.trans vetted

/-! ## Sizes -/

variable {rules : Rules} {text : String}

structure Fits (rules : Rules) (text : String) : Prop where
  filled : text ≠ ""
  size : text.utf8ByteSize ≤ rules.sizeLimit
  lines : (linesOf text).length ≤ rules.maxLines

theorem sizeError?_eq_none : sizeError? rules text = none ↔ Fits rules text := by
  unfold sizeError?
  dsimp only
  constructor
  · intro h
    split at h
    · cases h
    split at h
    · cases h
    split at h
    · cases h
    · exact ⟨by assumption, by omega, by omega⟩
  · rintro ⟨filled, size, lines⟩
    rw [if_neg filled, if_neg (by omega), if_neg (by omega)]

/-- The bytes that lines take in a text, each with the mark behind it. -/
def spent : List String → Nat
  | [] => 0
  | line :: more => line.utf8ByteSize + 1 + spent more

theorem spent_append (front back : List String) :
    spent (front ++ back) = spent front + spent back := by
  induction front with
  | nil => exact (Nat.zero_add _).symm
  | cons line front ih => rw [List.cons_append, spent, spent, ih, ← Nat.add_assoc]

/-- Pieces take the text that joins them, and a mark more. -/
theorem spent_of_intercalate {pieces : List (List Char)} (filled : pieces ≠ []) :
    spent (pieces.map String.ofList) =
      (String.ofList (['\n'].intercalate pieces)).utf8ByteSize + 1 := by
  induction pieces with
  | nil => exact absurd rfl filled
  | cons piece more ih =>
      rw [List.map_cons, spent]
      cases more with
      | nil =>
          rw [List.intercalate_singleton]
          rfl
      | cons second more =>
          have mark : (String.ofList ['\n']).utf8ByteSize = 1 := rfl
          rw [ih (List.cons_ne_nil _ _), List.intercalate_cons_cons, String.ofList_append,
            String.ofList_append, String.utf8ByteSize_append, String.utf8ByteSize_append, mark]
          omega

/-- **The lines of a text take its bytes, and one more**, for behind the last there is no mark. -/
theorem spent_linesOf (text : String) : spent (linesOf text) = text.utf8ByteSize + 1 := by
  rw [linesOf, spent_of_intercalate (List.splitOn_ne_nil _ _), List.intercalate_splitOn,
    String.ofList_toList]

def trimmed (line : String) : String := String.ofList (Text.trimBy Text.isBlank line.toList)

theorem size_trimmed_le (line : String) : (trimmed line).utf8ByteSize ≤ line.utf8ByteSize := by
  have sublist : (Text.trimBy Text.isBlank line.toList).Sublist line.toList := by
    have inner := (List.dropWhile_sublist (l := (line.toList.dropWhile Text.isBlank).reverse)
      Text.isBlank).reverse
    rw [List.reverse_reverse] at inner
    exact inner.trans (List.dropWhile_sublist _)
  have size : line.utf8ByteSize = String.utf8Len line.toList := by
    rw [← String.utf8ByteSize_ofList, String.ofList_toList]
  rw [trimmed, String.utf8ByteSize_ofList, size]
  exact String.utf8Len_le_of_sublist sublist

end WebCapture.Service
