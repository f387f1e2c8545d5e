import Mathlib
import WebCapture.Proofs.Text.Digits
import WebCapture.Proofs.Text.Utf8
import WebCapture.Time.Reading

set_option autoImplicit false

/-! # Numbers of a fixed width

Bytes that are digits spell a number. In a fixed width every number has one spelling, and
spellings compare as the numbers do (`Spells.compare`).

Stamps and times are cut into numbers of known widths, and texts are put together from them.
`Spells` is the one notion for both: what is written spells its number (`spells_padded`),
spellings are appended (`Spells.append`), and what is spelled is read back.
-/

namespace WebCapture.Time

open Text.Utf8 (Bytes)

/-! ## Single digits -/

theorem digit?_digitChar {v : Nat} (h : v < 10) :
    digit? (UInt8.ofNat v.digitChar.toNat) = some v := by
  have all : ∀ v : Fin 10, digit? (UInt8.ofNat v.val.digitChar.toNat) = some v.val := by decide
  exact all ⟨v, h⟩

theorem encodeChar_digitChar {v : Nat} (h : v < 10) :
    Text.Utf8.encodeChar v.digitChar = [UInt8.ofNat v.digitChar.toNat] := by
  have all : ∀ v : Fin 10, Text.Utf8.encodeChar v.val.digitChar
      = [UInt8.ofNat v.val.digitChar.toNat] := by decide
  exact all ⟨v, h⟩

/-- Digits are characters of one byte each. -/
theorem encodeChar_of_digits {c : Char}
    (h : (Text.Utf8.encodeChar c).all (digit? · |>.isSome) = true) :
    c.isDigit = true ∧ Text.Utf8.encodeChar c = [UInt8.ofNat c.toNat] := by
  have lead : ∀ m < 256, (UInt8.ofNat m).toNat = m := fun m small => UInt8.toNat_ofNat_of_lt' small
  have top : c.toNat < 0x110000 := (Text.Utf8.toNat_char c).1
  have inside : ∀ {m : Nat} {more : Bytes}, m < 256 →
      (UInt8.ofNat m :: more).all (digit? · |>.isSome) = true → 0x30 ≤ m ∧ m ≤ 0x39 := by
    intro m more small all
    rw [List.all_cons, Bool.and_eq_true] at all
    by_contra outside
    rw [digit?, lead m small, if_neg outside] at all
    cases all.1
  unfold Text.Utf8.encodeChar at h ⊢
  dsimp only at h ⊢
  by_cases one : c.toNat < 0x80
  · rw [if_pos one] at h ⊢
    obtain ⟨low, high⟩ := inside (by omega) h
    refine ⟨?_, rfl⟩
    rw [Char.isDigit, Bool.and_eq_true, decide_eq_true_eq, decide_eq_true_eq]
    exact ⟨UInt32.le_iff_toNat_le.mpr low, UInt32.le_iff_toNat_le.mpr high⟩
  · -- The first of several bytes is no digit.
    rw [if_neg one] at h
    exfalso
    split at h
    · have := inside (by omega) h
      omega
    · split at h
      · have := inside (by omega) h
        omega
      · have := inside (by omega) h
        omega

/-- A text whose bytes are digits consists of digits. -/
theorem encode_of_digits {cs : List Char}
    (h : (Text.Utf8.encode cs).all (digit? · |>.isSome) = true) :
    (∀ c ∈ cs, c.isDigit = true) ∧
      Text.Utf8.encode cs = cs.map fun c => UInt8.ofNat c.toNat := by
  induction cs with
  | nil => exact ⟨fun c hc => absurd hc List.not_mem_nil, rfl⟩
  | cons c more ih =>
      have split : Text.Utf8.encode (c :: more) = Text.Utf8.encodeChar c ++ Text.Utf8.encode more :=
        List.flatMap_cons
      rw [split, List.all_append, Bool.and_eq_true] at h
      obtain ⟨digit, byte⟩ := encodeChar_of_digits h.1
      obtain ⟨digits, bytes⟩ := ih h.2
      refine ⟨List.forall_mem_cons.mpr ⟨digit, digits⟩, ?_⟩
      rw [split, byte, bytes]
      rfl

/-- Bytes that spell a number in so many digits. -/
def Spells (bytes : Bytes) (width n : Nat) : Prop :=
  bytes.length = width ∧ bytes.all (digit? · |>.isSome) = true ∧ number bytes = n

theorem number_append (bytes : Bytes) (b : UInt8) :
    number (bytes ++ [b]) = 10 * number bytes + (digit? b).getD 0 := by
  rw [number, number, List.foldl_append]
  rfl

theorem spells_snoc {bytes : Bytes} {width n v : Nat} (h : Spells bytes width n) (hv : v < 10) :
    Spells (bytes ++ Text.Utf8.encodeChar v.digitChar) (width + 1) (10 * n + v) := by
  obtain ⟨length, digits, value⟩ := h
  rw [encodeChar_digitChar hv]
  refine ⟨?_, ?_, ?_⟩
  · rw [List.length_append, length]
    rfl
  · rw [List.all_append, digits, List.all_cons, digit?_digitChar hv]
    rfl
  · rw [number_append, value, digit?_digitChar hv]
    rfl

theorem encode_snoc (cs : List Char) (c : Char) :
    Text.Utf8.encode (cs ++ [c]) = Text.Utf8.encode cs ++ Text.Utf8.encodeChar c := by
  rw [Text.Utf8.encode, List.flatMap_append, List.flatMap_singleton]
  rfl

theorem spells_decimal (n : Nat) :
    Spells (Text.Utf8.encode (Text.decimal n)) (Text.decimal n).length n := by
  induction n using Nat.strongRecOn with
  | ind n ih =>
      by_cases h : n < 10
      · have one : Spells ([] ++ Text.Utf8.encodeChar n.digitChar) (0 + 1) (10 * 0 + n) :=
          spells_snoc ⟨rfl, rfl, rfl⟩ h
        have digit : Text.decimal n = [] ++ [n.digitChar] := Nat.toDigits_of_lt_base h
        rw [Nat.mul_zero, Nat.zero_add, Nat.zero_add] at one
        rwa [digit, encode_snoc]
      · -- The last digit is spelled behind the others.
        have split : Text.decimal n = Text.decimal (n / 10) ++ [(n % 10).digitChar] :=
          Nat.toDigits_of_base_le (by decide) (by omega)
        have more := spells_snoc (ih (n / 10) (by omega)) (Nat.mod_lt n (by decide : 0 < 10))
        rw [Nat.div_add_mod] at more
        rwa [split, encode_snoc, List.length_append]

theorem spells_zeros {bytes : Bytes} {width n : Nat} (k : Nat) (h : Spells bytes width n) :
    Spells (List.replicate k 0x30 ++ bytes) (k + width) n := by
  obtain ⟨length, digits, value⟩ := h
  refine ⟨?_, ?_, ?_⟩
  · rw [List.length_append, List.length_replicate, length]
  · rw [List.all_append, digits, List.all_replicate]
    simp [digit?]
  · rw [number, List.foldl_append]
    have zero : (List.replicate k (0x30 : UInt8)).foldl
        (fun n b => 10 * n + (digit? b).getD 0) 0 = 0 := by
      induction k with
      | zero => rfl
      | succ k ih => exact ih
    rw [zero]
    exact value

/-- A padded number is spelled in so many digits if it has no more. -/
theorem spells_padded {width n : Nat} (positive : 0 < width) (h : n < 10 ^ width) :
    Spells (Text.Utf8.ofString (padded width n)) width n := by
  have short : (Text.decimal n).length ≤ width :=
    (Nat.length_toDigits_le_iff (by decide) positive).mpr h
  have zeros : ∀ k : Nat, Text.Utf8.encode (List.replicate k '0') = List.replicate k 0x30 := by
    intro k
    induction k with
    | zero => rfl
    | succ k ih =>
        rw [List.replicate_succ, Text.Utf8.encode, List.flatMap_cons]
        exact congrArg (0x30 :: ·) ih
  have whole := spells_zeros (width - (Text.decimal n).length) (spells_decimal n)
  rw [Nat.sub_add_cancel short] at whole
  rw [padded, Text.Utf8.ofString_ofList, Text.Utf8.encode, List.flatMap_append]
  show Spells (Text.Utf8.encode (List.replicate (width - (Text.decimal n).length) '0')
    ++ Text.Utf8.encode (Text.decimal n)) width n
  rwa [zeros]

/-! ## Digits in front

Numbers are read from the front, so that each digit moves all those before it up by one place.
Taken from the back the value of a digit depends on how many follow.
-/

/-- Digits behind others count in lower places. -/
theorem foldl_number (bytes : Bytes) (n : Nat) :
    bytes.foldl (fun n b => 10 * n + (digit? b).getD 0) n
      = n * 10 ^ bytes.length + number bytes := by
  induction bytes generalizing n with
  | nil =>
      show n = n * 10 ^ 0 + 0
      omega
  | cons b more ih =>
      have whole : number (b :: more)
          = more.foldl (fun n b => 10 * n + (digit? b).getD 0) ((digit? b).getD 0) := by
        show more.foldl _ (10 * 0 + (digit? b).getD 0) = _
        rw [Nat.mul_zero, Nat.zero_add]
      rw [List.foldl_cons, ih, whole, ih, List.length_cons, Nat.pow_succ]
      ring

theorem number_cons (b : UInt8) (bytes : Bytes) :
    number (b :: bytes) = (digit? b).getD 0 * 10 ^ bytes.length + number bytes := by
  have zero : 10 * 0 + (digit? b).getD 0 = (digit? b).getD 0 := by omega
  rw [← foldl_number, ← zero]
  rfl

theorem number_behind (bytes more : Bytes) :
    number (bytes ++ more) = number bytes * 10 ^ more.length + number more := by
  rw [← foldl_number, number, number, List.foldl_append]

theorem digit?_le (b : UInt8) : (digit? b).getD 0 ≤ 9 := by
  unfold digit?
  split
  · rw [Option.getD_some]
    omega
  · exact Nat.zero_le 9

theorem number_lt (bytes : Bytes) : number bytes < 10 ^ bytes.length := by
  induction bytes with
  | nil => exact Nat.one_pos
  | cons b more ih =>
      have small := digit?_le b
      calc number (b :: more)
          = (digit? b).getD 0 * 10 ^ more.length + number more := number_cons b more
        _ < (digit? b).getD 0 * 10 ^ more.length + 10 ^ more.length := by omega
        _ = ((digit? b).getD 0 + 1) * 10 ^ more.length := by ring
        _ ≤ 10 * 10 ^ more.length := Nat.mul_le_mul_right _ (by omega)
        _ = 10 ^ (more.length + 1) := by ring

/-! ## Spellings -/

theorem Spells.append {bytes more : Bytes} {width width' n n' : Nat} (h : Spells bytes width n)
    (h' : Spells more width' n') :
    Spells (bytes ++ more) (width + width') (n * 10 ^ width' + n') := by
  obtain ⟨length, digits, value⟩ := h
  obtain ⟨length', digits', value'⟩ := h'
  refine ⟨?_, ?_, ?_⟩
  · rw [List.length_append, length, length']
  · rw [List.all_append, digits, digits', Bool.and_self]
  · rw [number_behind, value, value', length']

/-- A number is spelled in its digits. -/
theorem spells_of_all {bytes : Bytes} (h : bytes.all (digit? · |>.isSome) = true) :
    Spells bytes bytes.length (number bytes) :=
  ⟨rfl, h, rfl⟩

/-- A digit and what is spelled behind it. -/
theorem Spells.uncons {b : UInt8} {bytes : Bytes} {width n : Nat}
    (h : Spells (b :: bytes) (width + 1) n) :
    0x30 ≤ b.toNat ∧ b.toNat ≤ 0x39 ∧
      ∃ m, Spells bytes width m ∧ n = (b.toNat - 0x30) * 10 ^ width + m := by
  obtain ⟨length, digits, value⟩ := h
  rw [List.length_cons, Nat.succ_inj] at length
  rw [List.all_cons, Bool.and_eq_true] at digits
  obtain ⟨first, others⟩ := digits
  have range : 0x30 ≤ b.toNat ∧ b.toNat ≤ 0x39 := by
    by_contra outside
    rw [digit?, if_neg outside] at first
    cases first
  refine ⟨range.1, range.2, number bytes, ⟨length, others, rfl⟩, ?_⟩
  rw [← value, number_cons, digit?, if_pos range, Option.getD_some, length]

variable {bytes bytes' : Bytes} {width n n' : Nat}

/-- **Spellings of one width compare as the numbers do**, and a number has one of them. -/
theorem Spells.compare (h : Spells bytes width n) (h' : Spells bytes' width n') :
    (bytes < bytes' ↔ n < n') ∧ (bytes = bytes' ↔ n = n') := by
  induction width generalizing bytes bytes' n n' with
  | zero =>
      obtain ⟨length, -, rfl⟩ := h
      obtain ⟨length', -, rfl⟩ := h'
      obtain rfl := List.length_eq_zero_iff.mp length
      obtain rfl := List.length_eq_zero_iff.mp length'
      simp
  | succ width ih =>
      obtain ⟨b, more, rfl⟩ := List.exists_cons_of_length_eq_add_one h.1
      obtain ⟨b', more', rfl⟩ := List.exists_cons_of_length_eq_add_one h'.1
      obtain ⟨low, high, m, spelled, rfl⟩ := h.uncons
      obtain ⟨low', high', m', spelled', rfl⟩ := h'.uncons
      obtain ⟨less, same⟩ := ih spelled spelled'
      have small : m < 10 ^ width := by
        obtain ⟨length, -, rfl⟩ := spelled
        exact length ▸ number_lt more
      have small' : m' < 10 ^ width := by
        obtain ⟨length, -, rfl⟩ := spelled'
        exact length ▸ number_lt more'
      rw [List.cons_lt_cons_iff, List.cons.injEq, less, same, UInt8.lt_iff_toNat_lt,
        ← UInt8.toNat_inj]
      -- The first digits decide, unless they are the same.
      rcases Nat.lt_trichotomy b.toNat b'.toNat with before | equal | after
      · have gap : (b.toNat - 0x30 + 1) * 10 ^ width ≤ (b'.toNat - 0x30) * 10 ^ width :=
          Nat.mul_le_mul_right _ (by omega)
        rw [Nat.add_mul, Nat.one_mul] at gap
        omega
      · rw [equal]
        omega
      · have gap : (b'.toNat - 0x30 + 1) * 10 ^ width ≤ (b.toNat - 0x30) * 10 ^ width :=
          Nat.mul_le_mul_right _ (by omega)
        rw [Nat.add_mul, Nat.one_mul] at gap
        omega

end WebCapture.Time
