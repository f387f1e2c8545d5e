import WebCapture.Text.Digits

set_option autoImplicit false

/-! # Numbers survive as digits

A number that is written in a base up to sixteen is read back as it was, and what holds of the
sixteen digits holds of all its characters.
-/

namespace WebCapture.Text

/-! ## Single digits -/

theorem digitValue?_digitChar {base v : Nat} (small : base ≤ 16) (h : v < base) :
    digitValue? base v.digitChar = some v := by
  have all : ∀ v : Fin 16, ∀ base : Fin 17, v.val < base.val →
      digitValue? base v.val.digitChar = some v.val := by decide
  exact all ⟨v, by omega⟩ ⟨base, by omega⟩ h

/-! ## Whole numbers -/

theorem number?_append (base : Nat) (cs : List Char) (c : Char) :
    number? base (cs ++ [c]) =
      (number? base cs).bind fun n => (digitValue? base c).map (base * n + ·) := by
  rw [number?, number?, List.foldlM_append]
  cases List.foldlM (fun n c => (digitValue? base c).map (base * n + ·)) 0 cs with
  | none => rfl
  | some n =>
      show (digitValue? base c).map (base * n + ·) >>= pure = _
      cases digitValue? base c <;> rfl

/-- **A written number is read back.** The induction takes off the last digit. -/
theorem number?_toDigits {base : Nat} (big : 1 < base) (small : base ≤ 16) (n : Nat) :
    number? base (Nat.toDigits base n) = some n := by
  induction n using Nat.strongRecOn with
  | ind n ih =>
      by_cases h : n < base
      · rw [Nat.toDigits_of_lt_base h, ← List.nil_append [n.digitChar], number?_append,
          digitValue?_digitChar small h]
        show some (base * 0 + n) = some n
        rw [Nat.mul_zero, Nat.zero_add]
      · have shorter : n / base < n := Nat.div_lt_self (by omega) big
        have last : n % base < base := Nat.mod_lt n (by omega)
        rw [Nat.toDigits_of_base_le big (by omega), number?_append, ih _ shorter,
          digitValue?_digitChar small last]
        show some (base * (n / base) + n % base) = some n
        rw [Nat.div_add_mod]

theorem mem_toDigits {base n : Nat} (big : 1 < base) {c : Char} (h : c ∈ Nat.toDigits base n) :
    ∃ v < base, c = v.digitChar := by
  induction n using Nat.strongRecOn with
  | ind n ih =>
      by_cases hn : n < base
      · rw [Nat.toDigits_of_lt_base hn, List.mem_singleton] at h
        exact ⟨n, hn, h⟩
      · rw [Nat.toDigits_of_base_le big (by omega), List.mem_append, List.mem_singleton] at h
        rcases h with h | h
        · exact ih _ (Nat.div_lt_self (by omega) big) h
        · exact ⟨n % base, Nat.mod_lt n (by omega), h⟩

/-- What holds of the sixteen digits holds of every character of a number. -/
theorem forall_mem_toDigits {P : Char → Prop} (h : ∀ v : Fin 16, P v.val.digitChar)
    {base : Nat} (big : 1 < base) (small : base ≤ 16) (n : Nat) :
    ∀ c ∈ Nat.toDigits base n, P c := by
  intro c hc
  obtain ⟨v, hv, rfl⟩ := mem_toDigits big hc
  exact h ⟨v, by omega⟩

theorem forall_mem_decimal {P : Char → Prop} (h : ∀ v : Fin 16, P v.val.digitChar) (n : Nat) :
    ∀ c ∈ decimal n, P c :=
  forall_mem_toDigits h (by decide) (by decide) n

theorem forall_mem_hex {P : Char → Prop} (h : ∀ v : Fin 16, P v.val.digitChar) (n : Nat) :
    ∀ c ∈ hex n, P c :=
  forall_mem_toDigits h (by decide) (by decide) n

theorem number?_decimal (n : Nat) : number? 10 (decimal n) = some n :=
  number?_toDigits (by decide) (by decide) n

theorem number?_hex (n : Nat) : number? 16 (hex n) = some n :=
  number?_toDigits (by decide) (by decide) n

theorem decimal_ne_nil (n : Nat) : decimal n ≠ [] := Nat.toDigits_ne_nil

theorem hex_ne_nil (n : Nat) : hex n ≠ [] := Nat.toDigits_ne_nil

/-- A number that is read is below the limit. -/
theorem numberBelow?_lt {limit n : Nat} {cs : List Char} (h : numberBelow? limit cs = some n) :
    n < limit := by
  unfold numberBelow? at h
  split at h
  · cases h
  · split at h
    · split at h
      · rename_i small
        cases h
        exact small
      · cases h
    · cases h

theorem numberBelow?_decimal {limit n : Nat} (h : n < limit) :
    numberBelow? limit (decimal n) = some n := by
  rw [numberBelow?, if_neg (decimal_ne_nil n), number?_decimal]
  exact if_pos h

end WebCapture.Text
