import WebCapture.Proofs.Text.Blank
import WebCapture.Url.HostName

set_option autoImplicit false

/-! # Host names in their ASCII form

The ASCII form of a name holds only ASCII characters that may stand in a host name
(`toAscii?_chars`): the mapping and the checks leave none of the others in a label that is shown,
and the digits behind the mark `xn--` are letters, numerals and hyphens.

The form of a plain name, whose letters have lost their case, is its own ASCII form
(`toAscii?_idem`). Of other names this is not so in general. A label that is written with `xn--`
is decoded and checked when it is read, and a long label beyond ASCII has a form that is too long
for that: of 900 ideographs it has more than the 2000 characters that are decoded. Where a form
must be read again, this is a condition on the host (`Host.IsOwnForm`).
-/

namespace WebCapture.Url

/-! ## Digits of ASCII forms -/

namespace Punycode

theorem mem_encodeNumber {bias k q : Nat} {c : Char} (h : c ∈ encodeNumber bias k q) :
    ∃ d < 36, c = digit d := by
  induction q using Nat.strongRecOn generalizing k with
  | ind q ih =>
      have low := threshold_pos k bias
      have high := threshold_le k bias
      rw [encodeNumber] at h
      -- The number is one digit, or a digit and what is left of it in smaller steps.
      split at h
      · exact ⟨q, by omega, List.mem_singleton.mp h⟩
      · rcases List.mem_cons.mp h with h | h
        · have rest : (q - threshold k bias) % (36 - threshold k bias) < 36 - threshold k bias :=
            Nat.mod_lt _ (by omega)
          exact ⟨_, by omega, h⟩
        · have smaller := Nat.div_le_self (q - threshold k bias) (36 - threshold k bias)
          exact ih _ (by omega) h

def Writing.IsDigits (w : Writing) : Prop := ∀ c ∈ w.out, ∃ d < 36, c = digit d

theorem Writing.IsDigits.pass {w : Writing} (h : w.IsDigits) (basic n : Nat) (c : Char) :
    (Writing.pass basic n w c).IsDigits := by
  unfold Writing.pass
  split
  · exact h
  · split
    · intro d hd
      rcases List.mem_append.mp hd with hd | hd
      · exact h d hd
      · exact mem_encodeNumber hd
    · exact h

theorem Writing.IsDigits.insertAll {label : List Char} {basic : Nat} {codes : List Nat} {n : Nat}
    {w : Writing} (h : w.IsDigits) : (Writing.insertAll label basic codes n w).IsDigits := by
  induction codes generalizing n w with
  | nil => exact h
  | cons m more ih =>
      have passed : ∀ (cs : List Char) (w : Writing), w.IsDigits →
          (cs.foldl (Writing.pass basic m) w).IsDigits := by
        intro cs
        induction cs with
        | nil => exact fun w h => h
        | cons c cs ih => exact fun w h => ih _ (h.pass basic m c)
      exact ih (passed label _ h)

/-- What stands in the ASCII form of a label: its own ASCII characters, hyphens and digits. -/
theorem mem_encode {label : List Char} {c : Char} (h : c ∈ encode label) :
    (c ∈ label ∧ c.toNat < 128) ∨ c = '-' ∨ ∃ d < 36, c = digit d := by
  unfold encode at h
  dsimp only at h
  rw [List.mem_append, List.mem_append] at h
  rcases h with (h | h) | h
  · rw [List.mem_filter] at h
    exact .inl ⟨h.1, of_decide_eq_true h.2⟩
  · split at h
    · cases h
    · exact .inr (.inl (List.mem_singleton.mp h))
  · have none : (⟨[], 0, 72, (label.filter (·.toNat < 128)).length⟩ : Writing).IsDigits := by
      intro c hc
      cases hc
    exact .inr (.inr (none.insertAll c h))

end Punycode

namespace HostName

/-! ## Letters in lower case -/

/-- Only capital letters have another form in lower case. -/
theorem lower_cases (c : Char) : lower c = c ∨
    ∃ v : Fin 26, c = Char.ofNat (65 + v.val) ∧ lower c = Char.ofNat (97 + v.val) := by
  unfold lower
  split
  · rename_i capital
    have low : 65 ≤ c.toNat := capital.1
    have high : c.toNat ≤ 90 := capital.2
    refine .inr ⟨⟨c.toNat - 65, by omega⟩, ?_, ?_⟩
    · rw [Nat.add_sub_cancel' low, Char.ofNat_toNat]
    · congr 1
      dsimp only
      omega
  · exact .inl rfl

theorem lower_lower (c : Char) : lower (lower c) = lower c := by
  rcases lower_cases c with h | ⟨v, -, h⟩
  · rw [h, h]
  · have all : ∀ v : Fin 26, lower (Char.ofNat (97 + v.val)) = Char.ofNat (97 + v.val) := by decide
    rw [h, all v]

/-- What is the same of a capital letter and of the small one does not change in lower case. -/
theorem apply_lower {β : Type} (f : Char → β)
    (h : ∀ v : Fin 26, f (Char.ofNat (97 + v.val)) = f (Char.ofNat (65 + v.val))) (c : Char) :
    f (lower c) = f c := by
  rcases lower_cases c with same | ⟨v, capital, small⟩
  · rw [same]
  · rw [small, h v, ← capital]

theorem map_lower_lower (cs : List Char) : (cs.map lower).map lower = cs.map lower := by
  rw [List.map_map]
  exact List.map_congr_left fun c _ => lower_lower c

theorem isMarked_map_lower (label : List Char) : isMarked (label.map lower) = isMarked label := by
  rw [isMarked, isMarked, ← List.map_take, map_lower_lower]

theorem isPlain_map_lower {cs : List Char} (h : isPlain cs = true) :
    isPlain (cs.map lower) = true := by
  have ascii : ∀ c, isAscii (lower c) = isAscii c := apply_lower isAscii (by decide)
  have dot : ∀ c, (lower c == '.') = (c == '.') := apply_lower (· == '.') (by decide)
  have cut : (cs.map lower).splitOn '.' = (cs.splitOn '.').map (List.map lower) :=
    Text.splitOnP_map dot cs
  simpa [isPlain, cut, ascii, isMarked_map_lower] using h

/-! ## Names in their ASCII form -/

def IsNameChar (c : Char) : Prop := isForbidden c = false ∧ isAscii c = true

theorem asciiLabel_chars {shown : List Char} (h : ∀ c ∈ shown, isForbidden c = false) :
    ∀ c ∈ asciiLabel shown, IsNameChar c := by
  intro c hc
  unfold asciiLabel at hc
  split at hc
  · rename_i ascii
    exact ⟨h c hc, List.all_eq_true.mp ascii c hc⟩
  · -- The mark, and the digits behind it.
    rcases List.mem_append.mp hc with hc | hc
    · have all : asciiMark.all (fun c => !isForbidden c && isAscii c) = true := by decide
      have mark := List.all_eq_true.mp all c hc
      rw [Bool.and_eq_true, Bool.not_eq_true'] at mark
      exact mark
    · rcases Punycode.mem_encode hc with ⟨hc, small⟩ | rfl | ⟨d, hd, rfl⟩
      · exact ⟨h c hc, decide_eq_true small⟩
      · exact ⟨by decide, by decide⟩
      · have all : ∀ d : Fin 36, isForbidden (Punycode.digit d.val) = false ∧
            isAscii (Punycode.digit d.val) = true := by decide
        exact all ⟨d, hd⟩

theorem international?_chars {cs ascii : List Char} (h : international? cs = some ascii) :
    ∀ c ∈ ascii, IsNameChar c := by
  unfold international? at h
  simp only [Option.bind_eq_bind, Option.bind_eq_some_iff] at h
  obtain ⟨mapped, -, shown, -, h⟩ := h
  split at h
  · cases h
  rename_i free
  split at h
  · cases h
  split at h
  · cases h
  cases h
  intro c hc
  rcases Text.mem_intercalate hc with hc | ⟨label, here, hc⟩
  · rw [List.mem_singleton.mp hc]
    exact ⟨by decide, by decide⟩
  · obtain ⟨shownLabel, inside, rfl⟩ := List.mem_map.mp here
    refine asciiLabel_chars (fun c hc => ?_) c hc
    rw [Bool.eq_false_iff]
    intro bad
    exact free (List.any_eq_true.mpr ⟨shownLabel, inside, List.any_eq_true.mpr ⟨c, hc, bad⟩⟩)

theorem plain?_eq_some {cs ascii : List Char} :
    plain? cs = some ascii ↔ (∀ c ∈ cs, isForbidden c = false) ∧ ascii = cs.map lower := by
  unfold plain?
  split
  · rename_i bad
    simp only [reduceCtorEq, false_iff, not_and]
    intro free
    obtain ⟨c, hc, forbidden⟩ := List.any_eq_true.mp bad
    rw [free c hc] at forbidden
    cases forbidden
  · rename_i good
    have free : ∀ c ∈ cs, isForbidden c = false := by
      intro c hc
      rw [Bool.eq_false_iff]
      exact fun bad => good (List.any_eq_true.mpr ⟨c, hc, bad⟩)
    constructor
    · intro h
      exact ⟨free, (Option.some.inj h).symm⟩
    · rintro ⟨-, rfl⟩
      rfl

/-- The form of a plain name holds what may stand in a name, in lower case. -/
theorem plain?_chars {cs ascii : List Char} (h : plain? cs = some ascii)
    (all : isPlain cs = true) : ∀ c ∈ ascii, IsNameChar c := by
  obtain ⟨free, rfl⟩ := plain?_eq_some.mp h
  intro c hc
  obtain ⟨d, hd, rfl⟩ := List.mem_map.mp hc
  rw [isPlain, Bool.and_eq_true] at all
  exact ⟨(apply_lower isForbidden (by decide) d).trans (free d hd),
    (apply_lower isAscii (by decide) d).trans (List.all_eq_true.mp all.1 d hd)⟩

/-- **An ASCII form holds no character that could end a host in an address.** -/
theorem toAscii?_chars {cs ascii : List Char} (h : toAscii? cs = some ascii) :
    ∀ c ∈ ascii, IsNameChar c := by
  unfold toAscii? at h
  split at h
  · rename_i all
    exact plain?_chars h all
  · exact international?_chars h

/-- **The ASCII form of a plain name is its own ASCII form.** -/
theorem toAscii?_idem {cs ascii : List Char} (all : isPlain cs = true)
    (h : toAscii? cs = some ascii) : toAscii? ascii = some ascii := by
  rw [toAscii?, if_pos all] at h
  have chars := plain?_chars h all
  obtain ⟨-, rfl⟩ := plain?_eq_some.mp h
  rw [toAscii?, if_pos (isPlain_map_lower all), plain?_eq_some]
  exact ⟨fun c hc => (chars c hc).1, (map_lower_lower cs).symm⟩

end HostName

end WebCapture.Url
