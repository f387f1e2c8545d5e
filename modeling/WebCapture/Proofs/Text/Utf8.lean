import WebCapture.Text.Utf8

set_option autoImplicit false

/-! # Text survives as bytes

The bytes of a text spell that text and no other: `units_encode` reads them back one by one, and
`toString?_ofString` says the same of whole strings.

How many bytes a character has is told by its first one, and the others hold six bits each. A
character is found again because its number is put together from the very parts into which it was
cut.
-/

namespace WebCapture.Text.Utf8

/-! ## Single characters -/

theorem toNat_continuation (n : Nat) : (continuation n).toNat = 0x80 + n % 64 := by
  have small : 0x80 + n % 64 < 256 := by omega
  rw [continuation, UInt8.toNat_ofNat_of_lt' small]

theorem continuationValue?_continuation (n : Nat) :
    continuationValue? (continuation n) = some (n % 64) := by
  have value : (continuation n).toNat = 0x80 + n % 64 := toNat_continuation n
  have inside : 0x80 ≤ (continuation n).toNat ∧ (continuation n).toNat < 0xC0 := by omega
  rw [continuationValue?, if_pos inside, value, Nat.add_sub_cancel_left]

theorem continuations?_zero (bytes : Bytes) : continuations? 0 bytes = some [] := by
  cases bytes <;> rfl

theorem continuations?_continuation (k n : Nat) (bytes : Bytes) :
    continuations? (k + 1) (continuation n :: bytes)
      = (continuations? k bytes).map (n % 64 :: ·) := by
  rw [continuations?, continuationValue?_continuation]
  cases continuations? k bytes <;> rfl

/-- The code points of characters: those below the pairs and those above them. -/
theorem toNat_char (c : Char) :
    c.toNat < 0x110000 ∧ ¬(0xD800 ≤ c.toNat ∧ c.toNat < 0xE000) := by
  have valid : c.toNat < 0xD800 ∨ (0xDFFF < c.toNat ∧ c.toNat < 0x110000) := c.valid
  omega

/-- The first of the bytes of a character, and how many there are, tell the character. -/
theorem firstChar?_encodeChar (c : Char) (bytes : Bytes) :
    ∃ b rest, encodeChar c = b :: rest ∧
      firstChar? b (rest ++ bytes) = some (c, rest.length) := by
  obtain ⟨small, unpaired⟩ := toNat_char c
  have back : Char.ofNat c.toNat = c := Char.ofNat_toNat c
  have lead : ∀ m : Nat, m < 256 → (UInt8.ofNat m).toNat = m := fun m h =>
    UInt8.toNat_ofNat_of_lt' h
  -- One case for each number of bytes.
  by_cases h₁ : c.toNat < 0x80
  · refine ⟨UInt8.ofNat c.toNat, [], by rw [encodeChar, if_pos h₁], ?_⟩
    rw [firstChar?, lead _ (by omega), if_pos h₁, back]
    rfl
  by_cases h₂ : c.toNat < 0x800
  · refine ⟨_, _, by rw [encodeChar, if_neg h₁, if_pos h₂], ?_⟩
    have top : (UInt8.ofNat (0xC0 + c.toNat / 64)).toNat = 0xC0 + c.toNat / 64 :=
      lead _ (by omega)
    have value : (0xC0 + c.toNat / 64 - 0xC0) * 64 + c.toNat % 64 = c.toNat := by omega
    rw [firstChar?, top, if_neg (by omega), if_pos (by omega), List.cons_append,
      continuations?_continuation, continuations?_zero]
    simp only [Option.map_some, value, back, List.length_cons, List.length_nil]
  by_cases h₃ : c.toNat < 0x10000
  · refine ⟨_, _, by rw [encodeChar, if_neg h₁, if_neg h₂, if_pos h₃], ?_⟩
    have top : (UInt8.ofNat (0xE0 + c.toNat / 4096)).toNat = 0xE0 + c.toNat / 4096 :=
      lead _ (by omega)
    have value : (0xE0 + c.toNat / 4096 - 0xE0) * 4096 + c.toNat / 64 % 64 * 64 + c.toNat % 64
        = c.toNat := by omega
    rw [firstChar?, top, if_neg (by omega), if_neg (by omega), if_pos (by omega),
      List.cons_append, List.cons_append, continuations?_continuation,
      continuations?_continuation, continuations?_zero]
    simp only [Option.map_some, value, back, List.length_cons, List.length_nil]
    rw [if_pos ⟨by omega, unpaired⟩]
  · refine ⟨_, _, by rw [encodeChar, if_neg h₁, if_neg h₂, if_neg h₃], ?_⟩
    have top : (UInt8.ofNat (0xF0 + c.toNat / 262144)).toNat = 0xF0 + c.toNat / 262144 :=
      lead _ (by omega)
    have value : (0xF0 + c.toNat / 262144 - 0xF0) * 262144 + c.toNat / 4096 % 64 * 4096
        + c.toNat / 64 % 64 * 64 + c.toNat % 64 = c.toNat := by omega
    rw [firstChar?, top, if_neg (by omega), if_neg (by omega), if_neg (by omega),
      if_pos (by omega), List.cons_append, List.cons_append, List.cons_append,
      continuations?_continuation, continuations?_continuation, continuations?_continuation,
      continuations?_zero]
    simp only [Option.map_some, value, back, List.length_cons, List.length_nil]
    rw [if_pos (by omega)]

/-! ## Whole texts -/

theorem units_append (cs : List Char) (bytes : Bytes) :
    units (encode cs ++ bytes) = cs.map some ++ units bytes := by
  induction cs with
  | nil => rfl
  | cons c cs ih =>
      obtain ⟨b, rest, written, first⟩ := firstChar?_encodeChar c (encode cs ++ bytes)
      have split : encode (c :: cs) ++ bytes = b :: (rest ++ (encode cs ++ bytes)) := by
        rw [encode, List.flatMap_cons, written, List.append_assoc, List.cons_append]
        rfl
      rw [split, units, first]
      simp only [List.drop_left, ih, List.map_cons, List.cons_append]

/-- **The bytes of a text spell its characters.** -/
theorem units_encode (cs : List Char) : units (encode cs) = cs.map some := by
  have spelled := units_append cs []
  rwa [List.append_nil, units, List.append_nil] at spelled

theorem decode?_encode (cs : List Char) : decode? (encode cs) = some cs := by
  rw [decode?, units_encode, List.mapM_map]
  induction cs with
  | nil => rfl
  | cons c cs ih =>
      rw [List.mapM_cons, ih]
      rfl

theorem toString?_ofString (s : String) : toString? (ofString s) = some s := by
  rw [toString?, ofString, decode?_encode, Option.map_some, String.ofList_toList]

theorem ofString_inj {s t : String} : ofString s = ofString t ↔ s = t := by
  constructor
  · intro h
    have same := congrArg toString? h
    rw [toString?_ofString, toString?_ofString] at same
    exact Option.some.inj same
  · intro h
    rw [h]

theorem ofString_append (s t : String) : ofString (s ++ t) = ofString s ++ ofString t := by
  rw [ofString, String.toList_append, encode, List.flatMap_append]
  rfl

theorem ofString_ofList (cs : List Char) : ofString (String.ofList cs) = encode cs := by
  rw [ofString, String.toList_ofList]

end WebCapture.Text.Utf8
