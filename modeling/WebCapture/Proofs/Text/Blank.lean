import WebCapture.Text.Blank

set_option autoImplicit false

/-! # Cutting texts and joining them again

Texts are cut with `List.splitOnP` and joined with `List.intercalate`. What is added here is what
the pieces are made of: no piece holds a mark (`mem_splitOnP`), a front without marks stays with
the first piece (`splitOnP_append_front`), and pieces that were joined are cut where they were
joined and where they hold marks themselves (`splitOnP_intercalate`).
-/

namespace WebCapture.Text

variable {p : Char → Bool}

/-! ## Cutting -/

/-- A front without marks belongs to the first piece. -/
theorem splitOnP_append_front {front : List Char} (h : ∀ c ∈ front, p c = false) (cs : List Char) :
    ∃ first more, cs.splitOnP p = first :: more ∧
      (front ++ cs).splitOnP p = (front ++ first) :: more := by
  obtain ⟨first, more, cut⟩ := List.exists_cons_of_ne_nil (List.splitOnP_ne_nil p cs)
  refine ⟨first, more, cut, ?_⟩
  induction front with
  | nil => exact cut
  | cons c front ih =>
      obtain ⟨plain, others⟩ := List.forall_mem_cons.mp h
      rw [List.cons_append, List.splitOnP_cons_eq_if_modifyHead, plain, ih others]
      rfl

/-- A piece holds characters of the text, but no marks. -/
theorem mem_splitOnP {cs piece : List Char} {c : Char} (h : piece ∈ cs.splitOnP p) (hc : c ∈ piece) :
    c ∈ cs ∧ p c = false := by
  induction cs generalizing piece with
  | nil =>
      rw [List.splitOnP_nil, List.mem_singleton] at h
      rw [h] at hc
      cases hc
  | cons first rest ih =>
      rw [List.splitOnP_cons_eq_if_modifyHead] at h
      split at h
      · rcases List.mem_cons.mp h with rfl | h
        · cases hc
        · obtain ⟨here, free⟩ := ih h hc
          exact ⟨List.mem_cons_of_mem _ here, free⟩
      · rename_i plain
        obtain ⟨head, more, cut⟩ := List.exists_cons_of_ne_nil (List.splitOnP_ne_nil p rest)
        rw [cut, List.modifyHead_cons] at h
        -- The first character is in the first piece.
        rcases List.mem_cons.mp h with rfl | h
        · rcases List.mem_cons.mp hc with rfl | hc
          · exact ⟨List.mem_cons_self, Bool.eq_false_iff.mpr plain⟩
          · obtain ⟨here, free⟩ := ih (cut ▸ List.mem_cons_self) hc
            exact ⟨List.mem_cons_of_mem _ here, free⟩
        · obtain ⟨here, free⟩ := ih (cut ▸ List.mem_cons_of_mem _ h) hc
          exact ⟨List.mem_cons_of_mem _ here, free⟩

/-- A change of characters that keeps the marks apart from the rest can be made after cutting. -/
theorem splitOnP_map {f : Char → Char} (h : ∀ c, p (f c) = p c) (cs : List Char) :
    (cs.map f).splitOnP p = (cs.splitOnP p).map (List.map f) := by
  induction cs with
  | nil => rfl
  | cons c rest ih =>
      rw [List.map_cons, List.splitOnP_cons_eq_if_modifyHead, List.splitOnP_cons_eq_if_modifyHead,
        h, ih]
      split
      · rfl
      · cases rest.splitOnP p <;> rfl

/-! ## Joining -/

/-- **Pieces are found again in the text that joins them**, those that hold marks cut further. -/
theorem splitOnP_intercalate {mark : Char} (hm : p mark = true) {pieces : List (List Char)}
    (filled : pieces ≠ []) :
    ([mark].intercalate pieces).splitOnP p = pieces.flatMap (List.splitOnP p) := by
  induction pieces with
  | nil => exact absurd rfl filled
  | cons piece more ih =>
      cases more with
      | nil => rw [List.intercalate_singleton, List.flatMap_cons, List.flatMap_nil, List.append_nil]
      | cons second more =>
          rw [List.intercalate_cons_cons, List.append_assoc, List.singleton_append,
            List.splitOnP_append_cons _ _ hm, ih (List.cons_ne_nil _ _)]
          exact List.flatMap_cons.symm

theorem mem_intercalate {mark : List Char} {pieces : List (List Char)} {c : Char}
    (h : c ∈ mark.intercalate pieces) : c ∈ mark ∨ ∃ piece ∈ pieces, c ∈ piece := by
  induction pieces with
  | nil => cases h
  | cons piece more ih =>
      cases more with
      | nil =>
          rw [List.intercalate_singleton] at h
          exact .inr ⟨piece, List.mem_cons_self, h⟩
      | cons second more =>
          rw [List.intercalate_cons_cons, List.append_assoc, List.mem_append, List.mem_append] at h
          rcases h with h | h | h
          · exact .inr ⟨piece, List.mem_cons_self, h⟩
          · exact .inl h
          · rcases ih h with h | ⟨other, here, h⟩
            · exact .inl h
            · exact .inr ⟨other, List.mem_cons_of_mem _ here, h⟩

/-! ## Ends -/

section

variable {α : Type} {p : α → Bool} {front back : List α}

/-- What satisfies `p` is taken up to the first element that does not. -/
theorem takeWhile_append_stop (h : ∀ c ∈ front, p c = true) (stop : ∀ c ∈ back.head?, p c = false) :
    (front ++ back).takeWhile p = front := by
  rw [List.takeWhile_append_of_pos h]
  cases back with
  | nil => simp
  | cons c rest => simp [stop c rfl]

theorem dropWhile_append_stop (h : ∀ c ∈ front, p c = true) (stop : ∀ c ∈ back.head?, p c = false) :
    (front ++ back).dropWhile p = back := by
  rw [List.dropWhile_append_of_pos h]
  cases back with
  | nil => simp
  | cons c rest => simp [stop c rfl]

/-- Nothing is dropped behind an element that does not satisfy `p`. -/
theorem dropWhile_append_stays (stays : ∀ c ∈ back.head?, p c = false) (front : List α) :
    (front ++ back).dropWhile p = front.dropWhile p ++ back := by
  induction front with
  | nil =>
      cases back with
      | nil => rfl
      | cons c rest => simp [stays c rfl]
  | cons c front ih =>
      rw [List.cons_append, List.dropWhile_cons, List.dropWhile_cons, ih]
      split <;> rfl

end

theorem trimBy_of_none {cs : List Char} (h : ∀ c ∈ cs, p c = false) : trimBy p cs = cs := by
  have stays : ∀ {cs : List Char}, (∀ c ∈ cs, p c = false) → cs.dropWhile p = cs := by
    intro cs h
    have empty : ∀ c ∈ ([] : List Char), p c = true := by simp
    exact dropWhile_append_stop empty fun c hc => h c (List.mem_of_head? hc)
  rw [trimBy, stays h, stays (fun c hc => h c (List.mem_reverse.mp hc)), List.reverse_reverse]

/-- What stands between two characters that stay is kept as it is. -/
theorem trimBy_append {lead kept rest : List Char} (h : ∀ c ∈ lead, p c = true)
    (first : ∀ c ∈ (kept ++ rest).head?, p c = false) (last : ∀ c ∈ kept.getLast?, p c = false) :
    trimBy p (lead ++ (kept ++ rest)) = kept ++ (rest.reverse.dropWhile p).reverse := by
  have stays : ∀ c ∈ kept.reverse.head?, p c = false := by
    rwa [List.head?_reverse]
  rw [trimBy, dropWhile_append_stop h first, List.reverse_append, dropWhile_append_stays stays,
    List.reverse_append, List.reverse_reverse]

end WebCapture.Text
