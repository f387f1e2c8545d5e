import Mathlib.Data.List.Basic
import WebCapture.Proofs.Text.Blank
import WebCapture.Proofs.Url.Escapes
import WebCapture.Url.Reader

set_option autoImplicit false

/-! # Paths are read back

A path that was read has no dot segments left, whatever was written (`readPath_normal`). The text
of such a path is read as that path (`readPath_pathText`).

A dot segment may be written with escapes, too, and `resolve` takes it for one. So a segment is
normal if it is no dot segment in any of these spellings, and holds nothing that needs an escape.
-/

namespace WebCapture.Url

open WebUrl (pathText)

/-! ## Normal paths -/

/-- A piece of a path that has its escapes and holds no slash. -/
structure IsSegment (s : List Char) : Prop where
  escaped : Escaped pathSet s
  whole : ∀ c ∈ s, isSlash c = false

/-- A segment that stands for itself and not for a step in the path. -/
structure IsNormalSegment (s : List Char) : Prop extends IsSegment s where
  noSingleDot : isSingleDot s = false
  noDoubleDot : isDoubleDot s = false

/-- A path that is not resolved any further. -/
structure IsNormalPath (path : List (List Char)) : Prop where
  filled : path ≠ []
  segments : ∀ s ∈ path, IsNormalSegment s

theorem isNormalSegment_nil : IsNormalSegment [] := by
  refine ⟨⟨?_, ?_⟩, by decide, by decide⟩
  · intro c hc
    cases hc
  · intro c hc
    cases hc

/-- Escapes bring no slashes into a piece. -/
theorem isSegment_escape {piece : List Char} (h : ∀ c ∈ piece, isSlash c = false) :
    IsSegment (escape pathSet piece) := by
  refine ⟨escaped_escape pathSet_sparesEscapes piece, fun c hc => ?_⟩
  rcases mem_escape hc with ⟨hc, -⟩ | hc
  · exact h c hc
  · have all : escapeChars.all (!isSlash ·) = true := by decide
    have noSlash := List.all_eq_true.mp all c hc
    simpa using noSlash

/-! ## Resolving -/

variable {done rest : List (List Char)}

theorem mem_parent {s : List Char} (h : s ∈ parent done) : s ∈ done := by
  unfold parent at h
  split at h
  · cases h
  · split at h
    · exact h
    · exact List.mem_cons_of_mem _ h

theorem forall_mem_parent (h : ∀ s ∈ done, IsNormalSegment s) :
    ∀ s ∈ parent done, IsNormalSegment s := fun s hs => h s (mem_parent hs)

/-- Every segment of a resolved path is normal: it was put there as it is or is empty. -/
theorem resolve_normal (hd : ∀ s ∈ done, IsNormalSegment s) (hr : ∀ s ∈ rest, IsSegment s) :
    ∀ s ∈ resolve done rest, IsNormalSegment s := by
  have reversed : ∀ {last done}, IsNormalSegment last → (∀ s ∈ done, IsNormalSegment s) →
      ∀ s ∈ (last :: done).reverse, IsNormalSegment s := by
    intro last done hl hd s hs
    rcases List.mem_cons.mp (List.mem_reverse.mp hs) with rfl | hs
    · exact hl
    · exact hd s hs
  -- The cases are those of `resolve`; an empty segment stands behind dots at the end.
  fun_induction resolve done rest with
  | case1 done => exact fun s hs => hd s (List.mem_reverse.mp hs)
  | case2 done last double => exact reversed isNormalSegment_nil (forall_mem_parent hd)
  | case3 done last double single => exact reversed isNormalSegment_nil hd
  | case4 done last double single =>
      have segment := hr last List.mem_cons_self
      exact reversed
        ⟨segment, Bool.eq_false_iff.mpr single, Bool.eq_false_iff.mpr double⟩ hd
  | case5 done segment more _ double ih =>
      exact ih (forall_mem_parent hd) fun s hs => hr s (List.mem_cons_of_mem _ hs)
  | case6 done segment more _ double single ih =>
      exact ih hd fun s hs => hr s (List.mem_cons_of_mem _ hs)
  | case7 done segment more _ double single ih =>
      obtain ⟨first, others⟩ := List.forall_mem_cons.mp hr
      refine ih (List.forall_mem_cons.mpr ⟨?_, hd⟩) others
      exact ⟨first, Bool.eq_false_iff.mpr single, Bool.eq_false_iff.mpr double⟩

/-- Something is left of every path that is not empty: `case1` is the only one that could end in
nothing, and it is reached only from an empty path. -/
theorem resolve_ne_nil (h : rest ≠ []) : resolve done rest ≠ [] := by
  fun_induction resolve done rest with
  | case1 done => exact absurd rfl h
  | case2 | case3 | case4 => simp
  | case5 done segment more several _ ih => exact ih several
  | case6 done segment more several _ _ ih => exact ih several
  | case7 done segment more several _ _ ih => exact ih several

/-- Segments that stand for themselves are kept in their order. -/
theorem resolve_of_normal (h : ∀ s ∈ rest, IsNormalSegment s) :
    resolve done rest = done.reverse ++ rest := by
  induction rest generalizing done with
  | nil => simp [resolve]
  | cons segment more ih =>
      obtain ⟨first, others⟩ := List.forall_mem_cons.mp h
      cases more with
      | nil => simp [resolve, first.noSingleDot, first.noDoubleDot]
      | cons second more =>
          have step : resolve done (segment :: second :: more)
              = resolve (segment :: done) (second :: more) := by
            simp [resolve, first.noSingleDot, first.noDoubleDot]
          rw [step, ih others, List.reverse_cons, List.append_assoc]
          rfl

/-! ## Reading -/

def withoutSlash : List Char → List Char
  | c :: rest => if isSlash c then rest else c :: rest
  | [] => []

theorem readPath_eq (cs : List Char) :
    readPath cs = resolve [] (((withoutSlash cs).splitOnP isSlash).map (escape pathSet)) := by
  cases cs <;> rfl

/-- **A path that was read is normal, whatever was written.** -/
theorem readPath_normal (cs : List Char) : IsNormalPath (readPath cs) := by
  rw [readPath_eq]
  constructor
  · apply resolve_ne_nil
    intro none
    exact List.splitOnP_ne_nil _ _ (List.map_eq_nil_iff.mp none)
  · apply resolve_normal
    · -- There is nothing above the first segment.
      intro s hs
      cases hs
    · intro s hs
      obtain ⟨piece, cut, rfl⟩ := List.mem_map.mp hs
      exact isSegment_escape fun c hc => (Text.mem_splitOnP cut hc).2

/-- A missing path is read as a lone slash. -/
theorem readPath_nil : readPath [] = [[]] := by
  decide

variable {path : List (List Char)}

theorem pathText_eq (filled : path ≠ []) : pathText path = '/' :: ['/'].intercalate path := by
  induction path with
  | nil => exact absurd rfl filled
  | cons segment more ih =>
      cases more with
      | nil =>
          show '/' :: segment ++ [] = '/' :: ['/'].intercalate [segment]
          rw [List.append_nil, List.intercalate_singleton]
      | cons second more =>
          have rest : pathText (second :: more) = '/' :: ['/'].intercalate (second :: more) :=
            ih (List.cons_ne_nil _ _)
          show '/' :: segment ++ pathText (second :: more) = _
          rw [rest, List.intercalate_cons_cons]
          simp

/-- **The text of a path is read as that path.** -/
theorem readPath_pathText (h : IsNormalPath path) : readPath (pathText path) = path := by
  have cut : (['/'].intercalate path).splitOnP isSlash = path := by
    have whole : ∀ s ∈ path, s.splitOnP isSlash = [s] := fun s hs =>
      List.splitOnP_eq_singleton (h.segments s hs).whole
    rw [Text.splitOnP_intercalate (by decide) h.filled, List.flatMap_congr whole,
      List.flatMap_singleton']
  have escaped : path.map (escape pathSet) = path := by
    have each : ∀ s ∈ path, escape pathSet s = s := fun s hs =>
      escape_of_escaped (h.segments s hs).escaped
    rw [List.map_congr_left each, List.map_id']
  have behindSlash : withoutSlash ('/' :: ['/'].intercalate path) = ['/'].intercalate path := rfl
  calc readPath (pathText path)
      = resolve [] (path.map (escape pathSet)) := by
        rw [readPath_eq, pathText_eq h.filled, behindSlash, cut]
    _ = [].reverse ++ path := by rw [escaped, resolve_of_normal h.segments]
    _ = path := rfl

/-- A character that may stand in a path that is written in an address. -/
theorem IsNormalPath.text_chars (h : IsNormalPath path) :
    ∀ c ∈ pathText path, 0x20 < c.toNat ∧ endsPath c = false := by
  intro c hc
  obtain ⟨s, hs, hc⟩ := List.mem_flatMap.mp hc
  rcases List.mem_cons.mp hc with rfl | hc
  · exact ⟨by decide, by decide⟩
  · have escaped := (h.segments s hs).escaped
    have question : c ≠ '?' := escaped.free (by decide) c hc
    have hash : c ≠ '#' := escaped.free (by decide) c hc
    exact ⟨escaped.visible (by decide) c hc, by simp [endsPath, question, hash]⟩

end WebCapture.Url
