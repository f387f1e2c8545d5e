import WebCapture.Proofs.Program
import WebCapture.Proofs.Time.Reading
import WebCapture.Store.Rows

set_option autoImplicit false

/-! # Seeds survive as rows

A store on the broker keeps each seed at a key of its own, which is no key of a group
(`seedKey_ne_groupKey`), in a row of fields. What the scripts write is the row of a seed, and a seed
is read back from its row as it was (`seedOfRow_rowOf`).
-/

namespace WebCapture.Store

open Text.Utf8 (ofString)

/-! ## Keys -/

namespace Rows

variable {rows : Rows} {id id' : ShadowId}

/-- The keys of seeds and groups part behind the prefix of the store. -/
theorem seedKey_ne_groupKey : rows.seedKey id ≠ rows.groupKey id' := by
  intro h
  have h' := congrArg String.toList h
  -- One goes on with `s` there, the other with `g`.
  have seed : "seed:".toList = 's' :: "eed:".toList := by decide
  have group : "group:".toList = 'g' :: "roup:".toList := by decide
  simp only [seedKey, groupKey, String.toList_append, List.append_assoc,
    List.append_cancel_left_eq, seed, group, List.cons_append] at h'
  injection h' with first
  exact absurd first (by decide)

end Rows

/-! ## Rows -/

def rowOf (seed : Seed) : Table String String :=
  [("url", seed.url), ("public", if seed.isPublic then "1" else "0"), ("state", seed.state.name)] ++
    match seed.archive with
    | none => []
    | some archive => [("archival_url", archive.url), ("harvested_at", archive.harvestedAt.text)]

/-- The times of a seed can be written and read back. -/
def HasClockTime (archive : Option Seed.Archive) : Prop :=
  ∀ details ∈ archive, details.harvestedAt.IsClockTime

theorem isClockTime_of_readStamp {stamp : String} {t : Time.Instant}
    (h : Seed.readStamp stamp = .ok t) : t.IsClockTime := by
  unfold Seed.readStamp at h
  dsimp only at h
  split at h
  · cases h
  · split at h
    · cases h
    · rename_i length
      split at h
      · rename_i found
        cases h
        refine Time.isClockTime_of_ofDigits? found ?_
        -- Behind the seconds there are three digits at most.
        have short : ((ofString stamp).drop 14).length ≤ 3 := by
          rw [List.length_drop]
          omega
        exact Nat.lt_of_lt_of_le (Time.number_lt _) (Nat.pow_le_pow_right (by decide) short)
      · cases h

/-- The archive details that are computed from a capture record are such. -/
theorem hasClockTime_of_record {record : Seed.CaptureRecord} {base : String}
    {archive : Seed.Archive} (h : record.archive base = .ok archive) :
    HasClockTime (some archive) := by
  unfold Seed.CaptureRecord.archive at h
  dsimp only at h
  split at h
  · cases h
  · split at h
    · rename_i instant read
      cases h
      intro details here
      rw [← Option.some.inj here]
      exact isClockTime_of_readStamp read
    · cases h

theorem rowOf_ne_nil (seed : Seed) : rowOf seed ≠ [] := List.cons_ne_nil _ _

theorem rowField_rowOf (seed : Seed) :
    rowField seed.id (rowOf seed) "url" = .ok seed.url ∧
      rowField seed.id (rowOf seed) "public" = .ok (if seed.isPublic then "1" else "0") ∧
      rowField seed.id (rowOf seed) "state" = .ok seed.state.name :=
  ⟨rfl, rfl, rfl⟩

theorem rowArchive_rowOf {seed : Seed} (clock : HasClockTime seed.archive) :
    rowArchive seed.id (rowOf seed) = .ok seed.archive := by
  obtain ⟨url, isPublic, state, archive, id⟩ := seed
  cases archive with
  | none => rfl
  | some archive =>
      have time : Time.read archive.harvestedAt.text = .ok archive.harvestedAt :=
        Time.read_text (clock archive rfl)
      have written : (rowOf ⟨url, isPublic, state, some archive, id⟩).lookup "archival_url"
          = some archive.url := rfl
      have stamped : (rowOf ⟨url, isPublic, state, some archive, id⟩).lookup "harvested_at"
          = some archive.harvestedAt.text := rfl
      rw [rowArchive, written, stamped]
      simp only [time]

theorem rowState_name (state : Seed.State) : rowState state.name = .ok state := by
  rw [rowState, Seed.State.ofName?_name]

/-- **A seed is read back from its row.** -/
theorem seedOfRow_rowOf {seed : Seed} (clock : HasClockTime seed.archive) :
    seedOfRow seed.id (rowOf seed) = .ok seed := by
  obtain ⟨hu, hp, hs⟩ := rowField_rowOf seed
  rw [seedOfRow, if_neg (rowOf_ne_nil seed), hu, hp, hs]
  simp only [ok_bind, rowState_name, rowArchive_rowOf clock]
  obtain ⟨url, isPublic, state, archive, id⟩ := seed
  cases isPublic <;> rfl

/-- Fields of the row of a seed, as the scripts look them up. -/
theorem find?_rowOf (seed : Seed) :
    (rowOf seed).find? "state" = some seed.state.name ∧
      ((rowOf seed).find? "archival_url").isSome = seed.archive.isSome := by
  obtain ⟨url, isPublic, state, archive, id⟩ := seed
  cases archive <;> exact ⟨rfl, rfl⟩

theorem rowOf_insert {seed : Seed} (bare : seed.archive = none) :
    Table.putAll ([] : Table String String) [("url", seed.url),
      ("public", if seed.isPublic then "1" else "0"), ("state", seed.state.name)] = rowOf seed := by
  rw [rowOf, bare]
  rfl

theorem rowOf_setState (seed : Seed) (state : Seed.State) :
    (rowOf seed).putAll [("state", state.name)] = rowOf { seed with state } := by
  obtain ⟨url, isPublic, state, archive, id⟩ := seed
  cases archive <;> rfl

theorem rowOf_setArchive (seed : Seed) (archive : Seed.Archive) :
    (rowOf seed).putAll [("archival_url", archive.url), ("harvested_at", archive.harvestedAt.text)]
      = rowOf { seed with archive := some archive } := by
  obtain ⟨url, isPublic, state, archive, id⟩ := seed
  cases archive <;> rfl

end WebCapture.Store
