import WebCapture.Proofs.Program
import WebCapture.Service.Submission

set_option autoImplicit false

/-! # What a submission stores

A submission stores seeds of admitted addresses and nothing else (`submit_isSubmission`), and one
that is refused for its lines has not stored anything (`submit_refused_or_stored`).

All lines are looked at before the first seed is made, so that an address that is not admitted is
found while nothing has been stored. Ids are asked for only after that.
-/

namespace WebCapture.Service

open Program

variable {rules : Rules} {strict grouped : Bool} {lines : List String}

/-- The address is the canonical text of an admitted line. -/
def IsAdmitted (strict : Bool) (lines : List String) (url : String) : Prop :=
  ∃ line ∈ lines, ∃ clean, Url.vet line strict = .ok clean ∧ clean.text = url

/-- A call that stores seeds of admitted lines only, or one that takes an id or counts. -/
def IsSubmission (strict : Bool) (lines : List String) : Call → Prop
  | .store (.save seeds) => ∀ seed ∈ seeds, IsAdmitted strict lines seed.url
  | .store (.saveGroup group) => ∀ seed ∈ group.seeds, IsAdmitted strict lines seed.url
  | .freshSeedId => True
  | .freshGroupId => True
  | .count _ => True
  | _ => False

def IsCount : Call → Prop
  | .count _ => True
  | _ => False

/-! ## Lines -/

/-- Addresses that are admitted come from lines. -/
theorem isAdmitted_of_admitLines {number : Nat} {urls : List Url.CleanUrl}
    (h : admitLines strict number lines = .ok urls) :
    ∀ url ∈ urls, IsAdmitted strict lines url.text := by
  induction lines generalizing number urls with
  | nil =>
      cases h
      exact fun url here => absurd here List.not_mem_nil
  | cons line more ih =>
      rw [admitLines] at h
      cases vetted : Url.vet line strict with
      | error refusal =>
          rw [vetted] at h
          cases h
      | ok first =>
          cases rest : admitLines strict (number + 1) more with
          | error e =>
              rw [vetted, rest] at h
              cases h
          | ok others =>
              rw [vetted, rest] at h
              cases h
              intro url here
              rcases List.mem_cons.mp here with rfl | here
              · exact ⟨line, List.mem_cons_self, url, vetted, rfl⟩
              · obtain ⟨line', there, clean, vetted', same⟩ := ih rest url here
                exact ⟨line', List.mem_cons_of_mem _ there, clean, vetted', same⟩

/-! ## Seeds -/

/-- Seeds have the addresses for which they are made. -/
theorem url_of_seedsFor_runs {urls : List Url.CleanUrl} {seeds : List Seed}
    {log : List (Exchange Call Call.Answer)} (h : (seedsFor urls).Runs log seeds) :
    seeds.map (·.url) = urls.map (·.text) := by
  induction urls generalizing log seeds with
  | nil =>
      obtain ⟨-, rfl⟩ := h
      rfl
  | cons url more ih =>
      obtain ⟨id, first, rest, -, -, h⟩ := runs_bind.mp h
      obtain ⟨others, second, last, -, tail, -, rfl⟩ := runs_bind.mp h
      rw [List.map_cons, List.map_cons, ih tail]
      rfl

theorem seedsFor_isSubmission (urls : List Url.CleanUrl) :
    (seedsFor urls).Only (IsSubmission strict lines) := by
  induction urls with
  | nil => exact only_pure
  | cons url more ih =>
      refine only_bind ⟨trivial, fun _ => trivial⟩ fun id => ?_
      exact only_bind ih fun seeds => only_pure

theorem storeSeeds_isSubmission {seeds : List Seed}
    (admitted : ∀ seed ∈ seeds, IsAdmitted strict lines seed.url) (grouped : Bool) :
    (storeSeeds seeds grouped).Only (IsSubmission strict lines) := by
  unfold storeSeeds
  split
  · refine ⟨trivial, fun id => ⟨admitted, fun answer => ?_⟩⟩
    cases answer <;> exact only_pure
  · refine ⟨admitted, fun answer => ?_⟩
    cases answer with
    | error e => exact only_pure
    | ok => exact ⟨trivial, fun id => only_pure⟩

/-! ## Submissions -/

/-- **A submission of lines stores nothing but seeds of its admitted lines.** -/
theorem submitLines_isSubmission (rules : Rules) (lines : List String) (grouped : Bool) :
    (submitLines rules lines grouped).Only (IsSubmission rules.strict lines) := by
  unfold submitLines
  split
  · exact only_pure
  · split
    · exact ⟨trivial, fun _ => only_pure⟩
    · rename_i urls admitted
      refine only_bind_of_runs (seedsFor_isSubmission urls) fun log seeds runs => ?_
      have fit : ∀ seed ∈ seeds, IsAdmitted rules.strict lines seed.url := by
        intro seed here
        have there : seed.url ∈ urls.map (·.text) :=
          url_of_seedsFor_runs runs ▸ List.mem_map_of_mem here
        obtain ⟨url, among, same⟩ := List.mem_map.mp there
        exact same ▸ isAdmitted_of_admitLines admitted url among
      refine only_bind (storeSeeds_isSubmission fit grouped) fun stored => ?_
      cases stored with
      | error e => exact only_pure
      | ok group => exact ⟨trivial, fun _ => only_pure⟩

theorem submit_isSubmission (rules : Rules) (text : String) (grouped : Bool) :
    (submit rules text grouped).Only (IsSubmission rules.strict (linesOf text)) := by
  unfold submit
  split
  · exact only_pure
  · exact submitLines_isSubmission rules _ grouped

/-! ## Refusals -/

/-- The only errors with which the work ends are those of the store. -/
def FailsInStore {α : Type} (work : Work (Except SeedError α)) : Prop :=
  ∀ log e, work.Runs log (.error e) → ∃ reason, e = .store reason

/-- A submission of lines is refused before it stores anything, or only the store can fail it. -/
theorem submitLines_refused_or_stored (rules : Rules) (lines : List String) (grouped : Bool) :
    (submitLines rules lines grouped).Only IsCount ∨
      FailsInStore (submitLines rules lines grouped) := by
  unfold submitLines
  split
  · exact .inl only_pure
  · split
    · exact .inl ⟨trivial, fun _ => only_pure⟩
    · right
      intro log e runs
      obtain ⟨seeds, first, rest, -, -, runs⟩ := runs_bind.mp runs
      obtain ⟨stored, second, last, -, -, runs⟩ := runs_bind.mp runs
      cases stored with
      | error reason =>
          cases runs.2
          exact ⟨reason, rfl⟩
      | ok group =>
          obtain ⟨-, -, -, -, impossible⟩ := runs
          cases impossible

theorem submit_refused_or_stored (rules : Rules) (text : String) (grouped : Bool) :
    (submit rules text grouped).Only IsCount ∨ FailsInStore (submit rules text grouped) := by
  unfold submit
  split
  · exact .inl only_pure
  · exact submitLines_refused_or_stored rules _ grouped

end WebCapture.Service
