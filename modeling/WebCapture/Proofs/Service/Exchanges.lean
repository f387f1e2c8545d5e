import WebCapture.Proofs.Program
import WebCapture.Service.Capture

set_option autoImplicit false

/-! # What the parts of the service exchange with their surroundings

For each part of the work on one seed a lemma says which exchanges it makes and what it answers
to what comes back. The lemmas hold in any surroundings.
-/

namespace WebCapture.Service

open Program

abbrev Log : Type := List (Exchange Call Call.Answer)

variable {rules : Rules} {id : ShadowId} {log : Log}

/-! ## Single calls -/

/-- A transition is refused at once, or it is one compare-and-set. -/
theorem transition_runs {source target : Seed.State} {x : Except SeedError Unit} :
    (transition id source target).Runs log x ↔
      if source.leadsTo target then
        ∃ answer : Except Store.Error Unit,
          log = [⟨.store (.compareAndSet id source target), answer⟩] ∧ x = answer.mapError .store
      else log = [] ∧ x = .error (.illegalTransition source target) := by
  unfold transition
  by_cases h : source.leadsTo target = true
  · rw [if_pos h, if_pos h]
    constructor
    · rintro ⟨answer, rest, rfl, rfl, rfl⟩
      exact ⟨answer, rfl, rfl⟩
    · rintro ⟨answer, rfl, rfl⟩
      exact ⟨answer, [], rfl, rfl, rfl⟩
  · rw [if_neg h, if_neg h]
    exact runs_pure

/-! ## Moving a seed to its last state -/

/-- The exchange in which a pending seed was moved to a state. -/
def ending (id : ShadowId) (state : Seed.State) : Exchange Call Call.Answer :=
  ⟨.store (.compareAndSet id .pending state), (Except.ok () : Except Store.Error Unit)⟩

/-- `finish` succeeds only after it has moved the seed. -/
theorem ending_mem_of_finish_runs {target : Seed.State} {archive : Option Seed.Archive}
    (h : (finish id target archive).Runs log (.ok ())) : ending id target ∈ log := by
  unfold finish at h
  obtain ⟨moved, first, rest, rfl, hm, hr⟩ := runs_bind.mp h
  cases moved with
  | error e => cases hr.2
  | ok =>
      rw [transition_runs] at hm
      split at hm
      · obtain ⟨answer, rfl, ha⟩ := hm
        have ok : answer = .ok () := by
          cases answer with
          | error e => cases ha
          | ok => rfl
        subst ok
        exact List.mem_append_left _ List.mem_cons_self
      · cases hm.2

/-- `advance` tells that a result was applied only after it has moved the seed. -/
theorem ending_mem_of_advance_runs {result : Capture.Result} {target state : Seed.State}
    {reconciling : Bool}
    (h : (advance rules result target reconciling).Runs log (.ok (.applied state))) :
    ending result.id state ∈ log := by
  unfold advance at h
  cases ha : archiveFor rules result target with
  | error e =>
      rw [ha] at h
      cases h.2
  | ok archive =>
      rw [ha] at h
      obtain ⟨marked, first, rest, rfl, -, h⟩ := runs_bind.mp h
      cases marked with
      | error e => cases h.2
      | ok =>
          obtain ⟨finished, second, rest, rfl, hf, h⟩ := runs_bind.mp h
          cases finished with
          | error e => cases h.2
          | ok =>
              obtain ⟨-, -, -, -, hx⟩ := h
              cases hx
              exact List.mem_append_right _
                (List.mem_append_left _ (ending_mem_of_finish_runs hf))

theorem recordMissingArchive_not_applied {result : Capture.Result} {state : Seed.State} :
    ¬(recordMissingArchive rules result).Runs log (.ok (.applied state)) := by
  intro h
  unfold recordMissingArchive at h
  cases hr : result.record with
  | none =>
      rw [hr] at h
      cases h.2
  | some record =>
      rw [hr] at h
      dsimp only at h
      cases ha : archiveOf rules record with
      | error e =>
          rw [ha] at h
          cases h.2
      | ok archive =>
          rw [ha] at h
          obtain ⟨written, first, rest, rfl, -, h⟩ := runs_bind.mp h
          cases written <;> cases h.2

/-- **Only the caller that has moved a seed to its last state is told that its result was
applied.** -/
theorem ending_mem_of_processResult_runs {result : Capture.Result} {state : Seed.State}
    (h : (processResult rules result).Runs log (.ok (.applied state))) :
    ending result.id state ∈ log := by
  unfold processResult at h
  obtain ⟨read, first, rest, rfl, -, h⟩ := runs_bind.mp h
  cases read with
  | error e => cases h.2
  | ok seed =>
      dsimp only at h
      cases hd : result.decision seed.state seed.archive.isSome with
      | advance target reconciling =>
          rw [hd] at h
          exact List.mem_append_right _ (ending_mem_of_advance_runs h)
      | unfinished =>
          rw [hd] at h
          cases h.2
      | alreadyFinished state =>
          rw [hd] at h
          cases h.2
      | recordArchive =>
          rw [hd] at h
          exact absurd h recordMissingArchive_not_applied

end WebCapture.Service
