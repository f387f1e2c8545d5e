import WebCapture.Proofs.Service.Exchanges
import WebCapture.Proofs.Service.Keeping

set_option autoImplicit false

/-! # What is counted when a result is processed

Only the last exchange of `processResult` may count something, and it does so if the result was
applied, which brings its seed to a state in which it has ended (`processResult_counts`). Whatever
else becomes of the result is left to the listener to count.

A counter is raised only when all that comes before has succeeded. So a success whose archive
details cannot be written is not counted; nor is it when they are written later, since that counts
nothing (`recordMissingArchive_counts`).
-/

namespace WebCapture.Service

open Program

/-! ## Counted events -/

def counted? : Exchange Call Call.Answer → Option Event
  | ⟨.count event, _⟩ => some event
  | _ => none

def countedIn (log : Log) : List Event := log.filterMap counted?

theorem countedIn_append (first rest : Log) :
    countedIn (first ++ rest) = countedIn first ++ countedIn rest := List.filterMap_append

def IsStoreCall : Call → Prop
  | .store _ => True
  | _ => False

/-- Calls of the store count nothing. -/
theorem countedIn_eq_nil {log : Log} (stores : ∀ e ∈ log, IsStoreCall e.call) :
    countedIn log = [] := by
  refine List.filterMap_eq_nil_iff.mpr fun e here => ?_
  have store := stores e here
  obtain ⟨c, answer⟩ := e
  cases c with
  | store c => rfl
  | _ => exact store.elim

/-! ## Parts that count nothing

All of these are calls of the store, which is proved once for each function of the service in
terms of `Program.Only`.
-/

theorem transition_stores (id : ShadowId) (source target : Seed.State) :
    (transition id source target).Only IsStoreCall := by
  unfold transition
  split
  · exact ⟨trivial, fun _ => trivial⟩
  · exact only_pure

theorem updateArchive_stores (id : ShadowId) (archive : Seed.Archive) :
    (updateArchive id archive).Only IsStoreCall :=
  ⟨trivial, fun _ => trivial⟩

theorem reconcile_stores (id : ShadowId) (needed : Bool) :
    (reconcile id needed).Only IsStoreCall := by
  unfold reconcile
  split
  · refine only_bind (transition_stores id _ _) fun marked => ?_
    cases marked with
    | ok => exact only_pure
    | error e =>
        dsimp only
        split <;> exact only_pure
  · exact only_pure

theorem finish_stores (id : ShadowId) (target : Seed.State) (archive : Option Seed.Archive) :
    (finish id target archive).Only IsStoreCall := by
  refine only_bind (transition_stores id _ _) fun moved => ?_
  cases moved with
  | error e => exact only_pure
  | ok =>
      cases archive with
      | none => exact only_pure
      | some archive => exact updateArchive_stores id archive

theorem recordMissingArchive_stores (rules : Rules) (result : Capture.Result) :
    (recordMissingArchive rules result).Only IsStoreCall := by
  unfold recordMissingArchive
  split
  · exact only_pure
  · split
    · exact only_pure
    · refine only_bind (updateArchive_stores _ _) fun written => ?_
      cases written <;> exact only_pure

/-! ## Processing a result -/

variable {rules : Rules} {result : Capture.Result} {log : Log}

def Outcome.event? : Outcome → Option Event
  | .applied state => some (.result state)
  | _ => none

def eventsOf : Except SeedError Outcome → List Event
  | .ok outcome => outcome.event?.toList
  | .error _ => []

/-- A move to a last state is counted if all of it has succeeded. -/
theorem advance_counts {target : Seed.State} {reconciling : Bool}
    {answer : Except SeedError Outcome}
    (h : (advance rules result target reconciling).Runs log answer) :
    countedIn log = eventsOf answer := by
  unfold advance at h
  cases archived : archiveFor rules result target with
  | error e =>
      rw [archived] at h
      obtain ⟨rfl, rfl⟩ := h
      rfl
  | ok archive =>
      rw [archived] at h
      obtain ⟨marked, first, rest, rfl, marking, h⟩ := runs_bind.mp h
      rw [countedIn_append, countedIn_eq_nil (marking.only (reconcile_stores _ _)), List.nil_append]
      cases marked with
      | error e =>
          obtain ⟨rfl, rfl⟩ := h
          rfl
      | ok =>
          obtain ⟨finished, second, rest, rfl, finishing, h⟩ := runs_bind.mp h
          rw [countedIn_append, countedIn_eq_nil (finishing.only (finish_stores _ _ _)),
            List.nil_append]
          cases finished with
          | error e =>
              obtain ⟨rfl, rfl⟩ := h
              rfl
          | ok =>
              obtain ⟨told, last, rfl, rfl, rfl⟩ := h
              rfl

/-- Archive details that were missing are written without being counted. -/
theorem recordMissingArchive_counts {answer : Except SeedError Outcome}
    (h : (recordMissingArchive rules result).Runs log answer) :
    countedIn log = eventsOf answer := by
  have nothing : eventsOf answer = [] := by
    cases answer with
    | error e => rfl
    | ok outcome =>
        cases outcome with
        | applied state => exact absurd h recordMissingArchive_not_applied
        | _ => rfl
  rw [nothing]
  exact countedIn_eq_nil (h.only (recordMissingArchive_stores rules result))

/-- **To process a result counts one event if the result is applied, and none otherwise.** -/
theorem processResult_counts {answer : Except SeedError Outcome}
    (h : (processResult rules result).Runs log answer) : countedIn log = eventsOf answer := by
  unfold processResult at h
  obtain ⟨read, first, rest, rfl, reading, h⟩ := runs_bind.mp h
  have stores : (getSeed result.id).Only IsStoreCall := ⟨trivial, fun _ => trivial⟩
  rw [countedIn_append, countedIn_eq_nil (reading.only stores), List.nil_append]
  cases read with
  | error e =>
      obtain ⟨rfl, rfl⟩ := h
      rfl
  | ok seed =>
      dsimp only at h
      split at h
      · exact advance_counts h
      · obtain ⟨rfl, rfl⟩ := h
        rfl
      · obtain ⟨rfl, rfl⟩ := h
        rfl
      · exact recordMissingArchive_counts h

/-- A result is applied only by bringing its seed to a state in which it has ended. -/
theorem terminal_of_applied {state : Seed.State}
    (h : (processResult rules result).Runs log (.ok (.applied state))) :
    state.isTerminal = true := by
  obtain ⟨-, leads⟩ := h.only (processResult_workOn rules result) _ (ending_mem_of_processResult_runs h)
  cases state with
  | doneSuccess => rfl
  | doneFailure => rfl
  | _ => cases leads

end WebCapture.Service
