import WebCapture.Proofs.Concurrency.SeedCalls

set_option autoImplicit false

/-! # What the callers have done and have left to do

A step changes what at most one caller has left to do, and it changes what the callers share only
as an exchange of that caller does (`Step.caller_cases`, `Step.shared_cases`). These two lemmas
say all that other files need of a step; they do not look at its constructors.

Along a phase, what is left of a caller's work goes on from the exchanges that it has had:
`Phase.reaches`. A statement about the program of a job, of the form that every run has some
exchange before another one, so becomes one about moments of a phase.
-/

namespace WebCapture.Concurrency

open Program
open Service (Call Rules Work)

variable {rules : Rules} {past : List Moment} {s t : System} {event : Event}

def Job.isProcessing : Job → Bool
  | .processResult _ => true
  | _ => false

/-! ## One step -/

/-- A caller that is at work after a step was so before it and had no exchange, or has just
begun, or has had one exchange. -/
theorem Step.caller_cases {n : Nat} {caller : Caller} (step : Step rules s event t)
    (live : t.callers[n]? = some (some caller)) :
    (s.callers[n]? = some (some caller) ∧ event.exchange? n = none) ∨
    (n = s.callers.length ∧ event = .begun caller.job ∧ caller.rest = caller.job.work rules) ∨
    ∃ (call : Call) (next : call.Answer → Work caller.job.Answer) (answer : call.Answer),
      s.callers[n]? = some (some ⟨caller.job, .call call next⟩) ∧
        event.exchange? n = some ⟨call, answer⟩ ∧
        s.shared.Tries (event = .failed n ⟨call, answer⟩) ⟨call, answer⟩ t.shared ∧
        caller.rest = next answer := by
  -- The step of another caller leaves this one alone; so do steps that end one.
  have other : ∀ (m : Nat) (c : Option Caller), m ≠ n →
      (s.setCaller m c).callers[n]? = some (some caller) →
        s.callers[n]? = some (some caller) := by
    intro m c hm h
    rwa [System.setCaller, List.getElem?_set_ne hm] at h
  have own : ∀ c : Option Caller,
      (s.setCaller n c).callers[n]? = some (some caller) → c = some caller := by
    intro c h
    rw [System.setCaller, List.getElem?_set_self'] at h
    cases hn : s.callers[n]? with
    | none => simp [hn] at h
    | some _ => simpa [hn] using h
  cases step with
  | begin job =>
      rw [List.getElem?_append] at live
      split at live
      · exact .inl ⟨live, rfl⟩
      · -- The new caller has the next number.
        rename_i h
        rw [List.getElem?_singleton] at live
        split at live
        · cases live
          exact .inr (.inl ⟨by omega, rfl, rfl⟩)
        · cases live
  | @answer m job call next answer shared turn done =>
      by_cases hm : m = n
      · subst hm
        cases own _ live
        exact .inr (.inr ⟨call, next, answer, turn, if_pos rfl, .inl done, rfl⟩)
      · exact .inl ⟨other m _ hm live, if_neg hm⟩
  | @fail m job call next answer shared turn failed =>
      by_cases hm : m = n
      · subst hm
        cases own _ live
        exact .inr (.inr ⟨call, next, answer, turn, if_pos rfl, .inr ⟨rfl, failed⟩, rfl⟩)
      · exact .inl ⟨other m _ hm live, if_neg hm⟩
  | @finish m job answer turn =>
      by_cases hm : m = n
      · subst hm
        cases own _ live
      · exact .inl ⟨other m _ hm live, rfl⟩
  | @crash m caller' turn =>
      by_cases hm : m = n
      · subst hm
        cases own _ live
      · exact .inl ⟨other m _ hm live, rfl⟩
  | takeRequest => exact .inl ⟨live, rfl⟩
  | pushResult => exact .inl ⟨live, rfl⟩

/-- A caller that is at work after a step was so before it, at the same job, or has just begun. -/
theorem Step.job_cases (step : Step rules s event t) {n : Nat} {caller : Caller}
    (live : t.callers[n]? = some (some caller)) :
    (∃ rest, s.callers[n]? = some (some ⟨caller.job, rest⟩)) ∨
      n = s.callers.length ∧ event = .begun caller.job := by
  rcases step.caller_cases live with ⟨old, -⟩ | ⟨fresh, begun, -⟩ | ⟨call, next, -, old, -⟩
  · exact .inl ⟨caller.rest, old⟩
  · exact .inr ⟨fresh, begun⟩
  · exact .inl ⟨_, old⟩

/-- A step that changes the tables is an exchange of a caller at work. -/
theorem Step.shared_cases (step : Step rules s event t) :
    t.shared.tables = s.shared.tables ∨
    ∃ (n : Nat) (job : Job) (call : Call) (next : call.Answer → Work job.Answer)
      (answer : call.Answer),
      s.callers[n]? = some (some ⟨job, .call call next⟩) ∧
        event.exchange? n = some ⟨call, answer⟩ ∧
        s.shared.Tries (event = .failed n ⟨call, answer⟩) ⟨call, answer⟩ t.shared := by
  cases step with
  | answer turn done => exact .inr ⟨_, _, _, _, _, turn, if_pos rfl, .inl done⟩
  | fail turn failed => exact .inr ⟨_, _, _, _, _, turn, if_pos rfl, .inr ⟨rfl, failed⟩⟩
  | _ => exact .inl rfl

/-- The exchange of a step is a call that is answered or fails. -/
theorem Step.tries_of_exchange (step : Step rules s event t) {n : Nat} {exchange : Exchange}
    (h : event.exchange? n = some exchange) : s.shared.Tries True exchange t.shared := by
  cases step with
  | answer turn done =>
      simp only [Event.exchange?, Option.ite_none_right_eq_some, Option.some.injEq] at h
      rw [← h.2]
      exact .inl done
  | fail turn failed =>
      simp only [Event.exchange?, Option.ite_none_right_eq_some, Option.some.injEq] at h
      rw [← h.2]
      exact .inr ⟨trivial, failed⟩
  | _ => cases h

theorem exchangesOf_snoc (past : List Moment) (moment : Moment) (n : Nat) :
    exchangesOf (past ++ [moment]) n = exchangesOf past n ++ (moment.event.exchange? n).toList := by
  unfold exchangesOf
  rw [List.filterMap_append]
  cases h : moment.event.exchange? n <;> simp [h]

/-! ## Phases -/

variable {Allowed : System → Event → Prop} {start : Shared}

/-- Nobody has had exchanges under a number that was not given out. -/
theorem Phase.exchangesOf_eq_nil (phase : Phase rules Allowed start past s) {n : Nat}
    (unborn : s.callers.length ≤ n) : exchangesOf past n = [] := by
  induction phase with
  | start => rfl
  | @step past s t event phase allowed step ih =>
      have grown : s.callers.length ≤ n ∧ event.exchange? n = none := by
        cases step with
        | begin job =>
            rw [List.length_append] at unborn
            exact ⟨by omega, rfl⟩
        | answer turn done =>
            obtain ⟨hm, -⟩ := List.getElem?_eq_some_iff.mp turn
            rw [System.setCaller, List.length_set] at unborn
            exact ⟨unborn, if_neg (by omega)⟩
        | fail turn failed =>
            obtain ⟨hm, -⟩ := List.getElem?_eq_some_iff.mp turn
            rw [System.setCaller, List.length_set] at unborn
            exact ⟨unborn, if_neg (by omega)⟩
        | finish turn =>
            rw [System.setCaller, List.length_set] at unborn
            exact ⟨unborn, rfl⟩
        | crash turn =>
            rw [System.setCaller, List.length_set] at unborn
            exact ⟨unborn, rfl⟩
        | takeRequest => exact ⟨unborn, rfl⟩
        | pushResult => exact ⟨unborn, rfl⟩
      rw [exchangesOf_snoc, ih grown.1]
      simp only
      rw [grown.2]
      rfl

/-- What is left of a caller's work is what the exchanges that it has had leave of its job. -/
theorem Phase.reaches (phase : Phase rules Allowed start past s) {n : Nat} {caller : Caller}
    (live : s.callers[n]? = some (some caller)) :
    (caller.job.work rules).Reaches (exchangesOf past n) caller.rest := by
  induction phase generalizing caller with
  | start => cases live
  | @step past s t event phase allowed step ih =>
      rw [exchangesOf_snoc]
      simp only
      rcases step.caller_cases live with
        ⟨old, none⟩ | ⟨fresh, begun, whole⟩ | ⟨call, next, answer, old, one, -, rest⟩
      · rw [none, Option.toList_none, List.append_nil]
        exact ih old
      · rw [begun, phase.exchangesOf_eq_nil (Nat.le_of_eq fresh.symm)]
        exact whole
      · rw [one, Option.toList_some, rest]
        exact (ih old).snoc answer

variable {before after : List Moment} {moment : Moment}

/-- What the step at a moment of a phase brings about, and every step after it keeps, holds at the
end. -/
theorem Phase.from_moment {P : List Moment → System → Prop}
    (phase : Phase rules Allowed start (before ++ moment :: after) s)
    (here : ∀ u v, Phase rules Allowed start before u → Allowed u moment.event →
      Step rules u moment.event v → v.shared = moment.shared → P [] v)
    (further : ∀ after s event t, Phase rules Allowed start (before ++ moment :: after) s →
      P after s → Allowed s event → Step rules s event t → P (after ++ [⟨event, t.shared⟩]) t) :
    P after s := by
  generalize whole : before ++ moment :: after = past at phase
  induction phase generalizing after with
  | start => simp at whole
  | @step past s t event phase allowed step ih =>
      rcases List.eq_nil_or_concat after with rfl | ⟨earlier, last, rfl⟩
      · -- The moment is the last one.
        obtain ⟨rfl, same⟩ := List.append_inj' whole rfl
        cases same
        exact here s t phase allowed step rfl
      · rw [List.concat_eq_append, ← List.cons_append, ← List.append_assoc] at whole
        obtain ⟨same, new⟩ := List.append_inj' whole rfl
        cases new
        rw [List.concat_eq_append]
        exact further earlier s event t (same ▸ phase) (ih same) allowed step

/-- At every moment of a phase a step has been made that was allowed. -/
theorem Phase.at_moment (phase : Phase rules Allowed start (before ++ moment :: after) s) :
    ∃ u v, Phase rules Allowed start before u ∧ Allowed u moment.event ∧
      Step rules u moment.event v ∧ v.shared = moment.shared :=
  phase.from_moment
    (P := fun _ _ => ∃ u v, Phase rules Allowed start before u ∧ Allowed u moment.event ∧
      Step rules u moment.event v ∧ v.shared = moment.shared)
    (fun u v earlier allowed step same => ⟨u, v, earlier, allowed, step, same⟩)
    fun _ _ _ _ _ found _ _ => found

/-- What holds at a moment of a phase and is kept by every step after it holds at the end. -/
theorem Phase.onwards {P : List Moment → System → Prop}
    (phase : Phase rules Allowed start (before ++ moment :: after) s)
    (here : ∀ s, s.shared = moment.shared → P [] s)
    (further : ∀ after s event t, Phase rules Allowed start (before ++ moment :: after) s →
      P after s → Allowed s event → Step rules s event t → P (after ++ [⟨event, t.shared⟩]) t) :
    P after s :=
  phase.from_moment (fun _ v _ _ _ same => here v same) further

end WebCapture.Concurrency
