import WebCapture.Proofs.Concurrency.Callers
import WebCapture.Proofs.Service.Exchanges
import WebCapture.Proofs.Service.Keeping
import WebCapture.Proofs.Store.Tables

set_option autoImplicit false

/-! # The lifecycle of seeds under any interleaving

Callers read a seed, decide, and write later, so that what they know of it may be out of date.
Still every seed goes through its lifecycle without skipping, repeating or undoing a step, it is
archived only as a success, and at most one caller is told that its result was applied:
`lifecycle_safe`.

The proof looks at the store first: every call that a caller makes keeps to the lifecycle
(`work_keepsLifecycle`), so that `Store.Tables.answer_evolves` tells what a step does to a seed.
Then it looks at the callers: what is left of a caller's work goes on from the exchanges that it
has had (`Run.resumes`), so that a caller who is told that its result was applied has moved the
seed itself, which only one can have done (`Run.ended_once`).
-/

namespace WebCapture.Concurrency

open Program
open Service (KeepsLifecycle Outcome Rules ending)
open Store (Tables)
open Store.Tables (Evolves)

/-- No job makes a call that does not keep to the lifecycle. -/
theorem work_keepsLifecycle (rules : Rules) (job : Job) :
    (job.work rules).Only KeepsLifecycle := by
  cases job with
  | submit text grouped =>
      exact (Service.submit_isSubmission rules text grouped).mono fun _ stores => stores.keeps
  | submitLines lines grouped =>
      exact (Service.submitLines_isSubmission rules lines grouped).mono fun _ stores => stores.keeps
  | getGroup id => exact ⟨trivial, fun _ => trivial⟩
  | getSeed id => exact Service.keeps_of_workOn (Service.getSeed_workOn id)
  | updateState id state =>
      exact Service.keeps_of_workOn (Service.updateState_workOn id state)
  | transition id source target =>
      exact Service.keeps_of_workOn (Service.transition_workOn id source target)
  | updateArchive id archive =>
      exact Service.keeps_of_workOn (Service.updateArchive_workOn id archive)
  | captureSeed seed =>
      exact Service.keeps_of_captures (Service.captureSeed_captures (List.mem_singleton_self seed))
  | captureGroup group => exact Service.keeps_of_captures (Service.captureGroup_captures group)
  | processResult result =>
      exact Service.keeps_of_workOn (Service.processResult_workOn rules result)

/-! ## What the callers have left to do

What is known of all calls of a job is known of those that are left, for the rest of a job is what
its exchanges leave of it.
-/

variable {rules : Rules} {past : List Moment} {s t : System} {event : Event}

/-- Nobody has work left that does not keep to the lifecycle. -/
def System.KeepsLifecycle (s : System) : Prop :=
  ∀ (n : Nat) (caller : Caller), s.callers[n]? = some (some caller) →
    caller.rest.Only Service.KeepsLifecycle

/-- What is left of the callers' work keeps to the lifecycle. -/
theorem Phase.keepsLifecycle {Allowed : System → Event → Prop} {start : Shared}
    (phase : Phase rules Allowed start past s) : s.KeepsLifecycle :=
  fun _ caller live => (phase.reaches live).only (work_keepsLifecycle rules caller.job)

theorem Run.keepsLifecycle (run : Run rules past s) : s.KeepsLifecycle :=
  (run_iff_phase.mp run).keepsLifecycle

/-- However the rest of a caller's work goes on, with the exchanges that the caller has had it
is a run of the whole job. -/
theorem Run.resumes (run : Run rules past s) {n : Nat} {caller : Caller}
    (live : s.callers[n]? = some (some caller)) {log : List Exchange}
    {answer : caller.job.Answer} (h : caller.rest.Runs log answer) :
    (caller.job.work rules).Runs (exchangesOf past n ++ log) answer :=
  ((run_iff_phase.mp run).reaches live).runs h

/-! ## What a step does to the seeds

A step of the system contains at most one call of the store. It may fail with or without effect,
and in the first case nothing is changed; so the tables are as they were or as the call leaves
them.
-/

/-- A step that changes the tables is a call of the store that keeps to the lifecycle. -/
theorem Step.tables_cases (keeps : s.KeepsLifecycle) (step : Step rules s event t) :
    t.shared.tables = s.shared.tables ∨
      ∃ call : Store.Call, call.KeepsLifecycle ∧
        t.shared.tables = (s.shared.tables.answer call).2 := by
  rcases step.shared_cases with same | ⟨n, job, call, next, answer, turn, -, tried⟩
  · exact .inl same
  · -- The call is the first of what is left of the caller's work.
    have kept := (keeps _ _ turn).1
    rcases tried.tables_cases with same | ⟨c, rfl, done⟩
    · exact .inl same
    · exact .inr ⟨c, kept, done⟩

/-- **In one step of the system every seed goes at most one step further in its life.** -/
theorem Step.evolves (keeps : s.KeepsLifecycle) (step : Step rules s event t) (id : ShadowId) :
    Evolves (s.shared.tables.seeds.find? id) (t.shared.tables.seeds.find? id) := by
  rcases step.tables_cases keeps with same | ⟨call, kept, done⟩
  · rw [same]
    exact .kept _
  · rw [done]
    exact Tables.answer_evolves s.shared.tables kept id

/-- A seed that has ended stays in its state for the rest of a phase. -/
theorem Phase.for_good {Allowed : System → Event → Prop} {start : Shared}
    {before after : List Moment} {moment : Moment} {id : ShadowId} {state : Seed.State}
    (phase : Phase rules Allowed start (before ++ moment :: after) s)
    (there : moment.shared.stateOf? id = some state) (last : state.isTerminal = true) :
    (∀ later ∈ after, later.shared.stateOf? id = some state) ∧
      s.shared.stateOf? id = some state := by
  refine phase.onwards (P := fun after s =>
    (∀ later ∈ after, later.shared.stateOf? id = some state) ∧
      s.shared.stateOf? id = some state) (fun s same => ?_) ?_
  · rw [same]
    exact ⟨fun later h => absurd h List.not_mem_nil, there⟩
  · rintro after s event t phase ⟨stayed, now⟩ - step
    obtain ⟨seed, found, rfl⟩ := Option.map_eq_some_iff.mp now
    have stays := (step.evolves phase.keepsLifecycle id).keeps_terminal found last
    refine ⟨fun later h => ?_, stays⟩
    rcases List.mem_append.mp h with h | h
    · exact stayed later h
    · rw [List.mem_singleton.mp h]
      exact stays

/-! ## The states that a seed has gone through

There is one way through the lifecycle to each state. A trail that is that way neither skips a
state nor repeats one, so that it is enough to show that the trail is the way to the state at the
end.
-/

/-- The way through the lifecycle to a state. -/
def wayTo : Seed.State → List Seed.State
  | .notEnqueued => [.notEnqueued]
  | .pending => [.notEnqueued, .pending]
  | .doneSuccess => [.notEnqueued, .pending, .doneSuccess]
  | .doneFailure => [.notEnqueued, .pending, .doneFailure]

theorem wayTo_prefix (state : Seed.State) :
    wayTo state <+: [.notEnqueued, .pending, .doneSuccess] ∨
      wayTo state <+: [.notEnqueued, .pending, .doneFailure] := by
  cases state <;> decide

theorem getLast?_wayTo (state : Seed.State) : (wayTo state).getLast? = some state := by
  cases state <;> rfl

/-- The states that the seed of an entry has gone through by the lifecycle. -/
def wayOf (entry : Option Seed) : List Seed.State :=
  match entry with
  | none => []
  | some seed => wayTo seed.state

theorem noteState_wayTo (state : Seed.State) : noteState (wayTo state) (some state) = wayTo state := by
  rw [noteState, if_pos (getLast?_wayTo state)]

/-- Noting the state after each step of a seed's life gives the way through the lifecycle. -/
theorem noteState_of_evolves {before after : Option Seed} (h : Evolves before after) :
    noteState (wayOf before) (after.map (·.state)) = wayOf after := by
  cases h with
  | kept =>
      cases before with
      | none => rfl
      | some seed => exact noteState_wayTo seed.state
  | stored seed new =>
      have fresh := (Store.newSeedViolation?_eq_none.mp new).2.2.1
      simp [wayOf, noteState, fresh, wayTo]
  | moved seed state leads =>
      show noteState (wayTo seed.state) (some state) = wayTo state
      revert leads
      cases seed.state <;> cases state <;> decide
  | archived seed archive success => exact noteState_wayTo seed.state

theorem trail_snoc (past : List Moment) (moment : Moment) (id : ShadowId) :
    trail (past ++ [moment]) id = noteState (trail past id) (moment.shared.stateOf? id) := by
  rw [trail, List.foldl_append]
  rfl

/-- The states that a seed has gone through are the way to its state. -/
theorem Run.trail_eq_wayOf (run : Run rules past s) (id : ShadowId) :
    trail past id = wayOf (s.shared.tables.seeds.find? id) := by
  induction run with
  | start => rfl
  | step run step ih =>
      rw [trail_snoc, ih]
      exact noteState_of_evolves (step.evolves run.keepsLifecycle id)

/-- A seed is archived only as a success. -/
theorem Run.consistent (run : Run rules past s) (id : ShadowId) :
    (s.shared.tables.seeds.find? id).all Seed.isConsistent = true := by
  induction run with
  | start => rfl
  | step run step ih => exact (step.evolves run.keepsLifecycle id).consistent ih

/-! ## Who moved a seed to its last state

A move to a last state succeeds only for a seed that is pending, and after it the seed is never
pending again. So there cannot be two such moves.
-/

/-- A successful move to a last state finds the seed pending and leaves it in that state, where
the lifecycle leads. -/
theorem Step.ending_cases (run : Run rules past s) {n : Nat} {id : ShadowId} {state : Seed.State}
    (step : Step rules s (.answered n (ending id state)) t) :
    s.shared.stateOf? id = some .pending ∧ t.shared.stateOf? id = some state ∧
      state.isTerminal = true := by
  cases step with
  | answer turn done =>
      have leads : Seed.State.pending.leadsTo state = true := (run.keepsLifecycle _ _ turn).1
      obtain ⟨ok, rfl⟩ := done
      obtain ⟨seed, found, pending, -, written⟩ :=
        Tables.compareAndSet_eq_ok.mp (Tables.eq_ok_of_answer ok.symm)
      refine ⟨by rw [Shared.stateOf?, found, Option.map_some, pending], ?_, ?_⟩
      · show ((s.shared.tables.answer (.compareAndSet id .pending state)).2.seeds.find? id).map _ = _
        rw [Tables.answer, written, Table.find?_put, if_pos rfl]
        rfl
      · revert leads
        cases state <;> decide

/-- Callers whose moves have brought a seed to a last state. -/
def Ended (past : List Moment) (n : Nat) (id : ShadowId) (state : Seed.State) : Prop :=
  .answered n (ending id state) ∈ past.map (·.event)

theorem Ended.snoc {n : Nat} {id : ShadowId} {state : Seed.State} (h : Ended past n id state)
    (moment : Moment) : Ended (past ++ [moment]) n id state := by
  rw [Ended, List.map_append]
  exact List.mem_append_left _ h

theorem ended_snoc {n : Nat} {id : ShadowId} {state : Seed.State} {shared : Shared} :
    Ended (past ++ [⟨event, shared⟩]) n id state ↔
      Ended past n id state ∨ event = .answered n (ending id state) := by
  rw [Ended, List.map_append, List.mem_append, List.map_singleton, List.mem_singleton, eq_comm]
  exact Iff.rfl

/-- A seed stays in the last state to which it was moved. -/
theorem Run.stateOf?_of_ended (run : Run rules past s) {n : Nat} {id : ShadowId}
    {state : Seed.State} (h : Ended past n id state) :
    s.shared.stateOf? id = some state ∧ state.isTerminal = true := by
  induction run with
  | start => cases h
  | step run step ih =>
      rcases ended_snoc.mp h with old | rfl
      · obtain ⟨there, last⟩ := ih old
        obtain ⟨seed, found, rfl⟩ := Option.map_eq_some_iff.mp there
        exact ⟨(step.evolves run.keepsLifecycle id).keeps_terminal found last, last⟩
      · exact (step.ending_cases run).2

/-- **Only one caller moves a seed to a last state.** -/
theorem Run.ended_once (run : Run rules past s) {n m : Nat} {id : ShadowId}
    {state state' : Seed.State} (hn : Ended past n id state) (hm : Ended past m id state') :
    n = m := by
  induction run with
  | start => cases hn
  | @step past s t event run step ih =>
      -- A move finds the seed pending, so none can have come before it.
      have first : ∀ {k l : Nat} {state state' : Seed.State}, Ended past k id state →
          event ≠ .answered l (ending id state') := by
        rintro k l state state' old rfl
        obtain ⟨there, last⟩ := run.stateOf?_of_ended old
        rw [(step.ending_cases run).1] at there
        cases there
        cases last
      rcases ended_snoc.mp hn with hn | hn <;> rcases ended_snoc.mp hm with hm | hm
      · exact ih hn hm
      · exact absurd hm (first hn)
      · exact absurd hn (first hm)
      · rw [hn] at hm
        exact (Event.answered.inj hm).1

/-! ## Who is told that a result was applied

A caller is told so at the end of its work, which contains such a move. The moves of a caller are
found among its exchanges, also after it is gone.
-/

theorem Event.applied?_eq_some {id : ShadowId} {state : Seed.State} :
    event.applied? id = some state ↔
      ∃ n result, event = .returned n (.processResult result) (Except.ok (Outcome.applied state)) ∧
        result.id = id := by
  constructor
  · intro h
    unfold Event.applied? at h
    split at h
    · split at h
      · cases h
        exact ⟨_, _, rfl, ‹_›⟩
      · cases h
    · cases h
  · rintro ⟨n, result, rfl, rfl⟩
    exact if_pos rfl

theorem applied_snoc (past : List Moment) (moment : Moment) (id : ShadowId) :
    applied (past ++ [moment]) id = applied past id ++ (moment.event.applied? id).toList := by
  unfold applied
  rw [List.filterMap_append]
  cases h : moment.event.applied? id <;> simp [h]

/-- A caller that has ended stays so. -/
theorem Step.gone {n : Nat} (step : Step rules s event t) (h : s.callers[n]? = some none) :
    t.callers[n]? = some none := by
  have other : ∀ {m : Nat} {caller : Caller} (c : Option Caller),
      s.callers[m]? = some (some caller) → (s.setCaller m c).callers[n]? = some none := by
    intro m caller c turn
    have hm : m ≠ n := by
      rintro rfl
      rw [h] at turn
      cases turn
    rw [System.setCaller, List.getElem?_set_ne hm]
    exact h
  cases step with
  | begin job =>
      obtain ⟨hn, -⟩ := List.getElem?_eq_some_iff.mp h
      rwa [List.getElem?_append_left hn]
  | answer turn done => exact other _ turn
  | fail turn failed => exact other _ turn
  | finish turn => exact other _ turn
  | crash turn => exact other _ turn
  | takeRequest => exact h
  | pushResult => exact h

/-- No exchange in which a seed was moved is a failure. -/
theorem Run.ended_of_mem_exchangesOf (run : Run rules past s) {n : Nat} {id : ShadowId}
    {state : Seed.State} (h : ending id state ∈ exchangesOf past n) : Ended past n id state := by
  induction run with
  | start => cases h
  | @step past s t event run step ih =>
      rw [exchangesOf_snoc, List.mem_append, Option.mem_toList] at h
      rw [ended_snoc]
      rcases h with old | new
      · exact .inl (ih old)
      · right
        cases step with
        | @answer m job call next answer shared turn done =>
            simp only [Event.exchange?, Option.ite_none_right_eq_some, Option.some.injEq] at new
            rw [new.1, new.2]
        | @fail m job call next answer shared turn failed =>
            simp only [Event.exchange?, Option.ite_none_right_eq_some, Option.some.injEq] at new
            -- The answer in `ending` is a success.
            rw [new.2] at failed
            obtain ⟨⟨error, impossible⟩, -⟩ := failed
            cases impossible
        | _ => cases new

/-- At most one caller is told that a result was applied to a seed; it has moved the seed and has
ended since. -/
theorem Run.applied_once (run : Run rules past s) (id : ShadowId) :
    (applied past id).length ≤ 1 ∧
      ∀ state ∈ applied past id, ∃ n, s.callers[n]? = some none ∧ Ended past n id state := by
  induction run with
  | start => exact ⟨Nat.zero_le 1, fun state h => absurd h List.not_mem_nil⟩
  | @step past s t event run step ih =>
      obtain ⟨few, told⟩ := ih
      have old : ∀ state ∈ applied past id, ∃ n, t.callers[n]? = some none ∧
          Ended (past ++ [⟨event, t.shared⟩]) n id state := by
        intro state h
        obtain ⟨n, gone, ended⟩ := told state h
        exact ⟨n, step.gone gone, ended.snoc _⟩
      rw [applied_snoc]
      cases h : event.applied? id with
      | none => simpa [h] using ⟨few, old⟩
      | some state =>
          obtain ⟨n, result, rfl, rfl⟩ := Event.applied?_eq_some.mp h
          cases step with
          | finish turn =>
              -- The caller has done all its work, so the exchanges tell that it moved the seed.
              have whole : (Service.processResult rules result).Runs (exchangesOf past n ++ [])
                  (.ok (.applied state)) := run.resumes turn ⟨rfl, rfl⟩
              rw [List.append_nil] at whole
              have ended := run.ended_of_mem_exchangesOf
                (Service.ending_mem_of_processResult_runs whole)
              -- Whoever was told before would have to be this caller, which is still at work.
              have first : applied past result.id = [] := by
                rw [List.eq_nil_iff_forall_not_mem]
                intro state' h'
                obtain ⟨m, gone, ended'⟩ := told state' h'
                rw [run.ended_once ended ended', gone] at turn
                cases turn
              obtain ⟨here, -⟩ := List.getElem?_eq_some_iff.mp turn
              rw [first]
              refine ⟨Nat.le_refl 1, fun state' h' => ⟨n, ?_, ?_⟩⟩
              · rw [System.setCaller, List.getElem?_set_self here]
              · cases List.mem_singleton.mp h'
                exact ended.snoc _

/-! ## The lifecycle is safe -/

/-- **Lifecycle safety.** Whatever any number of callers do in any interleaving, whichever of
their calls fail, with or without effect, and whoever crashes: a stored seed has gone through its
lifecycle up to its state, step by step; it has archive details only as a success; and at most
one caller is told that its result was applied, to a seed that is in the state it is told and
will stay there, since it is a last one. -/
theorem lifecycle_safe (rules : Rules) {past : List Moment} {s : System}
    (run : Run rules past s) {id : ShadowId} {seed : Seed}
    (stored : s.shared.tables.seeds.find? id = some seed) :
    (trail past id <+: [.notEnqueued, .pending, .doneSuccess] ∨
      trail past id <+: [.notEnqueued, .pending, .doneFailure]) ∧
    (trail past id).getLast? = some seed.state ∧
    (seed.archive.isSome → seed.state = .doneSuccess) ∧
    (applied past id).length ≤ 1 ∧
    ∀ state ∈ applied past id, seed.state = state ∧ state.isTerminal = true := by
  have way : trail past id = wayTo seed.state := by
    rw [run.trail_eq_wayOf id, stored, wayOf]
  obtain ⟨few, told⟩ := run.applied_once id
  refine ⟨?_, ?_, fun archived => ?_, few, fun state h => ?_⟩
  · rw [way]
    exact wayTo_prefix seed.state
  · rw [way]
    exact getLast?_wayTo seed.state
  · have consistent := run.consistent id
    rw [stored] at consistent
    exact Seed.isConsistent_iff.mp consistent (Option.isSome_iff_ne_none.mp archived)
  · obtain ⟨n, -, ended⟩ := told state h
    obtain ⟨there, last⟩ := run.stateOf?_of_ended ended
    rw [Shared.stateOf?, stored] at there
    exact ⟨Option.some.inj there, last⟩

/-- A seed that was submitted, captured and archived. -/
theorem lifecycle_safe_archived_seed :
    ∃ past s, Run ⟨100, 10, false, "https://archive.test/"⟩ past s ∧
      s.shared.tables.seeds.find? "A" = some ⟨"http://a.test", true, .doneSuccess,
        some ⟨"https://archive.test/20240101120000/http://a.test/", ⟨19723, 43200, 0⟩⟩, "A"⟩ ∧
      (trail past "A" <+: [.notEnqueued, .pending, .doneSuccess] ∨
        trail past "A" <+: [.notEnqueued, .pending, .doneFailure]) ∧
      (trail past "A").getLast? = some .doneSuccess ∧
      (applied past "A").length ≤ 1 ∧
      ∀ state ∈ applied past "A", Seed.State.doneSuccess = state ∧ state.isTerminal = true := by
  have empty : Run ⟨100, 10, false, "https://archive.test/"⟩ [] .empty := .start
  obtain ⟨first, submitted⟩ := empty.alone (.submitLines ["http://a.test"] false) "A" "G"
  obtain ⟨second, processed⟩ :=
    submitted.alone (.processResult
      ⟨"A", true, [], some ⟨"20240101120000", "http://a.test/"⟩⟩) "B" "G"
  refine ⟨_, _, processed, by decide +kernel, ?_⟩
  let archived : Seed := ⟨"http://a.test", true, .doneSuccess,
    some ⟨"https://archive.test/20240101120000/http://a.test/", ⟨19723, 43200, 0⟩⟩, "A"⟩
  obtain ⟨way, last, -, few, told⟩ :=
    @lifecycle_safe _ _ _ processed "A" archived (by decide +kernel)
  exact ⟨way, last, few, told⟩

end WebCapture.Concurrency
