import WebCapture.Proofs.Queue.Memory

set_option autoImplicit false

/-! # No result is left unseen

A consumer that waits for a result is told of every result, whatever the order of the steps that
it and the producers take. `Wakeup.Attended` is what all these steps keep: a consumer that has
looked at the channel too early has a call kept for it, or a producer is about to call. So a
consumer never sleeps at a result of which nobody will tell it, and it takes the first result once
the producers that are busy have called (`Wakeup.no_lost_wakeup`).

The order that might go wrong is this one: the consumer finds nothing, a producer appends a result
and calls, and only then does the consumer go to sleep. The call finds nobody asleep and is kept.
A consumer that wants to sleep uses up the kept call and looks again instead.
-/

namespace WebCapture.Queue.Wakeup

open Text.Utf8 (Bytes)

variable {state next : Wakeup} {move : Move}

/-! ## Single steps

A step is possible in some states only, as `Wakeup.step?` tells by cases. `Does` has one
constructor for each kind of step, with what the state must be and what becomes of it.
-/

/-- What a step does. -/
inductive Does (state : Wakeup) : Move → Wakeup → Prop where
  | append (payload : Bytes) :
      Does state (.append payload) { state with
        channels := state.channels.pushResult payload
        callers := state.callers + 1 }
  | wake (busy : 0 < state.callers) :
      Does state .wake { state.call with callers := state.callers - 1 }
  | begin (away : state.consumer = .away) :
      Does state .begin { state with consumer := .looking }
  | look (looking : state.consumer = .looking) : Does state .look state.look
  | stay (drowsy : state.consumer = .drowsy) (kept : state.kept = true) :
      Does state .doze { state with kept := false, consumer := .away }
  | sleep (drowsy : state.consumer = .drowsy) (kept : state.kept = false) :
      Does state .doze { state with consumer := .asleep }
  | notice (woken : state.consumer = .woken) : Does state .doze { state with consumer := .away }
  | leave (kept : Bool) : Does state .leave { state with kept := kept, consumer := .away }

theorem does_of_step? (step : state.step? move = some next) : state.Does move next := by
  unfold step? at step
  split at step
  · cases step
    exact .append _
  · split at step
    · cases step
    · rename_i busy
      cases step
      exact .wake (Nat.pos_of_ne_zero busy)
  · cases step
    exact .begin ‹_›
  · cases step
    exact .look ‹_›
  · split at step
    · cases step
      exact .stay ‹_› ‹_›
    · rename_i kept
      cases step
      exact .sleep ‹_› (Bool.eq_false_iff.mpr kept)
  · cases step
    exact .notice ‹_›
  -- A consumer that was woken hands the call on; otherwise nothing is kept that was not before.
  · cases step
    exact .leave state.kept
  · cases step
    exact .leave state.kept
  · cases step
    exact .leave state.kept
  · cases step
    exact .leave true
  · cases step

/-! ## What every step keeps -/

/-- A consumer that goes to sleep or sleeps, though there is a result, has looked too early, and will
be told: a call is kept for it while it is drowsy, or a producer is about to call. -/
structure Attended (state : Wakeup) : Prop where
  drowsy : state.consumer = .drowsy → state.channels.results ≠ [] →
    state.kept = true ∨ 0 < state.callers
  asleep : state.consumer = .asleep → state.channels.results ≠ [] → 0 < state.callers

theorem attended_start (channels : Channels) : (start channels).Attended where
  drowsy impossible := by cases impossible
  asleep impossible := by cases impossible

/-- A consumer that is neither drowsy nor asleep will see for itself. -/
theorem attended_of_awake (awake : state.consumer = .away ∨ state.consumer = .looking ∨
    state.consumer = .woken) : state.Attended := by
  constructor
  · intro drowsy
    simp [drowsy] at awake
  · intro asleep
    simp [asleep] at awake

/-- A producer that has appended a result will call. -/
theorem attended_of_callers (busy : 0 < state.callers) : state.Attended where
  drowsy _ _ := .inr busy
  asleep _ _ := busy

/-- A call wakes the consumer, or it is kept until the consumer wants to sleep. -/
theorem attended_call (callers : Nat) : { state.call with callers := callers }.Attended := by
  by_cases asleep : state.consumer = .asleep
  · have called : state.call = { state with consumer := .woken } := by simp [call, asleep]
    rw [called]
    exact attended_of_awake (.inr (.inr rfl))
  · have called : state.call = { state with kept := true } := by
      unfold call
      split
      · contradiction
      · rfl
    rw [called]
    exact ⟨fun _ _ => .inl rfl, fun sleeps => absurd sleeps asleep⟩

/-- A consumer is drowsy after it has looked only if there was nothing to see. -/
theorem attended_look : state.look.Attended := by
  unfold look
  split
  · rename_i empty
    refine ⟨fun _ some => absurd empty some, fun asleep => ?_⟩
    cases asleep
  · exact attended_of_awake (.inl rfl)

/-- **Every step keeps the consumer attended.** -/
theorem Attended.step (attended : state.Attended) (step : state.step? move = some next) :
    next.Attended := by
  cases does_of_step? step with
  | append payload => exact attended_of_callers (Nat.succ_pos _)
  | wake busy => exact attended_call _
  | begin away => exact attended_of_awake (.inr (.inl rfl))
  | look looking => exact attended_look
  | stay drowsy kept => exact attended_of_awake (.inl rfl)
  | sleep drowsy kept =>
      constructor
      · intro impossible
        cases impossible
      · -- Nothing was kept, so a result that came after the look has a producer busy with it.
        intro _ some
        rcases attended.drowsy drowsy some with called | busy
        · rw [kept] at called
          cases called
        · exact busy
  | notice woken => exact attended_of_awake (.inl rfl)
  | leave kept => exact attended_of_awake (.inl rfl)

/-- Whatever steps have been taken, the consumer is attended. -/
theorem Attended.run {moves : List Move} (attended : state.Attended)
    (run : state.run? moves = some next) : next.Attended := by
  induction moves generalizing state with
  | nil =>
      cases run
      exact attended
  | cons move moves ih =>
      cases step : state.step? move with
      | none =>
          rw [run?, List.foldlM_cons, step] at run
          cases run
      | some between =>
          rw [run?_cons step] at run
          exact ih (attended.step step) run

/-! ## The consumer sees every result

Producers that are about to call can always do so, one after the other, since a call never has to
wait for anybody.
-/

/-- The state after all producers that are about to call have done so. -/
theorem run_wakes (callers : Nat) (h : state.callers = callers) :
    ∃ last, state.run? (List.replicate callers .wake) = some last ∧ last.callers = 0 ∧
      last.channels = state.channels := by
  induction callers generalizing state with
  | zero => exact ⟨state, rfl, h, rfl⟩
  | succ callers ih =>
      have woken : state.step? .wake = some { state.call with callers := callers } := by
        simp [step?, h]
      have fewer : { state.call with callers := callers }.callers = callers := rfl
      obtain ⟨last, run, none, same⟩ := ih fewer
      refine ⟨last, (run?_cons woken _).trans run, none, same.trans ?_⟩
      show state.call.channels = state.channels
      unfold call
      split <;> rfl

/-- A consumer of whom nobody has to be told any more takes the first result that is there. -/
theorem Attended.takes {payload : Bytes} {more : List Bytes} (attended : state.Attended)
    (quiet : state.callers = 0) (results : state.channels.results = payload :: more) :
    state.settle.1 = some (decodeResult payload) := by
  have some : state.channels.results ≠ [] := by
    rw [results]
    exact List.cons_ne_nil _ _
  have taken : state.channels.takeResult.1 = decodeResult payload := by
    simp [Channels.takeResult, results]
  have fromAway : ∀ kept, (settle { state with kept := kept, consumer := .away }).1
      = Option.some (decodeResult payload) := by
    intro kept
    have away : { state with kept := kept, consumer := .away }.consumer = .away := rfl
    rw [settle_cons away results]
    exact congrArg Option.some taken
  cases consumer : state.consumer with
  | away =>
      have same : { state with kept := state.kept, consumer := .away } = state := by rw [← consumer]
      rw [← same]
      exact fromAway state.kept
  | looking =>
      rw [settle_looking consumer]
      simp only [results]
      exact congrArg Option.some taken
  | drowsy =>
      -- A kept call takes the consumer round the loop once more.
      rcases attended.drowsy consumer some with kept | busy
      · rw [settle_drowsy consumer, if_pos kept]
        exact fromAway false
      · omega
  | asleep =>
      -- It cannot be asleep: some producer would be about to call.
      have busy := attended.asleep consumer some
      omega
  | woken =>
      rw [settle_woken consumer]
      exact fromAway state.kept

/-- **No wakeup is lost.** Whatever steps a consumer and any number of producers have taken, in
whatever order: the consumer does not sleep at a result of which nobody will tell it; and once the
producers that are about to call have called, it takes the first result that is there without any
further help. -/
theorem no_lost_wakeup (channels : Channels) {moves : List Move} {state : Wakeup}
    (run : (start channels).run? moves = some state) :
    ¬state.Stuck ∧ ∀ payload more, state.channels.results = payload :: more →
      ∃ last, state.run? (List.replicate state.callers .wake) = some last ∧
        last.settle.1 = some (decodeResult payload) := by
  have attended : state.Attended := (attended_start channels).run run
  constructor
  · rintro ⟨asleep, -, quiet, some⟩
    have busy := attended.asleep asleep some
    omega
  · intro payload more results
    obtain ⟨last, woken, quiet, same⟩ := run_wakes _ (Eq.refl state.callers)
    exact ⟨last, woken, (attended.run woken).takes quiet (same ▸ results)⟩

/-- A producer appends a result after the consumer has found nothing and before it sleeps. Its call
wakes the consumer, which gives up at that moment and hands the call on; so when it comes back and
has taken the result it goes round once more without need, and then it sleeps until the next result
is there and its producer has called. -/
def lateAppends : List Move :=
  [.begin, .look, .append [1], .doze, .wake, .leave, .begin, .look, .begin, .look, .doze, .begin,
    .look, .doze, .append [2]]

/-- The consumer is asleep at the second result while its producer is about to call. -/
theorem no_lost_wakeup_late_appends :
    (start .empty).run? lateAppends = some ⟨⟨[], [[2]], []⟩, 1, false, .asleep⟩ ∧
    ¬Stuck ⟨⟨[], [[2]], []⟩, 1, false, .asleep⟩ ∧
    ∃ last, run? ⟨⟨[], [[2]], []⟩, 1, false, .asleep⟩ [.wake] = some last ∧
      last.settle.1 = some (decodeResult [2]) := by
  have run : (start .empty).run? lateAppends = some ⟨⟨[], [[2]], []⟩, 1, false, .asleep⟩ := rfl
  obtain ⟨attended, takes⟩ := no_lost_wakeup .empty run
  exact ⟨run, attended, takes [2] [] rfl⟩

end WebCapture.Queue.Wakeup
