import WebCapture.Proofs.Queue.Handover
import WebCapture.Queue.Memory

set_option autoImplicit false

/-! # The queue in memory

The loop of the consumer ends with the first result or with a consumer that sleeps
(`Wakeup.settle_cons`, `Wakeup.settle_nil`), and is a run of the consumer's own steps
(`Wakeup.settle_run`). So the queue in memory is seen to do what a `Handover` does
(`Memory.observe_shows`).

Between two events the consumer in memory is away or asleep, and never in the middle of its loop.
A call that was kept for it while it was away only takes it round the loop once more, which is not
seen from outside. That is why `Memory.Shows` says nothing of such a call.
-/

namespace WebCapture.Queue

open Text.Utf8 (Bytes)

/-! ## The loop of the consumer

One lemma for each place in the loop tells what comes next; the two that follow go round the whole
of it. They start with a consumer that is away, as every consumer is that begins to wait.
-/

namespace Wakeup

variable {state : Wakeup}

theorem settle_away (away : state.consumer = .away) :
    state.settle = settle { state with consumer := .looking } := by
  obtain ⟨channels, callers, kept, consumer⟩ := state
  cases away
  rw [settle]

theorem settle_woken (woken : state.consumer = .woken) :
    state.settle = settle { state with consumer := .away } := by
  obtain ⟨channels, callers, kept, consumer⟩ := state
  cases woken
  rw [settle]

theorem settle_looking (looking : state.consumer = .looking) :
    state.settle = match state.channels.results with
      | [] => settle { state with consumer := .drowsy }
      | _ :: _ => (some state.channels.takeResult.1, state.look) := by
  obtain ⟨⟨requests, results, unmatched⟩, callers, kept, consumer⟩ := state
  cases looking
  cases results <;> rw [settle]

theorem settle_drowsy (drowsy : state.consumer = .drowsy) :
    state.settle = if state.kept then settle { state with kept := false, consumer := .away }
      else (none, { state with consumer := .asleep }) := by
  obtain ⟨channels, callers, kept, consumer⟩ := state
  cases drowsy
  rw [settle]
  cases kept <;> rfl

/-- Without a result the consumer falls asleep; a call that was kept for it takes it round once
more. -/
theorem settle_nil (away : state.consumer = .away) (empty : state.channels.results = []) :
    state.settle = (none, { state with kept := false, consumer := .asleep }) := by
  have round : ∀ kept, settle { state with kept := kept, consumer := .away }
      = if kept then settle { state with kept := false, consumer := .away }
        else (none, { state with kept := false, consumer := .asleep }) := by
    intro kept
    rw [settle_away rfl, settle_looking rfl]
    simp only [empty]
    rw [settle_drowsy rfl]
    cases kept <;> rfl
  have same : { state with consumer := .away } = state := by rw [← away]
  rw [← same, round state.kept]
  cases state.kept with
  | false => rfl
  | true => exact round false

/-- With a result the consumer takes it. -/
theorem settle_cons {payload : Bytes} {more : List Bytes} (away : state.consumer = .away)
    (results : state.channels.results = payload :: more) :
    state.settle = (some state.channels.takeResult.1,
      { state with channels := state.channels.takeResult.2, consumer := .away }) := by
  rw [settle_away away, settle_looking rfl]
  simp only [results, look]

/-- A run that starts with a certain step. -/
theorem run?_cons {state' : Wakeup} {move : Move} (h : state.step? move = some state')
    (moves : List Move) : state.run? (move :: moves) = state'.run? moves := by
  rw [run?, List.foldlM_cons, h]
  rfl

/-- **The loop is a run of the steps that a consumer takes.** -/
theorem settle_run (state : Wakeup) :
    ∃ moves, (∀ move ∈ moves, move = .begin ∨ move = .look ∨ move = .doze) ∧
      state.run? moves = some state.settle.2 := by
  -- Every round of the loop is one step of the consumer, and the loop goes on from there.
  fun_induction settle state with
  | case1 state asleep => exact ⟨[], by simp, rfl⟩
  | case2 state away ih =>
      obtain ⟨moves, own, run⟩ := ih
      have begun : state.step? .begin = some { state with consumer := .looking } := by
        simp [step?, away]
      exact ⟨.begin :: moves, by simpa using own, (run?_cons begun moves).trans run⟩
  | case3 state looking empty ih =>
      obtain ⟨moves, own, run⟩ := ih
      have looked : state.step? .look = some { state with consumer := .drowsy } := by
        simp [step?, looking, look, empty]
      exact ⟨.look :: moves, by simpa using own, (run?_cons looked moves).trans run⟩
  | case4 state looking payload more results =>
      have looked : state.step? .look = some state.look := by simp [step?, looking]
      exact ⟨[.look], by simp, (run?_cons looked []).trans rfl⟩
  | case5 state drowsy kept ih =>
      obtain ⟨moves, own, run⟩ := ih
      have dozed : state.step? .doze = some { state with kept := false, consumer := .away } := by
        simp [step?, drowsy, kept]
      exact ⟨.doze :: moves, by simpa using own, (run?_cons dozed moves).trans run⟩
  | case6 state drowsy kept =>
      have dozed : state.step? .doze = some { state with consumer := .asleep } := by
        simp [step?, drowsy, kept]
      exact ⟨[.doze], by simp, (run?_cons dozed []).trans rfl⟩
  | case7 state woken ih =>
      obtain ⟨moves, own, run⟩ := ih
      have dozed : state.step? .doze = some { state with consumer := .away } := by
        simp [step?, woken]
      exact ⟨.doze :: moves, by simpa using own, (run?_cons dozed moves).trans run⟩

/-- **To deliver a result is to append it and to call the consumer.** -/
theorem deliver_run (state : Wakeup) (payload : Bytes) :
    state.run? [.append payload, .wake] = some (state.deliver payload) := by
  obtain ⟨channels, callers, kept, consumer⟩ := state
  cases consumer <;> rfl

end Wakeup

/-! ## Events -/

/-- The queue in memory does what a handover does: its consumer sleeps while it waits, and is away
otherwise. -/
structure Memory.Shows (memory : Memory) (handover : Handover) : Prop where
  channels : memory.wakeup.channels = handover.channels
  waiting : memory.waiting = handover.waiting
  consumer : memory.wakeup.consumer = if handover.waiting.isSome then .asleep else .away

namespace Memory

variable {memory : Memory} {handover : Handover}

/-- **The loop ends with the first result, or with a consumer that sleeps.** -/
theorem await_shows (channels : memory.wakeup.channels = handover.channels)
    (away : memory.wakeup.consumer = .away) (timeout : Time.Span) :
    (memory.await timeout).1 = (handover.await timeout).1 ∧
      (memory.await timeout).2.Shows (handover.await timeout).2 := by
  unfold await Handover.await
  cases results : handover.channels.results with
  | nil =>
      rw [Wakeup.settle_nil away (channels ▸ results)]
      exact ⟨rfl, channels, rfl, rfl⟩
  | cons payload more =>
      rw [Wakeup.settle_cons away (channels ▸ results), channels]
      exact ⟨rfl, rfl, rfl, rfl⟩

/-- A consumer that was called goes on with its loop. -/
theorem await_woken (woken : memory.wakeup.consumer = .woken) (timeout : Time.Span) :
    memory.await timeout
      = await ⟨{ memory.wakeup with consumer := .away }, memory.waiting⟩ timeout := by
  rw [await, await, Wakeup.settle_woken woken]

theorem Shows.withChannels (shown : memory.Shows handover) (channels : Channels) :
    (memory.withChannels channels).Shows { handover with channels := channels } :=
  ⟨rfl, shown.waiting, shown.consumer⟩

/-- What a call that is answered at once does. -/
theorem step_call {call : Call} (prompt : call.IsPrompt) :
    memory.step (.call call) = ([.answer call (memory.wakeup.channels.answer call).1],
      memory.withChannels (memory.wakeup.channels.answer call).2) := by
  cases call with
  | awaitResult timeout => exact absurd rfl (prompt timeout)
  | _ => rfl

/-- A result that arrives is kept for later, or wakes the consumer that waits. -/
theorem bring_shows (shown : memory.Shows handover) (payload : Bytes) :
    (memory.step (.bringResult payload)).1 = (handover.step (.bringResult payload)).1 ∧
      (memory.step (.bringResult payload)).2.Shows (handover.step (.bringResult payload)).2 := by
  have consumer := shown.consumer
  obtain ⟨⟨channels, callers, kept, _⟩, waiting⟩ := memory
  obtain ⟨channels', waiting'⟩ := handover
  obtain rfl : channels = channels' := shown.channels
  obtain rfl : waiting = waiting' := shown.waiting
  obtain rfl := consumer
  cases waiting with
  | none => exact ⟨rfl, rfl, rfl, rfl⟩
  | some timeout =>
      simp only [step, Handover.step, Handover.serve]
      rw [await_woken rfl]
      exact await_shows rfl rfl timeout

/-- **An event is seen in memory as it is seen of a handover.** -/
theorem step_shows (shown : memory.Shows handover) (event : Event) :
    (memory.step event).1 = (handover.step event).1 ∧
      (memory.step event).2.Shows (handover.step event).2 := by
  cases event with
  | call call =>
      rcases call.prompt_or_await with prompt | ⟨timeout, rfl⟩
      · rw [step_call prompt, Handover.step_call handover prompt, shown.channels]
        exact ⟨rfl, shown.withChannels _⟩
      · have consumer := shown.consumer
        simp only [step, Handover.step, shown.waiting]
        cases waits : handover.waiting.isSome with
        | true => exact ⟨rfl, shown⟩
        | false =>
            rw [waits] at consumer
            exact await_shows shown.channels consumer timeout
  | timeUp =>
      have consumer := shown.consumer
      simp only [step, Handover.step, shown.waiting]
      cases waits : handover.waiting with
      | none => exact ⟨rfl, shown⟩
      | some timeout =>
          rw [waits] at consumer
          -- A consumer that waits is asleep, so it can leave without handing a call on.
          have left : memory.wakeup.step? .leave
              = some { memory.wakeup with consumer := .away } := by
            simp [Wakeup.step?, consumer]
          dsimp only
          rw [left]
          cases timeout.isZero with
          | true => exact ⟨rfl, shown⟩
          | false => exact ⟨rfl, shown.channels, rfl, rfl⟩
  | takeRequest =>
      rw [step, Handover.step, shown.channels]
      exact ⟨rfl, shown.withChannels _⟩
  | bringResult payload => exact bring_shows shown payload

/-- Events are seen in memory as they are seen of a handover. -/
theorem observe_shows (shown : memory.Shows handover) (events : List Event) :
    (memory.observe events).1 = (handover.observe events).1 ∧
      (memory.observe events).2.Shows (handover.observe events).2 :=
  observe_simulates Shows (fun _ _ event alike => step_shows alike event)
    (fun _ _ alike => alike.waiting) shown events

end Memory

end WebCapture.Queue
