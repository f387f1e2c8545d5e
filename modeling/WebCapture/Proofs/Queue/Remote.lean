import WebCapture.Proofs.Broker.Lists
import WebCapture.Proofs.Queue.Handover
import WebCapture.Queue.Remote

set_option autoImplicit false

/-! # The queue on the broker

As long as the keys of the three lists are different, a change of one list leaves the others alone
(`Lists.Hold.ofRequests` and its like). A dialogue that takes a result ends with the first one or
stands at the empty list (`Remote.retry_shows`). So the queue on the broker is seen to do what a
`Handover` does (`Remote.observe_shows`).

If two of the keys were the same, requests would be taken for results. The settings are refused
then, so that the keys of every queue that is opened are different.
-/

namespace WebCapture.Queue

open Broker (Blocked Dialogue Keyspace)
open Broker.Dialogue (run_bind run_send)
open Text.Utf8 (Bytes)

/-! ## The lists of the queue -/

/-- The keys of the lists are different. -/
structure Lists.AreDistinct (lists : Lists) : Prop where
  requestsResults : lists.requests ≠ lists.results
  requestsUnmatched : lists.requests ≠ lists.unmatched
  resultsUnmatched : lists.results ≠ lists.unmatched

/-- The broker holds the three sequences at their keys. -/
structure Lists.Hold (lists : Lists) (keys : Keyspace) (channels : Channels) : Prop where
  requests : keys.listAt lists.requests = .ok channels.requests
  results : keys.listAt lists.results = .ok channels.results
  unmatched : keys.listAt lists.unmatched = .ok channels.unmatched

section

variable {lists : Lists} {keys keys' : Keyspace} {channels : Channels}

/-- A change of one list is a change of one sequence, since the keys are different. -/
theorem Lists.Hold.ofRequests (distinct : lists.AreDistinct) (h : lists.Hold keys channels)
    {items : List Bytes} (changed : ∀ key', keys'.listAt key'
      = if lists.requests = key' then .ok items else keys.listAt key') :
    lists.Hold keys' { channels with requests := items } where
  requests := by rw [changed, if_pos rfl]
  results := by rw [changed, if_neg distinct.requestsResults, h.results]
  unmatched := by rw [changed, if_neg distinct.requestsUnmatched, h.unmatched]

theorem Lists.Hold.ofResults (distinct : lists.AreDistinct) (h : lists.Hold keys channels)
    {items : List Bytes} (changed : ∀ key', keys'.listAt key'
      = if lists.results = key' then .ok items else keys.listAt key') :
    lists.Hold keys' { channels with results := items } where
  requests := by rw [changed, if_neg distinct.requestsResults.symm, h.requests]
  results := by rw [changed, if_pos rfl]
  unmatched := by rw [changed, if_neg distinct.resultsUnmatched, h.unmatched]

theorem Lists.Hold.ofUnmatched (distinct : lists.AreDistinct) (h : lists.Hold keys channels)
    {items : List Bytes} (changed : ∀ key', keys'.listAt key'
      = if lists.unmatched = key' then .ok items else keys.listAt key') :
    lists.Hold keys' { channels with unmatched := items } where
  requests := by rw [changed, if_neg distinct.requestsUnmatched.symm, h.requests]
  results := by rw [changed, if_neg distinct.resultsUnmatched.symm, h.results]
  unmatched := by rw [changed, if_pos rfl]

/-! ### Calls -/

theorem Lists.run_enqueue {request : Capture.Request} {payload : Bytes} {length : Nat}
    (encoded : encodeRequest request = .ok payload)
    (pushed : keys.answer (.push lists.requests payload) = (.ok length, keys')) :
    (lists.enqueue request).run keys = (.ok (), keys') := by
  simp only [Lists.enqueue, encoded]
  rw [run_bind, run_send, pushed]
  rfl

theorem Lists.run_enqueue_error {request : Capture.Request} {e : Error}
    (encoded : encodeRequest request = .error e) :
    (lists.enqueue request).run keys = (.error e, keys) := by
  simp only [Lists.enqueue, encoded]
  rfl

theorem Lists.run_pending {key : String} {items : List Bytes} (here : keys.listAt key = .ok items) :
    (Lists.pending key).run keys = (.ok items.length, keys) := by
  rw [Lists.pending, run_bind, run_send, Keyspace.answer, here]
  rfl

theorem Lists.run_park {result : Capture.Result} {length : Nat}
    (pushed : keys.answer (.push lists.unmatched (encodeResult result)) = (.ok length, keys')) :
    (lists.park result).run keys = (.ok (), keys') := by
  rw [Lists.park, run_bind, run_send, pushed]
  rfl

/-- **A call that is answered at once is answered on the broker as it is in memory.** -/
theorem Lists.run_answer (distinct : lists.AreDistinct) (h : lists.Hold keys channels) {call : Call}
    (prompt : call.IsPrompt) :
    ∃ keys', (lists.answer call).run keys = ((channels.answer call).1, keys') ∧
      lists.Hold keys' (channels.answer call).2 := by
  cases call with
  | enqueue request =>
      simp only [Channels.answer]
      cases encoded : encodeRequest request with
      | error e => exact ⟨keys, run_enqueue_error encoded, h⟩
      | ok payload =>
          obtain ⟨keys', pushed, changed⟩ := Keyspace.answer_push h.requests payload
          exact ⟨keys', run_enqueue encoded pushed, h.ofRequests distinct changed⟩
  | awaitResult timeout => exact absurd rfl (prompt timeout)
  | pendingRequests => exact ⟨keys, run_pending h.requests, h⟩
  | pendingResults => exact ⟨keys, run_pending h.results, h⟩
  | park result =>
      obtain ⟨keys', pushed, changed⟩ := Keyspace.answer_push h.unmatched (encodeResult result)
      exact ⟨keys', run_park pushed, h.ofUnmatched distinct changed⟩

end

/-! ## The consumer

The consumer on the broker does not sleep and wake: it has sent a command that the broker has not
answered. All that is needed of the dialogue it is in is what `Lists.Awaits` says, whatever it did
before.
-/

/-- A dialogue that waits for a result, and reads it when it comes. -/
structure Lists.Awaits (lists : Lists) (timeout : Time.Span)
    (blocked : Blocked (Except Error Capture.Result)) : Prop where
  key : blocked.key = lists.results
  timeout : blocked.timeout = timeout
  taken : ∀ payload, blocked.next (.ok (some payload)) = .done (decodeResult payload)
  late : blocked.next (.ok none) = .done (.error .timeout)

theorem Lists.awaitResult_eq (lists : Lists) (timeout : Time.Span) :
    ∃ blocked, lists.Awaits timeout blocked ∧
      lists.awaitResult timeout = .call (.pop blocked.key blocked.timeout) blocked.next := by
  refine ⟨⟨lists.results, timeout, _⟩, ?_, rfl⟩
  exact ⟨rfl, rfl, fun _ => rfl, rfl⟩

/-! ## Events -/

/-- The queue on the broker does what a handover does: its consumer stands at the list of results
while it waits. -/
structure Remote.Shows (lists : Lists) (remote : Remote) (handover : Handover) : Prop where
  hold : lists.Hold remote.keys handover.channels
  waiting : remote.waiting = handover.waiting
  awaits : ∀ timeout blocked, remote.consumer = some (timeout, blocked) →
    lists.Awaits timeout blocked

namespace Remote

variable {lists : Lists} {remote : Remote} {handover : Handover}

/-- **A consumer that looks at the list takes the first result, or stands at the empty list.** -/
theorem retry_shows (distinct : lists.AreDistinct) {keys : Keyspace} {timeout : Time.Span}
    {blocked : Blocked (Except Error Capture.Result)} (awaits : lists.Awaits timeout blocked)
    (hold : lists.Hold keys handover.channels) :
    (settle timeout (blocked.retry keys)).1 = (handover.await timeout).1 ∧
      (settle timeout (blocked.retry keys)).2.Shows lists (handover.await timeout).2 := by
  obtain ⟨key, limit, next⟩ := blocked
  obtain rfl : key = lists.results := awaits.key
  unfold Blocked.retry Handover.await
  cases results : handover.channels.results with
  | nil =>
      have empty := hold.results.trans (congrArg Except.ok results)
      rw [Dialogue.proceed_pop_none (Keyspace.settle_pop_nil empty)]
      refine ⟨rfl, hold, rfl, fun _ _ same => ?_⟩
      cases same
      exact awaits
  | cons payload more =>
      obtain ⟨keys', popped, changed⟩ :=
        Keyspace.settle_pop_cons (hold.results.trans (congrArg Except.ok results))
      rw [Dialogue.proceed_pop_some popped, awaits.taken, takeResult_cons results]
      refine ⟨rfl, hold.ofResults distinct changed, rfl, fun _ _ same => ?_⟩
      cases same

theorem serve_shows (distinct : lists.AreDistinct) (shown : remote.Shows lists handover) :
    remote.serve.1 = handover.serve.1 ∧ remote.serve.2.Shows lists handover.serve.2 := by
  have waiting := shown.waiting
  unfold serve Handover.serve
  cases stands : remote.consumer with
  | none =>
      rw [← waiting, Remote.waiting, stands]
      exact ⟨rfl, shown⟩
  | some consumer =>
      obtain ⟨timeout, blocked⟩ := consumer
      rw [← waiting, Remote.waiting, stands]
      exact retry_shows distinct (shown.awaits timeout blocked stands) shown.hold

/-- What a call that is answered at once does. -/
theorem step_call {call : Call} {answer : call.Answer} {keys' : Keyspace}
    (prompt : call.IsPrompt)
    (answered : (lists.answer call).run remote.keys = (answer, keys')) :
    remote.step lists (.call call)
      = (.answer call answer :: (serve { remote with keys := keys' }).1,
        (serve { remote with keys := keys' }).2) := by
  cases call with
  | awaitResult timeout => exact absurd rfl (prompt timeout)
  | _ => simp only [step, answered]

/-- A call that is answered at once brings no result, so that the consumer keeps waiting. -/
theorem call_shows (distinct : lists.AreDistinct) (quiet : handover.Quiet)
    (shown : remote.Shows lists handover) {call : Call} (prompt : call.IsPrompt) :
    (remote.step lists (.call call)).1 = (handover.step (.call call)).1 ∧
      (remote.step lists (.call call)).2.Shows lists (handover.step (.call call)).2 := by
  have quiet' := Handover.quiet_step quiet (.call call)
  obtain ⟨keys', answered, hold⟩ := lists.run_answer distinct shown.hold prompt
  rw [Handover.step_call handover prompt] at quiet' ⊢
  have shown' : Shows lists { remote with keys := keys' }
      { handover with channels := (handover.channels.answer call).2 } :=
    ⟨hold, shown.waiting, shown.awaits⟩
  obtain ⟨outputs, after⟩ := serve_shows distinct shown'
  rw [Handover.serve_eq quiet'] at outputs after
  rw [step_call prompt answered, outputs]
  exact ⟨rfl, after⟩

/-- While a consumer waits nobody asks for a result; otherwise it is as the list is found. -/
theorem ask_shows (distinct : lists.AreDistinct) (shown : remote.Shows lists handover)
    (timeout : Time.Span) :
    (remote.step lists (.call (.awaitResult timeout))).1
        = (handover.step (.call (.awaitResult timeout))).1 ∧
      (remote.step lists (.call (.awaitResult timeout))).2.Shows lists
        (handover.step (.call (.awaitResult timeout))).2 := by
  obtain ⟨blocked, awaits, asked⟩ := lists.awaitResult_eq timeout
  have busy : remote.consumer.isSome = handover.waiting.isSome := by
    rw [← shown.waiting, Remote.waiting, Option.isSome_map]
  simp only [step, Handover.step, busy]
  cases handover.waiting.isSome with
  | true => exact ⟨rfl, shown⟩
  | false =>
      rw [asked]
      exact retry_shows distinct awaits shown.hold

/-- When its time is over the consumer goes away without a result. -/
theorem timeUp_shows (shown : remote.Shows lists handover) :
    (remote.step lists .timeUp).1 = (handover.step .timeUp).1 ∧
      (remote.step lists .timeUp).2.Shows lists (handover.step .timeUp).2 := by
  have waiting := shown.waiting
  cases stands : remote.consumer with
  | none =>
      rw [Remote.waiting, stands] at waiting
      simp only [step, Handover.step, stands, ← waiting]
      exact ⟨rfl, shown⟩
  | some consumer =>
      obtain ⟨timeout, blocked⟩ := consumer
      have awaits := shown.awaits timeout blocked stands
      rw [Remote.waiting, stands] at waiting
      simp only [step, Handover.step, stands, ← waiting, Option.map_some, awaits.timeout]
      cases timeout.isZero with
      | true => exact ⟨rfl, shown⟩
      | false =>
          rw [Blocked.giveUp, awaits.late]
          refine ⟨rfl, shown.hold, rfl, fun _ _ nobody => ?_⟩
          cases nobody

theorem take_shows (distinct : lists.AreDistinct) (shown : remote.Shows lists handover) :
    (remote.step lists .takeRequest).1 = (handover.step .takeRequest).1 ∧
      (remote.step lists .takeRequest).2.Shows lists (handover.step .takeRequest).2 := by
  cases requests : handover.channels.requests with
  | nil =>
      have empty := shown.hold.requests.trans (congrArg Except.ok requests)
      rw [step, Handover.step, Keyspace.settle_pop_nil empty, popRequest_nil requests]
      exact ⟨rfl, shown⟩
  | cons payload more =>
      obtain ⟨keys', popped, changed⟩ :=
        Keyspace.settle_pop_cons (shown.hold.requests.trans (congrArg Except.ok requests))
      rw [step, Handover.step, popped, popRequest_cons requests]
      exact ⟨rfl, shown.hold.ofRequests distinct changed, shown.waiting, shown.awaits⟩

/-- **An event is seen on the broker as it is seen of a handover.** -/
theorem step_shows (distinct : lists.AreDistinct) (quiet : handover.Quiet)
    (shown : remote.Shows lists handover) (event : Event) :
    (remote.step lists event).1 = (handover.step event).1 ∧
      (remote.step lists event).2.Shows lists (handover.step event).2 := by
  cases event with
  | call call =>
      rcases call.prompt_or_await with prompt | ⟨timeout, rfl⟩
      · exact call_shows distinct quiet shown prompt
      · exact ask_shows distinct shown timeout
  | timeUp => exact timeUp_shows shown
  | takeRequest => exact take_shows distinct shown
  | bringResult payload =>
      obtain ⟨keys', pushed, changed⟩ := Keyspace.answer_push shown.hold.results payload
      rw [step, Handover.step, pushed]
      refine serve_shows distinct ⟨?_, shown.waiting, shown.awaits⟩
      exact shown.hold.ofResults distinct changed

/-- Events are seen on the broker as they are seen of a handover. -/
theorem observe_shows (distinct : lists.AreDistinct) (quiet : handover.Quiet)
    (shown : remote.Shows lists handover) (events : List Event) :
    (remote.observe lists events).1 = (handover.observe events).1 ∧
      (remote.observe lists events).2.Shows lists (handover.observe events).2 := by
  obtain ⟨sights, shown', -⟩ := observe_simulates
    (fun remote handover => remote.Shows lists handover ∧ handover.Quiet)
    (fun _ _ event ⟨shown, quiet⟩ =>
      have stepped := step_shows distinct quiet shown event
      ⟨stepped.1, stepped.2, Handover.quiet_step quiet event⟩)
    (fun _ _ ⟨shown, _⟩ => shown.waiting) ⟨shown, quiet⟩ events
  exact ⟨sights, shown'⟩

end Remote

end WebCapture.Queue
