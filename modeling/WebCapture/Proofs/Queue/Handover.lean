import WebCapture.Queue.Channels
import WebCapture.Queue.Events

set_option autoImplicit false

/-! # What a queue does

`Handover` is a queue as it is seen from outside: three sequences of payloads, and the timeout of
the consumer that waits for a result, if one does. It waits only while there is no result
(`Handover.observe_quiet`). Of the payloads that were there and those that were put in, each is
handed out once, first in first out, or is still there (`Handover.observe_accounts`).

The queue in memory and the queue on the broker have a consumer each that waits in a way of its
own. Neither way is seen in a `Handover`, which either answers a consumer or remembers it. Both
queues are compared with it, in `Proofs/Queue/Memory` and `Proofs/Queue/Remote`, and agree with
each other for that reason.

What goes in is read off the events and what comes out off the outputs, without looking at the
sequences in between. Thus the statement about first in, first out needs no word on how a queue is
kept.
-/

namespace WebCapture.Queue

open Text.Utf8 (Bytes)

/-! ## The queue from outside

What a queue does in answer to events is a list of sights, one for each event: what came out, and
whether the consumer waits then. Two queues that do alike in every step have the same sights
(`observe_simulates`), and this is all that is used to compare queues.
-/

/-- The call is answered at once. -/
def Call.IsPrompt (call : Call) : Prop := ∀ timeout, call ≠ .awaitResult timeout

theorem Call.prompt_or_await (call : Call) :
    call.IsPrompt ∨ ∃ timeout, call = .awaitResult timeout := by
  cases call with
  | awaitResult timeout => exact .inr ⟨timeout, rfl⟩
  | _ =>
      left
      intro timeout same
      cases same

/-- Three sequences of payloads, and the timeout of the consumer that waits. -/
structure Handover where
  channels : Channels
  waiting : Option Time.Span

namespace Handover

/-- The consumer takes the first result, or waits for one. -/
def await (handover : Handover) (timeout : Time.Span) : List Output × Handover :=
  match handover.channels.results with
  | [] => ([], ⟨handover.channels, some timeout⟩)
  | _ :: _ =>
    ([.answer (.awaitResult timeout) handover.channels.takeResult.1],
      ⟨handover.channels.takeResult.2, none⟩)

/-- The consumer that waits goes on, if it can. -/
def serve (handover : Handover) : List Output × Handover :=
  match handover.waiting with
  | none => ([], handover)
  | some timeout => handover.await timeout

def step (handover : Handover) : Event → List Output × Handover
  | .call (.awaitResult timeout) =>
    if handover.waiting.isSome then ([], handover) else handover.await timeout
  | .call call =>
    ([.answer call (handover.channels.answer call).1],
      { handover with channels := (handover.channels.answer call).2 })
  | .timeUp =>
    match handover.waiting with
    | none => ([], handover)
    | some timeout =>
      if timeout.isZero then ([], handover)
      else ([.answer (.awaitResult timeout) (.error .timeout)], ⟨handover.channels, none⟩)
  | .takeRequest =>
    ([.request handover.channels.popRequest.1],
      { handover with channels := handover.channels.popRequest.2 })
  | .bringResult payload => serve { handover with channels := handover.channels.pushResult payload }

def observe (handover : Handover) (events : List Event) : List Sight × Handover :=
  Queue.observe step waiting handover events

/-- The consumer waits only while there is no result. -/
def Quiet (handover : Handover) : Prop :=
  handover.waiting.isSome = true → handover.channels.results = []

end Handover

theorem observe_cons {σ : Type} (step : σ → Event → List Output × σ)
    (waiting : σ → Option Time.Span) (state : σ) (event : Event) (more : List Event) :
    observe step waiting state (event :: more)
      = (⟨(step state event).1, waiting (step state event).2⟩
          :: (observe step waiting (step state event).2 more).1,
        (observe step waiting (step state event).2 more).2) := rfl

/-- Two queues that start alike and do the same in every step are seen to do the same. -/
theorem observe_simulates {σ τ : Type} {step : σ → Event → List Output × σ}
    {step' : τ → Event → List Output × τ} {waiting : σ → Option Time.Span}
    {waiting' : τ → Option Time.Span} (Alike : σ → τ → Prop)
    (stepAlike : ∀ s t event, Alike s t →
      (step s event).1 = (step' t event).1 ∧ Alike (step s event).2 (step' t event).2)
    (waitAlike : ∀ s t, Alike s t → waiting s = waiting' t) {s : σ} {t : τ} (alike : Alike s t)
    (events : List Event) :
    (observe step waiting s events).1 = (observe step' waiting' t events).1 ∧
      Alike (observe step waiting s events).2 (observe step' waiting' t events).2 := by
  induction events generalizing s t with
  | nil => exact ⟨rfl, alike⟩
  | cons event more ih =>
      obtain ⟨sameOutputs, alike'⟩ := stepAlike s t event alike
      obtain ⟨sameSights, alike''⟩ := ih alike'
      rw [observe_cons, observe_cons, sameOutputs, waitAlike _ _ alike', sameSights]
      exact ⟨rfl, alike''⟩

namespace Handover

theorem quiet_await (handover : Handover) (timeout : Time.Span) :
    (handover.await timeout).2.Quiet := by
  unfold await
  split
  · rename_i empty
    exact fun _ => empty
  · intro waits
    cases waits

/-- A consumer that waits while there is a result goes on, and one that does not wait does not. -/
theorem quiet_serve (handover : Handover) : handover.serve.2.Quiet := by
  unfold serve
  split
  · rename_i nobody
    intro waits
    rw [nobody] at waits
    cases waits
  · exact quiet_await _ _

/-- Without a result nobody can go on. -/
theorem serve_eq {handover : Handover} (quiet : handover.Quiet) :
    handover.serve = ([], handover) := by
  obtain ⟨channels, waiting⟩ := handover
  cases waiting with
  | none => rfl
  | some timeout =>
      have empty : channels.results = [] := quiet rfl
      simp only [serve, await, empty]

/-- A call that is answered at once leaves the results as they are. -/
theorem results_answer (channels : Channels) {call : Call} (prompt : call.IsPrompt) :
    (channels.answer call).2.results = channels.results := by
  cases call with
  | enqueue request =>
      simp only [Channels.answer]
      split <;> rfl
  | awaitResult timeout => exact absurd rfl (prompt timeout)
  | pendingRequests => rfl
  | pendingResults => rfl
  | park result => rfl

theorem results_popRequest (channels : Channels) :
    channels.popRequest.2.results = channels.results := by
  unfold Channels.popRequest
  split <;> rfl

/-- What a call that is answered at once does. -/
theorem step_call (handover : Handover) {call : Call} (prompt : call.IsPrompt) :
    handover.step (.call call) = ([.answer call (handover.channels.answer call).1],
      { handover with channels := (handover.channels.answer call).2 }) := by
  cases call with
  | awaitResult timeout => exact absurd rfl (prompt timeout)
  | _ => rfl

/-- After every event the consumer waits only while there is no result. -/
theorem quiet_step {handover : Handover} (quiet : handover.Quiet) (event : Event) :
    (handover.step event).2.Quiet := by
  cases event with
  | call call =>
      rcases call.prompt_or_await with prompt | ⟨timeout, rfl⟩
      · rw [step_call handover prompt]
        intro waits
        exact (results_answer handover.channels prompt).trans (quiet waits)
      · simp only [step]
        split
        · exact quiet
        · exact quiet_await handover timeout
  | timeUp =>
      simp only [step]
      split
      · exact quiet
      · split
        · exact quiet
        · intro waits
          cases waits
  | takeRequest =>
      intro waits
      exact (results_popRequest handover.channels).trans (quiet waits)
  | bringResult payload => exact quiet_serve _

theorem observe_quiet {handover : Handover} (quiet : handover.Quiet) (events : List Event) :
    (handover.observe events).2.Quiet := by
  induction events generalizing handover with
  | nil => exact quiet
  | cons event more ih => exact ih (quiet_step quiet event)

end Handover

/-! ## What goes in and what comes out

A payload goes in by being put there; a request that cannot be written and a payload that is put
aside leave the two sequences alone. `Accounts` is additive over events, so it is proved for a
single one.
-/

/-- The payload of a request that is put into the queue; none if the request is refused. -/
def Event.accepted? : Event → Option Bytes
  | .call (.enqueue request) => (encodeRequest request).toOption
  | _ => none

def Event.brought? : Event → Option Bytes
  | .bringResult payload => some payload
  | _ => none

def Event.parked? : Event → Option Bytes
  | .call (.park result) => some (encodeResult result)
  | _ => none

/-- What the crawler reads in a payload that it takes. -/
def Output.taken? : Output → Option (Except Error Capture.Request)
  | .request (.ok none) => none
  | .request (.ok (some x)) => some (.ok x)
  | .request (.error e) => some (.error e)
  | .answer _ _ => none

/-- What the consumer reads in a payload that it takes. -/
def Output.received? : Output → Option (Except Error Capture.Result)
  | .answer (.awaitResult _) (.error .timeout) => none
  | .answer (.awaitResult _) x => some x
  | _ => none

/-- Each payload that was there before, or was put in, is handed out once, first in first out, or
is still there. Results that are put aside are only added to those put aside before. -/
structure Accounts (events : List Event) (outputs : List Output) (before after : Channels) :
    Prop where
  requests : ∃ gone, before.requests ++ events.filterMap Event.accepted? = gone ++ after.requests ∧
    outputs.filterMap Output.taken? = gone.map decodeRequest
  results : ∃ gone, before.results ++ events.filterMap Event.brought? = gone ++ after.results ∧
    outputs.filterMap Output.received? = gone.map decodeResult
  unmatched : after.unmatched = before.unmatched ++ events.filterMap Event.parked?

theorem Accounts.refl (channels : Channels) : Accounts [] [] channels channels :=
  ⟨⟨[], by simp, rfl⟩, ⟨[], by simp, rfl⟩, by simp⟩

theorem Accounts.trans {events events' : List Event} {outputs outputs' : List Output}
    {before between after : Channels} (h : Accounts events outputs before between)
    (h' : Accounts events' outputs' between after) :
    Accounts (events ++ events') (outputs ++ outputs') before after := by
  obtain ⟨⟨goneRequests, requests, taken⟩, ⟨goneResults, results, received⟩, unmatched⟩ := h
  obtain ⟨⟨goneRequests', requests', taken'⟩, ⟨goneResults', results', received'⟩, unmatched'⟩ := h'
  refine ⟨⟨goneRequests ++ goneRequests', ?_, ?_⟩, ⟨goneResults ++ goneResults', ?_, ?_⟩, ?_⟩
  · rw [List.filterMap_append, ← List.append_assoc, requests, List.append_assoc, requests',
      List.append_assoc]
  · rw [List.filterMap_append, List.map_append, taken, taken']
  · rw [List.filterMap_append, ← List.append_assoc, results, List.append_assoc, results',
      List.append_assoc]
  · rw [List.filterMap_append, List.map_append, received, received']
  · rw [List.filterMap_append, ← List.append_assoc, ← unmatched, unmatched']

/-- An event that moves no payload. -/
theorem Accounts.idle {event : Event} {outputs : List Output} (channels : Channels)
    (accepted : event.accepted? = none) (brought : event.brought? = none)
    (parked : event.parked? = none)
    (silent : ∀ output ∈ outputs, output.taken? = none ∧ output.received? = none) :
    Accounts [event] outputs channels channels := by
  have taken : outputs.filterMap Output.taken? = [] :=
    List.filterMap_eq_nil_iff.2 fun output here => (silent output here).1
  have received : outputs.filterMap Output.received? = [] :=
    List.filterMap_eq_nil_iff.2 fun output here => (silent output here).2
  exact ⟨⟨[], by simp [accepted], taken⟩, ⟨[], by simp [brought], received⟩, by simp [parked]⟩

theorem decodeResult_ne_timeout (payload : Bytes) : decodeResult payload ≠ .error .timeout := by
  unfold decodeResult
  split <;> simp

theorem received?_decodeResult (timeout : Time.Span) (payload : Bytes) :
    (Output.answer (.awaitResult timeout) (decodeResult payload)).received?
      = some (decodeResult payload) := by
  have answered := decodeResult_ne_timeout payload
  cases read : decodeResult payload with
  | ok result => rfl
  | error e =>
      rw [read] at answered
      cases e with
      | timeout => exact absurd rfl answered
      | _ => rfl

theorem taken?_decodeRequest (payload : Bytes) :
    (Output.request ((decodeRequest payload).map some)).taken? = some (decodeRequest payload) := by
  cases decodeRequest payload <;> rfl

theorem takeResult_cons {channels : Channels} {payload : Bytes} {more : List Bytes}
    (h : channels.results = payload :: more) :
    channels.takeResult = (decodeResult payload, { channels with results := more }) := by
  rw [Channels.takeResult, h]

theorem popRequest_nil {channels : Channels} (h : channels.requests = []) :
    channels.popRequest = (.ok none, channels) := by
  rw [Channels.popRequest, h]

theorem popRequest_cons {channels : Channels} {payload : Bytes} {more : List Bytes}
    (h : channels.requests = payload :: more) :
    channels.popRequest
      = ((decodeRequest payload).map some, { channels with requests := more }) := by
  rw [Channels.popRequest, h]

/-- A call that is answered at once takes nothing out. -/
theorem accounts_answer (channels : Channels) {call : Call} (prompt : call.IsPrompt) :
    Accounts [.call call] [.answer call (channels.answer call).1] channels
      (channels.answer call).2 := by
  cases call with
  | enqueue request =>
      have silent : ∀ answer, (Output.answer (.enqueue request) answer).taken? = none ∧
          (Output.answer (.enqueue request) answer).received? = none := fun _ => ⟨rfl, rfl⟩
      simp only [Channels.answer]
      cases encoded : encodeRequest request with
      | error e =>
          have rejected : (Event.call (.enqueue request)).accepted? = none := by
            rw [Event.accepted?, encoded]
            rfl
          refine .idle channels rejected rfl rfl fun output here => ?_
          obtain rfl := List.mem_singleton.1 here
          exact silent _
      | ok payload =>
          have accepted : [Event.call (.enqueue request)].filterMap Event.accepted?
              = [payload] := by
            simp [Event.accepted?, encoded, Except.toOption]
          exact ⟨⟨[], by rw [accepted]; rfl, rfl⟩, ⟨[], by simp [Event.brought?], rfl⟩,
            by simp [Event.parked?]⟩
  | awaitResult timeout => exact absurd rfl (prompt timeout)
  | pendingRequests => exact .idle channels rfl rfl rfl (by simp [Output.taken?, Output.received?])
  | pendingResults => exact .idle channels rfl rfl rfl (by simp [Output.taken?, Output.received?])
  | park result =>
      exact ⟨⟨[], by simp [Event.accepted?, Channels.answer], rfl⟩,
        ⟨[], by simp [Event.brought?, Channels.answer], rfl⟩,
        by simp [Event.parked?, Channels.answer]⟩

/-- The crawler takes the first request and no other. -/
theorem accounts_popRequest (channels : Channels) :
    Accounts [.takeRequest] [.request channels.popRequest.1] channels channels.popRequest.2 := by
  cases requests : channels.requests with
  | nil =>
      rw [popRequest_nil requests]
      exact .idle channels rfl rfl rfl (by simp [Output.taken?, Output.received?])
  | cons payload more =>
      rw [popRequest_cons requests]
      refine ⟨⟨[payload], by simp [requests, Event.accepted?], ?_⟩,
        ⟨[], by simp [Event.brought?], rfl⟩, by simp [Event.parked?]⟩
      rw [List.filterMap_cons_some (taken?_decodeRequest payload)]
      rfl

namespace Handover

/-- The consumer takes the first result and no other. -/
theorem accounts_await (handover : Handover) (timeout : Time.Span) :
    Accounts [] (handover.await timeout).1 handover.channels
      (handover.await timeout).2.channels := by
  unfold await
  split
  · exact .refl handover.channels
  · rename_i payload more results
    rw [takeResult_cons results]
    refine ⟨⟨[], by simp, rfl⟩, ⟨[payload], by simp [results], ?_⟩, by simp⟩
    rw [List.filterMap_cons_some (received?_decodeResult timeout payload)]
    rfl

theorem accounts_serve (handover : Handover) :
    Accounts [] handover.serve.1 handover.channels handover.serve.2.channels := by
  unfold serve
  split
  · exact .refl handover.channels
  · exact accounts_await handover _

theorem accounts_step (handover : Handover) (event : Event) :
    Accounts [event] (handover.step event).1 handover.channels
      (handover.step event).2.channels := by
  cases event with
  | call call =>
      rcases call.prompt_or_await with prompt | ⟨timeout, rfl⟩
      · rw [step_call handover prompt]
        exact accounts_answer handover.channels prompt
      · have asked : Accounts [.call (.awaitResult timeout)] [] handover.channels
            handover.channels := .idle _ rfl rfl rfl (by simp)
        simp only [step]
        split
        · exact asked
        · exact asked.trans (accounts_await handover timeout)
  | timeUp =>
      have idle : Accounts [.timeUp] [] handover.channels handover.channels :=
        .idle _ rfl rfl rfl (by simp)
      simp only [step]
      split
      · exact idle
      · split
        · exact idle
        · exact .idle _ rfl rfl rfl (by simp [Output.taken?, Output.received?])
  | takeRequest => exact accounts_popRequest handover.channels
  | bringResult payload =>
      have brought : Accounts [.bringResult payload] [] handover.channels
          (handover.channels.pushResult payload) :=
        ⟨⟨[], by simp [Event.accepted?, Channels.pushResult], rfl⟩,
          ⟨[], by simp [Event.brought?, Channels.pushResult], rfl⟩,
          by simp [Event.parked?, Channels.pushResult]⟩
      exact brought.trans (accounts_serve { handover with channels := _ })

def outputs (sights : List Sight) : List Output := sights.flatMap (·.outputs)

/-- **Each payload is handed out once, first in first out, or is still there.** -/
theorem observe_accounts (handover : Handover) (events : List Event) :
    Accounts events (outputs (handover.observe events).1) handover.channels
      (handover.observe events).2.channels := by
  induction events generalizing handover with
  | nil => exact .refl handover.channels
  | cons event more ih => exact (accounts_step handover event).trans (ih (handover.step event).2)

end Handover

end WebCapture.Queue
