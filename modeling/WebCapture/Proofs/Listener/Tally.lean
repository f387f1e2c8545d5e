import WebCapture.Proofs.Capture.Wire
import WebCapture.Proofs.Listener.Balance
import WebCapture.Proofs.Service.Counting

set_option autoImplicit false

/-! # How the listener counts results

Four counters tell what became of the results that the listener took: they were applied as
successes or as failures, dropped, or parked. Every payload is counted in just one of them, except
for a result that only brings missing archive details to its seed (`results_counted_once`): such a
result is not counted at all (`archive_details_not_counted`).

The four are looked at as one family: `ResultCounter` names them, `ofEvent?` says in which of them
an event is counted, and `Fate.counter?` in which of them a payload is. The two agree for every
fate that the listener can bring about (`counter_of_handles`), and from there on it is counting.
-/

namespace WebCapture.Service.Listener

open Program Queue

/-! ## The result counters -/

inductive ResultCounter where
  | succeeded
  | failed
  | dropped
  | parked
  deriving DecidableEq, Repr

namespace ResultCounter

def value (counters : Counters) : ResultCounter → Nat
  | succeeded => counters.resultsSucceeded
  | failed => counters.resultsFailed
  | dropped => counters.resultsDropped
  | parked => counters.resultsParked

/-- What the counters show together. -/
def total (counters : Counters) : Nat :=
  succeeded.value counters + failed.value counters + dropped.value counters
    + parked.value counters

def ofEvent? : Event → Option ResultCounter
  | .result .doneSuccess => some succeeded
  | .result .doneFailure => some failed
  | .dropped => some dropped
  | .parked => some parked
  | _ => none

/-- An event moves its counter by one, and no other counter of results. -/
theorem value_count (counters : Counters) (event : Event) (counter : ResultCounter) :
    counter.value (counters.count event)
      = counter.value counters + (ofEvent? event).toList.count counter := by
  cases event with
  | enqueued success => cases success <;> cases counter <;> rfl
  | result state => cases state <;> cases counter <;> rfl
  | _ => cases counter <;> rfl

theorem value_foldl (events : List Event) (counters : Counters) (counter : ResultCounter) :
    counter.value (events.foldl Counters.count counters)
      = counter.value counters + (events.filterMap ofEvent?).count counter := by
  induction events generalizing counters with
  | nil => rfl
  | cons event events ih =>
      have split : (event :: events).filterMap ofEvent?
          = (ofEvent? event).toList ++ events.filterMap ofEvent? := by
        rw [List.filterMap_cons]
        cases ofEvent? event <;> rfl
      rw [List.foldl_cons, ih, value_count, split, List.count_append, Nat.add_assoc]

/-- Whatever is counted in a counter of results adds to their total. -/
theorem length_eq_counts (counters : List ResultCounter) :
    counters.length = counters.count succeeded + counters.count failed + counters.count dropped
      + counters.count parked := by
  induction counters with
  | nil => rfl
  | cons counter counters ih =>
      simp only [List.length_cons, List.count_cons, ih]
      cases counter <;> simp <;> omega

end ResultCounter

open ResultCounter

/-! ## The counter of a fate

Two of the counters are raised by the work on a result and two by the listener, and no payload is
counted by both.
-/

def Fate.counter? : Fate → Option ResultCounter
  | unreadable _ => some .dropped
  | settled _ (.applied state) => ofEvent? (.result state)
  | settled _ .archiveRecorded => none
  | settled _ _ => some .dropped
  | parked _ _ => some .parked
  | lost _ _ _ => some .dropped

/-- Whether the result only brought archive details that its seed was missing. -/
def Fate.recordsArchive : Fate → Bool
  | settled _ .archiveRecorded => true
  | _ => false

variable {config : Config.Listener} {rules : Rules} {log : Log}

/-- The handling of a payload counts it once in its counter. -/
theorem counter_of_handles {fate : Fate} (h : fate.Handles rules log) :
    (countedIn log).filterMap ofEvent? = fate.counter?.toList := by
  cases fate with
  | unreadable error =>
      obtain ⟨-, -, rfl⟩ := h
      rfl
  | settled result outcome =>
      obtain ⟨work, runs, rfl⟩ := h
      rw [countedIn_append, processResult_counts runs]
      cases outcome with
      | applied state => cases state <;> rfl
      | _ => rfl
  | parked result error =>
      obtain ⟨work, runs, rfl⟩ := h
      rw [countedIn_append, processResult_counts runs]
      rfl
  | lost result error failure =>
      obtain ⟨work, runs, rfl⟩ := h
      rw [countedIn_append, processResult_counts runs]
      rfl

/-- Only a result that brings missing archive details is left out. -/
theorem counter_eq_none_iff {fate : Fate} (h : fate.Handles rules log) :
    fate.counter? = none ↔ fate.recordsArchive = true := by
  cases fate with
  | settled result outcome =>
      obtain ⟨work, runs, -⟩ := h
      cases outcome with
      | applied state =>
          -- A result is applied by ending its seed, for which there are two counters.
          have ended := terminal_of_applied runs
          cases state with
          | doneSuccess => simp [Fate.counter?, Fate.recordsArchive, ofEvent?]
          | doneFailure => simp [Fate.counter?, Fate.recordsArchive, ofEvent?]
          | _ => cases ended
      | _ => simp [Fate.counter?, Fate.recordsArchive]
  | _ => simp [Fate.counter?, Fate.recordsArchive]

/-- An idle exchange counts no result. -/
theorem counter_of_idle {e : Exchange Call Call.Answer} (h : IsIdle e) :
    (countedIn [e]).filterMap ofEvent? = [] := by
  obtain ⟨c, answer⟩ := e
  cases c with
  | count event =>
      obtain rfl : event = .dequeueFailed := h
      rfl
  | _ => rfl

/-- The exchanges of a listener count the payloads it took, each in its counter. -/
theorem Accounts.counters {fates : List Fate} (h : Accounts config rules log fates) :
    (countedIn log).filterMap ofEvent? = fates.filterMap Fate.counter? := by
  induction h with
  | nil => rfl
  | @idle e log fates idle more ih =>
      rw [← List.singleton_append, countedIn_append, List.filterMap_append, counter_of_idle idle,
        List.nil_append, ih]
  | @taken fate part log fates handled more ih =>
      have polled : countedIn (polling config fate.reading :: part ++ log)
          = countedIn part ++ countedIn log := countedIn_append part log
      -- The poll itself counts nothing.
      rw [polled, List.filterMap_append, counter_of_handles handled, ih, List.filterMap_cons]
      cases fate.counter? <;> rfl

theorem Accounts.counter_eq_none_iff {fates : List Fate} (h : Accounts config rules log fates) :
    ∀ fate ∈ fates, fate.counter? = none ↔ fate.recordsArchive = true := by
  induction h with
  | nil =>
      intro fate none
      exact absurd none List.not_mem_nil
  | idle idle more ih => exact ih
  | taken handled more ih =>
      exact List.forall_mem_cons.mpr ⟨Listener.counter_eq_none_iff handled, ih⟩

/-! ## The counters of an inbox -/

namespace Inbox

variable {s t : Inbox}

/-- The counters move by the events that are counted. -/
theorem counters_of_allows {e : Exchange Call Call.Answer} (h : s.Allows e t) :
    t.counters = (countedIn [e]).foldl Counters.count s.counters := by
  obtain ⟨c, answer⟩ := e
  cases c with
  | queue c =>
      cases c with
      | awaitResult timeout =>
          obtain ⟨arrived, ⟨-, -, -, rfl⟩ | ⟨-, -, -, -, rfl⟩⟩ := h <;> rfl
      | park result =>
          obtain ⟨arrived, ⟨-, -, rfl⟩ | ⟨-, rfl⟩⟩ := h <;> rfl
      | _ =>
          obtain ⟨arrived, rfl⟩ := h
          rfl
  | _ =>
      obtain ⟨arrived, rfl⟩ := h
      rfl

theorem counters_of_follows (h : Follows Allows s log t) :
    t.counters = (countedIn log).foldl Counters.count s.counters := by
  induction log generalizing s with
  | nil =>
      obtain rfl : t = s := h
      rfl
  | cons e log ih =>
      obtain ⟨u, first, rest⟩ := h
      rw [ih rest, counters_of_allows first, ← List.foldl_append, ← countedIn_append,
        List.singleton_append]

/-- From the one inbox to the other, these payloads were taken off the result channel. -/
def Took (s : Inbox) (payloads : List Text.Utf8.Bytes) (t : Inbox) : Prop :=
  ∃ arrived, t.received = s.received ++ arrived ∧ s.waiting ++ arrived = payloads ++ t.waiting

end Inbox

/-- There are as many fates as payloads that were taken. -/
theorem Balance.length_eq {s t : Inbox} {fates : List Fate} {payloads : List Text.Utf8.Bytes}
    (h : Balance s fates t) (took : s.Took payloads t) : payloads.length = fates.length := by
  obtain ⟨arrived, taken, received, waiting, reading⟩ := h.channel
  obtain ⟨arrived', received', waiting'⟩ := took
  obtain rfl : arrived = arrived' := List.append_cancel_left (received.symm.trans received')
  obtain rfl : taken = payloads := List.append_cancel_right (waiting.symm.trans waiting')
  have same := congrArg List.length reading
  rwa [List.length_map, List.length_map] at same

/-- Every fate has a counter or records archive details only. -/
theorem length_counters {fates : List Fate}
    (h : ∀ fate ∈ fates, fate.counter? = none ↔ fate.recordsArchive = true) :
    (fates.filterMap Fate.counter?).length + fates.countP Fate.recordsArchive = fates.length := by
  induction fates with
  | nil => rfl
  | cons fate fates ih =>
      obtain ⟨here, later⟩ := List.forall_mem_cons.mp h
      have rest := ih later
      rw [List.filterMap_cons, List.countP_cons, List.length_cons]
      cases counter : fate.counter? with
      | none =>
          rw [here.mp counter, if_pos rfl]
          dsimp only
          omega
      | some which =>
          have counted : ¬fate.recordsArchive = true := fun archive => by
            rw [here.mpr archive] at counter
            cases counter
          rw [if_neg counted]
          dsimp only [List.length_cons]
          omega

/-! ## Whole runs -/

/-- **The listener counts every payload that it takes in just one of the result counters, unless
its result only brings missing archive details.** Whatever arrives, whatever the store answers, and
whichever polls and attempts to put a result aside fail, each result counter moves by the payloads
whose fate is counted in it, and together the four move by the payloads that were taken, less those
that only brought archive details. -/
theorem results_counted_once {fuel : Nat} {exit : Option ListenerExit} {s t : Inbox}
    (h : (listen config rules fuel).Runs log exit) (inbox : Follows Inbox.Allows s log t) :
    ∃ fates, Accounts config rules log fates ∧ Balance s fates t ∧
      (∀ counter : ResultCounter, counter.value t.counters
        = counter.value s.counters + (fates.filterMap Fate.counter?).count counter) ∧
      (∀ fate ∈ fates, fate.counter? = none ↔ fate.recordsArchive = true) ∧
      ∀ payloads, s.Took payloads t →
        total t.counters + fates.countP Fate.recordsArchive
          = total s.counters + payloads.length := by
  obtain ⟨fates, accounts⟩ := listen_runs h
  have balance := accounts.balance inbox
  have moved : ∀ counter : ResultCounter, counter.value t.counters
      = counter.value s.counters + (fates.filterMap Fate.counter?).count counter := by
    intro counter
    rw [Inbox.counters_of_follows inbox, value_foldl, accounts.counters]
  have covered := accounts.counter_eq_none_iff
  refine ⟨fates, accounts, balance, moved, covered, fun payloads took => ?_⟩
  have counted := length_eq_counts (fates.filterMap Fate.counter?)
  have all := length_counters covered
  rw [balance.length_eq took]
  simp only [total, moved]
  omega

/-! ## A result that is not counted

The seed has succeeded already, but its archive details could not be written. The result comes
again, brings them, and is taken off the channel without being counted.
-/

def lateRules : Rules := ⟨100, 10, false, "https://archive.test/"⟩

def lateConfig : Config.Listener := ⟨.ofSeconds 1, .standard⟩

def lateArchive : Capture.Result :=
  ⟨"A", true, [], some ⟨"20240101120000", "http://a.test/"⟩⟩

/-- The exchanges in which archive details are written that a success was missing. -/
def lateWork (archive : Seed.Archive) : Log :=
  let seed : Seed := ⟨"http://a.test", true, .doneSuccess, none, "A"⟩
  [⟨.store (.getSeed "A"), (Except.ok seed : Except Store.Error Seed)⟩,
    ⟨.store (.updateArchive "A" archive), (Except.ok () : Except Store.Error Unit)⟩]

/-- To process `lateArchive` for a success that is missing its details makes just these exchanges. -/
theorem lateArchive_processed :
    ∃ archive,
      (processResult lateRules lateArchive).Runs (lateWork archive) (.ok .archiveRecorded) := by
  have dated : (archiveOf lateRules ⟨"20240101120000", "http://a.test/"⟩).isOk = true := by
    decide +kernel
  cases details : archiveOf lateRules ⟨"20240101120000", "http://a.test/"⟩ with
  | error e =>
      rw [details] at dated
      cases dated
  | ok archive =>
      have recorded : (recordMissingArchive lateRules lateArchive).Runs
          [⟨.store (.updateArchive "A" archive), (Except.ok () : Except Store.Error Unit)⟩]
          (.ok .archiveRecorded) := by
        simp only [recordMissingArchive, lateArchive, details]
        exact ⟨_, _, rfl, rfl, rfl⟩
      exact ⟨archive, _, _, rfl, recorded⟩

/-- An empty payload cannot be read. -/
theorem decodeResult_nil : ∃ reason, decodeResult [] = .error (.malformed reason) := by
  have nothing : (Capture.Result.read []).toOption = none := by decide +kernel
  unfold decodeResult
  split
  · rename_i result read
    rw [read] at nothing
    cases nothing
  · exact ⟨_, rfl⟩

/-- The inbox before `lateArchive` and an empty payload are taken. -/
def lateInbox : Inbox :=
  ⟨[encodeResult lateArchive, []], [encodeResult lateArchive, []], [], .zero⟩

def emptiedInbox : Inbox :=
  { lateInbox with waiting := [], counters := { Counters.zero with resultsDropped := 1 } }

theorem lateInbox_took : lateInbox.Took lateInbox.waiting emptiedInbox :=
  ⟨[], (List.append_nil _).symm, rfl⟩

/-- Between the two inboxes the result counters have moved by one. -/
theorem total_lateInbox : total lateInbox.counters = 0 ∧ total emptiedInbox.counters = 1 :=
  ⟨rfl, rfl⟩

/-- The listener takes both payloads, and only the empty one moves a counter of results. -/
theorem lateArchive_run :
    ∃ log, (listen lateConfig lateRules 3).Runs log (some .cancelled) ∧
      Follows Inbox.Allows lateInbox log emptiedInbox := by
  obtain ⟨archive, processed⟩ := lateArchive_processed
  obtain ⟨reason, unreadable⟩ := decodeResult_nil
  let first : Log :=
    [⟨.isCancelled, false⟩, polling lateConfig (.ok lateArchive)] ++ lateWork archive
  let second : Log :=
    [⟨.isCancelled, false⟩, polling lateConfig (.error (.malformed reason)),
      Fate.counting .dropped, ⟨.isCancelled, true⟩]
  have handled : (handle lateRules lateArchive).Runs (lateWork archive) () :=
    runs_bind.mpr ⟨_, lateWork archive, [], rfl, processed, rfl, rfl⟩
  have next : (handle lateRules lateArchive >>= fun _ => pure (Next.goOn 0)).Runs
      (lateWork archive) (.goOn 0) :=
    runs_bind.mpr ⟨(), lateWork archive, [], rfl, handled, rfl, rfl⟩
  have recorded : (round lateConfig lateRules 0).Runs first (.goOn 0) :=
    ⟨_, _, rfl, _, _, rfl, next⟩
  have dropped : (rounds lateConfig lateRules 2 0).Runs second (some .cancelled) :=
    ⟨_, _, rfl, _, _, rfl, _, _, rfl, _, _, rfl, rfl, rfl⟩
  refine ⟨⟨.setListening true, ()⟩ :: (first ++ second) ++ [⟨.setListening false, ()⟩], ?_, ?_⟩
  · have worked : (rounds lateConfig lateRules 3 0).Runs (first ++ second) (some .cancelled) :=
      runs_bind.mpr ⟨_, _, _, rfl, recorded, dropped⟩
    rw [listen, runs_bind]
    exact ⟨(), [⟨.setListening true, ()⟩], _, rfl, ⟨_, _, rfl, rfl, rfl⟩,
      runs_bind.mpr ⟨_, first ++ second, _, rfl, worked, _, _, rfl, rfl, rfl⟩⟩
  · have readable := (Capture.decodeResult_encodeResult lateArchive).symm
    exact ⟨_, ⟨[], rfl⟩, _, ⟨[], rfl⟩, _, ⟨[], .inr ⟨_, _, rfl, readable, rfl⟩⟩, _, ⟨[], rfl⟩, _,
      ⟨[], rfl⟩, _, ⟨[], rfl⟩, _, ⟨[], .inr ⟨_, _, rfl, unreadable.symm, rfl⟩⟩, _, ⟨[], rfl⟩, _,
      ⟨[], rfl⟩, _, ⟨[], rfl⟩, rfl⟩

/-- Of two payloads that were taken, one was counted, and the other brought archive details. -/
theorem results_counted_once_lateArchive :
    ∃ (log : Log) (fates : List Fate),
      (listen lateConfig lateRules 3).Runs log (some .cancelled) ∧
      Follows Inbox.Allows lateInbox log emptiedInbox ∧
      Balance lateInbox fates emptiedInbox ∧ fates.length = 2 ∧
      total emptiedInbox.counters = 1 ∧ fates.countP Fate.recordsArchive = 1 := by
  obtain ⟨log, runs, follows⟩ := lateArchive_run
  obtain ⟨fates, -, balance, -, -, sum⟩ := results_counted_once runs follows
  have both : lateInbox.waiting.length = 2 := rfl
  have added := sum _ lateInbox_took
  rw [total_lateInbox.1, total_lateInbox.2, both] at added
  have two := balance.length_eq lateInbox_took
  rw [both] at two
  exact ⟨log, fates, runs, follows, balance, two.symm, total_lateInbox.2, by omega⟩

/-- **A result that brings missing archive details is not counted at all**: the result counters
need not move by as many payloads as were taken. -/
theorem archive_details_not_counted :
    ¬ ∀ (config : Config.Listener) (rules : Rules) (fuel : Nat) (log : Log) (exit : ListenerExit)
        (s t : Inbox) (payloads : List Text.Utf8.Bytes),
        (listen config rules fuel).Runs log (some exit) → Follows Inbox.Allows s log t →
        s.Took payloads t → total t.counters = total s.counters + payloads.length := by
  intro adds
  obtain ⟨log, runs, follows⟩ := lateArchive_run
  have both : lateInbox.waiting.length = 2 := rfl
  have added := adds _ _ _ _ _ _ _ _ runs follows lateInbox_took
  rw [total_lateInbox.1, total_lateInbox.2, both] at added
  omega

end WebCapture.Service.Listener
