import Mathlib
import WebCapture.Proofs.Listener.Accounting
import WebCapture.Proofs.Service.Keeping
import WebCapture.Queue.Channels

set_option autoImplicit false

/-! # What the listener changes

An `Inbox` is what a listener works on: the result channel with all that it has received, the list
of results that were put aside, and the counters. Payloads may arrive between any two exchanges,
and every call may fail. `Balance` compares an inbox before and after by the fates of the payloads
that were taken off the channel.

The channel keeps all that it has received, beside what is still on it, so that the two together
show what was taken. A call that puts a result aside may fail only without effect here: what was
put aside although the call failed could not be told from a second result.

`listen_accounts` joins this with `Proofs/Listener/Accounting`: the fates that are read off the
exchanges are those by which the inbox has changed.
-/

namespace WebCapture.Service.Listener

open Program Queue
open Text.Utf8 (Bytes)

/-! ## The surroundings of a listener -/

/-- The result channel, the results that were put aside, and the counters. -/
structure Inbox where
  /-- All payloads that the result channel has received so far. -/
  received : List Bytes
  /-- The payloads that are still on the result channel. -/
  waiting : List Bytes
  unmatched : List Bytes
  counters : Counters

namespace Inbox

def arrive (inbox : Inbox) (payloads : List Bytes) : Inbox :=
  { inbox with
    received := inbox.received ++ payloads
    waiting := inbox.waiting ++ payloads }

/-- What an inbox answers, and what it is afterwards. A poll takes the first payload, or it
fails and takes none; a result is put aside, or that fails and none is put aside. The answers of
the store and all others are left open. -/
def Answers (s : Inbox) : Exchange Call Call.Answer → Inbox → Prop
  | ⟨.queue (.awaitResult _), answer⟩, t =>
    (∃ error, answer = .error error ∧ takesNothing error = true ∧ t = s) ∨
      ∃ payload more, s.waiting = payload :: more ∧ answer = decodeResult payload ∧
        t = { s with waiting := more }
  | ⟨.queue (.park result), answer⟩, t =>
    (∃ error, answer = .error error ∧ t = s) ∨
      answer = .ok () ∧ t = { s with unmatched := s.unmatched ++ [encodeResult result] }
  | ⟨.count event, _⟩, t => t = { s with counters := s.counters.count event }
  | _, t => t = s

/-- One exchange with an inbox, before which payloads may arrive. -/
def Allows (s : Inbox) (e : Exchange Call Call.Answer) (t : Inbox) : Prop :=
  ∃ arrived, (s.arrive arrived).Answers e t

/-- How an inbox has changed: these payloads have arrived, been taken, and been put aside, and
so many results have been counted as parked and as dropped. -/
structure Changes (s : Inbox) (arrived taken aside : List Bytes) (parked dropped : Nat)
    (t : Inbox) : Prop where
  received : t.received = s.received ++ arrived
  waiting : s.waiting ++ arrived = taken ++ t.waiting
  unmatched : t.unmatched = s.unmatched ++ aside
  parked : t.counters.resultsParked = s.counters.resultsParked + parked
  dropped : t.counters.resultsDropped = s.counters.resultsDropped + dropped

variable {s t u : Inbox}

theorem changes_arrive (s : Inbox) (arrived : List Bytes) :
    s.Changes arrived [] [] 0 0 (s.arrive arrived) where
  received := rfl
  waiting := rfl
  unmatched := (List.append_nil _).symm
  parked := rfl
  dropped := rfl

theorem Changes.trans {arrived₁ arrived₂ taken₁ taken₂ aside₁ aside₂ : List Bytes}
    {parked₁ parked₂ dropped₁ dropped₂ : Nat}
    (h₁ : s.Changes arrived₁ taken₁ aside₁ parked₁ dropped₁ t)
    (h₂ : t.Changes arrived₂ taken₂ aside₂ parked₂ dropped₂ u) :
    s.Changes (arrived₁ ++ arrived₂) (taken₁ ++ taken₂) (aside₁ ++ aside₂) (parked₁ + parked₂)
      (dropped₁ + dropped₂) u where
  received := by rw [h₂.received, h₁.received, List.append_assoc]
  waiting := by
    calc s.waiting ++ (arrived₁ ++ arrived₂)
        = taken₁ ++ (t.waiting ++ arrived₂) := by
          rw [← List.append_assoc, h₁.waiting, List.append_assoc]
      _ = taken₁ ++ taken₂ ++ u.waiting := by rw [h₂.waiting, List.append_assoc]
  unmatched := by rw [h₂.unmatched, h₁.unmatched, List.append_assoc]
  parked := by rw [h₂.parked, h₁.parked, Nat.add_assoc]
  dropped := by rw [h₂.dropped, h₁.dropped, Nat.add_assoc]

/-! ## Single exchanges -/

/-- A payload that cannot be read is not taken for a failure of the channel. -/
theorem takesNothing_of_decodeResult {payload : Bytes} {error : Queue.Error}
    (h : decodeResult payload = .error error) : takesNothing error = false := by
  unfold decodeResult at h
  split at h
  · cases h
  · cases h
    rfl

/-- A poll whose answer is no failure of the channel has taken the first payload. -/
theorem changes_of_poll {config : Config.Listener} {reading : Except Queue.Error Capture.Result}
    (h : s.Allows (polling config reading) t)
    (final : ∀ error, reading = .error error → takesNothing error = false) :
    ∃ arrived payload, s.Changes arrived [payload] [] 0 0 t ∧ decodeResult payload = reading := by
  obtain ⟨arrived, ⟨error, he, nothing, -⟩ | ⟨payload, more, hw, hr, rfl⟩⟩ := h
  · rw [final error he] at nothing
    cases nothing
  · exact ⟨arrived, payload, ⟨rfl, hw, (List.append_nil _).symm, rfl, rfl⟩, hr.symm⟩

/-- An event that is counted changes no more than the counters. -/
theorem changes_of_count {event : Event} {parked dropped : Nat}
    (h : s.Allows (Fate.counting event) t)
    (hp : ∀ counters : Counters,
      (counters.count event).resultsParked = counters.resultsParked + parked)
    (hd : ∀ counters : Counters,
      (counters.count event).resultsDropped = counters.resultsDropped + dropped) :
    ∃ arrived, s.Changes arrived [] [] parked dropped t := by
  obtain ⟨arrived, rfl⟩ := h
  exact ⟨arrived, rfl, rfl, (List.append_nil _).symm, hp _, hd _⟩

theorem changes_of_count_dropped (h : s.Allows (Fate.counting .dropped) t) :
    ∃ arrived, s.Changes arrived [] [] 0 1 t :=
  changes_of_count h (fun _ => rfl) (fun _ => rfl)

theorem changes_of_count_parked (h : s.Allows (Fate.counting .parked) t) :
    ∃ arrived, s.Changes arrived [] [] 1 0 t :=
  changes_of_count h (fun _ => rfl) (fun _ => rfl)

theorem changes_of_parked {result : Capture.Result}
    (h : s.Allows (Fate.parking result (.ok ())) t) :
    ∃ arrived, s.Changes arrived [] [encodeResult result] 0 0 t := by
  obtain ⟨arrived, ⟨error, he, -⟩ | ⟨-, rfl⟩⟩ := h
  · cases he
  · exact ⟨arrived, rfl, rfl, rfl, rfl, rfl⟩

theorem changes_of_not_parked {result : Capture.Result} {failure : Queue.Error}
    (h : s.Allows (Fate.parking result (.error failure)) t) :
    ∃ arrived, s.Changes arrived [] [] 0 0 t := by
  obtain ⟨arrived, ⟨error, -, rfl⟩ | ⟨he, -⟩⟩ := h
  · exact ⟨arrived, changes_arrive s arrived⟩
  · cases he

theorem changes_of_idle {e : Exchange Call Call.Answer} (h : s.Allows e t) (idle : IsIdle e) :
    ∃ arrived, s.Changes arrived [] [] 0 0 t := by
  obtain ⟨c, answer⟩ := e
  cases c with
  | queue c =>
      cases c with
      | awaitResult timeout =>
          obtain ⟨error, rfl, nothing⟩ := idle
          obtain ⟨arrived, ⟨-, -, -, rfl⟩ | ⟨payload, more, -, hr, -⟩⟩ := h
          · exact ⟨arrived, changes_arrive s arrived⟩
          · -- What was read from a payload is no such error.
            rw [takesNothing_of_decodeResult hr.symm] at nothing
            cases nothing
      | _ => exact absurd idle id
  | count event =>
      have he : event = .dequeueFailed := idle
      subst he
      exact changes_of_count h (fun _ => rfl) (fun _ => rfl)
  | setListening running =>
      obtain ⟨arrived, rfl⟩ := h
      exact ⟨arrived, changes_arrive s arrived⟩
  | isCancelled =>
      obtain ⟨arrived, rfl⟩ := h
      exact ⟨arrived, changes_arrive s arrived⟩
  | pause delay =>
      obtain ⟨arrived, rfl⟩ := h
      exact ⟨arrived, changes_arrive s arrived⟩
  | _ => exact absurd idle id

/-! ## Whole runs -/

/-- Counting an applied result leaves the other counters as they are. -/
theorem count_result (counters : Counters) (state : Seed.State) :
    (counters.count (.result state)).resultsParked = counters.resultsParked ∧
      (counters.count (.result state)).resultsDropped = counters.resultsDropped := by
  cases state <;> exact ⟨rfl, rfl⟩

theorem changes_of_storeWork {log : Log} (h : Follows Allows s log t)
    (work : ∀ e ∈ log, IsStoreWork e.call) : ∃ arrived, s.Changes arrived [] [] 0 0 t := by
  induction log generalizing s with
  | nil =>
      obtain rfl : t = s := h
      refine ⟨[], ?_, List.append_nil _, ?_, rfl, rfl⟩
      · exact (List.append_nil _).symm
      · exact (List.append_nil _).symm
  | cons e log ih =>
      obtain ⟨u, first, rest⟩ := h
      have one : ∃ arrived, s.Changes arrived [] [] 0 0 u := by
        have he := work e List.mem_cons_self
        obtain ⟨c, answer⟩ := e
        cases c with
        | store c =>
            obtain ⟨arrived, rfl⟩ := first
            exact ⟨arrived, changes_arrive s arrived⟩
        | count event =>
            cases event with
            | result state =>
                exact changes_of_count first (fun counters => (count_result counters state).1)
                  (fun counters => (count_result counters state).2)
            | _ => exact absurd he id
        | _ => exact absurd he id
      obtain ⟨arrived₁, changes₁⟩ := one
      obtain ⟨arrived₂, changes₂⟩ := ih rest fun e he => work e (List.mem_cons_of_mem _ he)
      exact ⟨arrived₁ ++ arrived₂, changes₁.trans changes₂⟩

/-- The handling of a payload changes the inbox as its fate tells. -/
theorem changes_of_handles {rules : Rules} {fate : Fate} {log : Log}
    (h : Follows Allows s log t) (handled : fate.Handles rules log) :
    ∃ arrived, s.Changes arrived [] (fate.parked?.toList.map encodeResult)
      fate.parked?.toList.length fate.isDropped.toNat t := by
  cases fate with
  | unreadable error =>
      obtain ⟨-, -, rfl⟩ := handled
      obtain ⟨u, told, rfl⟩ := h
      exact changes_of_count_dropped told
  | settled result outcome =>
      obtain ⟨work, runs, rfl⟩ := handled
      obtain ⟨u, worked, rest⟩ := follows_append.mp h
      obtain ⟨arrived, changes⟩ :=
        changes_of_storeWork worked (runs.only (processResult_storeWork rules result))
      have ignored : (Fate.settled result outcome).isDropped
          = (Fate.settled result outcome).isIgnored := Bool.or_false _
      rw [ignored]
      -- An outcome that is ignored is counted as dropped; after any other nothing is counted here.
      split at rest
      · rename_i yes
        obtain ⟨v, told, rfl⟩ := rest
        obtain ⟨arrived', changes'⟩ := changes_of_count_dropped told
        rw [yes]
        exact ⟨arrived ++ arrived', changes.trans changes'⟩
      · rename_i no
        obtain rfl : t = u := rest
        rw [Bool.eq_false_iff.mpr no]
        exact ⟨arrived, changes⟩
  | parked result error =>
      obtain ⟨work, runs, rfl⟩ := handled
      obtain ⟨u, worked, v, aside, w, told, rfl⟩ := follows_append.mp h
      obtain ⟨arrived₁, changes₁⟩ :=
        changes_of_storeWork worked (runs.only (processResult_storeWork rules result))
      obtain ⟨arrived₂, changes₂⟩ := changes_of_parked aside
      obtain ⟨arrived₃, changes₃⟩ := changes_of_count_parked told
      exact ⟨_, changes₁.trans (changes₂.trans changes₃)⟩
  | lost result error failure =>
      obtain ⟨work, runs, rfl⟩ := handled
      obtain ⟨u, worked, v, aside, w, told, rfl⟩ := follows_append.mp h
      obtain ⟨arrived₁, changes₁⟩ :=
        changes_of_storeWork worked (runs.only (processResult_storeWork rules result))
      obtain ⟨arrived₂, changes₂⟩ := changes_of_not_parked aside
      obtain ⟨arrived₃, changes₃⟩ := changes_of_count_dropped told
      exact ⟨_, changes₁.trans (changes₂.trans changes₃)⟩

/-- A payload with this fate is no failure of the channel. -/
theorem takesNothing_of_handles {rules : Rules} {fate : Fate} {log : Log}
    (handled : fate.Handles rules log) :
    ∀ error, fate.reading = .error error → takesNothing error = false := by
  intro error reading
  cases fate with
  | unreadable error' =>
      obtain ⟨timely, final, -⟩ := handled
      cases reading
      rw [takesNothing, timely, final, Bool.false_or]
  | _ => cases reading

end Inbox

/-! ## The balance

A balance is additive: fates that are accounted for one after the other add up. So it is enough to
know what the handling of one payload changes (`changes_of_handles`), and that idle exchanges
change nothing but by new arrivals.
-/

/-- An inbox has changed by just these fates: the payloads that were taken off the channel are
the first of those that waited or arrived, they were read as the fates tell, and what is left is
the rest of them in their order. The results with a parked fate were put aside in that order and
were counted, and so were the payloads with other fates that leave no trace in the store. -/
structure Balance (s : Inbox) (fates : List Fate) (t : Inbox) : Prop where
  channel : ∃ arrived taken, t.received = s.received ++ arrived ∧
    s.waiting ++ arrived = taken ++ t.waiting ∧ taken.map decodeResult = fates.map Fate.reading
  unmatched : t.unmatched = s.unmatched ++ (fates.filterMap Fate.parked?).map encodeResult
  parked : t.counters.resultsParked
    = s.counters.resultsParked + (fates.filterMap Fate.parked?).length
  dropped : t.counters.resultsDropped = s.counters.resultsDropped
    + (fates.countP Fate.isUnreadable + fates.countP Fate.isIgnored + fates.countP Fate.isLost)

/-- No fate is counted as dropped for two reasons. -/
theorem Fate.toNat_isDropped (fate : Fate) :
    fate.isDropped.toNat = fate.isUnreadable.toNat + fate.isIgnored.toNat + fate.isLost.toNat := by
  cases fate with
  | settled result outcome => cases outcome <;> rfl
  | _ => rfl

theorem Balance.cons {s t u : Inbox} {fate : Fate} {fates : List Fate} {payload : Bytes}
    {arrived : List Bytes}
    (h : s.Changes arrived [payload] (fate.parked?.toList.map encodeResult)
      fate.parked?.toList.length fate.isDropped.toNat t)
    (reading : decodeResult payload = fate.reading) (more : Balance t fates u) :
    Balance s (fate :: fates) u := by
  have aside : (fate :: fates).filterMap Fate.parked?
      = fate.parked?.toList ++ fates.filterMap Fate.parked? := by
    rw [List.filterMap_cons]
    cases fate.parked? <;> rfl
  constructor
  · obtain ⟨arrived', taken, hr, hw, ht⟩ := more.channel
    refine ⟨arrived ++ arrived', payload :: taken, ?_, ?_, ?_⟩
    · rw [hr, h.received, List.append_assoc]
    · rw [← List.append_assoc, h.waiting, List.append_assoc, hw]
      rfl
    · rw [List.map_cons, List.map_cons, reading, ht]
  · rw [more.unmatched, h.unmatched, aside, List.map_append, List.append_assoc]
  · rw [more.parked, h.parked, aside, List.length_append, Nat.add_assoc]
  · rw [more.dropped, h.dropped, fate.toNat_isDropped]
    simp only [List.countP_cons, Bool.toNat]
    cases fate.isUnreadable <;> cases fate.isIgnored <;> cases fate.isLost <;> simp <;> omega

/-- What changes only the channel by new arrivals does not tip the balance. -/
theorem Balance.after {s t u : Inbox} {fates : List Fate} {arrived : List Bytes}
    (h : s.Changes arrived [] [] 0 0 t) (more : Balance t fates u) : Balance s fates u := by
  constructor
  · obtain ⟨arrived', taken, hr, hw, ht⟩ := more.channel
    refine ⟨arrived ++ arrived', taken, ?_, ?_, ht⟩
    · rw [hr, h.received, List.append_assoc]
    · rw [← List.append_assoc, h.waiting, List.nil_append, hw]
  · rw [more.unmatched, h.unmatched, List.append_nil]
  · rw [more.parked, h.parked, Nat.add_zero]
  · rw [more.dropped, h.dropped, Nat.add_zero]

/-- Exchanges that are accounted for by fates change the inbox by these fates. -/
theorem Accounts.balance {config : Config.Listener} {rules : Rules} {log : Log}
    {fates : List Fate} {s t : Inbox} (h : Accounts config rules log fates)
    (inbox : Follows Inbox.Allows s log t) : Balance s fates t := by
  induction h generalizing s with
  | nil =>
      obtain rfl : t = s := inbox
      refine ⟨⟨[], [], ?_, List.append_nil _, rfl⟩, ?_, rfl, rfl⟩
      · exact (List.append_nil _).symm
      · exact (List.append_nil _).symm
  | idle idle more ih =>
      obtain ⟨u, first, rest⟩ := inbox
      obtain ⟨arrived, changes⟩ := Inbox.changes_of_idle first idle
      exact (ih rest).after changes
  | taken handled more ih =>
      -- The poll takes the payload, and the exchanges behind it handle its fate.
      obtain ⟨u, polled, rest⟩ := inbox
      obtain ⟨v, worked, rest⟩ := follows_append.mp rest
      obtain ⟨arrived, payload, changes, reading⟩ :=
        Inbox.changes_of_poll polled (Inbox.takesNothing_of_handles handled)
      obtain ⟨arrived', changes'⟩ := Inbox.changes_of_handles worked handled
      have whole := changes.trans changes'
      rw [List.append_nil, List.nil_append, Nat.zero_add, Nat.zero_add] at whole
      exact Balance.cons whole reading (ih rest)

/-- **The listener neither loses nor duplicates a result.** Whatever arrives while it works,
whatever the store answers, whichever polls and attempts to put a result aside fail, and whenever
the work is to end: the exchanges of the listener are the handling of payloads, each right after
the poll that took it, and the inbox has changed by just their fates. -/
theorem listen_accounts {config : Config.Listener} {rules : Rules} {fuel : Nat}
    {exit : Option ListenerExit} {log : Log} {s t : Inbox}
    (h : (listen config rules fuel).Runs log exit) (inbox : Follows Inbox.Allows s log t) :
    ∃ fates, Accounts config rules log fates ∧ Balance s fates t := by
  obtain ⟨fates, accounts⟩ := listen_runs h
  exact ⟨fates, accounts, accounts.balance inbox⟩

/-- A result for a seed that nobody knows is put aside, and the listener is told to end. -/
theorem listen_accounts_unknown_seed :
    ∃ log fates payload, (listen ⟨.ofSeconds 1, .standard⟩ ⟨100, 10, false, ""⟩ 2).Runs log
        (some .cancelled) ∧
      Accounts ⟨.ofSeconds 1, .standard⟩ ⟨100, 10, false, ""⟩ log fates ∧
      Balance ⟨[payload], [payload], [], .zero⟩ fates
        ⟨[payload], [], [payload], { Counters.zero with resultsParked := 1 }⟩ := by
  let result : Capture.Result := ⟨"A", true, [], none⟩
  let parked : Inbox :=
    ⟨[encodeResult result], [], [encodeResult result], { Counters.zero with resultsParked := 1 }⟩
  let log : Log := [⟨.setListening true, ()⟩, ⟨.isCancelled, false⟩,
    polling ⟨.ofSeconds 1, .standard⟩ (.ok result),
    ⟨.store (.getSeed "A"), (Except.error (.seedNotFound "A") : Except Store.Error Seed)⟩,
    Fate.parking result (.ok ()), Fate.counting .parked, ⟨.isCancelled, true⟩,
    ⟨.setListening false, ()⟩]
  have runs : (listen ⟨.ofSeconds 1, .standard⟩ ⟨100, 10, false, ""⟩ 2).Runs log
      (some .cancelled) :=
    ⟨_, _, rfl, _, _, rfl, _, _, rfl, _, _, rfl, _, _, rfl, _, _, rfl, _, _, rfl, _, _, rfl, rfl,
      rfl⟩
  have readable : decodeResult (encodeResult result) = .ok result := by
    have h : (decodeResult (encodeResult result)).toOption = some result := by decide +kernel
    cases hr : decodeResult (encodeResult result) with
    | error error =>
        rw [hr] at h
        cases h
    | ok read =>
        rw [hr] at h
        rw [Option.some.inj h]
  have inbox : Follows Inbox.Allows ⟨[encodeResult result], [encodeResult result], [], .zero⟩ log
      parked :=
    ⟨_, ⟨[], rfl⟩, _, ⟨[], rfl⟩, _, ⟨[], .inr ⟨_, _, rfl, readable.symm, rfl⟩⟩, _, ⟨[], rfl⟩, _,
      ⟨[], .inr ⟨rfl, rfl⟩⟩, _, ⟨[], rfl⟩, _, ⟨[], rfl⟩, _, ⟨[], rfl⟩, rfl⟩
  obtain ⟨fates, accounts, balance⟩ := listen_accounts runs inbox
  exact ⟨log, fates, encodeResult result, runs, accounts, balance⟩

end WebCapture.Service.Listener
