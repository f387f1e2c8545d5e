import WebCapture.Proofs.Program
import WebCapture.Proofs.Service.Exchanges
import WebCapture.Service.Listener

set_option autoImplicit false

/-! # What becomes of the results that the listener takes

Every payload that the listener takes off the result channel has one `Fate`: it cannot be read, or
its result is passed to `processResult` and then settled, parked or, if it cannot even be parked,
lost. `Accounts` says that the exchanges of a listener consist of the handling of such fates, one
after the other, with idle exchanges between them; by `listen_runs` this is so however long the
listener works and whatever comes back from its calls.

Nothing is said here about what the calls do. A fate is read off the exchanges alone, and
`Accounts` is proved by taking the program of the listener apart, function by function. What the
fates mean for the channel, for the results put aside and for the counters follows in
`Proofs/Listener/Balance` and `Proofs/Listener/Tally`.
-/

namespace WebCapture.Service.Listener

open Program
open Text.Utf8 (Bytes)

/-! ## Fates -/

/-- What becomes of a payload that is taken off the result channel. -/
inductive Fate where
  /-- It cannot be read. -/
  | unreadable (error : Queue.Error)
  /-- Its result is processed. -/
  | settled (result : Capture.Result) (outcome : Outcome)
  /-- Its result cannot be processed and is put aside. -/
  | parked (result : Capture.Result) (error : SeedError)
  /-- Its result can neither be processed nor put aside. -/
  | lost (result : Capture.Result) (error : SeedError) (failure : Queue.Error)

namespace Fate

def reading : Fate → Except Queue.Error Capture.Result
  | unreadable error => .error error
  | settled result _ => .ok result
  | parked result _ => .ok result
  | lost result _ _ => .ok result

def parked? : Fate → Option Capture.Result
  | parked result _ => some result
  | _ => none

def isUnreadable : Fate → Bool
  | unreadable _ => true
  | _ => false

/-- Whether the result changed nothing, since the capture goes on or its seed had ended. -/
def isIgnored : Fate → Bool
  | settled _ .unfinished => true
  | settled _ .duplicate => true
  | _ => false

/-- Whether the result could not even be put aside. -/
def isLost : Fate → Bool
  | lost _ _ _ => true
  | _ => false

/-- Whether the payload is counted as dropped. -/
def isDropped (fate : Fate) : Bool := fate.isUnreadable || fate.isIgnored || fate.isLost

def counting (event : Event) : Exchange Call Call.Answer := ⟨.count event, ()⟩

def parking (result : Capture.Result) (answer : Except Queue.Error Unit) :
    Exchange Call Call.Answer :=
  ⟨.queue (.park result), answer⟩

/-- The exchanges after the payload was taken: a result that was read is processed once, and put
aside once if that failed. -/
def Handles (rules : Rules) : Fate → Log → Prop
  | unreadable error, log =>
    error.isTimeout = false ∧ error.isRetryable = false ∧ log = [counting .dropped]
  | settled result outcome, log =>
    ∃ work, (processResult rules result).Runs work (.ok outcome) ∧
      log = work ++ if (settled result outcome).isIgnored then [counting .dropped] else []
  | parked result error, log =>
    ∃ work, (processResult rules result).Runs work (.error error) ∧
      log = work ++ [parking result (.ok ()), counting .parked]
  | lost result error failure, log =>
    ∃ work, (processResult rules result).Runs work (.error error) ∧
      log = work ++ [parking result (.error failure), counting .dropped]

end Fate

/-! ## The exchanges of a listener

Between two payloads the listener asks whether it is to end, waits after failures, and polls in
vain. All of this is idle, and so is a poll that fails: it has taken nothing.
-/

def polling (config : Config.Listener) (answer : Except Queue.Error Capture.Result) :
    Exchange Call Call.Answer :=
  ⟨.queue (.awaitResult config.pollTimeout), answer⟩

/-- A poll that brings this error has taken nothing off the channel. -/
def takesNothing (error : Queue.Error) : Bool := error.isTimeout || error.isRetryable

/-- An exchange in which nothing is taken off the channel, no result is processed or put aside,
and nothing is counted as parked or dropped. -/
def IsIdle : Exchange Call Call.Answer → Prop
  | ⟨.queue (.awaitResult _), answer⟩ => ∃ error, answer = .error error ∧ takesNothing error = true
  | ⟨.count event, _⟩ => event = .dequeueFailed
  | ⟨.setListening _, _⟩ => True
  | ⟨.isCancelled, _⟩ => True
  | ⟨.pause _, _⟩ => True
  | _ => False

/-- The exchanges of a log are the handling of payloads with these fates, each right after the
poll that took it, and idle ones. -/
inductive Accounts (config : Config.Listener) (rules : Rules) : Log → List Fate → Prop where
  | nil : Accounts config rules [] []
  | idle {e : Exchange Call Call.Answer} {log : Log} {fates : List Fate} (idle : IsIdle e)
      (more : Accounts config rules log fates) : Accounts config rules (e :: log) fates
  | taken {fate : Fate} {part log : Log} {fates : List Fate} (handled : fate.Handles rules part)
      (more : Accounts config rules log fates) :
      Accounts config rules (polling config fate.reading :: part ++ log) (fate :: fates)

variable {config : Config.Listener} {rules : Rules} {log : Log}

theorem Accounts.append {log₁ log₂ : Log} {fates₁ fates₂ : List Fate}
    (h₁ : Accounts config rules log₁ fates₁) (h₂ : Accounts config rules log₂ fates₂) :
    Accounts config rules (log₁ ++ log₂) (fates₁ ++ fates₂) := by
  induction h₁ with
  | nil => exact h₂
  | idle idle more ih => exact .idle idle ih
  | taken handled more ih =>
      rw [List.append_assoc]
      exact .taken handled ih

/-- A result is passed to `processResult` once, and parked once if that fails. -/
theorem handle_runs {result : Capture.Result} (h : (handle rules result).Runs log ()) :
    ∃ fate : Fate, fate.reading = .ok result ∧ fate.Handles rules log := by
  rw [handle, runs_bind] at h
  obtain ⟨processed, work, rest, rfl, hw, h⟩ := h
  cases processed with
  | error error =>
      obtain ⟨answer, rest, rfl, h⟩ := h
      cases answer with
      | ok =>
          obtain ⟨told, tail, rfl, rfl, last⟩ := h
          exact ⟨.parked result error, rfl, work, hw, rfl⟩
      | error failure =>
          obtain ⟨told, tail, rfl, rfl, last⟩ := h
          exact ⟨.lost result error failure, rfl, work, hw, rfl⟩
  | ok outcome =>
      refine ⟨.settled result outcome, rfl, work, hw, ?_⟩
      cases outcome with
      | applied state =>
          obtain ⟨rfl, last⟩ := h
          rfl
      | archiveRecorded =>
          obtain ⟨rfl, last⟩ := h
          rfl
      | unfinished =>
          obtain ⟨told, tail, rfl, rfl, last⟩ := h
          rfl
      | duplicate =>
          obtain ⟨told, tail, rfl, rfl, last⟩ := h
          rfl

theorem afterFailure_runs {failures : Nat} {error : Queue.Error} {next : Next}
    (h : (afterFailure config failures error).Runs log next) : Accounts config rules log [] := by
  obtain ⟨told, rest, rfl, h⟩ := h
  refine .idle rfl ?_
  dsimp only at h
  -- The listener gives up, or it pauses and looks whether it is to end.
  split at h
  · obtain ⟨rfl, last⟩ := h
    exact .nil
  · obtain ⟨told, rest, rfl, h⟩ := h
    refine .idle trivial ?_
    cases told <;> obtain ⟨rfl, -⟩ := h <;> exact .nil

/-- A poll takes a payload and handles it, or it takes none. -/
theorem poll_runs {failures : Nat} {next : Next} (h : (poll config rules failures).Runs log next) :
    ∃ fates, Accounts config rules log fates := by
  obtain ⟨answer, rest, rfl, h⟩ := h
  cases answer with
  | ok result =>
      change (handle rules result >>= fun _ => pure (.goOn 0)).Runs rest next at h
      rw [runs_bind] at h
      obtain ⟨told, part, tail, rfl, hh, rfl, last⟩ := h
      obtain ⟨fate, reading, handled⟩ := handle_runs hh
      have whole : Accounts config rules (polling config fate.reading :: part ++ []) [fate] :=
        .taken handled .nil
      rw [reading] at whole
      exact ⟨[fate], whole⟩
  | error error =>
      change (if error.isTimeout then pure (.goOn 0)
        else if error.isRetryable then afterFailure config (failures + 1) error
        else Work.count .dropped >>= fun _ => pure (.goOn failures)).Runs rest next at h
      -- Only an error that is neither the end of the wait nor worth another try has cost a payload.
      split at h
      · rename_i timeout
        obtain ⟨rfl, -⟩ := h
        exact ⟨[], .idle ⟨error, rfl, by rw [takesNothing, timeout, Bool.true_or]⟩ .nil⟩
      · rename_i timely
        split at h
        · rename_i retryable
          refine ⟨[], .idle ⟨error, rfl, ?_⟩ (afterFailure_runs h)⟩
          rw [takesNothing, retryable, Bool.or_true]
        · rename_i final
          obtain ⟨told, rest, rfl, rfl, last⟩ := h
          have handled : (Fate.unreadable error).Handles rules [Fate.counting .dropped] :=
            ⟨Bool.eq_false_iff.mpr timely, Bool.eq_false_iff.mpr final, rfl⟩
          exact ⟨[.unreadable error], Accounts.taken handled .nil⟩

theorem round_runs {failures : Nat} {next : Next}
    (h : (round config rules failures).Runs log next) :
    ∃ fates, Accounts config rules log fates := by
  obtain ⟨cancelled, rest, rfl, h⟩ := h
  cases cancelled with
  | true =>
      obtain ⟨rfl, -⟩ := h
      exact ⟨[], .idle trivial .nil⟩
  | false =>
      obtain ⟨fates, accounts⟩ := poll_runs h
      exact ⟨fates, .idle trivial accounts⟩

/-- Whatever number of rounds the listener works, its exchanges are the handling of fates. -/
theorem rounds_runs {fuel failures : Nat} {exit : Option ListenerExit}
    (h : (rounds config rules fuel failures).Runs log exit) :
    ∃ fates, Accounts config rules log fates := by
  induction fuel generalizing log failures with
  | zero =>
      obtain ⟨rfl, -⟩ := h
      exact ⟨[], .nil⟩
  | succ fuel ih =>
      rw [rounds, runs_bind] at h
      obtain ⟨next, first, rest, rfl, hr, h⟩ := h
      obtain ⟨fates, accounts⟩ := round_runs hr
      cases next with
      | exit reason =>
          obtain ⟨rfl, -⟩ := h
          exact ⟨fates ++ [], accounts.append .nil⟩
      | goOn failures =>
          obtain ⟨fates', accounts'⟩ := ih h
          exact ⟨fates ++ fates', accounts.append accounts'⟩

theorem listen_runs {fuel : Nat} {exit : Option ListenerExit}
    (h : (listen config rules fuel).Runs log exit) : ∃ fates, Accounts config rules log fates := by
  rw [listen, runs_bind] at h
  -- Before and after the rounds the listener tells that it works.
  obtain ⟨told, opened, log, rfl, ⟨answer, ended, rfl, rfl, -⟩, h⟩ := h
  rw [runs_bind] at h
  obtain ⟨reason, first, rest, rfl, hr, h⟩ := h
  obtain ⟨fates, accounts⟩ := rounds_runs hr
  cases reason with
  | none =>
      obtain ⟨rfl, last⟩ := h
      exact ⟨fates ++ [], .idle trivial (accounts.append .nil)⟩
  | some reason =>
      obtain ⟨told', rest, rfl, rfl, last⟩ := h
      exact ⟨fates ++ [], .idle trivial (accounts.append (.idle trivial .nil))⟩

end WebCapture.Service.Listener
