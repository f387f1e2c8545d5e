import Mathlib.Data.List.TakeWhile
import WebCapture.Proofs.Listener.Accounting
import WebCapture.Proofs.Service.Keeping

set_option autoImplicit false

/-! # When the listener gives up

The listener counts the polls that failed in a way that may pass, and gives up once there are too
many of them. A result starts the count again, and so does a poll that ran out of time; a payload
that cannot be read leaves the count as it is. By `gives_up_at_first` the listener ends at the
first poll that completes such a stretch (`GivesUp`), and goes on for ever without one.

So the failures with which the listener gives up need not all be in a row
(`gives_up_across_unreadable`): the broker may have answered in between, with a payload that
cannot be read.

What interrupts a stretch is a parameter of `GivesUp`. With `Poll.settled` it is what the listener
does, with `Poll.answered` it would be failures in a row. The counting itself knows only the
former.
-/

namespace WebCapture.Service.Listener

open Program

/-! ## Stretches of polls

A stretch is looked at from its end: it goes back to the last poll that interrupts it, and the
failures in it are counted.
-/

/-- What a poll brings. -/
abbrev Poll : Type := Except Queue.Error Capture.Result

namespace Poll

/-- The poll failed in a way that may pass. -/
def failed : Poll → Bool
  | .error e => e.isRetryable
  | .ok _ => false

/-- The broker answered: with a payload, whether it can be read or not, or that there is none. -/
def answered (poll : Poll) : Bool := !poll.failed

/-- The poll brought a result, or nothing in time. -/
def settled : Poll → Bool
  | .error e => e.isTimeout
  | .ok _ => true

/-- A poll that failed in a way that may pass brought no result, and time did not run out. -/
theorem settled_of_failed {poll : Poll} (h : poll.failed = true) : poll.settled = false := by
  cases poll with
  | ok result => cases h
  | error e =>
      cases e with
      | transport reason => rfl
      | _ => cases h

end Poll

/-- The polls end with a stretch without interruption in which `limit` polls failed in a way that
may pass, the last of them with this error. -/
def GivesUp (interrupts : Poll → Bool) (limit : Nat) (polls : List Poll) (error : Queue.Error) :
    Prop :=
  ∃ earlier stretch, polls = earlier ++ stretch ∧ (∀ poll ∈ stretch, interrupts poll = false) ∧
    stretch.countP Poll.failed = limit ∧ stretch.getLast? = some (.error error) ∧
    error.isRetryable = true

/-- How many polls have failed since the last interruption. -/
def failuresSince (interrupts : Poll → Bool) (polls : List Poll) : Nat :=
  (polls.reverse.takeWhile fun poll => !interrupts poll).countP Poll.failed

section Counting

variable {interrupts : Poll → Bool} {polls : List Poll} {poll : Poll} {limit : Nat}

theorem failuresSince_interrupted (h : interrupts poll = true) :
    failuresSince interrupts (polls ++ [poll]) = 0 := by
  simp [failuresSince, h]

theorem failuresSince_snoc (h : interrupts poll = false) :
    failuresSince interrupts (polls ++ [poll]) =
      failuresSince interrupts polls + poll.failed.toNat := by
  cases hf : poll.failed <;> simp [failuresSince, h, hf]

/-- A stretch without interruption has no more failures than there were since the last one. -/
theorem countP_le_failuresSince {earlier stretch : List Poll}
    (h : ∀ poll ∈ stretch, interrupts poll = false) :
    stretch.countP Poll.failed ≤ failuresSince interrupts (earlier ++ stretch) := by
  have uninterrupted : ∀ poll ∈ stretch.reverse, (!interrupts poll) = true := by
    intro poll here
    simp [h poll (List.mem_reverse.mp here)]
  have sub : List.Sublist stretch.reverse
      ((earlier ++ stretch).reverse.takeWhile fun poll => !interrupts poll) := by
    rw [List.reverse_append, List.takeWhile_append_of_pos uninterrupted]
    exact List.sublist_append_left _ _
  calc stretch.countP Poll.failed = stretch.reverse.countP Poll.failed := List.countP_reverse.symm
    _ ≤ failuresSince interrupts (earlier ++ stretch) := sub.countP_le

/-- Whoever gives up has seen the failures since the last interruption. -/
theorem GivesUp.le_failuresSince {error : Queue.Error}
    (h : GivesUp interrupts limit polls error) : limit ≤ failuresSince interrupts polls := by
  obtain ⟨earlier, stretch, rfl, uninterrupted, rfl, -⟩ := h
  exact countP_le_failuresSince uninterrupted

/-- The failures since the last interruption are those of a stretch at the end. -/
theorem exists_stretch (interrupts : Poll → Bool) (polls : List Poll) :
    ∃ earlier stretch, polls = earlier ++ stretch ∧
      (∀ poll ∈ stretch, interrupts poll = false) ∧
      stretch.countP Poll.failed = failuresSince interrupts polls := by
  refine ⟨(polls.reverse.dropWhile fun poll => !interrupts poll).reverse,
    (polls.reverse.takeWhile fun poll => !interrupts poll).reverse, ?_, ?_, ?_⟩
  · rw [← List.reverse_append, List.takeWhile_append_dropWhile, List.reverse_reverse]
  · intro poll here
    have kept := List.mem_takeWhile_imp (List.mem_reverse.mp here)
    simpa using kept
  · rw [List.countP_reverse]
    rfl

/-- A failure that completes the count is the end of such a stretch. -/
theorem givesUp_snoc {error : Queue.Error} (retryable : error.isRetryable = true)
    (free : interrupts (.error error) = false)
    (complete : failuresSince interrupts polls + 1 = limit) :
    GivesUp interrupts limit (polls ++ [.error error]) error := by
  obtain ⟨earlier, stretch, rfl, uninterrupted, counted⟩ := exists_stretch interrupts polls
  refine ⟨earlier, stretch ++ [.error error], List.append_assoc _ _ _, ?_, ?_, ?_, retryable⟩
  · intro poll here
    rcases List.mem_append.mp here with old | new
    · exact uninterrupted poll old
    · rw [List.mem_singleton.mp new]
      exact free
  · have one : Poll.failed (.error error) = true := retryable
    simp [List.countP_append, counted, one, complete]
  · exact List.getLast?_concat

end Counting

/-! ## Surroundings in which nobody tells the listener to end -/

def firstPolls (polls : Nat → Poll) (count : Nat) : List Poll := (List.range count).map polls

theorem firstPolls_succ (polls : Nat → Poll) (count : Nat) :
    firstPolls polls (count + 1) = firstPolls polls count ++ [polls count] := by
  simp [firstPolls, List.range_succ]

/-- Surroundings in which one poll after the other brings what `polls` tells and nobody tells the
listener to end, after so many polls. All other answers are left open. -/
def Undisturbed (polls : Nat → Poll) (count : Nat) : Exchange Call Call.Answer → Nat → Prop
  | ⟨.queue (.awaitResult _), answer⟩, after => answer = polls count ∧ after = count + 1
  | ⟨.isCancelled, answer⟩, after => answer = false ∧ after = count
  | ⟨.pause _, answer⟩, after => answer = false ∧ after = count
  | _, after => after = count

def IsNoPoll : Call → Prop
  | .queue (.awaitResult _) => False
  | _ => True

variable {config : Config.Listener} {rules : Rules} {polls : Nat → Poll} {count : Nat}

/-- Work without polls makes none. -/
theorem ensures_noPoll {α : Type} {work : Work α} (h : work.Only IsNoPoll) :
    work.Ensures (Undisturbed polls) (fun _ after => after = count) count := by
  induction work with
  | done x => rfl
  | call c next ih =>
      intro answer after told
      have same : after = count := by
        cases c with
        | queue c =>
            cases c with
            | awaitResult timeout => exact h.1.elim
            | _ => exact told
        | isCancelled => exact told.2
        | pause delay => exact told.2
        | _ => exact told
      rw [same]
      exact ih answer (h.2 answer)

theorem handle_noPoll (rules : Rules) (result : Capture.Result) :
    (handle rules result).Only IsNoPoll := by
  have work : (processResult rules result).Only IsNoPoll := by
    refine (processResult_storeWork rules result).mono fun c h => ?_
    cases c with
    | queue c => exact h.elim
    | _ => trivial
  refine only_bind work fun outcome => ?_
  cases outcome with
  | error e =>
      refine ⟨trivial, fun parked => ?_⟩
      cases parked <;> exact ⟨trivial, fun _ => trivial⟩
  | ok outcome =>
      cases outcome with
      | applied state => exact only_pure
      | archiveRecorded => exact only_pure
      | unfinished => exact ⟨trivial, fun _ => trivial⟩
      | duplicate => exact ⟨trivial, fun _ => trivial⟩

/-! ## What the listener counts

The invariant of the rounds: the count is the number of failures since the last interruption, and
it has never reached the limit. A round either keeps it or ends the listener.
-/

/-- The listener has counted the failures since the last result or idle poll, and there have never
been enough of them to give up. -/
structure Counting (limit : Nat) (polls : Nat → Poll) (count failures : Nat) : Prop where
  failures : failures = failuresSince Poll.settled (firstPolls polls count)
  few : ∀ k ≤ count, failuresSince Poll.settled (firstPolls polls k) < limit

/-- The count goes on after a poll that does not complete it. -/
theorem Counting.next {limit failures failures' : Nat} (h : Counting limit polls count failures)
    (counted : failures' = failuresSince Poll.settled (firstPolls polls (count + 1)))
    (few : failures' < limit) : Counting limit polls (count + 1) failures' where
  failures := counted
  few k bound := by
    rcases Nat.lt_or_ge k (count + 1) with earlier | last
    · exact h.few k (by omega)
    · have same : k = count + 1 := by omega
      rw [same, ← counted]
      exact few

/-- What is true after a round: the listener counts on, or it has given up at the last poll. -/
def AfterRound (limit : Nat) (polls : Nat → Poll) (count : Nat) (next : Next) (after : Nat) :
    Prop :=
  after = count + 1 ∧
    match next with
    | .goOn failures => Counting limit polls after failures
    | .exit reason => ∃ error, GivesUp Poll.settled limit (firstPolls polls after) error ∧
        reason = .queueFailed limit error

theorem afterFailure_ensures {failures : Nat} {error : Queue.Error}
    (h : Counting config.retry.maxAttempts polls count failures)
    (read : polls count = .error error) (retryable : error.isRetryable = true) :
    (afterFailure config (failures + 1) error).Ensures (Undisturbed polls)
      (AfterRound config.retry.maxAttempts polls count) (count + 1) := by
  have failed : Poll.failed (.error error) = true := retryable
  have free : Poll.settled (.error error) = false := Poll.settled_of_failed failed
  have counted :
      failures + 1 = failuresSince Poll.settled (firstPolls polls (count + 1)) := by
    rw [firstPolls_succ, read, failuresSince_snoc free, failed, ← h.failures]
    rfl
  have before : failures < config.retry.maxAttempts := h.failures ▸ h.few count (Nat.le_refl count)
  rintro ⟨⟩ _ rfl
  dsimp only
  by_cases done : config.retry.maxAttempts ≤ failures + 1
  · have complete : failures + 1 = config.retry.maxAttempts := by omega
    rw [if_pos done, complete]
    refine ⟨rfl, error, ?_, rfl⟩
    rw [firstPolls_succ, read]
    exact givesUp_snoc retryable free (h.failures ▸ complete)
  · rw [if_neg done]
    rintro told _ ⟨rfl, rfl⟩
    exact ⟨rfl, h.next counted (by omega)⟩

theorem poll_ensures {failures : Nat}
    (h : Counting config.retry.maxAttempts polls count failures)
    (positive : 0 < config.retry.maxAttempts) :
    (poll config rules failures).Ensures (Undisturbed polls)
      (AfterRound config.retry.maxAttempts polls count) count := by
  have before : failures < config.retry.maxAttempts := h.failures ▸ h.few count (Nat.le_refl count)
  rintro answer _ ⟨read, rfl⟩
  have read : polls count = answer := read.symm
  cases answer with
  | ok result =>
      show (handle rules result >>= fun _ => pure (Next.goOn 0)).Ensures _ _ _
      rw [ensures_bind]
      refine (ensures_noPoll (handle_noPoll rules result)).mono ?_
      rintro ⟨⟩ _ rfl
      refine ⟨rfl, h.next ?_ positive⟩
      -- The poll was answered, which starts the count again.
      rw [firstPolls_succ, read, failuresSince_interrupted rfl]
  | error error =>
      show (if error.isTimeout then pure (Next.goOn 0)
        else if error.isRetryable then afterFailure config (failures + 1) error
        else Work.count .dropped >>= fun _ => pure (Next.goOn failures)).Ensures _ _ _
      by_cases timeout : error.isTimeout = true
      · rw [if_pos timeout]
        refine ⟨rfl, h.next ?_ positive⟩
        rw [firstPolls_succ, read, failuresSince_interrupted timeout]
      · rw [if_neg timeout]
        by_cases retryable : error.isRetryable = true
        · rw [if_pos retryable]
          exact afterFailure_ensures h read retryable
        · -- The payload is lost, but the count stays as it was.
          rw [if_neg retryable]
          rintro told _ rfl
          refine ⟨rfl, h.next ?_ before⟩
          have free : Poll.settled (.error error) = false := Bool.eq_false_iff.mpr timeout
          have still : Poll.failed (.error error) = false := Bool.eq_false_iff.mpr retryable
          rw [firstPolls_succ, read, failuresSince_snoc free, still, ← h.failures]
          rfl

theorem round_ensures {failures : Nat}
    (h : Counting config.retry.maxAttempts polls count failures)
    (positive : 0 < config.retry.maxAttempts) :
    (round config rules failures).Ensures (Undisturbed polls)
      (AfterRound config.retry.maxAttempts polls count) count := by
  rintro answer _ ⟨rfl, rfl⟩
  exact poll_ensures h positive

/-- What is true after some rounds, of which there may be `rounds` at most: there was no stretch of
failures to give up at before the last poll, and the listener has given up if there is one now. -/
def AfterRounds (interrupts : Poll → Bool) (limit : Nat) (polls : Nat → Poll) (rounds : Nat)
    (exit : Option ListenerExit) (count : Nat) : Prop :=
  (∀ k < count, ∀ error, ¬GivesUp interrupts limit (firstPolls polls k) error) ∧
    ((∃ error, GivesUp interrupts limit (firstPolls polls count) error ∧
        exit = some (.queueFailed limit error)) ∨
      (exit = none ∧ count = rounds ∧
        ∀ error, ¬GivesUp interrupts limit (firstPolls polls count) error))

theorem Counting.not_givesUp {limit failures : Nat} (h : Counting limit polls count failures)
    {k : Nat} (bound : k ≤ count) (error : Queue.Error) :
    ¬GivesUp Poll.settled limit (firstPolls polls k) error := by
  intro giving
  have enough := giving.le_failuresSince
  have few := h.few k bound
  omega

/-- Round by round, the listener counts as it should. -/
theorem rounds_ensures (positive : 0 < config.retry.maxAttempts) (fuel : Nat) {failures : Nat}
    (h : Counting config.retry.maxAttempts polls count failures) :
    (rounds config rules fuel failures).Ensures (Undisturbed polls)
      (AfterRounds Poll.settled config.retry.maxAttempts polls (count + fuel)) count := by
  induction fuel generalizing count failures with
  | zero =>
      exact ⟨fun k bound => h.not_givesUp (Nat.le_of_lt bound),
        .inr ⟨rfl, rfl, h.not_givesUp (Nat.le_refl count)⟩⟩
  | succ fuel ih =>
      rw [rounds, ensures_bind]
      refine (round_ensures h positive).mono ?_
      rintro next _ ⟨rfl, onward⟩
      cases next with
      | goOn failures =>
          have more := ih onward
          rwa [Nat.add_assoc, Nat.add_comm 1 fuel] at more
      | exit reason =>
          obtain ⟨error, giving, rfl⟩ := onward
          exact ⟨fun k bound => h.not_givesUp (Nat.le_of_lt_succ bound), .inl ⟨error, giving, rfl⟩⟩

theorem listen_ensures (positive : 0 < config.retry.maxAttempts) (fuel : Nat) :
    (listen config rules fuel).Ensures (Undisturbed polls)
      (AfterRounds Poll.settled config.retry.maxAttempts polls fuel) 0 := by
  have fresh : Counting config.retry.maxAttempts polls 0 0 := by
    refine ⟨rfl, fun k bound => ?_⟩
    have none : k = 0 := by omega
    rw [none]
    exact positive
  rintro ⟨⟩ _ rfl
  show (rounds config rules fuel 0 >>= _).Ensures _ _ _
  rw [ensures_bind]
  refine (rounds_ensures positive fuel fresh).mono ?_
  intro exit count ended
  rw [Nat.zero_add] at ended
  cases exit with
  | none => exact ended
  | some reason =>
      rintro ⟨⟩ _ rfl
      exact ended

/-! ## The end of the listener

Either the listener goes on for as many rounds as there are, or it has given up at one of them.
Both are read off the invariant.
-/

/-- The answers of undisturbed surroundings whose store and queue fail in all else. -/
def undisturbed (polls : Nat → Poll) (call : Call) (count : Nat) : call.Answer × Nat :=
  match call with
  | .queue (.awaitResult _) => (polls count, count + 1)
  | .store c => (c.failure (.backend ""), count)
  | .queue c => (c.failure (.transport ""), count)
  | .freshSeedId => ("", count)
  | .freshGroupId => ("", count)
  | .count _ => ((), count)
  | .setListening _ => ((), count)
  | .isListening => (true, count)
  | .isCancelled => (false, count)
  | .pause _ => (false, count)

theorem undisturbed_allowed (polls : Nat → Poll) (call : Call) (count : Nat) :
    Undisturbed polls count ⟨call, (undisturbed polls call count).1⟩
      (undisturbed polls call count).2 := by
  cases call with
  | queue c =>
      cases c with
      | awaitResult timeout => exact ⟨rfl, rfl⟩
      | _ => exact rfl
  | isCancelled => exact ⟨rfl, rfl⟩
  | pause delay => exact ⟨rfl, rfl⟩
  | _ => exact rfl

/-- **The listener gives up at the first poll that completes too many failures** since the last
result or idle poll, with their number and the error of that poll, and otherwise it goes on. This is
so whatever the polls bring and whatever else comes back, as long as nobody tells it to end. -/
theorem gives_up_at_first (config : Config.Listener) (rules : Rules)
    (positive : 0 < config.retry.maxAttempts) (polls : Nat → Poll) (fuel : Nat) :
    (∃ log exit count, (listen config rules fuel).Runs log exit ∧
      Follows (Undisturbed polls) 0 log count) ∧
    ∀ log exit count, (listen config rules fuel).Runs log exit →
      Follows (Undisturbed polls) 0 log count →
      AfterRounds Poll.settled config.retry.maxAttempts polls fuel exit count := by
  constructor
  · obtain ⟨log, runs, follows⟩ := exists_log (undisturbed polls) (undisturbed_allowed polls)
      (listen config rules fuel) 0
    exact ⟨log, _, _, runs, follows⟩
  · intro log exit count runs follows
    exact (listen_ensures positive fuel).follows runs follows

/-- A listener that gives up at the second failure. -/
def impatient : Config.Listener := ⟨.ofSeconds 1, { Config.Retry.standard with maxAttempts := 2 }⟩

/-- Polls that fail, but for the second, which brings a payload that cannot be read. -/
def interruptedPolls (count : Nat) : Poll :=
  if count = 1 then .error (.malformed "expected value") else .error (.transport "refused")

/-- The listener gives up at the third of these polls. -/
theorem interruptedPolls_run (rules : Rules) :
    ∃ log, (listen impatient rules 3).Runs log (some (.queueFailed 2 (.transport "refused"))) ∧
      Follows (Undisturbed interruptedPolls) 0 log 3 := by
  let refused : Poll := .error (.transport "refused")
  refine ⟨[⟨.setListening true, ()⟩,
    ⟨.isCancelled, false⟩, polling impatient refused, Fate.counting .dequeueFailed,
      ⟨.pause (impatient.retry.delay 0), false⟩,
    ⟨.isCancelled, false⟩, polling impatient (.error (.malformed "expected value")),
      Fate.counting .dropped,
    ⟨.isCancelled, false⟩, polling impatient refused, Fate.counting .dequeueFailed,
    ⟨.setListening false, ()⟩], ?_, ?_⟩
  · exact ⟨_, _, rfl, _, _, rfl, _, _, rfl, _, _, rfl, _, _, rfl, _, _, rfl, _, _, rfl, _, _, rfl,
      _, _, rfl, _, _, rfl, _, _, rfl, _, _, rfl, rfl, rfl⟩
  · exact ⟨_, rfl, _, ⟨rfl, rfl⟩, _, ⟨rfl, rfl⟩, _, rfl, _, ⟨rfl, rfl⟩, _, ⟨rfl, rfl⟩, _,
      ⟨rfl, rfl⟩, _, rfl, _, ⟨rfl, rfl⟩, _, ⟨rfl, rfl⟩, _, rfl, _, rfl, rfl⟩

/-- The listener gives up at the second failure, which is its third poll. -/
theorem gives_up_at_first_interrupted :
    0 < impatient.retry.maxAttempts ∧ ∃ log,
      (listen impatient ⟨100, 10, false, ""⟩ 3).Runs log
        (some (.queueFailed 2 (.transport "refused"))) ∧
      Follows (Undisturbed interruptedPolls) 0 log 3 ∧
      AfterRounds Poll.settled 2 interruptedPolls 3
        (some (.queueFailed 2 (.transport "refused"))) 3 := by
  obtain ⟨log, runs, follows⟩ := interruptedPolls_run ⟨100, 10, false, ""⟩
  have positive : 0 < impatient.retry.maxAttempts := by decide
  have whole := (gives_up_at_first impatient ⟨100, 10, false, ""⟩ positive interruptedPolls 3).2
  exact ⟨positive, log, runs, follows, whole log _ 3 runs follows⟩

/-- **The failures with which the listener gives up need not all be in a row**: an answer of the
broker that cannot be read does not start the count again. -/
theorem gives_up_across_unreadable :
    ¬ ∀ (config : Config.Listener) (rules : Rules), 0 < config.retry.maxAttempts →
      ∀ (polls : Nat → Poll) (fuel : Nat) log exit count,
        (listen config rules fuel).Runs log exit → Follows (Undisturbed polls) 0 log count →
        AfterRounds Poll.answered config.retry.maxAttempts polls fuel exit count := by
  intro consecutive
  obtain ⟨log, runs, follows⟩ := interruptedPolls_run ⟨100, 10, false, ""⟩
  obtain ⟨-, ⟨error, giving, -⟩ | ⟨impossible, -⟩⟩ :=
    consecutive impatient ⟨100, 10, false, ""⟩ (by decide) interruptedPolls 3 log _ 3 runs follows
  · -- Since the last answer of the broker there was only one failure.
    have enough : 2 ≤ failuresSince Poll.answered (firstPolls interruptedPolls 3) :=
      giving.le_failuresSince
    have one : failuresSince Poll.answered (firstPolls interruptedPolls 3) = 1 := by decide
    omega
  · cases impossible

end WebCapture.Service.Listener
