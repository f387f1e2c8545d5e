import WebCapture.Proofs.Listener.Accounting
import WebCapture.Service.Background

set_option autoImplicit false

/-! # What a listener beside other work has done

A listener that works beside a task makes its exchanges one at a time, and whoever looks at it may
find it in the middle of a round. `Status.After` tells for each status which exchanges have led
there. A listener that has ended has made those of `listen`, so that it has dealt with all that it
took (`listen_of_ended`); and unless it gave up it was told to end (`tellsEnd_of_ended`).

The work of `listen` is cut into turns here: `Begun` counts whole rounds, and what is left of the
round that was begun is kept in the status itself. One exchange either stays in its round or
completes it, so that `After.step` has these two cases and the opening.
-/

namespace WebCapture.Service.Listener

open Program

variable {config : Config.Listener} {rules : Rules} {log : Log} {failures : Nat}

/-! ## Whole rounds -/

/-- These are the exchanges of the opening and of some whole rounds, after which the listener goes
on with so many failed polls in a row. -/
inductive Begun (config : Config.Listener) (rules : Rules) : Log → Nat → Prop where
  | opened : Begun config rules [⟨.setListening true, ()⟩] 0
  | round {log part : Log} {failures more : Nat} (begun : Begun config rules log failures)
      (runs : (round config rules failures).Runs part (.goOn more)) :
      Begun config rules (log ++ part) more

/-- However the rounds go on, they are some of those that `rounds` begins with. -/
theorem Begun.rounds (begun : Begun config rules log failures) :
    ∃ n body, log = ⟨.setListening true, ()⟩ :: body ∧
      ∀ fuel tail exit, (rounds config rules fuel failures).Runs tail exit →
        (rounds config rules (n + fuel) 0).Runs (body ++ tail) exit := by
  induction begun with
  | opened =>
      refine ⟨0, [], rfl, fun fuel tail exit runs => ?_⟩
      rwa [Nat.zero_add]
  | @round log part failures more begun runs ih =>
      obtain ⟨n, body, rfl, onward⟩ := ih
      refine ⟨n + 1, body ++ part, rfl, fun fuel tail exit later => ?_⟩
      have next : (Listener.rounds config rules (fuel + 1) failures).Runs (part ++ tail) exit := by
        rw [Listener.rounds, runs_bind]
        exact ⟨_, part, tail, rfl, runs, later⟩
      have whole := onward (fuel + 1) (part ++ tail) exit next
      rwa [← Nat.add_assoc, Nat.add_right_comm, ← List.append_assoc] at whole

/-- The opening and some rounds are the work of `listen`. -/
theorem Begun.listen (begun : Begun config rules log failures) {fuel : Nat} {tail : Log}
    {reason : ListenerExit} (runs : (Listener.rounds config rules fuel failures).Runs tail
      (some reason)) :
    ∃ more, (Listener.listen config rules more).Runs (log ++ tail ++ [⟨.setListening false, ()⟩])
      (some reason) := by
  obtain ⟨n, body, rfl, onward⟩ := begun.rounds
  have whole := onward fuel tail (some reason) runs
  refine ⟨n + fuel, ?_⟩
  rw [Listener.listen, runs_bind]
  refine ⟨(), [⟨.setListening true, ()⟩], _, rfl, ⟨_, _, rfl, rfl, rfl⟩, ?_⟩
  exact runs_bind.mpr ⟨_, body ++ tail, _, rfl, whole, _, _, rfl, rfl, rfl⟩

/-! ## A turn -/

/-- A turn that is not the last one is a round. -/
theorem round_of_turn {more : Nat} (h : (turn config rules failures).Runs log (.goOn more)) :
    (round config rules failures).Runs log (.goOn more) := by
  rw [turn, runs_bind] at h
  obtain ⟨next, part, rest, rfl, runs, h⟩ := h
  cases next with
  | goOn more' =>
      obtain ⟨rfl, same⟩ := h
      cases same
      rwa [List.append_nil]
  | exit reason =>
      obtain ⟨told, rest, rfl, -, impossible⟩ := h
      cases impossible

/-- At the end of the last turn the listener tells that it is not running any more. -/
theorem round_of_last_turn {reason : ListenerExit}
    (h : (turn config rules failures).Runs log (.exit reason)) :
    ∃ part, log = part ++ [⟨.setListening false, ()⟩] ∧
      (round config rules failures).Runs part (.exit reason) := by
  rw [turn, runs_bind] at h
  obtain ⟨next, part, rest, rfl, runs, h⟩ := h
  cases next with
  | goOn more =>
      obtain ⟨-, impossible⟩ := h
      cases impossible
  | exit reason' =>
      obtain ⟨told, rest, rfl, rfl, same⟩ := h
      cases same
      exact ⟨part, rfl, runs⟩

/-- Whether the listener is told to end in an exchange. -/
def TellsEnd : Exchange Call Call.Answer → Prop
  | ⟨.isCancelled, answer⟩ => answer = true
  | ⟨.pause _, answer⟩ => answer = true
  | _ => False

theorem tellsEnd_of_afterFailure {error : Queue.Error}
    (h : (afterFailure config failures error).Runs log (.exit .cancelled)) :
    ∃ e ∈ log, TellsEnd e := by
  obtain ⟨told, rest, rfl, h⟩ := h
  dsimp only at h
  split at h
  · obtain ⟨-, impossible⟩ := h
    cases impossible
  · obtain ⟨told, rest, rfl, h⟩ := h
    cases told with
    | false =>
        obtain ⟨-, impossible⟩ := h
        cases impossible
    | true => exact ⟨_, List.mem_cons_of_mem _ List.mem_cons_self, rfl⟩

/-- A poll ends the listener without an error only if the listener is told to end. -/
theorem tellsEnd_of_poll (h : (poll config rules failures).Runs log (.exit .cancelled)) :
    ∃ e ∈ log, TellsEnd e := by
  obtain ⟨answer, rest, rfl, h⟩ := h
  cases answer with
  | ok result =>
      change (handle rules result >>= fun _ => pure (Next.goOn 0)).Runs rest _ at h
      obtain ⟨-, -, -, -, -, -, impossible⟩ := runs_bind.mp h
      cases impossible
  | error error =>
      change (if error.isTimeout then pure (Next.goOn 0)
        else if error.isRetryable then afterFailure config (failures + 1) error
        else Work.count .dropped >>= fun _ => pure (Next.goOn failures)).Runs rest _ at h
      split at h
      · obtain ⟨-, impossible⟩ := h
        cases impossible
      · split at h
        · obtain ⟨e, here, tells⟩ := tellsEnd_of_afterFailure h
          exact ⟨e, List.mem_cons_of_mem _ here, tells⟩
        · obtain ⟨-, -, -, -, impossible⟩ := h
          cases impossible

theorem tellsEnd_of_round (h : (round config rules failures).Runs log (.exit .cancelled)) :
    ∃ e ∈ log, TellsEnd e := by
  obtain ⟨cancelled, rest, rfl, h⟩ := h
  cases cancelled with
  | true => exact ⟨_, List.mem_cons_self, rfl⟩
  | false =>
      obtain ⟨e, here, tells⟩ := tellsEnd_of_poll h
      exact ⟨e, List.mem_cons_of_mem _ here, tells⟩

/-! ## The status of a listener -/

namespace Status

/-- These exchanges have brought a listener to this status. -/
def After (config : Config.Listener) (rules : Rules) (log : Log) : Status → Prop
  | absent => log = []
  | waiting failures => Begun config rules log failures
  | working rest => opening.Reaches log rest ∨ ∃ first part failures, log = first ++ part ∧
      Begun config rules first failures ∧ (turn config rules failures).Reaches part rest
  | ended reason => ∃ first part failures, log = first ++ part ∧
      Begun config rules first failures ∧ (turn config rules failures).Runs part (.exit reason)

theorem after_started : started.After config rules [] := .inl rfl

/-- What has been done of the opening leads to the status that what is left of it tells. -/
theorem after_of_opening {rest : Work Next} (reached : opening.Reaches log rest) :
    (ofRest rest).After config rules log := by
  cases rest with
  | call c next => exact .inl reached
  | done next =>
      obtain ⟨told, -, rfl, rfl, rfl⟩ := reached.done_runs
      exact .opened

theorem after_of_turn {first part : Log} {rest : Work Next}
    (begun : Begun config rules first failures)
    (reached : (turn config rules failures).Reaches part rest) :
    (ofRest rest).After config rules (first ++ part) := by
  cases rest with
  | call c next => exact .inr ⟨first, part, failures, rfl, begun, reached⟩
  | done next =>
      have runs := reached.done_runs
      cases next with
      | goOn more => exact .round begun (round_of_turn runs)
      | exit reason => exact ⟨first, part, failures, rfl, begun, runs⟩

/-- **One exchange of the listener** brings it from its status to the next one. -/
theorem After.step {status : Status} (after : status.After config rules log) {c : Call}
    {next : c.Answer → Work Next} (todo : status.rest? config rules = some (.call c next))
    (answer : c.Answer) :
    (ofRest (next answer)).After config rules (log ++ [⟨c, answer⟩]) := by
  cases status with
  | absent => cases todo
  | ended reason => cases todo
  | waiting failures =>
      have begins : turn config rules failures = .call c next := Option.some.inj todo
      exact after_of_turn after ⟨c, next, answer, begins, rfl, rfl⟩
  | working rest =>
      obtain rfl : rest = .call c next := Option.some.inj todo
      rcases after with reached | ⟨first, part, failures, rfl, begun, reached⟩
      · exact after_of_opening (reached.snoc answer)
      · rw [List.append_assoc]
        exact after_of_turn begun (reached.snoc answer)

/-- **A listener that has ended** has made the exchanges of `listen`. -/
theorem listen_of_ended {reason : ListenerExit} (after : (ended reason).After config rules log) :
    ∃ fuel, (listen config rules fuel).Runs log (some reason) := by
  obtain ⟨first, part, failures, rfl, begun, runs⟩ := after
  obtain ⟨part, rfl, last⟩ := round_of_last_turn runs
  have one : (rounds config rules 1 failures).Runs part (some reason) := by
    rw [rounds, runs_bind]
    exact ⟨_, part, [], (List.append_nil _).symm, last, rfl, rfl⟩
  rw [← List.append_assoc]
  exact begun.listen one

/-- A listener that did not give up was told to end. -/
theorem tellsEnd_of_ended (after : (ended .cancelled).After config rules log) :
    ∃ e ∈ log, TellsEnd e := by
  obtain ⟨first, part, failures, rfl, -, runs⟩ := after
  obtain ⟨part, rfl, last⟩ := round_of_last_turn runs
  obtain ⟨e, here, tells⟩ := tellsEnd_of_round last
  exact ⟨e, List.mem_append_right _ (List.mem_append_left _ here), tells⟩

end Status

end WebCapture.Service.Listener
