import WebCapture.Proofs.Results.Processing

set_option autoImplicit false

/-! # Results that are processed again

A result whose processing failed midway is put aside and processed again later. Each attempt may
stop at another call, and the next one finds the seed in whatever state it was left in. That they
all lead to the same end is `replay_converges`: what a result makes of the seed (`settle`) is not
changed by an attempt that fails, so that the first one in which nothing fails brings the seed to
where a single one would have brought it.

A call that fails may have taken effect nevertheless, if only its answer was lost. The attempt
that comes next cannot tell, and need not: a state that was written already is found as a state in
which the seed has ended, and only the archive details are left to be written.
-/

namespace WebCapture.Concurrency

open Program
open Service (Call Rules processResult settle settle_of_none settle_of_verdict verdict?)

variable {rules : Rules} {result : Capture.Result} {seed : Seed} {s t u : Shared} {faulty : Prop}

/-- One attempt to process a result, while nobody else touches its seed. Its calls fail, with or
without effect, only if the attempt is a faulty one. -/
def Attempt (rules : Rules) (result : Capture.Result) (faulty : Prop) (s t : Shared) : Prop :=
  ∃ log answer, (processResult rules result).Runs log answer ∧
    Follows (Shared.Serves result.id False faulty) s log t

/-- Any number of attempts, one after the other, that may fail. -/
inductive Attempts (rules : Rules) (result : Capture.Result) (s : Shared) : Shared → Prop where
  | none : Attempts rules result s s
  | more {t u : Shared} (attempts : Attempts rules result s t)
      (attempt : Attempt rules result True t u) : Attempts rules result s u

/-- An attempt leaves the seed on its way, and brings it to its end if nothing could fail. -/
theorem Attempt.nears (attempt : Attempt rules result faulty s t)
    (found : s.seed? result.id = some seed) (consistent : seed.isConsistent = true) :
    ∃ now, t.seed? result.id = some now ∧ now.isConsistent = true ∧
      settle rules result now = settle rules result seed ∧
      (faulty ∨ now = settle rules result seed) := by
  obtain ⟨log, answer, runs, follows⟩ := attempt
  cases h : verdict? rules result with
  | none =>
      obtain ⟨now, found', marked, -⟩ :=
        (processResult_idle h found consistent).follows runs follows
      -- Nobody has marked the seed.
      obtain rfl : now = seed := by
        rcases marked with same | ⟨impossible, -⟩
        · exact same
        · exact impossible.elim
      exact ⟨now, found', consistent, rfl, .inr (settle_of_none h).symm⟩
  | some v =>
      obtain ⟨now, found', consistent', nearing, arrived⟩ :=
        (processResult_nears h found consistent).follows runs follows
      refine ⟨now, found', consistent', ?_, ?_⟩
      · rw [settle_of_verdict h, settle_of_verdict h, nearing]
      · rw [settle_of_verdict h]
        exact arrived.imp_right And.right

/-- Any number of attempts leave the seed on its way. -/
theorem Attempts.near (attempts : Attempts rules result s t)
    (found : s.seed? result.id = some seed) (consistent : seed.isConsistent = true) :
    ∃ now, t.seed? result.id = some now ∧ now.isConsistent = true ∧
      settle rules result now = settle rules result seed := by
  induction attempts with
  | none => exact ⟨seed, found, consistent, rfl⟩
  | more attempts attempt ih =>
      obtain ⟨before, found', consistent', nearing⟩ := ih
      obtain ⟨now, found'', consistent'', nearing', -⟩ := attempt.nears found' consistent'
      exact ⟨now, found'', consistent'', nearing'.trans nearing⟩

/-- To process a result with the answers of a handler is an attempt. -/
theorem attempt_of_handler (rules : Rules) (result : Capture.Result)
    {handle : (call : Call) → Shared → call.Answer × Shared}
    (allowed : ∀ (call : Call) (s : Shared),
      s.Tries faulty ⟨call, (handle call s).1⟩ (handle call s).2) (s : Shared) :
    Attempt rules result faulty s ((processResult rules result).runState handle s).2 := by
  obtain ⟨log, runs, follows⟩ := exists_log (R := Shared.Serves result.id False faulty) handle
    (fun call s => ⟨s, .refl s, allowed call s⟩) (processResult rules result) s
  exact ⟨log, _, runs, follows⟩

/-- A result that is processed while the store does not fail is an attempt in which nothing
fails. -/
theorem attempt_serve (rules : Rules) (result : Capture.Result) (seedId groupId : ShadowId)
    (s : Shared) :
    Attempt rules result False s
      ((processResult rules result).runState (Shared.serve seedId groupId) s).2 :=
  attempt_of_handler rules result (fun call s => .inl (s.answers_serve seedId groupId call)) s

/-- **A result that failed midway can be processed again.** After any number of attempts, each of
which may fail at any of its calls, whether or not the failing calls took effect, an attempt in
which no call fails leaves the seed as a single such attempt would have left it. -/
theorem replay_converges (rules : Rules) (result : Capture.Result) {s t u : Shared} {seed : Seed}
    (found : s.seed? result.id = some seed) (consistent : seed.isConsistent = true)
    (attempts : Attempts rules result s t) (last : Attempt rules result False t u)
    (seedId groupId : ShadowId) :
    ∃ final, u.seed? result.id = some final ∧
      ((processResult rules result).runState (Shared.serve seedId groupId) s).2.seed? result.id =
        some final := by
  obtain ⟨before, found', consistent', nearing⟩ := attempts.near found consistent
  obtain ⟨final, found'', -, -, arrived⟩ := last.nears found' consistent'
  obtain ⟨single, foundSingle, -, -, arrivedSingle⟩ :=
    (attempt_serve rules result seedId groupId s).nears found consistent
  have same : final = single := by
    rcases arrived with impossible | arrived
    · exact impossible.elim
    · rcases arrivedSingle with impossible | arrivedSingle
      · exact impossible.elim
      · rw [arrived, nearing, arrivedSingle]
  exact ⟨final, found'', same ▸ foundSingle⟩

/-! ## A store that is partly out of order -/

/-- The answers of a store that does not do one kind of call, and fails with an error there. -/
def Shared.serveBut (broken : Store.Operation) (error : Store.Error) (call : Call) (s : Shared) :
    call.Answer × Shared :=
  match call with
  | .store c => if c.operation = broken then (c.failure error, s) else s.serve "" "" (.store c)
  | c => s.serve "" "" c

theorem Shared.tries_serveBut (broken : Store.Operation) (error : Store.Error) (call : Call)
    (s : Shared) :
    s.Tries True ⟨call, (s.serveBut broken error call).1⟩ (s.serveBut broken error call).2 := by
  cases call with
  | store c =>
      rw [Shared.serveBut]
      split
      · exact .inr ⟨trivial, ⟨error, rfl⟩, .inl rfl⟩
      · exact .inl ⟨rfl, rfl⟩
  | queue c => exact .inl ⟨rfl, rfl⟩
  | _ => exact .inl rfl

/-- A seed whose archive details could not be written at first, but only when the result came
again. -/
theorem replay_converges_lost_archive :
    ∃ (rules : Rules) (result : Capture.Result) (s t u : Shared),
      s.seed? result.id = some ⟨"http://a.test/", true, .pending, none, "A"⟩ ∧
      Attempt rules result True s t ∧
      t.seed? result.id = some ⟨"http://a.test/", true, .doneSuccess, none, "A"⟩ ∧
      Attempt rules result False t u ∧
      u.seed? result.id = some ⟨"http://a.test/", true, .doneSuccess,
        some ⟨"https://archive.test/20240101120000/http://a.test/", ⟨19723, 43200, 0⟩⟩, "A"⟩ ∧
      ((processResult rules result).runState (Shared.serve "B" "G") s).2.seed? result.id =
        u.seed? result.id := by
  let rules : Rules := ⟨100, 10, false, "https://archive.test/"⟩
  let result : Capture.Result := ⟨"A", true, [], some ⟨"20240101120000", "http://a.test/"⟩⟩
  let s : Shared := ⟨⟨[("A", ⟨"http://a.test/", true, .pending, none, "A"⟩)], []⟩, .empty⟩
  have first := attempt_of_handler rules result
    (Shared.tries_serveBut .updateArchive (.backend "read only")) s
  have last := attempt_serve rules result "B" "G"
    ((processResult rules result).runState
      (Shared.serveBut .updateArchive (.backend "read only")) s).2
  obtain ⟨final, found, single⟩ := @replay_converges rules result s _ _
    ⟨"http://a.test/", true, .pending, none, "A"⟩ rfl rfl (.more .none first) last "B" "G"
  refine ⟨rules, result, s, _, _, rfl, first, ?_, last, ?_, single.trans found.symm⟩
  · decide +kernel
  · decide +kernel

end WebCapture.Concurrency
