import WebCapture.Service.Capture

set_option autoImplicit false

/-! # The verdict of a result

A result of a capture that has come to its end brings a `Verdict` on its seed, unless its stamp
cannot be read. `Verdict.settle` tells in one step what a verdict makes of a seed: it moves a seed
that has not ended to its last state, and gives a success its archive details where they are
missing. What `processResult` does with a seed that it has read is `respond`; the lemmas on it
tell which of four things that is, by the verdict and the seed alone.

All that follows about results is told in terms of `Verdict.settle`. It can be repeated without
harm (`Verdict.settle_settle`), and it may come after a mark or after half of its own work
(`Verdict.settle_marked`, `Verdict.settle_moved`): these three lemmas are why results may come
twice, early, or after an attempt that failed.
-/

namespace WebCapture.Service

/-! ## Verdicts -/

/-- What the result of a capture that has come to its end means for its seed. -/
inductive Verdict where
  /-- The capture has succeeded; without a record there are no archive details. -/
  | success (archive : Option Seed.Archive)
  | failure
  deriving DecidableEq, Repr

namespace Verdict

def state : Verdict → Seed.State
  | success _ => .doneSuccess
  | failure => .doneFailure

def archive : Verdict → Option Seed.Archive
  | success archive => archive
  | failure => none

/-- What the verdict makes of a seed. A seed that has ended keeps its state, and a success keeps
the archive details that it has. -/
def settle (v : Verdict) (seed : Seed) : Seed :=
  match seed.state with
  | .notEnqueued | .pending => { seed with state := v.state, archive := v.archive }
  | .doneSuccess => { seed with archive := seed.archive.or v.archive }
  | .doneFailure => seed

variable (v : Verdict) {seed : Seed}

theorem leadsTo_state : Seed.State.pending.leadsTo v.state = true := by
  cases v <;> rfl

theorem state_isTerminal : v.state.isTerminal = true := by
  cases v <;> rfl

theorem settle_waiting (waiting : seed.state = .notEnqueued ∨ seed.state = .pending) :
    v.settle seed = { seed with state := v.state, archive := v.archive } := by
  rcases waiting with h | h <;> simp only [settle, h]

theorem settle_succeeded (success : seed.state = .doneSuccess) :
    v.settle seed = { seed with archive := seed.archive.or v.archive } := by
  simp only [settle, success]

theorem settle_failed (failed : seed.state = .doneFailure) : v.settle seed = seed := by
  simp only [settle, failed]

/-- A settled seed has ended. -/
theorem settle_isTerminal (seed : Seed) : (v.settle seed).state.isTerminal = true := by
  cases h : seed.state with
  | notEnqueued =>
      rw [v.settle_waiting (.inl h)]
      exact v.state_isTerminal
  | pending =>
      rw [v.settle_waiting (.inr h)]
      exact v.state_isTerminal
  | doneSuccess =>
      rw [v.settle_succeeded h]
      simp [h, Seed.State.isTerminal]
  | doneFailure =>
      rw [v.settle_failed h]
      simp [h, Seed.State.isTerminal]

/-- Only missing archive details leave a success unsettled. -/
theorem bare_of_unsettled (success : seed.state = .doneSuccess) (unsettled : v.settle seed ≠ seed) :
    ∃ archive, seed.archive = none ∧ v.archive = some archive := by
  rw [v.settle_succeeded success] at unsettled
  cases bare : seed.archive with
  | some archive =>
      refine absurd ?_ unsettled
      rw [bare, Option.some_or, ← bare]
  | none =>
      cases known : v.archive with
      | some archive => exact ⟨archive, rfl, rfl⟩
      | none =>
          refine absurd ?_ unsettled
          rw [bare, known, Option.or_none, ← bare]

/-- A settled seed has archive details only as a success. -/
theorem settle_isConsistent (consistent : seed.isConsistent = true) :
    (v.settle seed).isConsistent = true := by
  cases h : seed.state with
  | notEnqueued =>
      rw [v.settle_waiting (.inl h)]
      cases v <;> simp [Seed.isConsistent, state, archive]
  | pending =>
      rw [v.settle_waiting (.inr h)]
      cases v <;> simp [Seed.isConsistent, state, archive]
  | doneSuccess => simp [v.settle_succeeded h, Seed.isConsistent, h]
  | doneFailure => rwa [v.settle_failed h]

/-- A seed is settled once for all. -/
theorem settle_settle : v.settle (v.settle seed) = v.settle seed := by
  cases h : seed.state with
  | notEnqueued =>
      rw [v.settle_waiting (.inl h)]
      cases v <;> simp [settle, state, archive]
  | pending =>
      rw [v.settle_waiting (.inr h)]
      cases v <;> simp [settle, state, archive]
  | doneSuccess =>
      have again : v.settle { seed with archive := seed.archive.or v.archive } =
          { seed with archive := (seed.archive.or v.archive).or v.archive } :=
        v.settle_succeeded h
      rw [v.settle_succeeded h, again]
      cases seed.archive <;> simp
  | doneFailure => rw [v.settle_failed h, v.settle_failed h]

/-- It makes no difference whether a seed was marked as pending before it is settled. -/
theorem settle_marked (waiting : seed.state = .notEnqueued) :
    v.settle { seed with state := .pending } = v.settle seed := by
  rw [v.settle_waiting (.inl waiting), v.settle_waiting (.inr rfl)]

/-- It makes no difference whether a seed was moved to its last state before it is settled. -/
theorem settle_moved (pending : seed.state = .pending) (bare : seed.archive = none) :
    v.settle { seed with state := v.state } = v.settle seed := by
  rw [v.settle_waiting (.inr pending)]
  cases v <;> simp [settle, state, archive, bare]

end Verdict

/-! ## Verdicts of results

A stamp that cannot be read matters only where archive details are to be computed: a failure has a
verdict whatever its stamp is.
-/

/-- The verdict of a result. There is none while the capture goes on, nor if the stamp of a
success is bad. -/
def verdict? (rules : Rules) (result : Capture.Result) : Option Verdict :=
  if result.done = false then none
  else if result.errors ≠ [] then some .failure
  else
    match result.record with
    | none => some (.success none)
    | some record => (archiveOf rules record).toOption.map fun archive => .success (some archive)

/-- What a result makes of its seed, if nothing fails. -/
def settle (rules : Rules) (result : Capture.Result) (seed : Seed) : Seed :=
  match verdict? rules result with
  | none => seed
  | some v => v.settle seed

variable {rules : Rules} {result : Capture.Result} {v : Verdict} {seed : Seed}

/-- A result has a verdict exactly if it asks for a last state and its archive details can be
computed. -/
theorem verdict?_eq_some :
    verdict? rules result = some v ↔
      result.target? = some v.state ∧ archiveFor rules result v.state = .ok v.archive := by
  unfold verdict? Capture.Result.target?
  by_cases hd : result.done = false
  · simp [hd]
  by_cases he : result.errors = []
  · simp only [hd, he, if_false, ne_eq, not_true_eq_false, if_true]
    cases hr : result.record with
    | none => cases v <;> simp [Verdict.state, Verdict.archive, archiveFor, hr, eq_comm]
    | some record =>
        cases ha : archiveOf rules record with
        | error e =>
            cases v <;> simp [Verdict.state, Verdict.archive, archiveFor, hr, ha, Except.map,
              Except.toOption]
        | ok archive =>
            cases v <;> simp [Verdict.state, Verdict.archive, archiveFor, hr, ha, Except.map,
              Except.toOption]
  · cases v <;> simp [hd, he, Verdict.state, Verdict.archive, archiveFor]

/-- The archive details of a verdict name an address. -/
theorem verdict_archive_named (h : verdict? rules result = some v) {archive : Seed.Archive}
    (found : v.archive = some archive) : archive.url ≠ "" := by
  obtain ⟨-, computed⟩ := verdict?_eq_some.mp h
  rw [found] at computed
  unfold archiveFor at computed
  split at computed
  · rename_i record target
    unfold archiveOf Seed.CaptureRecord.archive at computed
    dsimp only at computed
    split at computed
    · cases computed
    · split at computed
      · cases computed
        -- At least the slash behind the stamp is there.
        simp
      · cases computed
  · cases computed

theorem settle_of_verdict (h : verdict? rules result = some v) :
    settle rules result seed = v.settle seed := by
  rw [settle, h]

theorem settle_of_none (h : verdict? rules result = none) : settle rules result seed = seed := by
  rw [settle, h]

theorem settle_isConsistent (consistent : seed.isConsistent = true) :
    (settle rules result seed).isConsistent = true := by
  cases h : verdict? rules result with
  | none => rwa [settle_of_none h]
  | some v =>
      rw [settle_of_verdict h]
      exact v.settle_isConsistent consistent

/-! ## Records -/

/-- Archive details can be computed exactly if the stamp can be read. -/
theorem archiveOf_isOk (rules : Rules) (record : Seed.CaptureRecord) :
    (archiveOf rules record).isOk = (Seed.readStamp record.stamp).isOk := by
  unfold archiveOf Seed.CaptureRecord.archive
  dsimp only
  split
  · -- The stamp is not read if its length is wrong; it could not be read.
    unfold Seed.readStamp
    dsimp only
    split <;> rfl
  · cases Seed.readStamp record.stamp <;> rfl

/-- If archive details cannot be computed, there is something wrong with the stamp. -/
theorem archiveOf_eq_error {record : Seed.CaptureRecord} {error : SeedError}
    (h : archiveOf rules record = .error error) :
    (∃ bad, error = .record bad) ∧ (Seed.readStamp record.stamp).isOk = false := by
  constructor
  · unfold archiveOf at h
    cases ha : record.archive rules.archiveBase with
    | ok archive =>
        rw [ha] at h
        cases h
    | error bad =>
        rw [ha] at h
        exact ⟨bad, (Except.error.inj h).symm⟩
  · rw [← archiveOf_isOk rules, h]
    rfl

/-! ## What is done with a seed that was read

The four cases are a seed that waits, one that is settled, a success without archive details, and
a result without a verdict. Each has a lemma on `respond`.
-/

/-- What is left to do with a result once its seed was read. -/
def respond (rules : Rules) (result : Capture.Result) (seed : Seed) :
    Work (Except SeedError Outcome) :=
  match result.decision seed.state seed.archive.isSome with
  | .advance target reconciling => advance rules result target reconciling
  | .unfinished => return .ok .unfinished
  | .alreadyFinished _ => return .ok .duplicate
  | .recordArchive => recordMissingArchive rules result

theorem processResult_eq (rules : Rules) (result : Capture.Result) :
    processResult rules result = getSeed result.id >>= fun read =>
      match read with
      | .error e => return .error e
      | .ok seed => respond rules result seed := rfl

/-- A seed that has not ended is moved to the last state that the verdict asks for. -/
theorem respond_waiting (h : verdict? rules result = some v)
    (waiting : seed.state = .notEnqueued ∨ seed.state = .pending) :
    respond rules result seed =
      advance rules result v.state (decide (seed.state = .notEnqueued)) := by
  obtain ⟨asks, -⟩ := verdict?_eq_some.mp h
  rcases waiting with w | w <;> simp [respond, Capture.Result.decision, asks, w]

/-- A seed that is settled is left alone. -/
theorem respond_settled (h : verdict? rules result = some v)
    (ended : seed.state.isTerminal = true) (settled : v.settle seed = seed) :
    respond rules result seed = return .ok .duplicate := by
  obtain ⟨asks, computed⟩ := verdict?_eq_some.mp h
  cases hs : seed.state with
  | notEnqueued => simp [hs, Seed.State.isTerminal] at ended
  | pending => simp [hs, Seed.State.isTerminal] at ended
  | doneFailure => simp [respond, Capture.Result.decision, asks, hs]
  | doneSuccess =>
      -- Either the archive details are there, or the verdict has none.
      cases ha : seed.archive with
      | some archive => simp [respond, Capture.Result.decision, asks, hs, ha]
      | none =>
          have bare : v.archive = none := by
            rw [v.settle_succeeded hs, ha, Option.none_or] at settled
            rw [← ha]
            exact congrArg Seed.archive settled
          cases v with
          | failure => simp [respond, Capture.Result.decision, asks, hs, ha, Verdict.state]
          | success archive =>
              have unrecorded : result.record = none := by
                cases hr : result.record with
                | none => rfl
                | some record =>
                    rw [bare] at computed
                    simp only [archiveFor, hr, Verdict.state] at computed
                    cases hx : archiveOf rules record <;> rw [hx] at computed <;> cases computed
              simp [respond, Capture.Result.decision, asks, hs, ha, unrecorded]

/-- A success without archive details gets those of the verdict. -/
theorem respond_bare (h : verdict? rules result = some v) {archive : Seed.Archive}
    (success : seed.state = .doneSuccess) (bare : seed.archive = none)
    (found : v.archive = some archive) :
    respond rules result seed = updateArchive result.id archive >>= fun written =>
      match written with
      | .error e => return .error e
      | .ok () => return .ok .archiveRecorded := by
  obtain ⟨asks, computed⟩ := verdict?_eq_some.mp h
  cases v with
  | failure => cases found
  | success details =>
      obtain rfl : details = some archive := found
      cases hr : result.record with
      | none => simp [archiveFor, hr, Verdict.archive, Verdict.state] at computed
      | some record =>
          have known : archiveOf rules record = .ok archive := by
            simp only [archiveFor, hr, Verdict.archive, Verdict.state] at computed
            cases hx : archiveOf rules record with
            | error e =>
                rw [hx] at computed
                cases computed
            | ok found =>
                rw [hx] at computed
                cases computed
                rfl
          have recording : respond rules result seed = recordMissingArchive rules result := by
            simp [respond, Capture.Result.decision, asks, success, bare, hr, Verdict.state]
          unfold recordMissingArchive at recording
          simp only [hr, known] at recording
          exact recording

/-- Nothing is done with a seed that has archive details. -/
theorem respond_archived (rules : Rules) (result : Capture.Result)
    (success : seed.state = .doneSuccess) (archived : seed.archive ≠ none) :
    ∃ outcome, respond rules result seed = return .ok outcome := by
  have there : seed.archive.isSome = true := Option.isSome_iff_ne_none.mpr archived
  unfold respond Capture.Result.decision
  rw [success, there]
  cases result.target? with
  | none => exact ⟨.unfinished, rfl⟩
  | some target => exact ⟨.duplicate, rfl⟩

/-- The record of a result is needed for a seed: the result tells of a success, and the seed has
neither failed nor got archive details. -/
structure NeedsRecord (result : Capture.Result) (seed : Seed) : Prop where
  done : result.done = true
  errors : result.errors = []
  state : seed.state ≠ .doneFailure
  archive : seed.archive = none

/-- Without a verdict nothing is done. The result is refused if its record is needed, since then
the stamp is bad; otherwise the capture goes on or the seed has ended. -/
theorem respond_of_none (h : verdict? rules result = none) (consistent : seed.isConsistent = true) :
    (∃ outcome, respond rules result seed = return .ok outcome) ∧
        (result.done = true → seed.state.isTerminal = true) ∨
      NeedsRecord result seed ∧ ∃ record bad, result.record = some record ∧
        (Seed.readStamp record.stamp).isOk = false ∧
        respond rules result seed = return .error (.record bad) := by
  by_cases hd : result.done = false
  · left
    refine ⟨⟨.unfinished, ?_⟩, by simp [hd]⟩
    simp [respond, Capture.Result.decision, Capture.Result.target?, hd]
  have he : result.errors = [] := by
    by_cases he : result.errors = []
    · exact he
    · simp [verdict?, hd, he] at h
  have asks : result.target? = some .doneSuccess := by simp [Capture.Result.target?, hd, he]
  obtain ⟨record, error, hr, ha⟩ :
      ∃ record error, result.record = some record ∧ archiveOf rules record = .error error := by
    cases hr : result.record with
    | none => simp [verdict?, hd, he, hr] at h
    | some record =>
        cases ha : archiveOf rules record with
        | ok archive => simp [verdict?, hd, he, hr, ha, Except.toOption] at h
        | error error => exact ⟨record, error, rfl, ha⟩
  have refused : ∀ reconciling,
      advance rules result .doneSuccess reconciling = return .error error := by
    intro reconciling
    simp [advance, archiveFor, hr, ha, Except.map]
  by_cases hx : seed.state ≠ .doneFailure ∧ seed.archive = none
  · right
    obtain ⟨⟨bad, rfl⟩, unreadable⟩ := archiveOf_eq_error ha
    refine ⟨⟨by simpa using hd, he, hx.1, hx.2⟩, record, bad, hr, unreadable, ?_⟩
    cases hs : seed.state with
    | notEnqueued => simp [respond, Capture.Result.decision, asks, hs, refused]
    | pending => simp [respond, Capture.Result.decision, asks, hs, refused]
    | doneSuccess =>
        simp [respond, Capture.Result.decision, asks, hs, hx.2, hr, recordMissingArchive, ha]
    | doneFailure => exact absurd hs hx.1
  · left
    cases hs : seed.state with
    | doneFailure =>
        exact ⟨⟨.duplicate, by simp [respond, Capture.Result.decision, asks, hs]⟩, fun _ => rfl⟩
    | doneSuccess =>
        have archived : seed.archive ≠ none := fun bare => hx ⟨by simp [hs], bare⟩
        exact ⟨respond_archived rules result hs archived, fun _ => rfl⟩
    | _ =>
        -- A seed that has not ended has no archive details.
        simp [Seed.isConsistent, hs] at consistent
        simp [hs, consistent] at hx

end WebCapture.Service
