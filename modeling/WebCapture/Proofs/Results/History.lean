import WebCapture.Proofs.Results.Replay
import WebCapture.Proofs.Service.Keeping

set_option autoImplicit false

/-! # Histories of results

Results come in any order, more than once, and contradict each other. When they are processed one
after the other, each does to its seed what its verdict says (`processResult_settles`), and so the
first result that has a verdict decides how the seed ends: `first_effective_wins`. Only archive
details may come later, with the first result that brings any. Results for different seeds do not
meddle with each other (`Shared.settle_comm`), so that their order makes no difference.

The proof goes from work to functions as early as it can. `processResult` is a program with calls
and answers; what it leaves behind is `Shared.settle`, a function of the store, and a history of
results is a fold of it. What such a fold does to a single seed is again a fold, over the
effective results for that seed alone (`seed?_foldl_settle`), and the statement about the first of
them is proved there, where there is neither a store nor a program (`settleAll_decided`).
-/

namespace WebCapture

namespace Capture

/-- The capture has come to its end, and there is nothing wrong with the stamp of a success. -/
def Result.isEffective (result : Result) : Bool :=
  result.done &&
    (!result.errors.isEmpty || result.record.all fun record => (Seed.readStamp record.stamp).isOk)

def Result.isRecorded (result : Result) : Bool := result.errors.isEmpty && result.record.isSome

def effective (id : ShadowId) (results : List Result) : List Result :=
  results.filter fun result => result.id = id && result.isEffective

end Capture

namespace Service

open Capture (Result)

variable {rules : Rules} {result : Result} {v : Verdict} {seed : Seed}

/-! ## Effective results

A result has no verdict while its capture goes on, and none if it tells of a success under a stamp
that cannot be read. Such a result does not count among those that may be first.
-/

/-- A result has a verdict exactly if it is effective. -/
theorem verdict?_isSome (rules : Rules) (result : Result) :
    (verdict? rules result).isSome = result.isEffective := by
  unfold verdict? Capture.Result.isEffective
  by_cases hd : result.done = false
  · simp [hd]
  · rw [if_neg hd]
    by_cases he : result.errors = []
    · cases hr : result.record with
      | none => simp [hd, he]
      | some record =>
          have same := archiveOf_isOk rules record
          have computed :
              (archiveOf rules record).toOption.isSome = (archiveOf rules record).isOk := by
            cases archiveOf rules record <;> rfl
          simp [hd, he, computed, same]
    · simp [hd, he]

/-- An effective result ends its seed as its errors say. -/
theorem verdict_state (h : verdict? rules result = some v) :
    v.state = if result.errors = [] then .doneSuccess else .doneFailure := by
  obtain ⟨asks, -⟩ := verdict?_eq_some.mp h
  unfold Capture.Result.target? at asks
  split at asks
  · cases asks
  · split at asks
    · rename_i clean
      rw [if_pos clean]
      exact (Option.some.inj asks).symm
    · rename_i faulty
      rw [if_neg faulty]
      exact (Option.some.inj asks).symm

def archive? (rules : Rules) (result : Result) : Option Seed.Archive :=
  (verdict? rules result).bind Verdict.archive

/-- An effective result with a record of a success brings the archive details of the record. -/
theorem archive?_of_recorded (rules : Rules) (effective : result.isEffective = true)
    (recorded : result.isRecorded = true) :
    ∃ record archive, result.record = some record ∧
      record.archive rules.archiveBase = .ok archive ∧ archive? rules result = some archive := by
  rw [← verdict?_isSome rules, Option.isSome_iff_exists] at effective
  obtain ⟨v, h⟩ := effective
  rw [Capture.Result.isRecorded, Bool.and_eq_true, List.isEmpty_iff] at recorded
  obtain ⟨clean, kept⟩ := recorded
  obtain ⟨record, hr⟩ := Option.isSome_iff_exists.mp kept
  have success : v.state = .doneSuccess := by rw [verdict_state h, if_pos clean]
  obtain ⟨-, computed⟩ := verdict?_eq_some.mp h
  simp only [archiveFor, hr, success, archiveOf] at computed
  cases ha : record.archive rules.archiveBase with
  | error e =>
      rw [ha] at computed
      cases computed
  | ok archive =>
      rw [ha] at computed
      refine ⟨record, archive, hr, ha, ?_⟩
      rw [archive?, h]
      exact (Except.ok.inj computed).symm

/-- Other results bring no archive details. -/
theorem archive?_of_unrecorded (unrecorded : result.isRecorded = false) :
    archive? rules result = none := by
  cases h : verdict? rules result with
  | none => rw [archive?, h, Option.bind_none]
  | some v =>
      rw [archive?, h, Option.bind_some]
      obtain ⟨-, computed⟩ := verdict?_eq_some.mp h
      have state := verdict_state h
      unfold archiveFor at computed
      split at computed
      · rename_i record hr success
        rw [success] at state
        split at state
        · rename_i clean
          simp [Capture.Result.isRecorded, clean, hr] at unrecorded
        · cases state
      · exact (Except.ok.inj computed).symm

/-- The first archive details that effective results bring are those of the first record of a
success among them. -/
theorem findSome?_archive? (rules : Rules) {history : List Result}
    (effective : ∀ result ∈ history, result.isEffective = true) :
    match history.find? Capture.Result.isRecorded with
    | none => history.findSome? (archive? rules) = none
    | some first => ∃ record archive, first.record = some record ∧
        record.archive rules.archiveBase = .ok archive ∧
        history.findSome? (archive? rules) = some archive := by
  induction history with
  | nil => rfl
  | cons result more ih =>
      rw [List.forall_mem_cons] at effective
      cases recorded : result.isRecorded with
      | true =>
          obtain ⟨record, archive, hr, ha, brought⟩ :=
            archive?_of_recorded rules effective.1 recorded
          rw [List.find?_cons_of_pos recorded, List.findSome?_cons, brought]
          exact ⟨record, archive, hr, ha, rfl⟩
      | false =>
          rw [List.find?_cons_of_neg (by simp [recorded]), List.findSome?_cons,
            archive?_of_unrecorded recorded]
          exact ih effective.2

/-! ## What a history makes of a seed

The first effective result moves the seed to its last state. If that is a failure nothing comes
after it; if it is a success there may still be archive details to come.
-/

def settleAll (rules : Rules) (history : List Result) (seed : Seed) : Seed :=
  history.foldl (fun seed result => settle rules result seed) seed

/-- Results that are not effective make nothing of a seed. -/
theorem settle_of_ineffective (ineffective : result.isEffective = false) :
    settle rules result seed = seed := by
  refine settle_of_none (Option.isNone_iff_eq_none.mp ?_)
  rw [← Option.not_isSome, verdict?_isSome, ineffective]
  rfl

theorem settle_succeeded (success : seed.state = .doneSuccess) :
    settle rules result seed =
      { seed with archive := seed.archive.or (archive? rules result) } := by
  cases h : verdict? rules result with
  | none => rw [settle_of_none h, archive?, h, Option.bind_none, Option.or_none]
  | some v => rw [settle_of_verdict h, archive?, h, Option.bind_some, v.settle_succeeded success]

/-- A success gets the first archive details that come, if it has none. -/
theorem settleAll_succeeded (history : List Result) (success : seed.state = .doneSuccess) :
    settleAll rules history seed =
      { seed with archive := seed.archive.or (history.findSome? (archive? rules)) } := by
  induction history generalizing seed with
  | nil =>
      rw [List.findSome?_nil, Option.or_none]
      rfl
  | cons result more ih =>
      show settleAll rules more (settle rules result seed) = _
      have later := @ih { seed with archive := seed.archive.or (archive? rules result) } success
      rw [settle_succeeded success, later, Option.or_assoc]
      cases h : archive? rules result <;> simp [h]

/-- A failure stays as it is. -/
theorem settleAll_failed (history : List Result) (failed : seed.state = .doneFailure) :
    settleAll rules history seed = seed := by
  induction history with
  | nil => rfl
  | cons result more ih =>
      show settleAll rules more (settle rules result seed) = seed
      have stays : settle rules result seed = seed := by
        cases h : verdict? rules result with
        | none => exact settle_of_none h
        | some v => rw [settle_of_verdict h, v.settle_failed failed]
      rw [stays, ih]

/-- What a seed without archive details has become after effective results. The first of them
decides about its state, and the archive details of a success are those of the first record. -/
structure Decided (rules : Rules) (history : List Result) (seed final : Seed) : Prop where
  url : final.url = seed.url
  isPublic : final.isPublic = seed.isPublic
  id : final.id = seed.id
  state : final.state =
    match history with
    | [] => seed.state
    | first :: _ => if first.errors = [] then .doneSuccess else .doneFailure
  bare : final.state ≠ .doneSuccess → final.archive = none
  archived : final.state = .doneSuccess →
    match history.find? Capture.Result.isRecorded with
    | none => final.archive = none
    | some first => ∃ record archive, first.record = some record ∧
        record.archive rules.archiveBase = .ok archive ∧ final.archive = some archive

/-- A seed that has not ended is decided by the effective results for it. -/
theorem settleAll_decided {history : List Result}
    (effective : ∀ result ∈ history, result.isEffective = true)
    (waiting : seed.state = .notEnqueued ∨ seed.state = .pending) (bare : seed.archive = none) :
    Decided rules history seed (settleAll rules history seed) := by
  have records := findSome?_archive? rules effective
  cases history with
  | nil =>
      refine ⟨rfl, rfl, rfl, rfl, fun _ => bare, fun success => ?_⟩
      rw [settleAll, List.foldl_nil] at success
      rcases waiting with h | h <;> rw [h] at success <;> cases success
  | cons first more =>
      have decisive := effective first List.mem_cons_self
      rw [← verdict?_isSome rules, Option.isSome_iff_exists] at decisive
      obtain ⟨v, h⟩ := decisive
      have state := verdict_state h
      -- The first result has a verdict, and from then on only archive details are missing.
      have begun : settleAll rules (first :: more) seed =
          settleAll rules more { seed with state := v.state, archive := v.archive } := by
        show settleAll rules more (settle rules first seed) = _
        rw [settle_of_verdict h, v.settle_waiting waiting]
      cases v with
      | failure =>
          rw [settleAll_failed more rfl] at begun
          rw [begun]
          exact ⟨rfl, rfl, rfl, state, fun _ => rfl, fun success => by cases success⟩
      | success archive =>
          have brought : archive? rules first = archive := by rw [archive?, h]; rfl
          -- What the first result brings goes before all that comes later.
          have all : archive.or (more.findSome? (archive? rules)) =
              (first :: more).findSome? (archive? rules) := by
            rw [List.findSome?_cons, brought]
            cases archive <;> rfl
          have ended : settleAll rules (first :: more) seed =
              { seed with
                state := .doneSuccess
                archive := (first :: more).findSome? (archive? rules) } := by
            rw [begun, settleAll_succeeded more rfl, ← all]
            rfl
          rw [ended]
          exact ⟨rfl, rfl, rfl, state, fun failed => absurd rfl failed, fun _ => records⟩

end Service

namespace Concurrency

open Capture (Result effective)
open Program
open Service (Call Decided IsWorkOn Rules Work processResult settleAll settleAll_decided
  settle_isConsistent settle_of_ineffective)

variable {rules : Rules} {result : Result} {s t u : Shared} {id : ShadowId} {seed : Seed}

/-! ## One result after the other

Here nobody else is at work and the store does not fail, so that processing a result is one
function of what is stored.
-/

def processAll (rules : Rules) (seedId groupId : ShadowId) (s : Shared) (results : List Result) :
    Shared :=
  results.foldl
    (fun s result => ((processResult rules result).runState (Shared.serve seedId groupId) s).2) s

/-- What the callers share after a result has made of its seed what it does. -/
def Shared.settle (rules : Rules) (s : Shared) (result : Result) : Shared :=
  match s.seed? result.id with
  | none => s
  | some seed => s.putSeed result.id (Service.settle rules result seed)

theorem Shared.settle_of_found (found : s.seed? result.id = some seed) :
    s.settle rules result = s.putSeed result.id (Service.settle rules result seed) := by
  rw [Shared.settle, found]

theorem Shared.settle_of_absent (absent : s.seed? result.id = none) :
    s.settle rules result = s := by
  rw [Shared.settle, absent]

theorem Shared.putSeed_self (found : s.seed? id = some seed) : s.putSeed id seed = s := by
  rw [Shared.putSeed, Table.put_self found]

/-- Nothing but the seed under an id has been replaced. -/
def Shared.Touches (id : ShadowId) (s t : Shared) : Prop :=
  t = s ∨ ∃ before after, s.seed? id = some before ∧ t = s.putSeed id after

theorem Shared.Touches.trans (h₁ : s.Touches id t) (h₂ : t.Touches id u) : s.Touches id u := by
  rcases h₁ with rfl | ⟨before, now, found, rfl⟩
  · exact h₂
  · rcases h₂ with rfl | ⟨-, after, -, rfl⟩
    · exact .inr ⟨before, now, found, rfl⟩
    · refine .inr ⟨before, after, found, ?_⟩
      simp only [Shared.putSeed, Table.put_put]

/-- Work on one seed replaces nothing else. -/
theorem serve_touches {call : Call} (workOn : IsWorkOn id call) (seedId groupId : ShadowId)
    (s : Shared) : s.Touches id (s.serve seedId groupId call).2 := by
  cases call with
  | store c =>
      cases c with
      | getSeed key => exact .inl rfl
      | compareAndSet key expected next =>
          obtain ⟨rfl, -⟩ := workOn
          refine (Store.Tables.compareAndSet_atomic key expected next).induction
            (P := fun after => s.Touches key { s with tables := after }) (.inl rfl) fun after h => ?_
          obtain ⟨seed, found, -, -, rfl⟩ := Store.Tables.compareAndSet_eq_ok.mp h
          exact .inr ⟨seed, _, found, rfl⟩
      | updateArchive key archive =>
          obtain rfl : key = id := workOn
          refine (Store.Tables.updateArchive_atomic key archive).induction
            (P := fun after => s.Touches key { s with tables := after }) (.inl rfl) fun after h => ?_
          obtain ⟨-, seed, found, -, rfl⟩ := Store.Tables.updateArchive_eq_ok.mp h
          exact .inr ⟨seed, _, found, rfl⟩
      | _ => exact workOn.elim
  | count event => exact .inl rfl
  | _ => exact workOn.elim

theorem runState_touches {α : Type} {work : Work α} (workOn : work.Only (IsWorkOn id))
    (seedId groupId : ShadowId) (s : Shared) :
    s.Touches id (work.runState (Shared.serve seedId groupId) s).2 := by
  induction work generalizing s with
  | done x => exact .inl rfl
  | call c next ih =>
      have first := serve_touches workOn.1 seedId groupId s
      exact first.trans (ih _ (workOn.2 _) _)

/-- **A result that is processed makes of its seed what its verdict says**, and does nothing
else. -/
theorem processResult_settles (rules : Rules) (result : Result) (seedId groupId : ShadowId)
    (consistent : ∀ seed, s.seed? result.id = some seed → seed.isConsistent = true) :
    ((processResult rules result).runState (Shared.serve seedId groupId) s).2 =
      s.settle rules result := by
  have touched := runState_touches (Service.processResult_workOn rules result) seedId groupId s
  cases found : s.seed? result.id with
  | none =>
      rw [Shared.settle_of_absent found]
      rcases touched with same | ⟨before, -, found', -⟩
      · exact same
      · rw [found] at found'
        cases found'
  | some seed =>
      rw [Shared.settle_of_found found]
      obtain ⟨now, foundNow, -, -, impossible | arrived⟩ :=
        (attempt_serve rules result seedId groupId s).nears found (consistent seed found)
      · exact impossible.elim
      rcases touched with same | ⟨-, after, -, put⟩
      · -- Nothing was replaced, so the seed was settled before.
        rw [same, found] at foundNow
        rw [same, ← arrived, ← Option.some.inj foundNow, Shared.putSeed_self found]
      · rw [put, Shared.seed?_putSeed, if_pos rfl] at foundNow
        rw [put, Option.some.inj foundNow, arrived]

/-- A result that is not effective, or whose seed nobody stored, changes nothing. -/
theorem Shared.settle_of_idle
    (idle : result.isEffective = false ∨ s.seed? result.id = none) : s.settle rules result = s := by
  cases found : s.seed? result.id with
  | none => exact Shared.settle_of_absent found
  | some seed =>
      rcases idle with ineffective | absent
      · rw [Shared.settle_of_found found, settle_of_ineffective ineffective]
        exact Shared.putSeed_self found
      · rw [found] at absent
        cases absent

/-- What a result makes of the seed under any id. -/
theorem Shared.seed?_settle (rules : Rules) (s : Shared) (result : Result) (id : ShadowId) :
    (s.settle rules result).seed? id =
      (s.seed? id).map fun seed =>
        if result.id = id then Service.settle rules result seed else seed := by
  cases found : s.seed? result.id with
  | none =>
      rw [Shared.settle_of_absent found]
      by_cases same : result.id = id
      · rw [← same, found]
        rfl
      · simp [same]
  | some seed =>
      rw [Shared.settle_of_found found, Shared.seed?_putSeed]
      by_cases same : result.id = id
      · subst same
        rw [if_pos rfl, found]
        simp
      · simp [same]

/-! ## All results -/

theorem Shared.IsConsistent.settle (consistent : s.IsConsistent) (rules : Rules) (result : Result) :
    (s.settle rules result).IsConsistent := by
  intro id seed found
  cases h : s.seed? result.id with
  | none =>
      rw [Shared.settle_of_absent h] at found
      exact consistent id seed found
  | some before =>
      rw [Shared.settle_of_found h, Shared.seed?_putSeed] at found
      split at found
      · cases found
        exact settle_isConsistent (consistent _ before h)
      · exact consistent id seed found

/-- To process results one after the other is to let each make of its seed what it does. -/
theorem processAll_eq (rules : Rules) (seedId groupId : ShadowId) (consistent : s.IsConsistent)
    (results : List Result) :
    processAll rules seedId groupId s results = results.foldl (Shared.settle rules) s := by
  induction results generalizing s with
  | nil => rfl
  | cons result more ih =>
      have first := processResult_settles rules result seedId groupId (consistent result.id)
      have later := ih (consistent.settle rules result)
      rw [← first] at later
      rw [List.foldl_cons, ← first]
      exact later

/-- Results for other seeds, and those that are not effective, make nothing of a seed. -/
theorem settleAll_effective_cons (rules : Rules) (id : ShadowId) (result : Result)
    (more : List Result) (seed : Seed) :
    settleAll rules (effective id (result :: more)) seed =
      settleAll rules (effective id more)
        (if result.id = id then Service.settle rules result seed else seed) := by
  by_cases same : result.id = id
  · cases h : result.isEffective with
    | true => simp [effective, settleAll, same, h]
    | false => simp [effective, same, h, settle_of_ineffective h]
  · simp [effective, same]

/-- A seed has become what the effective results for it make of it. -/
theorem seed?_foldl_settle (rules : Rules) (results : List Result) (s : Shared) (id : ShadowId) :
    (results.foldl (Shared.settle rules) s).seed? id =
      (s.seed? id).map (settleAll rules (effective id results)) := by
  induction results generalizing s with
  | nil => cases h : s.seed? id <;> simp [effective, settleAll, h]
  | cons result more ih =>
      rw [List.foldl_cons, ih, Shared.seed?_settle, Option.map_map]
      refine congrArg (Option.map · _) (funext fun seed => ?_)
      exact (settleAll_effective_cons rules id result more seed).symm

/-- Results for different seeds may come in any order. -/
theorem Shared.settle_comm {other : Result} (different : result.id ≠ other.id) (s : Shared) :
    (s.settle rules result).settle rules other = (s.settle rules other).settle rules result := by
  -- Neither result changes what the other one finds.
  have found : (s.settle rules other).seed? result.id = s.seed? result.id := by
    rw [Shared.seed?_settle]
    simp [different.symm]
  have found' : (s.settle rules result).seed? other.id = s.seed? other.id := by
    rw [Shared.seed?_settle]
    simp [different]
  cases h : s.seed? result.id with
  | none => rw [Shared.settle_of_absent h, Shared.settle_of_absent (found.trans h)]
  | some seed =>
      cases h' : s.seed? other.id with
      | none => rw [Shared.settle_of_absent h', Shared.settle_of_absent (found'.trans h')]
      | some seed' =>
          rw [Shared.settle_of_found (found.trans h), Shared.settle_of_found (found'.trans h'),
            Shared.settle_of_found h, Shared.settle_of_found h']
          simp only [Shared.putSeed, Table.put_comm h h' different]

/-- A result may as well come before results for other seeds. -/
theorem foldl_settle_comm {before : List Result} (others : ∀ other ∈ before, other.id ≠ result.id)
    (s : Shared) :
    (before.foldl (Shared.settle rules) s).settle rules result =
      before.foldl (Shared.settle rules) (s.settle rules result) := by
  induction before generalizing s with
  | nil => rfl
  | cons other more ih =>
      rw [List.forall_mem_cons] at others
      rw [List.foldl_cons, List.foldl_cons, ih others.2, Shared.settle_comm others.1]

/-- Two lists with the same results for each seed, in the same order, leave the same store. -/
theorem foldl_settle_congr {results other : List Result}
    (same : ∀ id, (other.filter (·.id = id)) = results.filter (·.id = id)) (s : Shared) :
    other.foldl (Shared.settle rules) s = results.foldl (Shared.settle rules) s := by
  induction results generalizing other s with
  | nil =>
      cases other with
      | nil => rfl
      | cons result more => simpa using same result.id
  | cons result more ih =>
      -- The first result stands in the other list behind results for other seeds only.
      have here := same result.id
      rw [List.filter_cons_of_pos (by simp), List.filter_eq_cons_iff] at here
      obtain ⟨before, after, rfl, others, -, rest⟩ := here
      have apart : ∀ other ∈ before, other.id ≠ result.id := by simpa using others
      rw [List.foldl_append, List.foldl_cons, foldl_settle_comm apart, ← List.foldl_append,
        List.foldl_cons]
      refine ih (fun id => ?_) _
      rw [List.filter_append]
      by_cases h : result.id = id
      · subst h
        rw [rest, List.filter_eq_nil_iff.mpr others, List.nil_append]
      · have whole := same id
        rwa [List.filter_append, List.filter_cons_of_neg (by simpa using h),
          List.filter_cons_of_neg (by simpa using h)] at whole

/-! ## The first effective result wins -/

/-- **The first effective result decides how a seed ends.** Results that are processed one after
the other, while the store does not fail, bring each seed that had not ended to the state that the
first effective result for it asks for. A success has the archive details of the first record that
tells of one; nothing else of a seed is ever changed, and no seed is made. A result that is not
effective, or whose seed nobody stored, leaves everything as it was, and so results that are the
same for each seed leave the same store, in whatever order they come for different seeds. -/
theorem first_effective_wins (rules : Rules) (seedId groupId : ShadowId) {s : Shared}
    (waiting : ∀ id seed, s.seed? id = some seed →
      (seed.state = .notEnqueued ∨ seed.state = .pending) ∧ seed.archive = none)
    (results : List Result) :
    (∀ id seed, s.seed? id = some seed → ∃ final,
      (processAll rules seedId groupId s results).seed? id = some final ∧
        Decided rules (effective id results) seed final) ∧
    (∀ id, s.seed? id = none → (processAll rules seedId groupId s results).seed? id = none) ∧
    (∀ result : Result, result.isEffective = false ∨ s.seed? result.id = none →
      processAll rules seedId groupId s (results ++ [result]) =
        processAll rules seedId groupId s results) ∧
    ∀ other : List Result,
      (∀ id, (other.filter fun result => result.id = id) =
        results.filter fun result => result.id = id) →
      processAll rules seedId groupId s other = processAll rules seedId groupId s results := by
  have consistent : s.IsConsistent := by
    intro id seed found
    simp [Seed.isConsistent, (waiting id seed found).2]
  -- All four parts are about what the whole history makes of one seed.
  have fate := fun id => seed?_foldl_settle rules results s id
  simp only [processAll_eq rules seedId groupId consistent]
  refine ⟨fun id seed found => ?_, fun id absent => ?_, fun result idle => ?_, fun other same => ?_⟩
  · refine ⟨settleAll rules (effective id results) seed, ?_, ?_⟩
    · rw [fate, found, Option.map_some]
    · obtain ⟨waits, bare⟩ := waiting id seed found
      refine settleAll_decided (fun result h => ?_) waits bare
      exact (Bool.and_eq_true_iff.mp (List.mem_filter.mp h).2).2
  · rw [fate, absent, Option.map_none]
  · rw [List.foldl_append, List.foldl_cons, List.foldl_nil]
    refine Shared.settle_of_idle (idle.imp_right fun absent => ?_)
    rw [fate, absent, Option.map_none]
  · exact foldl_settle_congr same s

/-- A failure that comes after a success is dropped, and so is a stamp that cannot be read; the
record that comes last tells where the capture is archived. -/
theorem first_effective_wins_late_record :
    ∃ (s : Shared) (results : List Result) (final : Seed),
      s.seed? "A" = some ⟨"http://a.test/", true, .pending, none, "A"⟩ ∧
      results = [⟨"A", true, [], some ⟨"yesterday", "http://a.test/"⟩⟩, ⟨"A", true, [], none⟩,
        ⟨"B", true, [], none⟩, ⟨"A", true, ["too late"], none⟩,
        ⟨"A", true, [], some ⟨"20240101120000", "http://a.test/"⟩⟩] ∧
      Decided ⟨100, 10, false, "https://archive.test/"⟩ (effective "A" results)
        ⟨"http://a.test/", true, .pending, none, "A"⟩ final ∧
      final = ⟨"http://a.test/", true, .doneSuccess,
        some ⟨"https://archive.test/20240101120000/http://a.test/", ⟨19723, 43200, 0⟩⟩, "A"⟩ := by
  let rules : Rules := ⟨100, 10, false, "https://archive.test/"⟩
  let pending : Seed := ⟨"http://a.test/", true, .pending, none, "A"⟩
  let s : Shared := ⟨⟨[("A", pending)], []⟩, .empty⟩
  have waiting : ∀ id seed, s.seed? id = some seed →
      (seed.state = .notEnqueued ∨ seed.state = .pending) ∧ seed.archive = none := by
    intro id seed found
    have entry : (if "A" = id then some pending else none) = some seed := found
    split at entry
    · cases entry
      exact ⟨.inr rfl, rfl⟩
    · cases entry
  obtain ⟨decided, -⟩ := first_effective_wins rules "B" "G" waiting
    [⟨"A", true, [], some ⟨"yesterday", "http://a.test/"⟩⟩, ⟨"A", true, [], none⟩,
        ⟨"B", true, [], none⟩, ⟨"A", true, ["too late"], none⟩,
        ⟨"A", true, [], some ⟨"20240101120000", "http://a.test/"⟩⟩]
  obtain ⟨final, found, h⟩ := decided "A" pending rfl
  refine ⟨s, _, final, rfl, rfl, h, Option.some.inj (found.symm.trans ?_)⟩
  decide +kernel

end Concurrency

end WebCapture
