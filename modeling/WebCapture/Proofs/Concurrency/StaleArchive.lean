import WebCapture.Proofs.Concurrency.Lifecycle
import WebCapture.Proofs.Results.Verdict

set_option autoImplicit false

/-! # Archive details that are overwritten

Whether archive details are missing is asked once, when the seed is read, and they are written
later, whatever has become of the seed. So two results for one seed that are processed at the same
time may both write archive details, and those that were there first are lost
(`archive_overwritten`). Nothing worse can happen. Archive details are never taken away, and only
a caller that had read the seed before it had any can replace them: `archive_changes_by_overlap`.

The proof of the latter looks at the step in which details are replaced (`Step.archived`). Whoever
makes it is about to write details, and has therefore read the seed without any
(`reading_mem_of_reaches`); since details stay once they are there (`Phase.stays_archived`), that
was before the seed had any.
-/

namespace WebCapture.Concurrency

open Program
open Service (IsWorkOn Outcome Rules SeedError Work processResult respond_archived)
open Store (Tables)

variable {rules : Rules} {past : List Moment} {start : Shared} {s t : System} {event : Event}
  {id : ShadowId} {seed : Seed} {archive : Seed.Archive}

/-! ## Reading before writing

Whoever writes archive details has read the seed before, and found it without any. This is a fact
about the work of one caller, whatever comes back from its calls.
-/

def reading (id : ShadowId) (seed : Seed) : Exchange :=
  ⟨.store (.getSeed id), (Except.ok seed : Except Store.Error Seed)⟩

/-- Whoever is about to write archive details has read the seed without any. -/
theorem reading_mem_of_reaches {result : Capture.Result} {key : ShadowId} {log : List Exchange}
    {next : Except Store.Error Unit → Work (Except SeedError Outcome)}
    (h : (processResult rules result).Reaches log
      (.call (.store (.updateArchive key archive)) next)) :
    key = result.id ∧ ∃ read, reading result.id read ∈ log ∧
      (read.state = .doneSuccess → read.archive = none) := by
  have workOn := h.only (Service.processResult_workOn rules result)
  refine ⟨workOn.1, ?_⟩
  cases log with
  | nil => cases h
  | cons e log =>
      obtain ⟨c, goOn, answer, hp, rfl, h⟩ := h
      cases hp
      cases answer with
      | error e => cases (reaches_pure.mp h).2
      | ok read =>
          refine ⟨read, List.mem_cons_self, fun success => ?_⟩
          by_cases bare : read.archive = none
          · exact bare
          · -- With archive details there would be nothing left to do.
            obtain ⟨outcome, ended⟩ := respond_archived rules result success bare
            have finished : (Service.respond rules result read).Reaches log _ := h
            rw [ended] at finished
            cases (reaches_pure.mp finished).2

/-! ## Processing phases -/

/-- What may happen while results are processed, any number of them at the same time. Calls may
fail, with or without effect, and callers may crash. -/
def Processing (_ : System) : Event → Prop
  | .begun job => job.isProcessing = true
  | _ => True

/-- Everybody processes a result. -/
theorem Phase.processing (phase : Phase rules Processing start past s) {n : Nat} {caller : Caller}
    (live : s.callers[n]? = some (some caller)) : caller.job.isProcessing = true := by
  induction phase generalizing caller with
  | start => cases live
  | step phase allowed step ih =>
      rcases step.job_cases live with ⟨rest, old⟩ | ⟨-, begun⟩
      · exact @ih ⟨caller.job, rest⟩ old
      · rw [begun] at allowed
        exact allowed

/-- No seed gets archive details unless it is a success. -/
theorem Phase.isConsistent {Allowed : System → Event → Prop} (consistent : start.IsConsistent)
    (phase : Phase rules Allowed start past s) : s.shared.IsConsistent := by
  induction phase with
  | start => exact consistent
  | @step past s t event phase allowed step ih =>
      intro id seed found
      have before : (s.shared.seed? id).all Seed.isConsistent = true := by
        rw [Option.all_eq_true]
        exact ih id
      have after := (step.evolves phase.keepsLifecycle id).consistent before
      exact (Option.all_eq_true _ _).mp after seed found

/-- A seed that was read at a step is the seed that is stored. -/
theorem Step.seed?_of_reading (step : Step rules s event t) {n : Nat}
    (read : event.exchange? n = some (reading id seed)) : s.shared.seed? id = some seed := by
  have tried := step.tries_of_exchange read
  cases h : s.shared.seed? id with
  | none =>
      obtain ⟨-, e, impossible⟩ := tried.getSeed_none h
      cases impossible
  | some stored =>
      obtain ⟨-, same | ⟨-, e, impossible⟩⟩ := tried.getSeed h
      · rw [Except.ok.inj same]
      · cases impossible

/-- What was read before the end of a phase had archive details only as a success. -/
theorem Phase.isConsistent_of_reading {Allowed : System → Event → Prop}
    (consistent : start.IsConsistent) (phase : Phase rules Allowed start past s) {n : Nat}
    (read : reading id seed ∈ exchangesOf past n) : seed.isConsistent = true := by
  induction phase with
  | start => cases read
  | step phase allowed step ih =>
      rw [exchangesOf_snoc, List.mem_append, Option.mem_toList] at read
      rcases read with old | new
      · exact ih old
      · exact phase.isConsistent consistent id seed (step.seed?_of_reading new)

/-! ## Archived seeds

In one step at most one caller writes. What it writes are archive details, since the state of a
success cannot change any more.
-/

/-- A call about one seed leaves a seed with archive details as it is, or overwrites them. -/
theorem seed?_of_workOn {key : ShadowId} {c : Store.Call} {tables : Tables}
    (workOn : IsWorkOn key (.store c)) (found : tables.seeds.find? id = some seed)
    (success : seed.state = .doneSuccess) :
    (tables.answer c).2.seeds.find? id = some seed ∨
      ∃ archive, c = .updateArchive id archive ∧
        (tables.answer c).2.seeds.find? id = some { seed with archive := some archive } := by
  cases c with
  | getSeed key => exact .inl found
  | compareAndSet key expected next =>
      left
      obtain ⟨rfl, leads⟩ := workOn
      refine (Tables.compareAndSet_atomic key expected next).induction
        (P := fun after => after.seeds.find? id = some seed) found fun after h => ?_
      obtain ⟨moved, foundMoved, rfl, -, rfl⟩ := Tables.compareAndSet_eq_ok.mp h
      have other : key ≠ id := by
        rintro rfl
        -- The lifecycle leads nowhere from a success.
        rw [Option.some.inj (foundMoved.symm.trans found), success] at leads
        cases leads
      rw [Table.find?_put, if_neg other]
      exact found
  | updateArchive key archive =>
      obtain rfl := workOn
      refine (Tables.updateArchive_atomic key archive).induction
        (P := fun after => after.seeds.find? id = some seed ∨
          ∃ new, Store.Call.updateArchive key archive = .updateArchive id new ∧
            after.seeds.find? id = some { seed with archive := some new }) (.inl found)
        fun after h => ?_
      obtain ⟨-, written, foundWritten, -, rfl⟩ := Tables.updateArchive_eq_ok.mp h
      rw [Table.find?_put]
      by_cases same : key = id
      · subst same
        obtain rfl := Option.some.inj (foundWritten.symm.trans found)
        exact .inr ⟨archive, rfl, if_pos rfl⟩
      · rw [if_neg same]
        exact .inl found
  | _ => exact workOn.elim

/-- **In one step, the archive details of a seed are replaced only by a caller that had read the
seed without any.** -/
theorem Step.archived (consistent : start.IsConsistent)
    (phase : Phase rules Processing start past s) (step : Step rules s event t)
    (found : s.shared.seed? id = some seed) (archived : seed.archive ≠ none) :
    t.shared.seed? id = some seed ∨
      ∃ n archive answer, event.exchange? n = some ⟨.store (.updateArchive id archive), answer⟩ ∧
        t.shared.seed? id = some { seed with archive := some archive } ∧
        ∃ read, read.archive = none ∧ reading id read ∈ exchangesOf past n := by
  have success : seed.state = .doneSuccess :=
    Seed.isConsistent_iff.mp (phase.isConsistent consistent id seed found) archived
  rcases step.shared_cases with same | ⟨n, job, call, next, answer, turn, exchange, tried⟩
  · left
    rw [Shared.seed?, same]
    exact found
  rcases tried.tables_cases with same | ⟨c, rfl, done⟩
  · left
    rw [Shared.seed?, same]
    exact found
  have processing := phase.processing turn
  have reached := phase.reaches turn
  -- Only a caller that processes a result writes archive details.
  cases job with
  | processResult result =>
      have workOn := (reached.only (Service.processResult_workOn rules result)).1
      rcases seed?_of_workOn workOn found success with same | ⟨archive, rfl, written⟩
      · left
        rw [Shared.seed?, done]
        exact same
      · right
        obtain ⟨rfl, read, there, bare⟩ := reading_mem_of_reaches reached
        refine ⟨n, archive, answer, exchange, ?_, read, ?_, there⟩
        · rw [Shared.seed?, done]
          exact written
        · by_cases hs : read.state = .doneSuccess
          · exact bare hs
          · exact Seed.archive_eq_none (phase.isConsistent_of_reading consistent there) hs
  | _ => cases processing

/-! ## What becomes of archive details -/

variable {before after : List Moment} {moment : Moment}

/-- Archive details are never taken away, and their seed stays a success. -/
theorem Phase.stays_archived (consistent : start.IsConsistent)
    (phase : Phase rules Processing start (before ++ moment :: after) s)
    (found : moment.shared.seed? id = some seed) (archived : seed.archive ≠ none) :
    ∃ now, s.shared.seed? id = some now ∧ now.archive ≠ none := by
  refine phase.onwards (P := fun _ s => ∃ now, s.shared.seed? id = some now ∧ now.archive ≠ none)
    (fun s same => ⟨seed, same ▸ found, archived⟩) ?_
  rintro after s event t phase ⟨now, found, archived⟩ - step
  rcases step.archived consistent phase found archived with
    kept | ⟨n, archive, answer, -, written, -⟩
  · exact ⟨now, kept, archived⟩
  · exact ⟨_, written, by simp⟩

/-- Whoever reads a seed with archive details reads them. -/
theorem Phase.reading_archived (consistent : start.IsConsistent)
    (phase : Phase rules Processing start (before ++ moment :: after) s)
    (found : moment.shared.seed? id = some seed) (archived : seed.archive ≠ none) {n : Nat}
    {read : Seed} (h : reading id read ∈ exchangesOf after n) : read.archive ≠ none := by
  revert h
  refine phase.onwards (P := fun after _ =>
    reading id read ∈ exchangesOf after n → read.archive ≠ none)
    (fun s _ h => absurd h List.not_mem_nil) ?_
  intro after s event t phase ih _ step h
  rw [exchangesOf_snoc, List.mem_append, Option.mem_toList] at h
  rcases h with old | new
  · exact ih old
  · obtain ⟨now, foundNow, archivedNow⟩ := phase.stays_archived consistent found archived
    rw [step.seed?_of_reading new] at foundNow
    rwa [Option.some.inj foundNow]

/-- **Archive details are never taken away, and they are replaced only by a caller that had read the
seed before it had any.** So they are written once if results for one seed do not overlap. -/
theorem archive_changes_by_overlap (rules : Rules) {start : Shared}
    (consistent : start.IsConsistent) {before after : List Moment} {moment : Moment} {s : System}
    (phase : Phase rules Processing start (before ++ moment :: after) s) {id : ShadowId}
    {seed : Seed} {archive : Seed.Archive} (found : moment.shared.seed? id = some seed)
    (archived : seed.archive = some archive) :
    ∃ now, s.shared.seed? id = some { seed with archive := some now } ∧
      (now ≠ archive → ∃ n read answer, read.archive = none ∧
        reading id read ∈ exchangesOf (before ++ [moment]) n ∧
        ⟨.store (.updateArchive id now), answer⟩ ∈ exchangesOf after n) := by
  -- The induction is over the steps after the moment; the reading lies before it.
  refine phase.onwards (P := fun after s => ∃ now,
    s.shared.seed? id = some { seed with archive := some now } ∧
      (now ≠ archive → ∃ n read answer, read.archive = none ∧
        reading id read ∈ exchangesOf (before ++ [moment]) n ∧
        ⟨.store (.updateArchive id now), answer⟩ ∈ exchangesOf after n)) ?_ ?_
  · intro s same
    refine ⟨archive, ?_, fun different => absurd rfl different⟩
    rw [same, found, ← archived]
  · rintro after s event t phase ⟨now, foundNow, overlap⟩ - step
    rcases step.archived consistent phase foundNow (by simp) with
      kept | ⟨n, new, answer, exchange, written, read, bare, there⟩
    · refine ⟨now, kept, fun different => ?_⟩
      obtain ⟨n, read, answer, bare, there, wrote⟩ := overlap different
      refine ⟨n, read, answer, bare, there, ?_⟩
      rw [exchangesOf_snoc]
      exact List.mem_append_left _ wrote
    · refine ⟨new, written, fun _ => ⟨n, read, answer, bare, ?_, ?_⟩⟩
      · -- After the moment nobody can have read the seed without archive details.
        have split : before ++ moment :: after = (before ++ [moment]) ++ after := by simp
        rw [split, exchangesOf, List.filterMap_append] at there
        rcases List.mem_append.mp there with early | late
        · exact early
        · exact absurd bare (phase.reading_archived consistent found (by simp [archived]) late)
      · rw [exchangesOf_snoc]
        refine List.mem_append_right _ ?_
        rw [Option.mem_toList]
        exact exchange

/-! ## Two results that overlap

Two callers read the seed, and only then does the first of them write. The second one has not seen
that, and replaces the archive details with its own.
-/

/-- A seed of which two archives are known, with the details of one of them. -/
def twiceArchived (archive : Seed.Archive) : Seed :=
  ⟨"http://a.test/", true, .doneSuccess, some archive, "A"⟩

def firstArchive : Seed.Archive :=
  ⟨"https://archive.test/20240101120000/http://a.test/", ⟨19723, 43200, 0⟩⟩

def secondArchive : Seed.Archive :=
  ⟨"https://archive.test/20240202120000/http://a.test/", ⟨19755, 43200, 0⟩⟩

/-- One caller has moved the seed and is about to write archive details; meanwhile another one finds
a success without any and writes its own. -/
theorem overlapping_results :
    ∃ (rules : Rules) (start : Shared) (before after : List Moment) (moment : Moment) (s : System),
      start.IsConsistent ∧ Phase rules Processing start (before ++ moment :: after) s ∧
      moment.shared.seed? "A" = some (twiceArchived secondArchive) ∧
      s.shared.seed? "A" = some (twiceArchived firstArchive) := by
  let rules : Rules := ⟨100, 10, false, "https://archive.test/"⟩
  let pending : Seed := ⟨"http://a.test/", true, .pending, none, "A"⟩
  let start : Shared := ⟨⟨[("A", pending)], []⟩, .empty⟩
  let early : Capture.Result := ⟨"A", true, [], some ⟨"20240101120000", "http://a.test/"⟩⟩
  let late : Capture.Result := ⟨"A", true, [], some ⟨"20240202120000", "http://a.test/"⟩⟩
  have consistent : start.IsConsistent := by
    intro id seed found
    have entry : (if "A" = id then some pending else none) = some seed := found
    split at entry
    · cases entry
      rfl
    · cases entry
  have nobody : Phase rules Processing start [] ⟨start, []⟩ := .start
  have begun := nobody.step (by rfl) (.begin _ (.processResult early))
  obtain ⟨first, moved⟩ := begun.takeTurns 0 rfl (fun _ _ => trivial) "" "" 2
  have second := moved.step (by rfl) (.begin _ (.processResult late))
  obtain ⟨others, recorded, -⟩ := second.goOn 1 rfl (fun _ _ => trivial) (fun _ _ => trivial) "" ""
  have seen := recorded.step (by trivial) (.takeRequest _)
  obtain ⟨last, ended, -⟩ := seen.goOn 0 rfl (fun _ _ => trivial) (fun _ _ => trivial) "" ""
  rw [List.append_assoc, List.singleton_append] at ended
  exact ⟨rules, start, _, _, _, _, consistent, ended, by decide +kernel, by decide +kernel⟩

/-- **Archive details may be overwritten** when two results for one seed are processed at the same
time. -/
theorem archive_overwritten :
    ¬ ∀ (rules : Rules) (start : Shared) (before after : List Moment) (moment : Moment)
      (s : System), start.IsConsistent →
      Phase rules Processing start (before ++ moment :: after) s →
      ∀ (id : ShadowId) (seed : Seed) (archive : Seed.Archive),
        moment.shared.seed? id = some seed → seed.archive = some archive →
        ∃ now, s.shared.seed? id = some now ∧ now.archive = some archive := by
  intro written_once
  obtain ⟨rules, start, before, after, moment, s, consistent, phase, found, foundLast⟩ :=
    overlapping_results
  obtain ⟨now, foundNow, same⟩ :=
    written_once rules start before after moment s consistent phase "A" _ secondArchive found rfl
  obtain rfl := Option.some.inj (foundLast.symm.trans foundNow)
  exact absurd same (by decide)

/-- The caller that has overwritten archive details had read the seed before it had any. -/
theorem archive_changes_by_overlap_two_results :
    ∃ (rules : Rules) (start : Shared) (before after : List Moment) (moment : Moment) (s : System),
      Phase rules Processing start (before ++ moment :: after) s ∧
      moment.shared.seed? "A" = some (twiceArchived secondArchive) ∧
      s.shared.seed? "A" = some (twiceArchived firstArchive) ∧
      ∃ n read answer, read.archive = none ∧
        reading "A" read ∈ exchangesOf (before ++ [moment]) n ∧
        ⟨.store (.updateArchive "A" firstArchive), answer⟩ ∈ exchangesOf after n := by
  obtain ⟨rules, start, before, after, moment, s, consistent, phase, found, foundLast⟩ :=
    overlapping_results
  obtain ⟨now, foundNow, overlap⟩ := archive_changes_by_overlap rules consistent phase found rfl
  obtain rfl : firstArchive = now := by
    have same := Option.some.inj (foundLast.symm.trans foundNow)
    exact Option.some.inj (congrArg Seed.archive same)
  exact ⟨rules, start, before, after, moment, s, phase, found, foundLast, overlap (by decide)⟩

end WebCapture.Concurrency
