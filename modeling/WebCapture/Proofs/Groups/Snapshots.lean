import WebCapture.Proofs.Concurrency.Stranding
import WebCapture.Proofs.Groups.Marking

set_option autoImplicit false

/-! # Groups that are captured from a snapshot

A group capture skips the seeds that do not wait in the group that it is given, and looks at the
store only when a seed is marked, after its request. So it matters how old the group is. A group
that has just been read requests no seed but those that wait (`skipsWhatIsDone_of_getGroup`). A
group that was brought by a submission and is kept requests all of its seeds each time it is
captured, whatever has become of them: `captures_follow_snapshot`, and `captured_twice` for one
that was captured before.

Requesting a seed again does no harm to its state, since the mark is a compare-and-set and a
second result changes nothing. What is lost is work of the crawler.
-/

namespace WebCapture

namespace Service

open Program

variable {rules : Rules} {group : SeedGroup} {log : Log}

/-- The requests of a group capture are for the first seeds that wait in the group, or for all of
them if it succeeds. -/
theorem requestsOf_captureGroup {answer : Except CaptureError GroupCapture}
    (runs : (captureGroup group).Runs log answer) :
    requestsOf log <+: (waiting group.seeds).map .ofSeed ∧
      ∀ capture, answer = .ok capture → requestsOf log = (waiting group.seeds).map .ofSeed ∧
        capture = ⟨(waiting group.seeds).length,
          group.seeds.length - (waiting group.seeds).length⟩ := by
  obtain ⟨handed, obstacle, handing, rfl⟩ := captureGroup_runs runs
  refine ⟨?_, fun capture told => ?_⟩
  · rw [handing.requestsOf_eq, List.map_take]
    exact List.take_prefix _ _
  · rcases handing.cases with ⟨rfl, rfl⟩ | ⟨met, seed, rfl, -, -⟩
    · cases told
      refine ⟨?_, rfl⟩
      rw [handing.requestsOf_eq]
      exact congrArg _ List.take_length
    · cases told

/-! ## What a submission brings -/

theorem seedsFor_new {urls : List Url.CleanUrl} {seeds : List Seed}
    (h : (seedsFor urls).Runs log seeds) : ∀ seed ∈ seeds, seed.state = .notEnqueued := by
  induction urls generalizing log seeds with
  | nil =>
      obtain ⟨-, rfl⟩ := h
      exact fun seed here => absurd here List.not_mem_nil
  | cons url more ih =>
      obtain ⟨id, first, rest, -, -, h⟩ := runs_bind.mp h
      obtain ⟨others, second, last, -, tail, -, rfl⟩ := runs_bind.mp h
      exact List.forall_mem_cons.mpr ⟨rfl, ih tail⟩

theorem storeSeeds_seeds {seeds : List Seed} {grouped : Bool}
    (h : (storeSeeds seeds grouped).Runs log (.ok group)) : group.seeds = seeds := by
  unfold storeSeeds at h
  split at h
  · obtain ⟨id, rest, -, answer, rest', -, h⟩ := h
    cases answer with
    | error e => cases h.2
    | ok =>
        cases h.2
        rfl
  · obtain ⟨answer, rest, -, h⟩ := h
    cases answer with
    | error e => cases h.2
    | ok =>
        obtain ⟨id, rest', -, -, same⟩ := h
        cases same
        rfl

/-- The seeds that a submission of lines brings are new. -/
theorem submitLines_new {lines : List String} {grouped : Bool}
    (h : (submitLines rules lines grouped).Runs log (.ok group)) :
    ∀ seed ∈ group.seeds, seed.state = .notEnqueued := by
  unfold submitLines at h
  split at h
  · cases h.2
  · split at h
    · obtain ⟨-, -, -, -, impossible⟩ := h
      cases impossible
    · obtain ⟨seeds, first, rest, -, made, h⟩ := runs_bind.mp h
      obtain ⟨stored, second, last, -, kept, h⟩ := runs_bind.mp h
      cases stored with
      | error e => cases h.2
      | ok brought =>
          obtain ⟨-, -, -, -, same⟩ := h
          cases same
          rw [storeSeeds_seeds kept]
          exact seedsFor_new made

theorem submit_new {text : String} {grouped : Bool}
    (h : (submit rules text grouped).Runs log (.ok group)) :
    ∀ seed ∈ group.seeds, seed.state = .notEnqueued := by
  unfold submit at h
  split at h
  · cases h.2
  · exact submitLines_new h

end Service

namespace Concurrency

open Program
open Service (CaptureError GroupCapture Log Rules captureGroup requestsOf waiting)
open Store (Tables)

variable {rules : Rules} {Allowed : System → Event → Prop} {start : Shared} {past : List Moment}
  {s : System} {group : SeedGroup}

/-- A submission has brought this group. -/
def Brought (past : List Moment) (group : SeedGroup) : Prop :=
  ∃ moment ∈ past, ∃ n grouped,
    (∃ text, moment.event = .returned n (.submit text grouped) (Except.ok group)) ∨
    ∃ lines, moment.event = .returned n (.submitLines lines grouped) (Except.ok group)

/-- Whoever has returned has run through the whole work of the job. -/
theorem Phase.runs_of_returned (phase : Phase rules Allowed start past s) {moment : Moment}
    (here : moment ∈ past) {n : Nat} {job : Job} {answer : job.Answer}
    (returned : moment.event = .returned n job answer) :
    ∃ log, (job.work rules).Runs log answer := by
  obtain ⟨before, after, rfl⟩ := List.append_of_mem here
  obtain ⟨u, v, earlier, -, step, -⟩ := phase.at_moment
  rw [returned] at step
  cases step with
  | finish turn => exact ⟨_, (earlier.reaches turn).runs ⟨rfl, rfl⟩⟩

/-- The seeds of a group that a submission has brought are new in it, whatever becomes of them
later. -/
theorem Phase.new_of_brought (phase : Phase rules Allowed start past s)
    (brought : Brought past group) : ∀ seed ∈ group.seeds, seed.state = .notEnqueued := by
  obtain ⟨moment, here, n, grouped, ⟨text, returned⟩ | ⟨lines, returned⟩⟩ := brought
  · obtain ⟨log, runs⟩ := phase.runs_of_returned here returned
    exact Service.submit_new runs
  · obtain ⟨log, runs⟩ := phase.runs_of_returned here returned
    exact Service.submitLines_new runs

/-- A capture of a group requests no seed but those that wait in the store as the capture begins,
and if it succeeds it has counted all others as skipped. -/
def SkipsWhatIsDone (s : Shared) (group : SeedGroup) (log : Log)
    (answer : Except CaptureError GroupCapture) : Prop :=
  (∀ request ∈ requestsOf log, s.stateOf? request.id = some .notEnqueued) ∧
    ∀ capture, answer = .ok capture →
      capture.skipped =
        (group.seeds.filter fun seed => s.stateOf? seed.id ≠ some .notEnqueued).length

/-- A group that has just been read skips what is done. -/
theorem skipsWhatIsDone_of_getGroup {s : Shared} (sound : s.tables.IsSound) {gid : ShadowId}
    (read : s.tables.getGroup gid = .ok group) {log : Log}
    {answer : Except CaptureError GroupCapture} (runs : (captureGroup group).Runs log answer) :
    SkipsWhatIsDone s group log answer := by
  obtain ⟨-, stored⟩ := sound.getGroup_eq_ok read
  have state_eq : ∀ seed ∈ group.seeds, s.stateOf? seed.id = some seed.state := by
    intro seed here
    rw [Shared.stateOf?, stored seed here, Option.map_some]
  obtain ⟨first, whole⟩ := Service.requestsOf_captureGroup runs
  constructor
  · intro request here
    obtain ⟨seed, waits, rfl⟩ := List.mem_map.mp (first.subset here)
    obtain ⟨member, new⟩ := List.mem_filter.mp waits
    exact (state_eq seed member).trans (congrArg some (of_decide_eq_true new))
  · intro capture told
    obtain ⟨-, rfl⟩ := whole capture told
    have others : (group.seeds.filter fun seed => s.stateOf? seed.id ≠ some .notEnqueued)
        = group.seeds.filter fun seed => !decide (seed.state = .notEnqueued) := by
      refine List.filter_congr fun seed here => ?_
      rw [state_eq seed here]
      simp
    have both := List.length_eq_length_filter_add (l := group.seeds)
      fun seed : Seed => decide (seed.state = .notEnqueued)
    rw [others]
    show group.seeds.length - (group.seeds.filter _).length = _
    omega

/-! ## A group that is captured twice -/

def loneGroup : SeedGroup := ⟨[⟨"http://a.test", true, .notEnqueued, none, "A"⟩], "G"⟩

/-- A group of one seed is submitted and captured. -/
theorem exists_captured :
    ∃ past s, Phase ⟨100, 10, false, "https://archive.test/"⟩ (fun _ _ => True)
        ⟨.empty, .empty⟩ past s ∧ Brought past loneGroup ∧ s.shared.stateOf? "A" = some .pending ∧
      ((captureGroup loneGroup).runState (Shared.serve "" "") s.shared).1 = .ok ⟨1, 0⟩ := by
  let rules : Rules := ⟨100, 10, false, "https://archive.test/"⟩
  have nobody : Phase rules (fun _ _ => True) ⟨.empty, .empty⟩ [] ⟨⟨.empty, .empty⟩, []⟩ := .start
  have submitting := nobody.step trivial (.begin _ (.submitLines ["http://a.test"] true))
  obtain ⟨first, submitted, brought⟩ :=
    submitting.goOn 0 rfl (fun _ _ => trivial) (fun _ _ => trivial) "A" "G"
  have capturing := submitted.step trivial (.begin _ (.captureGroup loneGroup))
  obtain ⟨second, captured, -⟩ :=
    capturing.goOn 1 rfl (fun _ _ => trivial) (fun _ _ => trivial) "" ""
  obtain ⟨moment, here, returned⟩ := List.mem_map.mp brought
  have told : ((Service.submitLines rules ["http://a.test"] true).runState (Shared.serve "A" "G")
      ⟨.empty, .empty⟩).1 = .ok loneGroup := by decide +kernel
  refine ⟨_, _, captured, ⟨moment, ?_, 0, true, .inr ⟨["http://a.test"], ?_⟩⟩, ?_, ?_⟩
  · simp [here]
  · rw [returned]
    exact congrArg (Event.returned 0 (.submitLines ["http://a.test"] true)) told
  · decide +kernel
  · decide +kernel

/-! ## Captures from any snapshot -/

/-- **A group capture skips by the group that it is given.** A group that was brought by a
submission requests its first seeds again each time, and all of them if the capture succeeds, which
tells that none was skipped; so it is whatever has happened to its seeds since. A group that has
just been read skips what is done. -/
theorem captures_follow_snapshot (rules : Rules) {start : Shared} (sound : start.tables.IsSound)
    {past : List Moment} {s : System} (phase : Phase rules Allowed start past s)
    {group : SeedGroup} {log : Log} {answer : Except CaptureError GroupCapture}
    (runs : (captureGroup group).Runs log answer) :
    (Brought past group → requestsOf log <+: group.seeds.map .ofSeed ∧
      ∀ capture, answer = .ok capture →
        requestsOf log = group.seeds.map .ofSeed ∧ capture = ⟨group.seeds.length, 0⟩) ∧
    ∀ gid, s.shared.tables.getGroup gid = .ok group →
      SkipsWhatIsDone s.shared group log answer := by
  constructor
  · intro brought
    have all : waiting group.seeds = group.seeds := by
      unfold waiting
      rw [List.filter_eq_self]
      intro seed here
      exact decide_eq_true (phase.new_of_brought brought seed here)
    have requested := Service.requestsOf_captureGroup runs
    rw [all, Nat.sub_self] at requested
    exact requested
  · intro gid read
    exact skipsWhatIsDone_of_getGroup (phase.sound sound) read runs

/-- The seed is requested again, though it is pending. -/
theorem captures_follow_snapshot_twice :
    ∃ past s log, Phase ⟨100, 10, false, "https://archive.test/"⟩ (fun _ _ => True)
        ⟨.empty, .empty⟩ past s ∧ Brought past loneGroup ∧ s.shared.stateOf? "A" = some .pending ∧
      (captureGroup loneGroup).Runs log (.ok ⟨1, 0⟩) ∧
      requestsOf log = loneGroup.seeds.map .ofSeed := by
  obtain ⟨past, s, phase, brought, pending, told⟩ := exists_captured
  obtain ⟨log, runs, -⟩ := exists_log (R := Shared.Answers) (Shared.serve "" "")
    (fun call s => s.answers_serve "" "" call) (captureGroup loneGroup) s.shared
  rw [told] at runs
  obtain ⟨requested, -⟩ := captures_follow_snapshot _ Tables.isSound_empty phase runs
  exact ⟨past, s, log, phase, brought, pending, runs, ((requested brought).2 _ rfl).1⟩

/-- **A group that is captured again as it was brought does not skip what is done.** -/
theorem captured_twice :
    ¬∀ (rules : Rules) (past : List Moment) (s : System) (group : SeedGroup),
      Phase rules (fun _ _ => True) ⟨.empty, .empty⟩ past s → Brought past group →
      ∀ log (answer : Except CaptureError GroupCapture) t, (captureGroup group).Runs log answer →
        Follows Shared.Answers s.shared log t → SkipsWhatIsDone s.shared group log answer := by
  intro skips
  obtain ⟨past, s, phase, brought, pending, told⟩ := exists_captured
  obtain ⟨log, runs, follows⟩ := exists_log (R := Shared.Answers) (Shared.serve "" "")
    (fun call s => s.answers_serve "" "" call) (captureGroup loneGroup) s.shared
  rw [told] at runs
  obtain ⟨-, skipped⟩ := skips _ past s loneGroup phase brought log _ _ runs follows
  have impossible := skipped ⟨1, 0⟩ rfl
  simp [loneGroup, pending] at impossible

end Concurrency

end WebCapture
