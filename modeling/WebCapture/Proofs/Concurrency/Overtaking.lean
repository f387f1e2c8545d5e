import WebCapture.Proofs.Concurrency.Capturing

set_option autoImplicit false

/-! # Results that overtake marks

The crawler may answer a request before the seed was marked as pending. Then the group capture and
the processing of the result race on one seed, and each compare-and-set may be lost to the other.

An orderly phase is one in which any number of groups are captured, any results are processed, one
after the other, and no call fails (`Orderly`). In it, only the conflicts arise that are expected:
every caller is on course, which means that what is left of its work ensures its end, whatever the
others do (`Caller.OnCourse`). No step leads a caller off its course (`Step.onCourse`), and so
`results_overtake_marks` holds at every moment.

That results are processed one after the other is needed: two results for one seed that are
processed at once may both have read it as pending, and then only one of them moves it.
-/

namespace WebCapture.Concurrency

open Program
open Service (CaptureError Call GroupCapture IsMarking NeedsRecord Outcome Rules SeedError Work
  processResult verdict?)

variable {rules : Rules} {result : Capture.Result} {seed : Seed} {start now now' : Shared}
  {s t : System} {event : Event} {past : List Moment}

/-! ## Results that are processed while seeds are marked -/

/-- What comes of a result while others mark seeds. It is refused only if its record is needed and
cannot be read; otherwise its seed has ended if the capture has. -/
def Handled (result : Capture.Result) (answer : Except SeedError Outcome) (now : Shared) : Prop :=
  ∃ seed, now.seed? result.id = some seed ∧
    ((∃ outcome, answer = .ok outcome) ∧ (result.done = true → seed.state.isTerminal = true) ∨
      NeedsRecord result seed ∧ ∃ record bad, result.record = some record ∧
        (Seed.readStamp record.stamp).isOk = false ∧ answer = .error (.record bad))

theorem processResult_handled (found : now.seed? result.id = some seed)
    (consistent : seed.isConsistent = true) :
    (processResult rules result).Ensures (Shared.Serves result.id True False) (Handled result)
      now := by
  cases h : verdict? rules result with
  | none =>
      refine (processResult_idle h found consistent).mono ?_
      rintro answer t ⟨after, found', -, impossible | handled⟩
      · exact impossible.elim
      · exact ⟨after, found', handled⟩
  | some v =>
      refine (processResult_nears h found consistent).mono ?_
      rintro answer t ⟨after, found', -, -, impossible | ⟨told, rfl⟩⟩
      · exact impossible.elim
      · exact ⟨_, found', .inl ⟨told, fun _ => v.settle_isTerminal seed⟩⟩

/-- A mark changes nothing about what came of a result. -/
theorem Handled.later {answer : Except SeedError Outcome} (h : Handled result answer now)
    (left : now.Leaves result.id True now') : Handled result answer now' := by
  obtain ⟨seed, found, handled⟩ := h
  obtain ⟨after, found', marked⟩ := left.stored seed found
  refine ⟨after, found', ?_⟩
  rcases handled with ⟨told, ended⟩ | ⟨needs, refused⟩
  · refine .inl ⟨told, fun done => ?_⟩
    -- A seed that has ended is not marked.
    have same : after = seed := marked.eq fun waiting => by
      have impossible := ended done
      rw [waiting] at impossible
      cases impossible
    rw [same]
    exact ended done
  · refine .inr ⟨⟨needs.done, needs.errors, ?_, ?_⟩, refused⟩
    · rcases marked with rfl | ⟨-, -, rfl⟩
      · exact needs.state
      · simp
    · rw [marked.archive, needs.archive]

/-! ## Orderly phases

Groups are captured from snapshots of any age, and one listener processes results one after the
other. A caller is on course if what is left of its work leads to what is claimed of its answer,
whatever others do meanwhile.
-/

/-- What may happen while groups of seeds that are stored are captured, from snapshots of any age,
and one listener processes results, one after the other. Nothing fails. -/
def Orderly (start : Shared) (s : System) : Event → Prop
  | .begun (.captureGroup group) =>
    ∀ seed ∈ group.seeds, ∃ stored, start.seed? seed.id = some stored ∧ stored.url = seed.url
  | .begun (.processResult _) =>
    ∀ (n : Nat) caller, s.callers[n]? = some (some caller) → caller.job.isProcessing = false
  | .begun _ => False
  | .failed _ _ => False
  | _ => True

/-- Stored seeds have ids and addresses, and archive details only as a success. -/
def Shared.IsSound (s : Shared) : Prop :=
  ∀ id seed, s.seed? id = some seed → id ≠ "" ∧ seed.url ≠ "" ∧ seed.isConsistent = true

/-- What is left of a caller's work leads to its proper end, whatever others do. -/
def Caller.OnCourse (start now : Shared) (caller : Caller) : Prop :=
  match caller with
  | ⟨.captureGroup _, rest⟩ =>
    rest.Only IsMarking ∧
      rest.Ensures (Amid Shared.Retains Shared.Answers)
        (fun (answer : Except CaptureError GroupCapture) _ => ∃ capture, answer = .ok capture) now
  | ⟨.processResult result, rest⟩ =>
    start.Holds result.id →
      rest.Ensures (Shared.Serves result.id True False) (Handled result) now
  | _ => False

/-- Others keep a caller on its course, if they keep what is stored, and if they do no more than
mark the seed of a result that is processed. -/
theorem Caller.OnCourse.later {caller : Caller} (course : caller.OnCourse start now)
    (retained : now.Retains now')
    (left : caller.job.isProcessing = true → ∀ id, now.Leaves id True now') :
    caller.OnCourse start now' := by
  obtain ⟨job, rest⟩ := caller
  cases job with
  | captureGroup group =>
      exact ⟨course.1, course.2.later retained Shared.Retains.trans fun _ told => told⟩
  | processResult result =>
      intro held
      exact (course held).later (left rfl result.id) Shared.Leaves.trans fun left h => h.later left
  | _ => exact course.elim

/-- A call that is answered keeps the caller on its course. -/
theorem Caller.OnCourse.next {job : Job} {call : Call} {next : call.Answer → Work job.Answer}
    {answer : call.Answer} (course : Caller.OnCourse start now ⟨job, .call call next⟩)
    (answered : now.Answers ⟨call, answer⟩ now') :
    Caller.OnCourse start now' ⟨job, next answer⟩ := by
  cases job with
  | captureGroup group =>
      exact ⟨course.1.2 answer, course.2 answer now' ⟨now, .refl now, answered⟩⟩
  | processResult result =>
      exact fun held => course held answer now' ⟨now, .refl now, .inl answered⟩
  | _ => exact course.elim

/-- Whoever begins in order is on course. -/
theorem Caller.OnCourse.begin {job : Job} (sound : start.IsSound)
    (retained : start.Retains s.shared) (allowed : Orderly start s (.begun job)) :
    Caller.OnCourse start s.shared ⟨job, job.work rules⟩ := by
  cases job with
  | captureGroup group =>
      refine ⟨Service.captureGroup_marks group, captureGroup_ensures fun seed h => ?_⟩
      obtain ⟨stored, found, same⟩ := allowed seed h
      obtain ⟨named, addressed, consistent⟩ := sound seed.id stored found
      exact ⟨named, same ▸ addressed, retained seed.id ⟨stored, found, consistent⟩⟩
  | processResult result =>
      intro held
      obtain ⟨seed, found, consistent⟩ := retained result.id held
      exact processResult_handled found consistent
  | _ => exact allowed.elim

/-! ## Orderly phases stay on course

To whoever processes a result the others look like somebody who may mark its seed at any moment.
To all others it is enough to know that seeds and groups are kept.
-/

/-- What is stored is kept, every caller is on course, and at most one processes a result. -/
structure System.OnCourse (start : Shared) (s : System) : Prop where
  retained : start.Retains s.shared
  callers : ∀ (n : Nat) caller, s.callers[n]? = some (some caller) →
    caller.OnCourse start s.shared
  one : ∀ (n m : Nat) caller caller', s.callers[n]? = some (some caller) →
    s.callers[m]? = some (some caller') → caller.job.isProcessing = true →
    caller'.job.isProcessing = true → n = m

/-- While a result is processed, the steps of others leave its seed as it is, or mark it. -/
theorem Step.leaves (course : s.OnCourse start) (step : Step rules s event t) {n : Nat}
    {caller : Caller} (live : s.callers[n]? = some (some caller))
    (processing : caller.job.isProcessing = true) (silent : event.exchange? n = none)
    (id : ShadowId) : s.shared.Leaves id True t.shared := by
  rcases step.shared_cases with same | ⟨m, job, call, next, answer, turn, exchange, tried⟩
  · exact Shared.leaves_of_eq (by rw [Shared.seed?, Shared.seed?, same])
  · have onCourse := course.callers m _ turn
    cases job with
    | captureGroup group => exact tried.marks onCourse.1.1 id
    | processResult result =>
        -- Only one caller processes a result, and it is the silent one.
        obtain rfl := course.one n m _ _ live turn processing rfl
        rw [silent] at exchange
        cases exchange
    | _ => exact onCourse.elim

/-- **No step that is allowed leads a caller off its course.** -/
theorem Step.onCourse (sound : start.IsSound) (keeps : s.KeepsLifecycle)
    (course : s.OnCourse start) (allowed : Orderly start s event) (step : Step rules s event t) :
    t.OnCourse start := by
  have retained := step.retains keeps
  refine ⟨course.retained.trans retained, fun n caller live => ?_, ?_⟩
  · rcases step.caller_cases live with
      ⟨old, silent⟩ | ⟨-, rfl, whole⟩ | ⟨call, next, answer, old, -, tried, goesOn⟩
    · refine (course.callers n caller old).later retained fun processing id => ?_
      exact step.leaves course old processing silent id
    · have begun : Caller.OnCourse start s.shared ⟨caller.job, caller.job.work rules⟩ :=
        .begin sound course.retained allowed
      rw [← whole] at begun
      cases step with
      | begin => exact begun
    · rcases tried with answered | ⟨failed, -⟩
      · have onward := (course.callers n _ old).next answered
        rw [← goesOn] at onward
        exact onward
      · rw [failed] at allowed
        exact allowed.elim
  · intro n m caller caller' live live' processing processing'
    -- A caller begins to process a result only if nobody else does.
    have first : ∀ {k l : Nat} {job : Job} {rest : Work job.Answer} {job' : Job},
        s.callers[k]? = some (some ⟨job, rest⟩) → job.isProcessing = true →
          event = .begun job' → job'.isProcessing = true → k = l := by
      intro k l job rest job' old processing begun processing'
      rw [begun] at allowed
      cases job' with
      | processResult result =>
          rw [allowed k _ old] at processing
          cases processing
      | _ => cases processing'
    rcases step.job_cases live with ⟨rest, old⟩ | ⟨fresh, begun⟩ <;>
      rcases step.job_cases live' with ⟨rest', old'⟩ | ⟨fresh', begun'⟩
    · exact course.one n m _ _ old old' processing processing'
    · exact first old processing begun' processing'
    · exact (first old' processing' begun processing).symm
    · rw [fresh, fresh']

/-- In an orderly phase everybody stays on course. -/
theorem Phase.onCourse (sound : start.IsSound) (phase : Phase rules (Orderly start) start past s) :
    s.OnCourse start := by
  induction phase with
  | start =>
      refine ⟨.refl start, ?_, ?_⟩
      · intro n caller live
        cases live
      · intro n m caller caller' live
        cases live
  | step phase allowed step ih => exact step.onCourse sound phase.keepsLifecycle ih allowed

/-! ## Overtaken marks do no harm -/

/-- **Results may overtake the marks of their seeds.** However the calls of group captures and of
the processing of results are interleaved, over a store and a queue that do not fail: no group
capture ends with an error; a result for a seed that is stored is refused only for its record; and
when a result of a capture that has come to its end is returned, its seed has ended too and stays in
its state for good, unless the record is needed and its stamp cannot be read. Whoever is at work can
come to an end alone. -/
theorem results_overtake_marks (rules : Rules) {start : Shared} (sound : start.IsSound)
    {past : List Moment} {s : System} (phase : Phase rules (Orderly start) start past s) :
    (∀ n group (answer : Except CaptureError GroupCapture),
      .returned n (.captureGroup group) answer ∈ past.map (·.event) →
        ∃ capture, answer = .ok capture) ∧
    (∀ before n result (answer : Except SeedError Outcome) shared after,
      past = before ++ ⟨.returned n (.processResult result) answer, shared⟩ :: after →
      (start.seed? result.id).isSome → ∃ seed, shared.seed? result.id = some seed ∧
        (∀ e, answer = .error e → ∃ bad, e = .record bad) ∧
        (result.done = true →
          (NeedsRecord result seed →
            ∀ record, result.record = some record → (Seed.readStamp record.stamp).isOk = true) →
          (∃ outcome, answer = .ok outcome) ∧ seed.state.isTerminal = true ∧
            ∀ later ∈ after, later.shared.stateOf? result.id = some seed.state)) ∧
    ∀ (n : Nat) caller, s.callers[n]? = some (some caller) →
      ∃ moments t answer, Phase rules (Orderly start) start (past ++ moments) t ∧
        .returned n caller.job answer ∈ moments.map (·.event) := by
  refine ⟨?_, ?_, ?_⟩
  · intro n group answer told
    obtain ⟨moment, there, same⟩ := List.mem_map.mp told
    obtain ⟨before, after, rfl⟩ := List.append_of_mem there
    obtain ⟨u, v, earlier, -, step, -⟩ := phase.at_moment
    rw [same] at step
    cases step with
    | finish turn => exact ((earlier.onCourse sound).callers n _ turn).2
  · rintro before n result answer shared after rfl stored
    obtain ⟨u, v, earlier, -, step, same⟩ := phase.at_moment
    have held : start.Holds result.id := by
      obtain ⟨seed, found⟩ := Option.isSome_iff_exists.mp stored
      exact ⟨seed, found, (sound _ _ found).2.2⟩
    cases step with
    | finish turn =>
        -- The caller was on course, and all its work is done.
        have handled : Handled result answer u.shared :=
          (earlier.onCourse sound).callers n _ turn held
        obtain rfl : u.shared = shared := same
        obtain ⟨seed, found, ⟨told, ended⟩ | ⟨needs, record, bad, hr, unreadable, rfl⟩⟩ := handled
        · refine ⟨seed, found, ?_, fun done readable => ⟨told, ended done, ?_⟩⟩
          · rintro e rfl
            obtain ⟨outcome, impossible⟩ := told
            cases impossible
          · have there : u.shared.stateOf? result.id = some seed.state := by
              rw [Shared.stateOf?, ← Shared.seed?, found, Option.map_some]
            exact (phase.for_good there (ended done)).1
        · refine ⟨seed, found, ?_, fun done readable => ?_⟩
          · rintro e same
            exact ⟨bad, (Except.error.inj same).symm⟩
          · rw [readable needs record hr] at unreadable
            cases unreadable
  · intro n caller live
    obtain ⟨moments, whole, returned⟩ :=
      phase.goOn n live (fun _ _ => trivial) (fun _ _ => trivial) "" ""
    exact ⟨moments, _, _, whole, returned⟩

/-- The crawler takes a request and its result is processed before the seed is marked. -/
theorem results_overtake_marks_eager_crawler :
    ∃ (start : Shared) (past : List Moment) (s : System) (capture : GroupCapture),
      Phase ⟨100, 10, false, "https://archive.test/"⟩ (Orderly start) start past s ∧
      start.seed? "A" = some ⟨"http://a.test/", true, .notEnqueued, none, "A"⟩ ∧
      .returned 0 (.captureGroup ⟨[⟨"http://a.test/", true, .notEnqueued, none, "A"⟩], "G"⟩)
        (.ok capture) ∈ past.map (·.event) ∧
      s.shared.seed? "A" = some ⟨"http://a.test/", true, .doneFailure, none, "A"⟩ := by
  let rules : Rules := ⟨100, 10, false, "https://archive.test/"⟩
  let new : Seed := ⟨"http://a.test/", true, .notEnqueued, none, "A"⟩
  let start : Shared := ⟨⟨[("A", new)], []⟩, .empty⟩
  have sound : start.IsSound := by
    intro id seed found
    have entry : (if "A" = id then some new else none) = some seed := found
    split at entry
    · rename_i same
      cases entry
      exact ⟨same ▸ by decide, by decide, rfl⟩
    · cases entry
  have nobody : Phase rules (Orderly start) start [] ⟨start, []⟩ := .start
  let job : Job := .captureGroup ⟨[new], "G"⟩
  have known : Orderly start ⟨start, []⟩ (.begun job) := by
    intro seed h
    cases List.mem_singleton.mp h
    exact ⟨new, rfl, rfl⟩
  have begun := nobody.step known (.begin _ job)
  obtain ⟨first, enqueued⟩ := begun.takeTurns 0 rfl (fun _ _ => trivial) "" "" 1
  have taken := enqueued.step (by trivial) (.takeRequest _)
  have processing := taken.step
    (by
      intro n caller live
      obtain ⟨h, same⟩ := List.getElem?_eq_some_iff.mp live
      obtain rfl : n = 0 := by simpa using h
      cases same
      rfl)
    (.begin _ (.processResult ⟨"A", true, ["gone"], none⟩))
  obtain ⟨second, processed, -⟩ :=
    processing.goOn 1 rfl (fun _ _ => trivial) (fun _ _ => trivial) "" ""
  obtain ⟨third, marked, returned⟩ :=
    processed.goOn 0 rfl (fun _ _ => trivial) (fun _ _ => trivial) "" ""
  obtain ⟨captured, -⟩ := results_overtake_marks rules sound marked
  obtain ⟨capture, told⟩ := captured 0 _ _
    (by rw [List.map_append]; exact List.mem_append_right _ returned)
  rw [told] at returned
  refine ⟨start, _, _, capture, marked, rfl, ?_, by decide +kernel⟩
  rw [List.map_append]
  exact List.mem_append_right _ returned

end WebCapture.Concurrency
