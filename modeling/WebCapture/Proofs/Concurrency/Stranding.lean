import WebCapture.Proofs.Concurrency.Capturing
import WebCapture.Proofs.Service.HandingOver
import WebCapture.Proofs.Store.Integrity

set_option autoImplicit false

/-! # No seed is stranded

To enqueue a request and to mark its seed as pending are two steps, and any of them may fail or
be the last that a caller makes. Still nobody waits for a seed in vain: if nobody moves seeds by
hand (`Unforced`), then a seed is moved only after its request was appended to the request
channel, or because a result of its capture has come (`Phase.requested_or_finished`). All other
seeds wait as they were stored, and the capture of a group that lists one of them requests it:
`none_stranded`.

The proof looks at the one step in which a seed leaves its first state. That step is a
compare-and-set of some caller (`Step.moves`), and what this caller has done before tells why it
makes it (`work_awaits`).
-/

namespace WebCapture

namespace Store.Tables

variable {tables : Tables} {id : ShadowId} {seed : Seed}

/-- Only a compare-and-set changes the state of a seed, if nobody writes it whatever it was. -/
theorem state_of_answer {call : Call} (keeps : call.KeepsLifecycle)
    (still : ∀ expected next, call ≠ .compareAndSet id expected next)
    (found : tables.seeds.find? id = some seed) :
    ∃ now, (tables.answer call).2.seeds.find? id = some now ∧ now.state = seed.state := by
  -- A writer that fails leaves the seed as it was found.
  have atomic : ∀ {change : Except Error Unit × Tables}, tables.IsAtomic change →
      (∀ after, change = (.ok (), after) →
        ∃ now, after.seeds.find? id = some now ∧ now.state = seed.state) →
      ∃ now, change.2.seeds.find? id = some now ∧ now.state = seed.state :=
    fun atomic => atomic.induction (P := fun after =>
      ∃ now, after.seeds.find? id = some now ∧ now.state = seed.state) ⟨seed, found, rfl⟩
  cases call with
  | save seeds =>
      refine atomic (save_atomic seeds) fun after h => ?_
      obtain ⟨fit, rfl⟩ := save_eq_ok.mp h
      exact ⟨seed, find?_insertSeeds_of_stored fit found, rfl⟩
  | saveGroup group =>
      refine atomic (saveGroup_atomic group) fun after h => ?_
      obtain ⟨-, -, fit, rfl⟩ := saveGroup_eq_ok.mp h
      exact ⟨seed, find?_insertSeeds_of_stored fit found, rfl⟩
  | getGroup key => exact ⟨seed, found, rfl⟩
  | getSeed key => exact ⟨seed, found, rfl⟩
  | updateState key state => exact keeps.elim
  | compareAndSet key expected next =>
      refine atomic (compareAndSet_atomic key expected next) fun after h => ?_
      obtain ⟨moved, -, -, -, rfl⟩ := compareAndSet_eq_ok.mp h
      -- The call moves some seed, so it moves another one.
      have other : key ≠ id := by
        rintro rfl
        exact still expected next rfl
      refine ⟨seed, ?_, rfl⟩
      rw [Table.find?_put, if_neg other, found]
  | updateArchive key archive =>
      refine atomic (updateArchive_atomic key archive) fun after h => ?_
      obtain ⟨-, written, foundWritten, -, rfl⟩ := updateArchive_eq_ok.mp h
      rw [Table.find?_put]
      by_cases same : key = id
      · subst same
        obtain rfl := Option.some.inj (foundWritten.symm.trans found)
        exact ⟨_, if_pos rfl, rfl⟩
      · exact ⟨seed, by rw [if_neg same, found], rfl⟩

end Store.Tables

namespace Concurrency

open Program
open Service (CaptureError GroupCapture Moves Requests Rules accepted captureGroup)
open Store (Tables)

variable {rules : Rules} {past : List Moment} {s t : System} {event : Event} {id : ShadowId}
  {seed : Seed} {Allowed : System → Event → Prop} {start : Shared}

/-! ## Why a seed is moved

A request counts from the moment at which it was appended to the channel, also if whoever has
appended it never learns that. A result counts when a job to process it was begun.
-/

/-- Nobody moves seeds by hand, so that only captures of groups and results move them. -/
def Unforced (_ : System) : Event → Prop
  | .begun (.updateState _ _) => False
  | .begun (.transition _ _ _) => False
  | _ => True

def Requested (past : List Moment) (id : ShadowId) : Prop :=
  ∃ moment ∈ past, ∃ n request payload, moment.event = .answered n (accepted request) ∧
    request.id = id ∧ Queue.encodeRequest request = .ok payload ∧
    moment.shared.channels.requests.getLast? = some payload

/-- A result of a capture of the seed that has come to its end was handed over. -/
def Finished (past : List Moment) (id : ShadowId) : Prop :=
  ∃ moment ∈ past, ∃ result : Capture.Result, moment.event = .begun (.processResult result) ∧
    result.id = id ∧ result.done = true

theorem Requested.snoc (h : Requested past id) (moment : Moment) :
    Requested (past ++ [moment]) id := by
  obtain ⟨earlier, there, what⟩ := h
  exact ⟨earlier, List.mem_append_left _ there, what⟩

theorem Finished.snoc (h : Finished past id) (moment : Moment) :
    Finished (past ++ [moment]) id := by
  obtain ⟨earlier, there, what⟩ := h
  exact ⟨earlier, List.mem_append_left _ there, what⟩

/-- A job that moves seeds does so after it has requested them, or it processes a result. -/
theorem work_awaits (rules : Rules) {job : Job} (allowed : Unforced s (.begun job))
    (id : ShadowId) :
    (job.work rules).OnlyAfter (Requests id) (Moves id) ∨
      ∃ result : Capture.Result, job = .processResult result ∧ result.id = id ∧
        result.done = true := by
  cases job with
  | submit text grouped =>
      have stores := Service.submit_isSubmission rules text grouped
      exact .inl (stores.mono fun _ stored => stored.moves_not).onlyAfter
  | submitLines lines grouped =>
      have stores := Service.submitLines_isSubmission rules lines grouped
      exact .inl (stores.mono fun _ stored => stored.moves_not).onlyAfter
  | getGroup key => exact .inl ⟨not_false, fun _ => .inr trivial⟩
  | getSeed key => exact .inl ⟨not_false, fun _ => .inr trivial⟩
  | updateState key state => exact allowed.elim
  | transition key source target => exact allowed.elim
  | updateArchive key archive => exact .inl ⟨not_false, fun _ => .inr trivial⟩
  | captureSeed seed => exact .inl (Service.captureSeed_moves_not seed).onlyAfter
  | captureGroup group => exact .inl (Service.captureGroup_awaits group)
  | processResult result =>
      by_cases own : result.id = id
      · cases unfinished : result.done with
        | true => exact .inr ⟨result, rfl, own, unfinished⟩
        | false => exact .inl (Service.processResult_moves_not unfinished).onlyAfter
      · -- The work on another seed does not touch this one.
        have elsewhere := (Service.processResult_workOn rules result).mono fun c workOn =>
          workOn.moves_not own
        exact .inl elsewhere.onlyAfter

/-! ## Looking back from a caller -/

/-- Whoever is at work has begun, and was allowed to. -/
theorem Phase.begun (phase : Phase rules Allowed start past s) {n : Nat} {caller : Caller}
    (live : s.callers[n]? = some (some caller)) :
    (∃ moment ∈ past, moment.event = .begun caller.job) ∧
      ∃ u, Allowed u (.begun caller.job) := by
  induction phase generalizing caller with
  | start => cases live
  | @step past s t event phase allowed step ih =>
      rcases step.job_cases live with ⟨rest, old⟩ | ⟨-, rfl⟩
      · obtain ⟨⟨moment, there, begun⟩, permitted⟩ := ih old
        exact ⟨⟨moment, List.mem_append_left _ there, begun⟩, permitted⟩
      · have last : (⟨.begun caller.job, t.shared⟩ : Moment)
            ∈ past ++ [⟨.begun caller.job, t.shared⟩] :=
          List.mem_append_right _ List.mem_cons_self
        exact ⟨⟨_, last, rfl⟩, s, allowed⟩

/-- A request that was accepted was appended to the request channel. -/
theorem Step.requests_of_accepted {n : Nat} {request : Capture.Request}
    (step : Step rules s event t) (h : event.exchange? n = some (accepted request)) :
    event = .answered n (accepted request) ∧ ∃ payload, Queue.encodeRequest request = .ok payload ∧
      t.shared.channels.requests.getLast? = some payload := by
  cases step with
  | @answer m job call next answer shared turn done =>
      simp only [Event.exchange?, Option.ite_none_right_eq_some, Option.some.injEq] at h
      obtain ⟨rfl, h⟩ := h
      rw [h] at done ⊢
      obtain ⟨told, rfl⟩ := done
      refine ⟨rfl, ?_⟩
      simp only [Queue.Channels.answer] at told ⊢
      cases encoded : Queue.encodeRequest request with
      | error e =>
          rw [encoded] at told
          cases told
      | ok payload => exact ⟨payload, rfl, by simp⟩
  | @fail m job call next answer shared turn failed =>
      simp only [Event.exchange?, Option.ite_none_right_eq_some, Option.some.injEq] at h
      -- The answer of the exchange is a success.
      rw [h.2] at failed
      obtain ⟨⟨error, impossible⟩, -⟩ := failed
      cases impossible
  | _ => cases h

/-- Whose request was accepted was requested. -/
theorem Phase.requested (phase : Phase rules Allowed start past s) {n : Nat} {e : Exchange}
    (there : e ∈ exchangesOf past n) (requests : Requests id e) : Requested past id := by
  obtain ⟨request, same, rfl⟩ := requests
  induction phase with
  | start => cases there
  | @step past s t event phase allowed step ih =>
      rw [exchangesOf_snoc, List.mem_append, Option.mem_toList] at there
      rcases there with old | new
      · exact (ih old).snoc _
      · obtain ⟨event_eq, payload, encoded, appended⟩ := step.requests_of_accepted new
        exact ⟨_, List.mem_append_right _ List.mem_cons_self, n, request, payload, event_eq, same,
          encoded, appended⟩

/-! ## The step in which a seed is moved -/

/-- A seed changes its state only in a compare-and-set of some caller. -/
theorem Step.moves (keeps : s.KeepsLifecycle) (step : Step rules s event t) {now : Seed}
    (found : s.shared.seed? id = some seed) (found' : t.shared.seed? id = some now)
    (moved : now.state ≠ seed.state) :
    ∃ (n : Nat) (job : Job) (call : Service.Call) (next : call.Answer → Service.Work job.Answer),
      s.callers[n]? = some (some ⟨job, .call call next⟩) ∧ Moves id call := by
  have changed : t.shared.tables ≠ s.shared.tables := by
    intro same
    rw [Shared.seed?, same] at found'
    have alike : seed = now := Option.some.inj (found.symm.trans found')
    exact moved (alike ▸ rfl)
  obtain ⟨n, job, call, next, answer, turn, -, tried⟩ := step.shared_cases.resolve_left changed
  obtain ⟨c, rfl, done⟩ := tried.tables_cases.resolve_left changed
  refine ⟨n, job, _, next, turn, ?_⟩
  by_contra other
  have still : ∀ expected target, c ≠ .compareAndSet id expected target := by
    rintro expected target rfl
    exact other rfl
  obtain ⟨after, there, same⟩ := Tables.state_of_answer (keeps n _ turn).1 still found
  rw [Shared.seed?, done, there] at found'
  exact moved (Option.some.inj found' ▸ same)

/-- **A seed leaves its first state only after its request was appended, or because a result of its
capture has come.** -/
theorem Phase.requested_or_finished
    (phase : Phase rules Unforced ⟨.empty, .empty⟩ past s)
    (found : s.shared.seed? id = some seed) (moved : seed.state ≠ .notEnqueued) :
    Requested past id ∨ Finished past id := by
  induction phase generalizing seed with
  | start => cases found
  | @step past s t event phase allowed step ih =>
      have earlier : Requested past id ∨ Finished past id →
          Requested (past ++ [⟨event, t.shared⟩]) id ∨
            Finished (past ++ [⟨event, t.shared⟩]) id :=
        Or.imp (·.snoc _) (·.snoc _)
      have evolved := step.evolves phase.keepsLifecycle id
      cases before : s.shared.seed? id with
      | none =>
          -- A seed that has just been stored is new.
          rw [← Shared.seed?, ← Shared.seed?, before, found] at evolved
          cases evolved with
          | stored _ new => exact absurd (Store.newSeedViolation?_eq_none.mp new).2.2.1 moved
      | some old =>
          by_cases waiting : old.state = .notEnqueued
          · -- This is the step; its caller has requested the seed, or processes its result.
            obtain ⟨n, job, call, next, turn, moves⟩ :=
              step.moves phase.keepsLifecycle before found (waiting ▸ moved)
            obtain ⟨⟨moment, there, begun⟩, u, permitted⟩ := phase.begun turn
            rcases work_awaits rules permitted id with awaits | ⟨result, rfl, own, done⟩
            · obtain ⟨e, had, requests⟩ := awaits.reaches (phase.reaches turn) moves
              exact earlier (.inl (phase.requested had requests))
            · exact earlier (.inr ⟨moment, there, result, begun, own, done⟩)
          · exact earlier (ih before waiting)

/-! ## Groups that are read again

A group whose capture has failed is read again and captured again. That it can be read follows
from the soundness of the tables, which every step keeps.
-/

/-- All seeds of a group are as they are stored. -/
def Shared.Loads (s : Shared) (group : SeedGroup) : Prop :=
  ∀ seed ∈ group.seeds, s.seed? seed.id = some seed

/-- No step breaks the tables apart. -/
theorem Step.sound (sound : s.shared.tables.IsSound) (step : Step rules s event t) :
    t.shared.tables.IsSound := by
  rcases step.shared_cases with same | ⟨n, job, call, next, answer, -, -, tried⟩
  · rwa [same]
  · rcases tried.tables_cases with same | ⟨c, -, done⟩
    · rwa [same]
    · rw [done]
      exact (Tables.answer_changes _ c).sound sound

theorem Phase.sound (sound : start.tables.IsSound) (phase : Phase rules Allowed start past s) :
    s.shared.tables.IsSound := by
  induction phase with
  | start => exact sound
  | step phase allowed step ih => exact step.sound ih

/-- A group that is stored can be read, with its seeds as they are stored. -/
theorem Shared.exists_loads {s : Shared} (sound : s.tables.IsSound) {gid : ShadowId}
    {members : List ShadowId} (listed : s.tables.groups.find? gid = some members)
    (found : s.seed? id = some seed) (member : id ∈ members) :
    ∃ group, s.tables.getGroup gid = .ok group ∧ s.Loads group ∧ seed ∈ group.seeds := by
  obtain ⟨seeds, read, found_all⟩ := sound.getGroup listed
  -- What is found under an id has that id.
  have loads : s.Loads ⟨seeds, gid⟩ := by
    intro seed here
    have there : some seed ∈ members.map s.tables.seeds.find? :=
      found_all ▸ List.mem_map_of_mem here
    obtain ⟨key, -, stored⟩ := List.mem_map.mp there
    obtain ⟨own, -, -⟩ := sound.own key seed stored
    rw [own]
    exact stored
  refine ⟨⟨seeds, gid⟩, read, loads, ?_⟩
  have listed_seed : some seed ∈ seeds.map some := by
    rw [← found_all, ← found]
    exact List.mem_map_of_mem member
  obtain ⟨same, here, alike⟩ := List.mem_map.mp listed_seed
  exact Option.some.inj alike ▸ here

/-- Seeds that are as they are stored can be captured. -/
theorem Shared.Loads.knows {s : Shared} (sound : s.tables.IsSound) {group : SeedGroup}
    (loads : s.Loads group) : s.Knows group.seeds := by
  intro seed here
  obtain ⟨-, named, addressed⟩ := sound.own seed.id seed (loads seed here)
  have consistent : seed.isConsistent = true := by
    rw [Seed.isConsistent_iff]
    intro archived
    obtain ⟨archive, same⟩ := Option.ne_none_iff_exists'.mp archived
    exact (sound.archive seed.id seed archive (loads seed here) same).1
  exact ⟨named, addressed, seed, loads seed here, consistent⟩

/-! ## No seed is stranded -/

/-- **No seed is stranded.** However the calls of any callers are interleaved, whichever of them
fail, with or without effect, and whoever crashes, as long as nobody moves seeds by hand: a seed
that does not wait any more has had its request appended to the request channel, or a result of
its capture was handed over. A seed to which neither has happened still waits; the groups that
list it can be read with it; and the capture of a group that was read with it requests it,
whatever others do meanwhile, if the calls of the capture do not fail. -/
theorem none_stranded (rules : Rules) {past : List Moment} {s : System}
    (phase : Phase rules Unforced ⟨.empty, .empty⟩ past s) {id : ShadowId} {seed : Seed}
    (stored : s.shared.seed? id = some seed) :
    (seed.state ≠ .notEnqueued → Requested past id ∨ Finished past id) ∧
    (¬Requested past id → ¬Finished past id → seed.state = .notEnqueued ∧
      (∀ gid members, s.shared.tables.groups.find? gid = some members → id ∈ members →
        ∃ group, s.shared.tables.getGroup gid = .ok group ∧ s.shared.Loads group ∧
          seed ∈ group.seeds) ∧
      ∀ group, s.shared.Loads group → seed ∈ group.seeds →
        ∀ log (answer : Except CaptureError GroupCapture) t, (captureGroup group).Runs log answer →
          Follows (Amid Shared.Retains Shared.Answers) s.shared log t →
          (∃ capture, answer = .ok capture) ∧ accepted (Capture.Request.ofSeed seed) ∈ log) := by
  have moved := phase.requested_or_finished stored
  refine ⟨moved, fun unrequested unfinished => ?_⟩
  have waiting : seed.state = .notEnqueued := by
    by_contra other
    exact (moved other).elim unrequested unfinished
  have sound := phase.sound Tables.isSound_empty
  refine ⟨waiting, fun gid members listed member => ?_, ?_⟩
  · exact Shared.exists_loads sound listed stored member
  · intro group loads here log answer t runs follows
    obtain ⟨capture, rfl⟩ := (captureGroup_ensures (loads.knows sound)).follows runs follows
    exact ⟨⟨capture, rfl⟩, Service.accepted_mem_of_captureGroup_runs runs here waiting⟩

/-- A group is submitted and captured, whence its seed is pending and was requested. -/
theorem none_stranded_captured_group :
    ∃ past s, Phase ⟨100, 10, false, "https://archive.test/"⟩ Unforced ⟨.empty, .empty⟩ past s ∧
      s.shared.seed? "A" = some ⟨"http://a.test", true, .pending, none, "A"⟩ ∧
      (Requested past "A" ∨ Finished past "A") := by
  let rules : Rules := ⟨100, 10, false, "https://archive.test/"⟩
  let new : Seed := ⟨"http://a.test", true, .notEnqueued, none, "A"⟩
  have nobody : Phase rules Unforced ⟨.empty, .empty⟩ [] ⟨⟨.empty, .empty⟩, []⟩ := .start
  have submitting := nobody.step (by trivial) (.begin _ (.submitLines ["http://a.test"] true))
  obtain ⟨first, submitted, -⟩ :=
    submitting.goOn 0 rfl (fun _ _ => trivial) (fun _ _ => trivial) "A" "G"
  have capturing := submitted.step (by trivial) (.begin _ (.captureGroup ⟨[new], "G"⟩))
  obtain ⟨second, captured, -⟩ :=
    capturing.goOn 1 rfl (fun _ _ => trivial) (fun _ _ => trivial) "" ""
  have pending := (@none_stranded rules _ _ captured "A"
    ⟨"http://a.test", true, .pending, none, "A"⟩ (by decide +kernel)).1 (by decide)
  exact ⟨_, _, captured, by decide +kernel, pending⟩

end Concurrency

end WebCapture
