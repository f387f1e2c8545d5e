import WebCapture.Proofs.Groups.Marking

set_option autoImplicit false

/-! # The progress that a group capture reports

A group capture may be stopped by any call that fails. What it tells then is exact: the store, the
request channel and the counters all agree with it (`Progress`).

The calls are done or fail without effect here, and nobody else acts between them
(`Tallied.Meets`); with others at work the channel and the counters would tell of their work, too.
The first part of the proof is about the log alone: what was handed over in it, and what is
counted in it. The second part looks at what calls that are done leave behind.
-/

namespace WebCapture.Concurrency

open Program
open Service (CaptureError Counters GroupCapture Handing Log Obstacle captureGroup enqueuing marking
  surplus waiting)

/-! ## Counters -/

structure Tallied where
  shared : Shared
  counters : Counters

def tally (counters : Counters) : Exchange → Counters
  | ⟨.count event, _⟩ => counters.count event
  | _ => counters

/-- A call is done and answered or fails without effect, and what is to be counted is counted. -/
def Tallied.Meets (s : Tallied) (e : Exchange) (t : Tallied) : Prop :=
  s.shared.Meets e t.shared ∧ t.counters = tally s.counters e

/-- The answers of a store that does not mark one seed, and fails there. -/
def Tallied.serveUnmarked (id : ShadowId) (reason : String) (call : Service.Call) (s : Tallied) :
    call.Answer × Tallied :=
  let answered := s.shared.serveUnmarked id reason call
  (answered.1, ⟨answered.2, tally s.counters ⟨call, answered.1⟩⟩)

variable {s t : Tallied} {log : Log} {seeds : List Seed} {handed : Nat} {obstacle : Option Obstacle}

theorem counters_of_follows (follows : Follows Tallied.Meets s log t) :
    t.counters = log.foldl tally s.counters := by
  induction log generalizing s with
  | nil =>
      obtain rfl : t = s := follows
      rfl
  | cons e log ih =>
      obtain ⟨u, ⟨-, counted⟩, follows⟩ := follows
      rw [ih follows, counted, List.foldl_cons]

def refusals : Option Obstacle → Nat
  | some (.refused _) => 1
  | _ => 0

def bump (counters : Counters) (accepted refused : Nat) : Counters :=
  { counters with
    requestsEnqueued := counters.requestsEnqueued + accepted
    enqueueFailures := counters.enqueueFailures + refused }

/-- Every request is counted as what it is. -/
theorem tally_of_handing (handing : Handing seeds handed obstacle log) (counters : Counters) :
    log.foldl tally counters = bump counters (handed + surplus obstacle) (refusals obstacle) := by
  induction handing generalizing counters with
  | finished => rfl
  | @stopped seed more obstacle real => cases obstacle <;> rfl
  | @handed seed more answer handed obstacle log moved rest ih =>
      have counted : (Service.handingOver seed answer ++ log).foldl tally counters
          = log.foldl tally (counters.count (.enqueued true)) := rfl
      rw [counted, ih]
      simp only [bump, Counters.count]
      rw [Nat.add_assoc, Nat.add_comm 1, Nat.add_right_comm handed]

/-! ## Progress -/

/-- Of some seeds the first `marked` are past their first state in the store, and nothing else in it
has changed; the first `requested` were appended to the request channel, in their order, and nothing
else; these were counted, and `refused` failures. -/
structure Progress (seeds : List Seed) (marked requested refused : Nat) (s t : Tallied) :
    Prop where
  past : ∀ seed ∈ seeds.take marked,
    ∃ now, t.shared.seed? seed.id = some now ∧ now.state ≠ .notEnqueued
  unchanged : ∀ seed ∈ seeds.drop marked, t.shared.seed? seed.id = s.shared.seed? seed.id
  others : ∀ id, id ∉ seeds.map (·.id) → t.shared.seed? id = s.shared.seed? id
  channel : GrownBy ((seeds.take requested).map .ofSeed) s.shared.channels t.shared.channels
  counters : t.counters = bump s.counters requested refused

/-- What was handed over can be seen in the store, in the request channel and in the counters. -/
theorem progress_of_handing (handing : Handing seeds handed obstacle log)
    (distinct : (seeds.map (·.id)).Nodup) (marks : ∀ e ∈ log, Service.IsMarking e.call)
    (follows : Follows Tallied.Meets s log t) :
    Progress seeds handed (handed + surplus obstacle) (refusals obstacle) s t := by
  -- In the store nobody else acts.
  have alone : Follows (Amid Eq Shared.Meets) s.shared log t.shared :=
    follows.map Tallied.shared fun s e t met => ⟨s.shared, rfl, met.1⟩
  have grown := grownBy_of_follows marks (follows.map Tallied.shared fun _ _ _ met => met.1)
  obtain ⟨marked, others⟩ := seeds_of_handing (fun _ => True)
    (fun _ _ same _ _ => by rw [same]) handing distinct (fun _ _ => trivial) alone
  constructor
  · intro seed here
    obtain ⟨now, -, there⟩ := marked seed here
    exact ⟨now.mark, there, now.mark_state⟩
  · intro seed here
    have behind : seed.id ∉ (seeds.take handed).map (·.id) := by
      intro listed
      rw [← List.take_append_drop handed seeds, List.map_append] at distinct
      exact List.disjoint_of_nodup_append distinct listed (List.mem_map_of_mem here)
    exact others seed.id trivial behind
  · intro id unlisted
    have nobody : id ∉ (seeds.take handed).map (·.id) := by
      intro listed
      obtain ⟨seed, here, same⟩ := List.mem_map.mp listed
      exact unlisted (List.mem_map.mpr ⟨seed, List.mem_of_mem_take here, same⟩)
    exact others id trivial nobody
  · rwa [handing.requestsOf_eq] at grown
  · rw [counters_of_follows follows, tally_of_handing handing]

/-- **A group capture reports its progress exactly.** If it succeeds, all seeds that waited were
marked and requested, and it tells how many they were and how many others there are. If it fails, it
tells how many of them were marked, and why it stopped at the next one: its request was refused, or
it was requested and could not be marked. -/
theorem captureGroup_progress {group : SeedGroup} (distinct : (group.seeds.map (·.id)).Nodup)
    {answer : Except CaptureError GroupCapture} (runs : (captureGroup group).Runs log answer)
    (follows : Follows Tallied.Meets s log t) :
    (∀ capture, answer = .ok capture →
      capture.enqueued = (waiting group.seeds).length ∧
      capture.skipped = group.seeds.length - (waiting group.seeds).length ∧
      Progress (waiting group.seeds) (waiting group.seeds).length (waiting group.seeds).length 0
        s t) ∧
    ∀ error, answer = .error error → ∃ k seed source,
      error = .groupPartiallyEnqueued k group.seeds.length source ∧
      (waiting group.seeds)[k]? = some seed ∧
      ((∃ e, source = .queue e ∧ enqueuing seed (.error e) ∈ log ∧
          Progress (waiting group.seeds) k k 1 s t) ∨
        ∃ e, source = .seed (.store e) ∧ marking seed (.error e) ∈ log ∧
          Progress (waiting group.seeds) k (k + 1) 0 s t) := by
  obtain ⟨handed, obstacle, handing, rfl⟩ := Service.captureGroup_runs runs
  have listed : ((waiting group.seeds).map (·.id)).Nodup :=
    distinct.sublist (List.filter_sublist.map _)
  have progress := progress_of_handing handing listed
    (runs.only (Service.captureGroup_marks group)) follows
  -- Either all seeds were handed over, or the first that was not is known with its obstacle.
  rcases handing.cases with ⟨rfl, rfl⟩ | ⟨met, seed, rfl, next, there⟩
  · refine ⟨fun capture told => ?_, fun error impossible => nomatch impossible⟩
    cases told
    exact ⟨rfl, rfl, progress⟩
  · refine ⟨fun capture impossible => (nomatch impossible), fun error told => ?_⟩
    cases told
    refine ⟨handed, seed, met.error, rfl, next, ?_⟩
    cases met with
    | refused e => exact .inl ⟨e, rfl, there.subset List.mem_cons_self, progress⟩
    | unmarked e =>
        have last : marking seed (.error e) ∈ (Obstacle.unmarked e).exchanges seed := by
          simp [Obstacle.exchanges]
        exact .inr ⟨e, rfl, there.subset last, progress⟩

/-- A seed is skipped, the next is handed over, and the last cannot be marked. -/
theorem captureGroup_progress_failed_mark :
    let ended : Seed := ⟨"http://a.test/", true, .doneFailure, none, "A"⟩
    let first : Seed := ⟨"http://b.test/", true, .notEnqueued, none, "B"⟩
    let last : Seed := ⟨"http://c.test/", true, .notEnqueued, none, "C"⟩
    let s : Tallied := ⟨⟨⟨[("A", ended), ("B", first), ("C", last)], []⟩, .empty⟩, .zero⟩
    ∃ log t, (captureGroup ⟨[ended, first, last], "G"⟩).Runs log
        (.error (.groupPartiallyEnqueued 1 3 (.seed (.store (.backend "down"))))) ∧
      Follows Tallied.Meets s log t ∧ marking last (.error (.backend "down")) ∈ log ∧
      Progress [first, last] 1 2 0 s t := by
  intro ended first last s
  let group : SeedGroup := ⟨[ended, first, last], "G"⟩
  have allowed : ∀ (call : Service.Call) (s : Tallied),
      s.Meets ⟨call, (s.serveUnmarked "C" "down" call).1⟩
        (s.serveUnmarked "C" "down" call).2 :=
    fun call s => ⟨s.shared.meets_serveUnmarked "C" "down" call, rfl⟩
  obtain ⟨log, runs, follows⟩ :=
    exists_log (Tallied.serveUnmarked "C" "down") allowed (captureGroup group) s
  obtain ⟨-, stopped⟩ := captureGroup_progress (by decide) runs follows
  obtain ⟨k, seed, source, told, next, ⟨e, rfl, -⟩ | ⟨e, rfl, there, progress⟩⟩ := stopped _ rfl
  · cases told
  · cases told
    obtain rfl : last = seed := Option.some.inj next
    exact ⟨log, _, runs, follows, there, progress⟩

end WebCapture.Concurrency
