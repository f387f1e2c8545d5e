import WebCapture.Proofs.Service.HandingOver

set_option autoImplicit false

/-! # How far a group is handed over

The capture of a group hands its waiting seeds over one after the other, each by a request and a
mark, and stops at the first that cannot be requested or cannot be marked. `Handing` says this of
the exchanges: how many seeds were handed over, and which `Obstacle` was met then, if any. By
`captureGroup_runs` every run is of this kind, whatever comes back from the calls, and the answer
tells how far it got.

A seed with an obstacle may still have been requested: the obstacle is then its mark. So one more
request may have been accepted than seeds were handed over (`surplus`), and never more than one.
-/

namespace WebCapture.Service

open Program

def waiting (seeds : List Seed) : List Seed := seeds.filter (·.state = .notEnqueued)

/-! ## Exchanges -/

def enqueuing (seed : Seed) (answer : Except Queue.Error Unit) : Exchange Call Call.Answer :=
  ⟨.queue (.enqueue (.ofSeed seed)), answer⟩

def counting (success : Bool) : Exchange Call Call.Answer := ⟨.count (.enqueued success), ()⟩

def marking (seed : Seed) (answer : Except Store.Error Unit) : Exchange Call Call.Answer :=
  ⟨.store (.compareAndSet seed.id .notEnqueued .pending), answer⟩

/-- The answer to a mark tells that the seed does not wait any more: it has been marked now, or was
found in another state. -/
def tellsMoved : Except Store.Error Unit → Bool
  | .ok () => true
  | .error e => e.conflictingState?.any (· ≠ .notEnqueued)

theorem tellsMoved_error {e : Store.Error} :
    tellsMoved (.error e) = true ↔
      ∃ state, e.conflictingState? = some state ∧ state ≠ .notEnqueued := by
  simp [tellsMoved, Option.any_eq_true]

def accepted? : Exchange Call Call.Answer → Option Capture.Request
  | ⟨.queue (.enqueue request), Except.ok ()⟩ => some request
  | _ => none

def requestsOf (log : Log) : List Capture.Request := log.filterMap accepted?

theorem requestsOf_cons (e : Exchange Call Call.Answer) (log : Log) :
    requestsOf (e :: log) = (accepted? e).toList ++ requestsOf log := by
  unfold requestsOf
  cases accepted : accepted? e with
  | none => rw [List.filterMap_cons_none accepted, Option.toList_none, List.nil_append]
  | some request =>
      rw [List.filterMap_cons_some accepted, Option.toList_some, List.singleton_append]

/-! ## One seed

An obstacle at a mark is one that may leave the seed waiting. A conflict with another state is
none: somebody else has moved the seed, and the capture goes on.
-/

variable {seed : Seed} {seeds : List Seed} {log : Log}

theorem captureSeed_runs {x : Except CaptureError Unit} (h : (captureSeed seed).Runs log x) :
    (log = [enqueuing seed (.ok ()), counting true] ∧ x = .ok ()) ∨
      ∃ e, log = [enqueuing seed (.error e), counting false] ∧ x = .error (.queue e) := by
  obtain ⟨answer, rest, rfl, h⟩ := h
  cases answer with
  | ok =>
      obtain ⟨-, -, rfl, rfl, rfl⟩ := h
      exact .inl ⟨rfl, rfl⟩
  | error e =>
      obtain ⟨-, -, rfl, rfl, rfl⟩ := h
      exact .inr ⟨e, rfl, rfl⟩

/-- A mark is one exchange, and the work goes on if the seed does not wait any more. -/
theorem markPending_runs {x : Except CaptureError Unit} (h : (markPending seed).Runs log x) :
    ∃ answer, log = [marking seed answer] ∧
      (tellsMoved answer = true ∧ x = .ok () ∨
        ∃ e, answer = .error e ∧ tellsMoved (.error e) = false ∧
          x = .error (.seed (.store e))) := by
  obtain ⟨marked, first, rest, rfl, hm, h⟩ := runs_bind.mp h
  obtain ⟨answer, rfl, rfl⟩ := transition_runs.mp hm
  cases answer with
  | ok =>
      obtain ⟨rfl, rfl⟩ := h
      exact ⟨_, rfl, .inl ⟨rfl, rfl⟩⟩
  | error e =>
      dsimp only [Except.mapError, SeedError.conflictingState?] at h
      cases found : e.conflictingState? with
      | none =>
          rw [found] at h
          obtain ⟨rfl, rfl⟩ := h
          exact ⟨_, rfl, .inr ⟨e, rfl, by rw [tellsMoved, found]; rfl, rfl⟩⟩
      | some state =>
          rw [found] at h
          dsimp only at h
          split at h
          · rename_i moved
            obtain ⟨rfl, rfl⟩ := h
            exact ⟨_, rfl, .inl ⟨by simp [tellsMoved, found, moved], rfl⟩⟩
          · rename_i unmoved
            obtain ⟨rfl, rfl⟩ := h
            exact ⟨_, rfl, .inr ⟨e, rfl, by simpa [tellsMoved, found] using unmoved, rfl⟩⟩

/-- What stops the capture of a group at a seed: it cannot be requested, or it was requested and
cannot be marked. -/
inductive Obstacle where
  | refused (error : Queue.Error)
  | unmarked (error : Store.Error)

namespace Obstacle

/-- The exchanges in which the seed is not handed over. -/
def exchanges (seed : Seed) : Obstacle → Log
  | refused e => [enqueuing seed (.error e), counting false]
  | unmarked e => [enqueuing seed (.ok ()), counting true, marking seed (.error e)]

def error : Obstacle → CaptureError
  | refused e => .queue e
  | unmarked e => .seed (.store e)

/-- A mark stops the work only if the seed may still wait. -/
def IsReal : Obstacle → Prop
  | refused _ => True
  | unmarked e => tellsMoved (.error e) = false

end Obstacle

def handingOver (seed : Seed) (answer : Except Store.Error Unit) : Log :=
  [enqueuing seed (.ok ()), counting true, marking seed answer]

/-- A seed is handed over, or an obstacle is met. -/
theorem captureAndMark_runs {x : Except CaptureError Unit} (h : (captureAndMark seed).Runs log x) :
    (∃ answer, tellsMoved answer = true ∧ log = handingOver seed answer ∧ x = .ok ()) ∨
      ∃ obstacle : Obstacle, obstacle.IsReal ∧ log = obstacle.exchanges seed ∧
        x = .error obstacle.error := by
  obtain ⟨captured, first, rest, rfl, hc, h⟩ := runs_bind.mp h
  rcases captureSeed_runs hc with ⟨rfl, rfl⟩ | ⟨e, rfl, rfl⟩
  · obtain ⟨answer, rfl, ⟨moved, rfl⟩ | ⟨e, rfl, unmoved, rfl⟩⟩ := markPending_runs h
    · exact .inl ⟨answer, moved, rfl, rfl⟩
    · exact .inr ⟨.unmarked e, unmoved, rfl, rfl⟩
  · obtain ⟨rfl, rfl⟩ := h
    exact .inr ⟨.refused e, trivial, rfl, rfl⟩

/-! ## All seeds -/

/-- In these exchanges so many of some waiting seeds are handed over, from the first on, and then
an obstacle is met, or there are no more. -/
inductive Handing : List Seed → Nat → Option Obstacle → Log → Prop where
  | finished : Handing [] 0 none []
  | stopped (seed : Seed) (more : List Seed) {obstacle : Obstacle} (real : obstacle.IsReal) :
      Handing (seed :: more) 0 (some obstacle) (obstacle.exchanges seed)
  | handed (seed : Seed) {more : List Seed} {answer : Except Store.Error Unit} {handed : Nat}
      {obstacle : Option Obstacle} {log : Log} (moved : tellsMoved answer = true)
      (rest : Handing more handed obstacle log) :
      Handing (seed :: more) (handed + 1) obstacle (handingOver seed answer ++ log)

/-- What is answered if so many seeds of a group of `total` were handed over and skipped. -/
def summary (total enqueued skipped : Nat) : Option Obstacle → Except CaptureError GroupCapture
  | none => .ok ⟨enqueued, skipped⟩
  | some obstacle => .error (.groupPartiallyEnqueued enqueued total obstacle.error)

theorem captureSeeds_runs {total : Nat} {done : GroupCapture}
    {x : Except CaptureError GroupCapture} (h : (captureSeeds total done seeds).Runs log x) :
    ∃ handed obstacle, Handing (waiting seeds) handed obstacle log ∧
      x = summary total (done.enqueued + handed)
        (done.skipped + (seeds.length - (waiting seeds).length)) obstacle := by
  induction seeds generalizing done log with
  | nil =>
      obtain ⟨rfl, rfl⟩ := h
      exact ⟨0, none, .finished, rfl⟩
  | cons seed more ih =>
      have fewer : (waiting more).length ≤ more.length := List.length_filter_le _ more
      unfold captureSeeds at h
      split at h
      · rename_i skipped
        obtain ⟨handed, obstacle, handing, rfl⟩ := ih h
        have same : waiting (seed :: more) = waiting more := by simp [waiting, skipped]
        refine ⟨handed, obstacle, same ▸ handing, ?_⟩
        rw [same, List.length_cons, Nat.sub_add_comm fewer, Nat.add_assoc, Nat.add_comm 1]
      · rename_i next
        have first : waiting (seed :: more) = seed :: waiting more := by
          simp [waiting, Decidable.not_not.mp next]
        rw [first]
        obtain ⟨captured, log₁, log₂, rfl, hc, h⟩ := runs_bind.mp h
        rcases captureAndMark_runs hc with ⟨answer, moved, rfl, rfl⟩ | ⟨obstacle, real, rfl, rfl⟩
        · obtain ⟨handed, obstacle, handing, rfl⟩ := ih h
          refine ⟨handed + 1, obstacle, .handed seed moved handing, ?_⟩
          rw [List.length_cons, List.length_cons, Nat.add_sub_add_right, Nat.add_right_comm,
            Nat.add_assoc _ handed 1]
        · obtain ⟨rfl, rfl⟩ := h
          exact ⟨0, some obstacle, by simpa using Handing.stopped seed (waiting more) real, rfl⟩

/-- **The capture of a group hands over its waiting seeds in their order until it meets an
obstacle, and tells how far it got.** -/
theorem captureGroup_runs {group : SeedGroup} {x : Except CaptureError GroupCapture}
    (h : (captureGroup group).Runs log x) :
    ∃ handed obstacle, Handing (waiting group.seeds) handed obstacle log ∧
      x = summary group.seeds.length handed
        (group.seeds.length - (waiting group.seeds).length) obstacle := by
  simpa using captureSeeds_runs h

/-! ## What a log tells -/

variable {handed : Nat} {obstacle : Option Obstacle}

/-- How many requests were accepted for seeds that were not handed over. -/
def surplus : Option Obstacle → Nat
  | some (.unmarked _) => 1
  | _ => 0

/-- All waiting seeds were handed over, or an obstacle was met at the seed behind those that
were. -/
theorem Handing.cases (h : Handing seeds handed obstacle log) :
    (obstacle = none ∧ handed = seeds.length) ∨
      ∃ met seed, obstacle = some met ∧ seeds[handed]? = some seed ∧
        met.exchanges seed <:+ log := by
  induction h with
  | finished => exact .inl ⟨rfl, rfl⟩
  | stopped seed more real => exact .inr ⟨_, seed, rfl, rfl, List.suffix_refl _⟩
  | handed first moved rest ih =>
      rcases ih with ⟨rfl, rfl⟩ | ⟨met, seed, rfl, next, there⟩
      · exact .inl ⟨rfl, rfl⟩
      · exact .inr ⟨met, seed, rfl, next, there.trans (List.suffix_append _ _)⟩

/-- **Requests are accepted for the seeds that are handed over, in their order**, and for the next
one if it cannot be marked. -/
theorem Handing.requestsOf_eq (h : Handing seeds handed obstacle log) :
    requestsOf log = (seeds.take (handed + surplus obstacle)).map .ofSeed := by
  induction h with
  | finished => rfl
  | @stopped seed more obstacle real => cases obstacle <;> rfl
  | @handed first more answer handed obstacle log moved rest ih =>
      have first_accepted : requestsOf (handingOver first answer ++ log)
          = .ofSeed first :: requestsOf log := rfl
      rw [first_accepted, ih, Nat.add_right_comm, List.take_succ_cons, List.map_cons]

end WebCapture.Service
