import WebCapture.Proofs.Concurrency.SeedCalls
import WebCapture.Proofs.Groups.Handing
import WebCapture.Proofs.Store.Integrity

set_option autoImplicit false

/-! # The marks of a group capture

A capture hands over some seeds of a group, the first ones that wait, and those are marked in the
store; no other seed is touched (`seeds_of_handing`). This is so wherever the capture is stopped,
in surroundings whose calls are done or fail without effect (`Shared.Meets`), and whatever others
do meanwhile who spare the seeds. The request channel grows by the requests that were accepted
(`grownBy_of_follows`).

A store whose failed calls may have had an effect could leave a mark behind that the capture does
not know of, so these surroundings leave such failures out. An error that tells of a conflict must
be true in them: a store that claimed a conflict where there is none would let a capture go on
without a mark.
-/

namespace WebCapture

/-- A compare-and-set that tells of a conflict has found the seed in the state that it tells. -/
theorem Store.Tables.state_of_conflict {tables after : Tables} {id : ShadowId}
    {expected next state : Seed.State} {e : Error}
    (h : tables.compareAndSet id expected next = (.error e, after))
    (conflict : e.conflictingState? = some state) :
    ∃ seed, tables.seeds.find? id = some seed ∧ seed.state = state := by
  unfold compareAndSet setState getSeed at h
  cases found : tables.seeds.find? id with
  | none =>
      rw [found] at h
      cases h
      cases conflict
  | some seed =>
      simp only [found] at h
      split at h
      · cases h
        exact ⟨seed, rfl, Option.some.inj conflict⟩
      · split at h <;> cases h
        cases conflict

/-- A seed that was marked; one that does not wait stays as it is. -/
def Seed.mark (seed : Seed) : Seed :=
  if seed.state = .notEnqueued then { seed with state := .pending } else seed

theorem Seed.mark_state (seed : Seed) : seed.mark.state ≠ .notEnqueued := by
  unfold mark
  split
  · simp
  · assumption

namespace Concurrency

open Program
open Service (Call Handing IsMarking Log Obstacle accepted? counting enqueuing handingOver marking
  requestsOf tellsMoved)
open Store (Tables)

variable {s t u : Shared} {id : ShadowId} {seed : Seed} {e : Exchange} {log : Log}

/-! ## Calls that fail without effect -/

/-- What a compare-and-set tells about the state of its seed is true. -/
def Shared.Confirms (s : Shared) : Exchange → Prop
  | ⟨.store (.compareAndSet id _ _), answer⟩ =>
    ∀ e state, answer = Except.error e → e.conflictingState? = some state →
      s.stateOf? id = some state
  | _ => True

/-- A call is done and answered, or it fails and has no effect. It may fail with any error that is
not untrue. -/
def Shared.Meets (s : Shared) (e : Exchange) (t : Shared) : Prop :=
  s.Answers e t ∨ s.Fails e t ∧ t = s ∧ s.Confirms e

/-- A mark is made on a seed that waits, or it fails and changes nothing. -/
theorem Shared.Meets.marking_cases {answer : Except Store.Error Unit}
    (h : s.Meets (marking seed answer) t) :
    (answer = .ok () ∧ ∃ now, s.seed? seed.id = some now ∧ now.state = .notEnqueued ∧
      t = s.putSeed seed.id { now with state := .pending }) ∨
    ∃ e, answer = .error e ∧ t = s ∧
      ∀ state, e.conflictingState? = some state → s.stateOf? seed.id = some state := by
  rcases h with ⟨told, rfl⟩ | ⟨⟨⟨e, rfl⟩, -⟩, rfl, confirmed⟩
  · have told : answer = (s.tables.compareAndSet seed.id .notEnqueued .pending).1 := told
    have set : s.tables.answer (.compareAndSet seed.id .notEnqueued .pending) =
        s.tables.compareAndSet seed.id .notEnqueued .pending := rfl
    rw [set]
    rcases Tables.compareAndSet_atomic seed.id .notEnqueued .pending with
      ⟨after, done⟩ | ⟨e, failed⟩
    · rw [done] at told
      rw [done]
      obtain ⟨now, found, waits, -, rfl⟩ := Tables.compareAndSet_eq_ok.mp done
      exact .inl ⟨told, now, found, waits, rfl⟩
    · rw [failed] at told
      rw [failed]
      refine .inr ⟨e, told, rfl, fun state conflict => ?_⟩
      obtain ⟨now, found, rfl⟩ := Tables.state_of_conflict failed conflict
      exact Option.map_eq_some_iff.mpr ⟨now, found, rfl⟩
  · exact .inr ⟨e, rfl, rfl, fun state conflict => confirmed e state rfl conflict⟩

/-- A mark after which the work goes on has marked its seed, unless the seed was found to wait no
more, and has touched no other. -/
theorem Shared.Meets.marked {answer : Except Store.Error Unit}
    (h : s.Meets (marking seed answer) t) (moved : tellsMoved answer = true) :
    ∃ now, s.seed? seed.id = some now ∧
      ∀ id, t.seed? id = if seed.id = id then some now.mark else s.seed? id := by
  rcases h.marking_cases with ⟨-, now, found, waits, rfl⟩ | ⟨e, rfl, rfl, confirmed⟩
  · refine ⟨now, found, fun id => ?_⟩
    rw [Shared.seed?_putSeed, Seed.mark, if_pos waits]
  · obtain ⟨state, conflict, other⟩ := Service.tellsMoved_error.mp moved
    obtain ⟨now, found, rfl⟩ := Option.map_eq_some_iff.mp (confirmed state conflict)
    refine ⟨now, found, fun id => ?_⟩
    rw [Seed.mark, if_neg other]
    split
    · rename_i same
      exact same ▸ found
    · rfl

/-- To enqueue a request leaves the store alone. -/
theorem Shared.Meets.enqueuing_tables {answer : Except Queue.Error Unit}
    (h : s.Meets (enqueuing seed answer) t) : t.tables = s.tables := by
  rcases h with ⟨-, rfl⟩ | ⟨-, rfl, -⟩ <;> rfl

/-- Counting changes nothing. -/
theorem Shared.Meets.counting_eq {success : Bool} (h : s.Meets (counting success) t) : t = s := by
  rcases h with same | ⟨impossible, -⟩
  · exact same
  · exact impossible.elim

/-- Where an obstacle is met, no seed is marked. -/
theorem Shared.Meets.tables_of_obstacle {obstacle : Obstacle} (here : e ∈ obstacle.exchanges seed)
    (h : s.Meets e t) : t.tables = s.tables := by
  cases obstacle with
  | refused e =>
      simp only [Obstacle.exchanges, List.mem_cons, List.not_mem_nil, or_false] at here
      rcases here with rfl | rfl
      · exact h.enqueuing_tables
      · rw [h.counting_eq]
  | unmarked e =>
      simp only [Obstacle.exchanges, List.mem_cons, List.not_mem_nil, or_false] at here
      rcases here with rfl | rfl | rfl
      · exact h.enqueuing_tables
      · rw [h.counting_eq]
      · rcases h.marking_cases with ⟨impossible, -⟩ | ⟨-, -, rfl, -⟩
        · cases impossible
        · rfl

/-! ## Runs

The lemmas go from one seed to all, by induction over `Handing`. Which seeds others spare is a
parameter: with nobody else at work they spare all of them, and beside other captures those of the
group.
-/

section Runs

variable {Rely : Shared → Shared → Prop} {own : ShadowId → Prop}

/-- While a seed is handed over it is marked, and of the seeds that others spare it is the only one
that changes. -/
theorem seeds_of_handingOver (spares : ∀ s t, Rely s t → ∀ id, own id → t.seed? id = s.seed? id)
    {answer : Except Store.Error Unit} (moved : tellsMoved answer = true) (owned : own seed.id)
    (follows : Follows (Amid Rely Shared.Meets) s (handingOver seed answer) t) :
    ∃ now, s.seed? seed.id = some now ∧
      ∀ id, own id → t.seed? id = if seed.id = id then some now.mark else s.seed? id := by
  obtain ⟨s₁, ⟨u₁, spared₁, enqueued⟩, s₂, ⟨u₂, spared₂, counted⟩, s₃, ⟨u₃, spared₃, met⟩, rfl⟩ :=
    follows
  -- Up to the mark nothing happens to the seeds that others spare.
  have still : ∀ id, own id → u₃.seed? id = s.seed? id := by
    intro id owned
    have first : s₁.seed? id = u₁.seed? id := by
      rw [Shared.seed?, enqueued.enqueuing_tables, Shared.seed?]
    rw [spares _ _ spared₃ id owned, counted.counting_eq, spares _ _ spared₂ id owned, first,
      spares _ _ spared₁ id owned]
  obtain ⟨now, found, after⟩ := met.marked moved
  refine ⟨now, (still seed.id owned).symm.trans found, fun id owned => ?_⟩
  rw [after, still id owned]

/-- **The seeds that are handed over are marked, and no others.** This is so wherever the capture
of the group is stopped, and whatever others do who spare its seeds. -/
theorem seeds_of_handing (own : ShadowId → Prop)
    (spares : ∀ s t, Rely s t → ∀ id, own id → t.seed? id = s.seed? id)
    {seeds : List Seed} {handed : Nat} {obstacle : Option Obstacle}
    (handing : Handing seeds handed obstacle log) (distinct : (seeds.map (·.id)).Nodup)
    (owned : ∀ seed ∈ seeds, own seed.id) (follows : Follows (Amid Rely Shared.Meets) s log t) :
    (∀ seed ∈ seeds.take handed, ∃ now, s.seed? seed.id = some now ∧
      t.seed? seed.id = some now.mark) ∧
    ∀ id, own id → id ∉ (seeds.take handed).map (·.id) → t.seed? id = s.seed? id := by
  induction handing generalizing s with
  | finished =>
      obtain rfl : t = s := follows
      exact ⟨fun seed here => absurd here List.not_mem_nil, fun id _ _ => rfl⟩
  | @stopped seed more obstacle real =>
      refine ⟨fun seed here => absurd here List.not_mem_nil, fun id owned _ => ?_⟩
      refine follows.keeps (P := fun u => u.seed? id = s.seed? id) ?_ rfl
      rintro e here u v ⟨w, spared, met⟩ same
      have kept : v.seed? id = w.seed? id := by
        rw [Shared.seed?, met.tables_of_obstacle here, Shared.seed?]
      rw [kept, spares _ _ spared id owned, same]
  | @handed seed more answer handed obstacle log moved rest ih =>
      obtain ⟨u, first, follows⟩ := follows_append.mp follows
      rw [List.map_cons, List.nodup_cons] at distinct
      obtain ⟨ownedFirst, ownedMore⟩ := List.forall_mem_cons.mp owned
      obtain ⟨now, found, after⟩ := seeds_of_handingOver spares moved ownedFirst first
      obtain ⟨marked, others⟩ := ih distinct.2 ownedMore follows
      -- The seeds behind the first have other ids.
      have behind : ∀ other ∈ more.take handed, seed.id ≠ other.id := by
        intro other here same
        exact distinct.1 (List.mem_map.mpr ⟨other, List.mem_of_mem_take here, same.symm⟩)
      rw [List.take_succ_cons]
      constructor
      · intro other here
        rcases List.mem_cons.mp here with rfl | here
        · refine ⟨now, found, ?_⟩
          have unlisted : other.id ∉ (more.take handed).map (·.id) := by
            intro listed
            obtain ⟨same, there, alike⟩ := List.mem_map.mp listed
            exact behind same there alike.symm
          rw [others other.id ownedFirst unlisted, after other.id ownedFirst, if_pos rfl]
        · obtain ⟨before, stored, kept⟩ := marked other here
          have ownedOther := ownedMore other (List.mem_of_mem_take here)
          rw [after other.id ownedOther, if_neg (behind other here)] at stored
          exact ⟨before, stored, kept⟩
      · intro id owned unlisted
        rw [List.map_cons, List.mem_cons, not_or] at unlisted
        rw [others id owned unlisted.2, after id owned, if_neg (Ne.symm unlisted.1)]

end Runs

/-! ## The request channel -/

/-- The request channel has grown by some requests, and nothing else about the channels has
changed. -/
def GrownBy (requests : List Capture.Request) (before after : Queue.Channels) : Prop :=
  ∃ payloads, requests.map Queue.encodeRequest = payloads.map .ok ∧
    after = { before with requests := before.requests ++ payloads }

theorem GrownBy.refl (channels : Queue.Channels) : GrownBy [] channels channels :=
  ⟨[], rfl, by simp⟩

theorem GrownBy.trans {first rest : List Capture.Request} {before middle after : Queue.Channels}
    (h₁ : GrownBy first before middle) (h₂ : GrownBy rest middle after) :
    GrownBy (first ++ rest) before after := by
  obtain ⟨payloads, encoded, rfl⟩ := h₁
  obtain ⟨payloads', encoded', rfl⟩ := h₂
  exact ⟨payloads ++ payloads', by simp [encoded, encoded'], by simp⟩

/-- A call to enqueue a request appends it, or it fails and changes nothing. -/
theorem Shared.Meets.enqueue_grownBy {request : Capture.Request} {answer : Except Queue.Error Unit}
    (h : s.Meets ⟨.queue (.enqueue request), answer⟩ t) :
    GrownBy (accepted? ⟨.queue (.enqueue request), answer⟩).toList s.channels t.channels := by
  rcases h with ⟨told, rfl⟩ | ⟨⟨⟨error, rfl⟩, -⟩, rfl, -⟩
  · have told : answer = (s.channels.answer (.enqueue request)).1 := told
    subst told
    simp only [Queue.Channels.answer]
    cases encoded : Queue.encodeRequest request with
    | error error => exact .refl _
    | ok payload => exact ⟨[payload], by simp [accepted?, encoded], rfl⟩
  · exact .refl _

/-- The request channel grows by the request that is accepted, if one is. -/
theorem Shared.Meets.grownBy (marks : IsMarking e.call) (h : s.Meets e t) :
    GrownBy (accepted? e).toList s.channels t.channels := by
  obtain ⟨call, answer⟩ := e
  cases call with
  | store call =>
      have same : t.channels = s.channels := by
        rcases h with ⟨-, rfl⟩ | ⟨-, rfl, -⟩ <;> rfl
      rw [same]
      exact .refl _
  | queue call =>
      cases call with
      | enqueue request => exact h.enqueue_grownBy
      | _ => exact marks.elim
  | count event =>
      rcases h with rfl | ⟨impossible, -⟩
      · exact .refl _
      · exact impossible.elim
  | _ => exact marks.elim

/-- **The request channel grows by the requests that are accepted, in their order.** -/
theorem grownBy_of_follows (marks : ∀ e ∈ log, IsMarking e.call)
    (follows : Follows Shared.Meets s log t) :
    GrownBy (requestsOf log) s.channels t.channels := by
  induction log generalizing s with
  | nil =>
      obtain rfl : t = s := follows
      exact .refl _
  | cons e log ih =>
      obtain ⟨u, first, follows⟩ := follows
      obtain ⟨here, later⟩ := List.forall_mem_cons.mp marks
      rw [Service.requestsOf_cons]
      exact (first.grownBy here).trans (ih later follows)

/-! ## A store that fails to mark a seed -/

/-- The answers of a store that does not mark one seed, and fails there. -/
def Shared.serveUnmarked (id : ShadowId) (reason : String) (call : Call) (s : Shared) :
    call.Answer × Shared :=
  match call with
  | .store (.compareAndSet key expected next) =>
    if key = id then (Except.error (.backend reason), s)
    else s.serve "" "" (.store (.compareAndSet key expected next))
  | c => s.serve "" "" c

theorem Shared.meets_serveUnmarked (id : ShadowId) (reason : String) (call : Call) (s : Shared) :
    s.Meets ⟨call, (s.serveUnmarked id reason call).1⟩ (s.serveUnmarked id reason call).2 := by
  unfold Shared.serveUnmarked
  split
  · split
    · refine .inr ⟨⟨⟨_, rfl⟩, .inl rfl⟩, rfl, fun e state told conflict => ?_⟩
      cases told
      cases conflict
    · exact .inl (s.answers_serve "" "" _)
  · exact .inl (s.answers_serve "" "" _)

end Concurrency

end WebCapture
