import WebCapture.Proofs.Concurrency.Lifecycle
import WebCapture.Proofs.Results.Processing

set_option autoImplicit false

/-! # Capturing groups while others act

A group is captured seed by seed, and each seed in two calls, between which others act. They may
process the results for seeds of the group, or capture the same group. What they cannot do is to
take a seed out of the store (`Shared.Retains`), and that is all that a capture relies on.

So a capture does not fail unless the store or the queue does (`captureGroup_ensures`). The mark
of a seed is lost if its result was faster; then the state that the store tells is a later one,
and the capture goes on.
-/

namespace WebCapture.Concurrency

open Program
open Service (Call GroupCapture IsMarking KeepsLifecycle Rules captureAndMark captureGroup
  captureSeed captureSeeds markPending)
open Store (Tables)
open Store.Tables (Evolves)

variable {rules : Rules} {s t u : Shared} {id : ShadowId} {seed : Seed} {faulty : Prop}

/-! ## Seeds that stay stored -/

/-- A seed is stored under an id, and has archive details only as a success. -/
def Shared.Holds (s : Shared) (id : ShadowId) : Prop :=
  ∃ seed, s.seed? id = some seed ∧ seed.isConsistent = true

def Shared.Retains (s t : Shared) : Prop := ∀ id, s.Holds id → t.Holds id

theorem Shared.Retains.refl (s : Shared) : s.Retains s := fun _ held => held

theorem Shared.Retains.trans (h₁ : s.Retains t) (h₂ : t.Retains u) : s.Retains u :=
  fun id held => h₂ id (h₁ id held)

/-- A step of a seed's life does not take it out of the store. -/
theorem retains_of_evolves (h : ∀ id, Evolves (s.seed? id) (t.seed? id)) : s.Retains t := by
  rintro id ⟨seed, found, consistent⟩
  have evolved := h id
  rw [found] at evolved
  have kept := evolved.consistent (by simpa using consistent)
  cases later : t.seed? id with
  | some now =>
      rw [later] at kept
      exact ⟨now, later, by simpa using kept⟩
  | none =>
      rw [later] at evolved
      nomatch evolved

/-- A call that keeps to the lifecycle takes no seed out of the store. -/
theorem Shared.Tries.retains {call : Call} {answer : call.Answer} (keeps : KeepsLifecycle call)
    (h : s.Tries faulty ⟨call, answer⟩ t) : s.Retains t := by
  refine retains_of_evolves fun id => ?_
  rcases h.tables_cases with same | ⟨c, rfl, done⟩
  · rw [Shared.seed?, Shared.seed?, same]
    exact .kept _
  · rw [Shared.seed?, Shared.seed?, done]
    exact Tables.answer_evolves s.tables keeps id

/-- Nobody takes a seed out of the store. -/
theorem Step.retains {s t : System} {event : Event} (keeps : s.KeepsLifecycle)
    (step : Step rules s event t) : s.shared.Retains t.shared :=
  retains_of_evolves (step.evolves keeps)

/-! ## Marks -/

/-- Calls by which groups are captured leave every seed as it is, or mark it. -/
theorem Shared.Tries.marks {call : Call} {answer : call.Answer} (marking : IsMarking call)
    (h : s.Tries faulty ⟨call, answer⟩ t) (id : ShadowId) : s.Leaves id True t := by
  rcases h.tables_cases with same | ⟨c, rfl, done⟩
  · exact Shared.leaves_of_eq (by rw [Shared.seed?, Shared.seed?, same])
  · unfold IsMarking at marking
    split at marking
    · rename_i key same
      cases same
      have set : t.tables = (s.tables.compareAndSet key .notEnqueued .pending).2 := done
      rcases Tables.compareAndSet_atomic key .notEnqueued .pending with ⟨after, h⟩ | ⟨e, h⟩
      · obtain ⟨seed, found, waiting, -, written⟩ := Tables.compareAndSet_eq_ok.mp h
        rw [h] at set
        -- The mark is set under its own key and leaves every other one.
        have marked : ∀ id, t.seed? id =
            if key = id then some { seed with state := .pending } else s.seed? id := by
          intro id
          rw [Shared.seed?, set, written]
          exact Table.find?_put _ _ _ _
        constructor
        · intro before found'
          rw [marked]
          by_cases same : key = id
          · subst same
            obtain rfl : seed = before := Option.some.inj (found.symm.trans found')
            exact ⟨_, if_pos rfl, .inr ⟨trivial, waiting, rfl⟩⟩
          · exact ⟨before, by rw [if_neg same, found'], .refl before⟩
        · intro absent
          have other : key ≠ id := by
            rintro rfl
            exact nomatch found.symm.trans absent
          rw [marked, if_neg other, absent]
      · rw [h] at set
        exact Shared.leaves_of_eq (by rw [Shared.seed?, Shared.seed?, set])
    · contradiction
    · contradiction
    · exact marking.elim

/-- A request for a seed with an id and an address is accepted. -/
theorem captureSeed_ensures (named : seed.id ≠ "") (addressed : seed.url ≠ "") :
    (captureSeed seed).Ensures (Amid Shared.Retains Shared.Answers)
      (fun answer t => answer = .ok () ∧ s.Retains t) s := by
  rintro answer t ⟨u, retained, told, rfl⟩
  have complete : (Capture.Request.ofSeed seed).gap? = none := by
    simp [Capture.Request.gap?, Capture.Request.ofSeed, named, addressed]
  have encoded : Queue.encodeRequest (Capture.Request.ofSeed seed) =
      .ok (Text.Utf8.ofString (Capture.Request.ofSeed seed).text) := by
    rw [Queue.encodeRequest, complete]
  have accepted : (u.channels.answer (.enqueue (Capture.Request.ofSeed seed))).1 = .ok () := by
    simp only [Queue.Channels.answer, encoded]
    rfl
  obtain rfl : answer = .ok () := told.trans accepted
  rintro counted w ⟨u', retained', rfl⟩
  exact ⟨rfl, retained.trans retained'⟩

/-- To mark a seed that is stored does not fail, whatever it has become. -/
theorem markPending_ensures (held : s.Holds seed.id) :
    (markPending seed).Ensures (Amid Shared.Retains Shared.Answers)
      (fun answer t => answer = .ok () ∧ s.Retains t) s := by
  unfold markPending
  rw [ensures_bind]
  refine transition_ensures rfl ?_
  rintro answer t ⟨u, retained, answered⟩
  have tried : u.Tries False _ t := .inl answered
  have keeps : KeepsLifecycle (.store (.compareAndSet seed.id .notEnqueued .pending)) := rfl
  have kept : s.Retains t := retained.trans (tried.retains keeps)
  obtain ⟨now, found, consistent⟩ := retained seed.id held
  rcases tried.compareAndSet found consistent rfl with
    ⟨-, rfl, -⟩ | ⟨advanced, rfl, -⟩ | ⟨impossible, -⟩
  · exact ⟨rfl, kept⟩
  · -- Its result came first, or somebody else has marked it.
    dsimp only [Except.mapError, Service.SeedError.conflictingState?,
      Store.Error.conflictingState?]
    rw [if_pos advanced]
    exact ⟨rfl, kept⟩
  · exact impossible.elim

theorem captureAndMark_ensures (named : seed.id ≠ "") (addressed : seed.url ≠ "")
    (held : s.Holds seed.id) :
    (captureAndMark seed).Ensures (Amid Shared.Retains Shared.Answers)
      (fun answer t => answer = .ok () ∧ s.Retains t) s := by
  unfold captureAndMark
  rw [ensures_bind]
  refine (captureSeed_ensures named addressed).mono ?_
  rintro answer t ⟨rfl, retained⟩
  refine (markPending_ensures (retained seed.id held)).mono ?_
  rintro answer u ⟨rfl, retained'⟩
  exact ⟨rfl, retained.trans retained'⟩

/-- Seeds that can be requested and are stored. -/
def Shared.Knows (s : Shared) (seeds : List Seed) : Prop :=
  ∀ seed ∈ seeds, seed.id ≠ "" ∧ seed.url ≠ "" ∧ s.Holds seed.id

theorem captureSeeds_ensures {seeds : List Seed} (known : s.Knows seeds) (total : Nat)
    (done : GroupCapture) :
    (captureSeeds total done seeds).Ensures (Amid Shared.Retains Shared.Answers)
      (fun answer _ => ∃ capture, answer = .ok capture) s := by
  induction seeds generalizing done s with
  | nil => exact ⟨done, rfl⟩
  | cons seed more ih =>
      obtain ⟨⟨named, addressed, held⟩, others⟩ := List.forall_mem_cons.mp known
      unfold captureSeeds
      split
      · exact ih others _
      · rw [ensures_bind]
        refine (captureAndMark_ensures named addressed held).mono ?_
        rintro answer t ⟨rfl, retained⟩
        refine ih (fun seed h => ?_) _
        obtain ⟨named, addressed, held⟩ := others seed h
        exact ⟨named, addressed, retained seed.id held⟩

/-- **To capture a group does not fail**, whatever has become of its seeds and whatever others do
meanwhile, if the store and the queue do not fail. -/
theorem captureGroup_ensures {group : SeedGroup} (known : s.Knows group.seeds) :
    (captureGroup group).Ensures (Amid Shared.Retains Shared.Answers)
      (fun answer _ => ∃ capture, answer = .ok capture) s :=
  captureSeeds_ensures known _ _

end WebCapture.Concurrency
