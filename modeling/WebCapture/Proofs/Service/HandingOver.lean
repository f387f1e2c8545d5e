import WebCapture.Proofs.Service.Exchanges
import WebCapture.Proofs.Service.Keeping
import WebCapture.Proofs.Service.Submitting

set_option autoImplicit false

/-! # Seeds are handed over before they are marked

A seed that waits is moved by a group capture, and then its request was accepted before
(`captureGroup_awaits`), or by the processing of a result of a capture that has come to its end
(`processResult_moves_not`). Whoever is told that a group was captured has handed over all its
waiting seeds (`accepted_mem_of_captureGroup_runs`).

The order of the two calls matters if the service ends between them. A request without a mark is
made again with the next capture, whereas a mark without a request would never be noticed.
-/

namespace WebCapture.Service

open Program

variable {rules : Rules} {id : ShadowId} {log : Log} {seed : Seed}

/-! ## Requests -/

def accepted (request : Capture.Request) : Exchange Call Call.Answer :=
  ⟨.queue (.enqueue request), (Except.ok () : Except Queue.Error Unit)⟩

/-- `captureSeed` succeeds only after its request was accepted. -/
theorem accepted_mem_of_captureSeed_runs (h : (captureSeed seed).Runs log (.ok ())) :
    accepted (Capture.Request.ofSeed seed) ∈ log := by
  obtain ⟨answer, rest, rfl, h⟩ := h
  cases answer with
  | ok => exact List.mem_cons_self
  | error e =>
      obtain ⟨-, -, -, -, impossible⟩ := h
      cases impossible

theorem accepted_mem_of_captureAndMark_runs (h : (captureAndMark seed).Runs log (.ok ())) :
    accepted (Capture.Request.ofSeed seed) ∈ log := by
  obtain ⟨captured, first, rest, rfl, hc, h⟩ := runs_bind.mp h
  cases captured with
  | ok => exact List.mem_append_left _ (accepted_mem_of_captureSeed_runs hc)
  | error e => cases h.2

theorem accepted_mem_of_captureSeeds_runs {total : Nat} {seeds : List Seed}
    {done capture : GroupCapture} (h : (captureSeeds total done seeds).Runs log (.ok capture))
    (listed : seed ∈ seeds) (waiting : seed.state = .notEnqueued) :
    accepted (Capture.Request.ofSeed seed) ∈ log := by
  induction seeds generalizing done log with
  | nil => cases listed
  | cons first more ih =>
      unfold captureSeeds at h
      split at h
      · -- The first seed is skipped, so it is not the one that waits.
        rename_i skipped
        have other : seed ≠ first := by
          rintro rfl
          exact skipped waiting
        exact ih h ((List.mem_cons.mp listed).resolve_left other)
      · obtain ⟨captured, log₁, log₂, rfl, hc, h⟩ := runs_bind.mp h
        cases captured with
        | error e => cases h.2
        | ok =>
            rcases List.mem_cons.mp listed with rfl | later
            · exact List.mem_append_left _ (accepted_mem_of_captureAndMark_runs hc)
            · exact List.mem_append_right _ (ih h later)

/-- **A group capture succeeds only after the requests of all its waiting seeds were accepted.** -/
theorem accepted_mem_of_captureGroup_runs {group : SeedGroup} {capture : GroupCapture}
    (h : (captureGroup group).Runs log (.ok capture)) (listed : seed ∈ group.seeds)
    (waiting : seed.state = .notEnqueued) : accepted (Capture.Request.ofSeed seed) ∈ log :=
  accepted_mem_of_captureSeeds_runs h listed waiting

/-! ## Moves -/

def Moves (id : ShadowId) : Call → Prop
  | .store (.compareAndSet key _ _) => key = id
  | _ => False

def Requests (id : ShadowId) (e : Exchange Call Call.Answer) : Prop :=
  ∃ request : Capture.Request, request.id = id ∧ e = accepted request

/-- To enqueue a request moves nothing. -/
theorem captureSeed_moves_not (seed : Seed) : (captureSeed seed).Only fun c => ¬Moves id c := by
  refine ⟨not_false, fun answer => ?_⟩
  cases answer <;> exact ⟨not_false, fun _ => only_pure⟩

/-- To capture other seeds moves nothing here. -/
theorem IsCaptureOf.moves_not {seeds : List Seed} {c : Call} (h : IsCaptureOf seeds c)
    (other : ∀ seed ∈ seeds, seed.id ≠ id) : ¬Moves id c := by
  unfold IsCaptureOf at h
  split at h
  · obtain ⟨seed, here, same⟩ := h
    exact fun moves => other seed here (same.trans moves)
  · exact not_false
  · exact not_false
  · exact h.elim

/-- A seed is marked only after a request for it was accepted. -/
theorem captureAndMark_awaits (seed : Seed) :
    (captureAndMark seed).OnlyAfter (Requests id) (Moves id) := by
  refine onlyAfter_bind (captureSeed_moves_not seed).onlyAfter fun log captured runs => ?_
  cases captured with
  | error e => exact .inr onlyAfter_pure
  | ok =>
      by_cases same : seed.id = id
      · have handed := accepted_mem_of_captureSeed_runs runs
        exact .inl ⟨_, handed, _, same, rfl⟩
      · have marks := markPending_captures (List.mem_singleton_self seed)
        have others : ∀ other ∈ [seed], other.id ≠ id := by
          intro other here
          rwa [List.mem_singleton.mp here]
        exact .inr (marks.mono fun _ captures => captures.moves_not others).onlyAfter

theorem captureSeeds_awaits (total : Nat) (seeds : List Seed) (done : GroupCapture) :
    (captureSeeds total done seeds).OnlyAfter (Requests id) (Moves id) := by
  induction seeds generalizing done with
  | nil => exact onlyAfter_pure
  | cons seed more ih =>
      unfold captureSeeds
      split
      · exact ih _
      · refine onlyAfter_bind (captureAndMark_awaits seed) fun log captured runs => .inr ?_
        cases captured with
        | error e => exact onlyAfter_pure
        | ok => exact ih _

/-- **A group capture moves a seed only after a request for it was accepted.** -/
theorem captureGroup_awaits (group : SeedGroup) :
    (captureGroup group).OnlyAfter (Requests id) (Moves id) :=
  captureSeeds_awaits _ group.seeds _

/-- The result of a capture that goes on moves nothing. -/
theorem processResult_moves_not {result : Capture.Result} (unfinished : result.done = false) :
    (processResult rules result).Only fun c => ¬Moves id c := by
  have idle : ∀ state archived, result.decision state archived = .unfinished := by
    intro state archived
    simp [Capture.Result.decision, Capture.Result.target?, unfinished]
  have reads : (getSeed result.id).Only fun c => ¬Moves id c := ⟨not_false, fun _ => only_pure⟩
  refine only_bind reads fun answer => ?_
  cases answer with
  | error e => exact only_pure
  | ok seed =>
      dsimp only
      rw [idle]
      exact only_pure

/-- Work on another seed moves nothing here. -/
theorem IsWorkOn.moves_not {key : ShadowId} {c : Call} (h : IsWorkOn key c) (other : key ≠ id) :
    ¬Moves id c := by
  cases c with
  | store c =>
      cases c with
      | compareAndSet seedId expected next =>
          intro moves
          exact other (h.1.symm.trans moves)
      | _ => exact not_false
  | _ => exact not_false

/-- A submission moves nothing. -/
theorem IsSubmission.moves_not {strict : Bool} {lines : List String} {c : Call}
    (h : IsSubmission strict lines c) : ¬Moves id c := by
  cases c with
  | store c => cases c <;> first | exact not_false | exact h.elim
  | _ => exact not_false

end WebCapture.Service
