import WebCapture.Proofs.Service.Submitting
import WebCapture.Proofs.Store.Tables
import WebCapture.Service.Capture

set_option autoImplicit false

/-! # The service keeps to the lifecycle

No part of the service asks its store to move a seed where the lifecycle does not lead, or to move
it whatever its state: it never calls `updateState` of the store, and each compare-and-set is one
step of the lifecycle. Work on one seed that is stored already does nothing else, but for counting
what was applied (`IsWorkOn`); to capture seeds takes requests and marks only (`IsMarking`), and
these are for no other seeds (`IsCaptureOf`).

These are statements about the calls that the work makes, whatever comes back from them. They are
used wherever only the kind of the calls matters: by `Proofs/Concurrency/Lifecycle` for what
becomes of a seed in the course of time, and by `Proofs/Provenance/Requests` for what is stored.
-/

namespace WebCapture.Service

open Program

/-- The call is none of the store, or keeps to the lifecycle. -/
def KeepsLifecycle : Call → Prop
  | .store c => c.KeepsLifecycle
  | _ => True

/-- A call of the store that keeps to the lifecycle, or one that counts an applied result. -/
def IsStoreWork : Call → Prop
  | .store c => c.KeepsLifecycle
  | .count (.result _) => True
  | _ => False

/-- A call of the store that reads one seed, moves it as the lifecycle leads or writes its archive
details, or a call that counts an applied result. -/
def IsWorkOn (id : ShadowId) : Call → Prop
  | .store (.getSeed key) => key = id
  | .store (.compareAndSet key expected next) => key = id ∧ expected.leadsTo next = true
  | .store (.updateArchive key _) => key = id
  | .count (.result _) => True
  | _ => False

/-- A call that hands a seed to the crawler, marks it as pending, or counts a request. -/
def IsMarking : Call → Prop
  | .store (.compareAndSet _ .notEnqueued .pending) => True
  | .queue (.enqueue _) => True
  | .count (.enqueued _) => True
  | _ => False

/-- A call that hands one of the seeds to the crawler, marks it as pending, or counts a request. -/
def IsCaptureOf (seeds : List Seed) : Call → Prop
  | .store (.compareAndSet key .notEnqueued .pending) => ∃ seed ∈ seeds, seed.id = key
  | .queue (.enqueue request) => ∃ seed ∈ seeds, request = Capture.Request.ofSeed seed
  | .count (.enqueued _) => True
  | _ => False

/-- Work on one seed is work on the store. -/
theorem IsWorkOn.storeWork {id : ShadowId} {c : Call} (h : IsWorkOn id c) : IsStoreWork c := by
  cases c with
  | store c =>
      cases c with
      | getSeed key => trivial
      | compareAndSet key expected next => exact h.2
      | updateArchive key archive => trivial
      | _ => exact h.elim
  | count event =>
      cases event with
      | result state => trivial
      | _ => exact h.elim
  | _ => exact h.elim

/-- Work on the store keeps to the lifecycle. -/
theorem IsStoreWork.keeps {c : Call} (h : IsStoreWork c) : KeepsLifecycle c := by
  cases c with
  | store c => exact h
  | _ => trivial

/-- To hand seeds over and to mark them keeps to the lifecycle. -/
theorem IsMarking.keeps {c : Call} (h : IsMarking c) : KeepsLifecycle c := by
  cases c with
  | store c =>
      unfold IsMarking at h
      split at h
      · rename_i same
        cases same
        exact rfl
      · contradiction
      · contradiction
      · exact h.elim
  | _ => trivial

/-! ## Work on one seed

One lemma for each function of the service, in the order in which they use each other.
-/

theorem getSeed_workOn (id : ShadowId) : (getSeed id).Only (IsWorkOn id) :=
  ⟨rfl, fun _ => trivial⟩

theorem updateArchive_workOn (id : ShadowId) (archive : Seed.Archive) :
    (updateArchive id archive).Only (IsWorkOn id) :=
  ⟨rfl, fun _ => trivial⟩

theorem transition_workOn (id : ShadowId) (source target : Seed.State) :
    (transition id source target).Only (IsWorkOn id) := by
  unfold transition
  split
  · -- The only compare-and-set of the service stands behind this check.
    rename_i leads
    exact ⟨⟨rfl, leads⟩, fun _ => trivial⟩
  · exact only_pure

theorem updateState_workOn (id : ShadowId) (state : Seed.State) :
    (updateState id state).Only (IsWorkOn id) := by
  refine ⟨rfl, fun answer => ?_⟩
  cases answer with
  | error e => exact only_pure
  | ok seed => exact transition_workOn id seed.state state

theorem reconcile_workOn (id : ShadowId) (needed : Bool) :
    (reconcile id needed).Only (IsWorkOn id) := by
  unfold reconcile
  split
  · refine only_bind (transition_workOn id _ _) fun marked => ?_
    cases marked with
    | ok => exact only_pure
    | error e =>
        dsimp only
        split <;> exact only_pure
  · exact only_pure

theorem finish_workOn (id : ShadowId) (target : Seed.State) (archive : Option Seed.Archive) :
    (finish id target archive).Only (IsWorkOn id) := by
  refine only_bind (transition_workOn id _ _) fun moved => ?_
  cases moved with
  | error e => exact only_pure
  | ok =>
      cases archive with
      | none => exact only_pure
      | some archive => exact updateArchive_workOn id archive

theorem advance_workOn (rules : Rules) (result : Capture.Result) (target : Seed.State)
    (reconciling : Bool) :
    (advance rules result target reconciling).Only (IsWorkOn result.id) := by
  unfold advance
  split
  · exact only_pure
  · refine only_bind (reconcile_workOn _ _) fun marked => ?_
    cases marked with
    | error e => exact only_pure
    | ok =>
        refine only_bind (finish_workOn _ _ _) fun finished => ?_
        cases finished with
        | error e => exact only_pure
        | ok => exact ⟨trivial, fun _ => only_pure⟩

theorem recordMissingArchive_workOn (rules : Rules) (result : Capture.Result) :
    (recordMissingArchive rules result).Only (IsWorkOn result.id) := by
  unfold recordMissingArchive
  split
  · exact only_pure
  · split
    · exact only_pure
    · refine only_bind (updateArchive_workOn _ _) fun written => ?_
      cases written <;> exact only_pure

/-- To process a result is work on its seed. -/
theorem processResult_workOn (rules : Rules) (result : Capture.Result) :
    (processResult rules result).Only (IsWorkOn result.id) := by
  refine only_bind (getSeed_workOn result.id) fun read => ?_
  cases read with
  | error e => exact only_pure
  | ok seed =>
      dsimp only
      split
      · exact advance_workOn rules result _ _
      · exact only_pure
      · exact only_pure
      · exact recordMissingArchive_workOn rules result

/-- To process a result takes calls of the store only, and counts what was applied. -/
theorem processResult_storeWork (rules : Rules) (result : Capture.Result) :
    (processResult rules result).Only IsStoreWork :=
  (processResult_workOn rules result).mono fun _ => IsWorkOn.storeWork

/-- Work on one seed keeps to the lifecycle. -/
theorem keeps_of_workOn {α : Type} {work : Work α} {id : ShadowId} (h : work.Only (IsWorkOn id)) :
    work.Only KeepsLifecycle :=
  h.mono fun _ workOn => workOn.storeWork.keeps

/-! ## Submitting -/

/-- What a submission stores is new, which keeps to the lifecycle. -/
theorem IsSubmission.keeps {strict : Bool} {lines : List String} {c : Call}
    (h : IsSubmission strict lines c) : KeepsLifecycle c := by
  cases c with
  | store c =>
      cases c with
      | save seeds => trivial
      | saveGroup group => trivial
      | _ => exact h.elim
  | _ => trivial

/-! ## Capturing -/

variable {seeds : List Seed} {seed : Seed}

/-- To capture some seeds is to hand seeds over and to mark them. -/
theorem IsCaptureOf.marking {c : Call} (h : IsCaptureOf seeds c) : IsMarking c := by
  unfold IsCaptureOf at h
  split at h
  · trivial
  · trivial
  · trivial
  · exact h.elim

theorem captureSeed_captures (here : seed ∈ seeds) :
    (captureSeed seed).Only (IsCaptureOf seeds) := by
  refine ⟨⟨seed, here, rfl⟩, fun answer => ?_⟩
  cases answer <;> exact ⟨trivial, fun _ => only_pure⟩

theorem markPending_captures (here : seed ∈ seeds) :
    (markPending seed).Only (IsCaptureOf seeds) := by
  have marks : (transition seed.id .notEnqueued .pending).Only (IsCaptureOf seeds) :=
    ⟨⟨seed, here, rfl⟩, fun _ => trivial⟩
  refine only_bind marks fun marked => ?_
  cases marked with
  | ok => exact only_pure
  | error e =>
      dsimp only
      split
      · split <;> exact only_pure
      · exact only_pure

theorem captureAndMark_captures (here : seed ∈ seeds) :
    (captureAndMark seed).Only (IsCaptureOf seeds) := by
  refine only_bind (captureSeed_captures here) fun captured => ?_
  cases captured with
  | error e => exact only_pure
  | ok => exact markPending_captures here

theorem captureSeeds_captures {part : List Seed} (here : ∀ seed ∈ part, seed ∈ seeds) (total : Nat)
    (done : GroupCapture) : (captureSeeds total done part).Only (IsCaptureOf seeds) := by
  induction part generalizing done with
  | nil => exact only_pure
  | cons seed more ih =>
      rw [List.forall_mem_cons] at here
      unfold captureSeeds
      split
      · exact ih here.2 _
      · refine only_bind (captureAndMark_captures here.1) fun captured => ?_
        cases captured with
        | error e => exact only_pure
        | ok => exact ih here.2 _

/-- **To capture a group hands over and marks its seeds**, and does nothing else. -/
theorem captureGroup_captures (group : SeedGroup) :
    (captureGroup group).Only (IsCaptureOf group.seeds) :=
  captureSeeds_captures (fun _ here => here) _ _

theorem captureGroup_marks (group : SeedGroup) : (captureGroup group).Only IsMarking :=
  (captureGroup_captures group).mono fun _ => IsCaptureOf.marking

/-- To capture seeds keeps to the lifecycle. -/
theorem keeps_of_captures {α : Type} {work : Work α} (h : work.Only (IsCaptureOf seeds)) :
    work.Only KeepsLifecycle :=
  h.mono fun _ captures => captures.marking.keeps

end WebCapture.Service
