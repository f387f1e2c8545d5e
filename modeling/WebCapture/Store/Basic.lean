import WebCapture.Seed.Basic

set_option autoImplicit false

/-! # The contract of seed stores

The service keeps its seeds in a store and relies on nothing but the calls named here. Each call
is one atomic step.

There are several stores; they share the checks of new seeds and the errors. A new seed has an id
and an address, waits, and has no archive details. Ids are never given to a second seed. A change
of a state is a compare-and-set where the caller has seen the state, and it never takes archive
details from a success.

A call that fails has changed nothing. For the stores of this library that is proved in
`Proofs/Store/Integrity` and, across stores, in `Proofs/Store/Mirror`.
-/

namespace WebCapture.Store

/-- Why a record is not accepted. -/
inductive Violation where
  | emptyUrl
  | emptySeedId
  | emptyGroupId
  | emptyArchiveUrl
  | notNew (id : ShadowId) (state : Seed.State)
  | archivedAtOnce (id : ShadowId)
  /-- The seed has archive details, which only a successful seed may have. -/
  | archivedCannotBecome (id : ShadowId) (state : Seed.State)
  /-- The seed is not successful, so that it may have no archive details. -/
  | archiveNeedsSuccess (id : ShadowId) (state : String)
  /-- Any other reason. -/
  | other (reason : String)
  deriving DecidableEq, Repr

def Violation.message : Violation → String
  | .emptyUrl => "seed URL is empty"
  | .emptySeedId => "seed shadow id is empty"
  | .emptyGroupId => "group shadow id is empty"
  | .emptyArchiveUrl => "archival URL is empty"
  | .notNew id state => "new seed " ++ id ++ " must be NotEnqueued, is " ++ state.name
  | .archivedAtOnce id => "new seed " ++ id ++ " must not carry archive details"
  | .archivedCannotBecome id state =>
    "seed " ++ id ++ " has archive details and cannot become " ++ state.name
  | .archiveNeedsSuccess id state =>
    "seed " ++ id ++ " is " ++ state ++ ", archive details need DoneSuccess"
  | .other reason => reason

inductive Error where
  | seedNotFound (id : ShadowId)
  | groupNotFound (id : ShadowId)
  | duplicateId (id : ShadowId)
  | emptyBatch
  /-- The seed was not in the state in which the change was to find it. -/
  | stateConflict (id : ShadowId) (expected actual : Seed.State)
  | violation (violation : Violation)
  | backend (reason : String)
  deriving DecidableEq, Repr

namespace Error

def message : Error → String
  | seedNotFound id => "seed " ++ id ++ " not found"
  | groupNotFound id => "seeds group " ++ id ++ " not found"
  | duplicateId id => "shadow id " ++ id ++ " is already taken"
  | emptyBatch => "received batch with zero seeds"
  | stateConflict id expected actual =>
    "seed " ++ id ++ " is " ++ actual.name ++ ", expected " ++ expected.name
  | violation v => "record rejected: " ++ v.message
  | backend reason => "storage backend error: " ++ reason

def conflictingState? : Error → Option Seed.State
  | stateConflict _ _ actual => some actual
  | _ => none

end Error

inductive Call where
  /-- Store new seeds, or none of them. -/
  | save (seeds : List Seed)
  /-- Store a new group with its seeds, or nothing. -/
  | saveGroup (group : SeedGroup)
  | getGroup (id : ShadowId)
  | getSeed (id : ShadowId)
  | updateState (id : ShadowId) (state : Seed.State)
  /-- Change the state of a seed that is still in the expected one. -/
  | compareAndSet (id : ShadowId) (expected next : Seed.State)
  | updateArchive (id : ShadowId) (archive : Seed.Archive)
  deriving DecidableEq, Repr

def Call.Answer : Call → Type
  | save _ => Except Error Unit
  | saveGroup _ => Except Error Unit
  | getGroup _ => Except Error SeedGroup
  | getSeed _ => Except Error Seed
  | updateState _ _ => Except Error Unit
  | compareAndSet _ _ _ => Except Error Unit
  | updateArchive _ _ => Except Error Unit

def Call.failure (error : Error) : (call : Call) → call.Answer
  | save _ => Except.error error
  | saveGroup _ => Except.error error
  | getGroup _ => Except.error error
  | getSeed _ => Except.error error
  | updateState _ _ => Except.error error
  | compareAndSet _ _ _ => Except.error error
  | updateArchive _ _ => Except.error error

inductive Operation where
  | save
  | saveGroup
  | getGroup
  | getSeed
  | updateState
  | compareAndSet
  | updateArchive
  deriving DecidableEq, Repr

def Call.operation : Call → Operation
  | save _ => .save
  | saveGroup _ => .saveGroup
  | getGroup _ => .getGroup
  | getSeed _ => .getSeed
  | updateState _ _ => .updateState
  | compareAndSet _ _ _ => .compareAndSet
  | updateArchive _ _ => .updateArchive

def newSeedViolation? (seed : Seed) : Option Violation :=
  if seed.url = "" then some .emptyUrl
  else if seed.id = "" then some .emptySeedId
  else if seed.state ≠ .notEnqueued then some (.notNew seed.id seed.state)
  else if seed.archive.isSome then some (.archivedAtOnce seed.id)
  else none

/-- Checks seeds one after the other: each must be fit to be stored, and its id must be neither
taken, as `taken` tells, nor that of a seed before it. -/
def checkNewSeeds (taken : ShadowId → Bool) (before : List ShadowId) :
    List Seed → Except Error Unit
  | [] => .ok ()
  | seed :: more =>
    match newSeedViolation? seed with
    | some v => .error (.violation v)
    | none =>
      if taken seed.id || before.contains seed.id then .error (.duplicateId seed.id)
      else checkNewSeeds taken (seed.id :: before) more

def checkBatch (taken : ShadowId → Bool) (seeds : List Seed) : Except Error Unit :=
  if seeds = [] then .error .emptyBatch else checkNewSeeds taken [] seeds

end WebCapture.Store
