import WebCapture.Service.Call
import WebCapture.Service.Error
import WebCapture.Text.Blank

set_option autoImplicit false

/-! # Submitting seeds

A submission is a text with one address on each line. It is taken as a whole or not at all: the
sizes are checked first, then every address, and only then anything is stored.

Lines are told by their number, counted from one; an empty line is a line like any other. The
first line that is refused ends the submission. The sizes are looked at for the text as a whole,
in bytes and in lines.

The functions about seeds that are kept follow at the end. They are those that others use besides
the service itself: a state can be set by hand, as far as the lifecycle leads there.
-/

namespace WebCapture.Service

/-- The rules by which submissions are judged and captures archived. -/
structure Rules where
  /-- How many bytes an address may have. -/
  maxUrlLength : Nat
  /-- How many addresses a submission may have. -/
  maxLines : Nat
  /-- Whether an address must name its scheme. -/
  strict : Bool
  /-- What stands in front of the addresses of replays. -/
  archiveBase : String
  deriving DecidableEq, Repr

/-- How many bytes a submission may have, as far as 64 bits can tell. -/
def Rules.sizeLimit (rules : Rules) : Nat :=
  min (rules.maxUrlLength * rules.maxLines) 0xFFFFFFFFFFFFFFFF

def linesOf (text : String) : List String :=
  (text.toList.splitOn '\n').map String.ofList

/-- Admits all lines, of which the first has the given number, or refuses the first line that
is not to be admitted. -/
def admitLines (strict : Bool) (number : Nat) : List String → Except SeedError (List Url.CleanUrl)
  | [] => .ok []
  | line :: more =>
    match Url.vet line strict with
    | .error refusal => .error (.invalidUrl number refusal)
    | .ok url =>
      match admitLines strict (number + 1) more with
      | .error e => .error e
      | .ok urls => .ok (url :: urls)

def seedsFor : List Url.CleanUrl → Work (List Seed)
  | [] => pure []
  | url :: more => do
    let id ← Work.freshSeedId
    let seeds ← seedsFor more
    return Seed.ofUrl url.text id :: seeds

/-- Stores new seeds, as a group or each on its own. A group gets its id before it is stored;
seeds on their own are told under the id of a group that is not stored. -/
def storeSeeds (seeds : List Seed) (grouped : Bool) : Work (Except Store.Error SeedGroup) :=
  if grouped then do
    let group : SeedGroup := ⟨seeds, ← Work.freshGroupId⟩
    match ← Work.saveGroup group with
    | .error e => return .error e
    | .ok () => return .ok group
  else do
    match ← Work.saveSeeds seeds with
    | .error e => return .error e
    | .ok () => return .ok ⟨seeds, ← Work.freshGroupId⟩

/-- Submits lines, whose sizes are not checked. -/
def submitLines (rules : Rules) (lines : List String) (grouped : Bool) :
    Work (Except SeedError SeedGroup) :=
  if lines = [] then return .error .emptyInput
  else
    match admitLines rules.strict 1 lines with
    | .error e => do
      Work.count .rejected
      return .error e
    | .ok urls => do
      let seeds ← seedsFor urls
      match ← storeSeeds seeds grouped with
      | .error e => return .error (.store e)
      | .ok group =>
        Work.count (.submitted group.seeds.length)
        return .ok group

def sizeError? (rules : Rules) (text : String) : Option SeedError :=
  let size := text.utf8ByteSize
  let lines := (linesOf text).length
  if text = "" then some .emptyInput
  else if rules.sizeLimit < size then some (.inputTooLarge size rules.sizeLimit)
  else if rules.maxLines < lines then some (.tooManyLines lines rules.maxLines)
  else none

def submit (rules : Rules) (text : String) (grouped : Bool) :
    Work (Except SeedError SeedGroup) :=
  match sizeError? rules text with
  | some e => return .error e
  | none => submitLines rules (linesOf text) grouped

/-! ## Keeping seeds -/

def getGroup (id : ShadowId) : Work (Except SeedError SeedGroup) := do
  return (← Work.getGroup id).mapError .store

def getSeed (id : ShadowId) : Work (Except SeedError Seed) := do
  return (← Work.getSeed id).mapError .store

/-- Moves a seed from one state to another, if the lifecycle leads there and the seed is still
in the first state. -/
def transition (id : ShadowId) (source target : Seed.State) : Work (Except SeedError Unit) := do
  if source.leadsTo target then
    return (← Work.compareAndSet id source target).mapError .store
  else return .error (.illegalTransition source target)

/-- Moves a seed to a state, if the lifecycle leads there. -/
def updateState (id : ShadowId) (state : Seed.State) : Work (Except SeedError Unit) := do
  match ← Work.getSeed id with
  | .error e => return .error (.store e)
  | .ok seed => transition id seed.state state

def archiveOf (rules : Rules) (record : Seed.CaptureRecord) : Except SeedError Seed.Archive :=
  (record.archive rules.archiveBase).mapError .record

def updateArchive (id : ShadowId) (archive : Seed.Archive) : Work (Except SeedError Unit) := do
  return (← Work.updateArchive id archive).mapError .store

end WebCapture.Service
