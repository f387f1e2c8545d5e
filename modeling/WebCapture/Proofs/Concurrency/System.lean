import WebCapture.Proofs.Program
import WebCapture.Queue.Channels
import WebCapture.Service.Capture
import WebCapture.Store.Tables

set_option autoImplicit false

/-! # Many callers at once

Any number of callers use the service over one store and one pair of channels. A `Step` of the
whole `System` is one call of one caller, which is atomic; between two of them any other caller
may take its turn. A call may fail, whether or not it took effect, and a caller may crash and
never go on. The crawler takes requests and pushes results whenever it likes. A listener is no
kind of its own here: it is callers that process results, one after the other.

`Run` holds all that has happened since the store was empty, so that statements can speak of the
past: `trail` is the sequence of states that a seed has gone through, and `applied` are the
results that were told to have been applied to it. A `Phase` begins over any store with nobody at
work, and only some events are allowed in it.
-/

namespace WebCapture.Concurrency

open Service (CaptureError Call GroupCapture Outcome Rules SeedError Work)

/-! ## Callers

A `Job` is what can be asked of the service, and its work is the program of the service for it.
Jobs are all that callers do; a caller that does two things is two callers, of which the second
has begun later.
-/

inductive Job where
  | submit (text : String) (grouped : Bool)
  | submitLines (lines : List String) (grouped : Bool)
  | getGroup (id : ShadowId)
  | getSeed (id : ShadowId)
  | updateState (id : ShadowId) (state : Seed.State)
  | transition (id : ShadowId) (source target : Seed.State)
  | updateArchive (id : ShadowId) (archive : Seed.Archive)
  | captureSeed (seed : Seed)
  | captureGroup (group : SeedGroup)
  | processResult (result : Capture.Result)

def Job.Answer : Job → Type
  | submit _ _ => Except SeedError SeedGroup
  | submitLines _ _ => Except SeedError SeedGroup
  | getGroup _ => Except SeedError SeedGroup
  | getSeed _ => Except SeedError Seed
  | updateState _ _ => Except SeedError Unit
  | transition _ _ _ => Except SeedError Unit
  | updateArchive _ _ => Except SeedError Unit
  | captureSeed _ => Except CaptureError Unit
  | captureGroup _ => Except CaptureError GroupCapture
  | processResult _ => Except SeedError Outcome

def Job.work (rules : Rules) : (job : Job) → Work job.Answer
  | submit text grouped => Service.submit rules text grouped
  | submitLines lines grouped => Service.submitLines rules lines grouped
  | getGroup id => Service.getGroup id
  | getSeed id => Service.getSeed id
  | updateState id state => Service.updateState id state
  | transition id source target => Service.transition id source target
  | updateArchive id archive => Service.updateArchive id archive
  | captureSeed seed => Service.captureSeed seed
  | captureGroup group => Service.captureGroup group
  | processResult result => Service.processResult rules result

/-- A job that is being done, and what is left to do. -/
structure Caller where
  job : Job
  rest : Work job.Answer

/-! ## What the callers share

A call of the store that fails may have been done nevertheless: the answer may have been lost on
its way back. `Shared.Fails` allows both.
-/

abbrev Exchange : Type := WebCapture.Exchange Call Call.Answer

structure Shared where
  tables : Store.Tables
  channels : Queue.Channels

/-- A call is done and answered. What is neither of the store nor of the queue has no effect on
them, and is answered in any way. -/
def Shared.Answers (s : Shared) : Exchange → Shared → Prop
  | ⟨.store call, answer⟩, t =>
    answer = (s.tables.answer call).1 ∧ t = { s with tables := (s.tables.answer call).2 }
  | ⟨.queue call, answer⟩, t =>
    answer = (s.channels.answer call).1 ∧ t = { s with channels := (s.channels.answer call).2 }
  | _, t => t = s

/-- A call of the store or of the queue fails with any error, and is done or not. -/
def Shared.Fails (s : Shared) : Exchange → Shared → Prop
  | ⟨.store call, answer⟩, t =>
    (∃ error, answer = call.failure error) ∧
      (t = s ∨ t = { s with tables := (s.tables.answer call).2 })
  | ⟨.queue call, answer⟩, t =>
    (∃ error, answer = call.failure error) ∧
      (t = s ∨ t = { s with channels := (s.channels.answer call).2 })
  | _, _ => False

/-! ## The system and its steps -/

/-- What the callers share, and the callers by their numbers; none stands for a caller that has
ended or crashed. -/
structure System where
  shared : Shared
  callers : List (Option Caller)

def System.empty : System := ⟨⟨.empty, .empty⟩, []⟩

def System.setCaller (s : System) (n : Nat) (caller : Option Caller) : System :=
  { s with callers := s.callers.set n caller }

/-- Something that happens. Callers go by their numbers. -/
inductive Event where
  | begun (job : Job)
  | answered (n : Nat) (exchange : Exchange)
  | failed (n : Nat) (exchange : Exchange)
  | returned (n : Nat) (job : Job) (answer : job.Answer)
  | crashed (n : Nat)
  /-- The crawler takes a request. -/
  | requestTaken
  /-- The crawler pushes a payload on the result channel. -/
  | resultPushed (payload : Text.Utf8.Bytes)

inductive Step (rules : Rules) : System → Event → System → Prop where
  | begin (s : System) (job : Job) :
      Step rules s (.begun job) { s with callers := s.callers ++ [some ⟨job, job.work rules⟩] }
  | answer {s : System} {n : Nat} {job : Job} {call : Call}
      {next : call.Answer → Work job.Answer} {answer : call.Answer} {shared : Shared}
      (turn : s.callers[n]? = some (some ⟨job, .call call next⟩))
      (done : s.shared.Answers ⟨call, answer⟩ shared) :
      Step rules s (.answered n ⟨call, answer⟩)
        { s.setCaller n (some ⟨job, next answer⟩) with shared }
  | fail {s : System} {n : Nat} {job : Job} {call : Call}
      {next : call.Answer → Work job.Answer} {answer : call.Answer} {shared : Shared}
      (turn : s.callers[n]? = some (some ⟨job, .call call next⟩))
      (failed : s.shared.Fails ⟨call, answer⟩ shared) :
      Step rules s (.failed n ⟨call, answer⟩)
        { s.setCaller n (some ⟨job, next answer⟩) with shared }
  | finish {s : System} {n : Nat} {job : Job} {answer : job.Answer}
      (turn : s.callers[n]? = some (some ⟨job, .done answer⟩)) :
      Step rules s (.returned n job answer) (s.setCaller n none)
  | crash {s : System} {n : Nat} {caller : Caller} (turn : s.callers[n]? = some (some caller)) :
      Step rules s (.crashed n) (s.setCaller n none)
  | takeRequest (s : System) :
      Step rules s .requestTaken
        { s with shared := { s.shared with channels := s.shared.channels.popRequest.2 } }
  | pushResult (s : System) (payload : Text.Utf8.Bytes) :
      Step rules s (.resultPushed payload)
        { s with shared := { s.shared with channels := s.shared.channels.pushResult payload } }

/-! ## Runs -/

/-- Something that has happened, and what the callers shared after it. -/
structure Moment where
  event : Event
  shared : Shared

/-- The moments `past`, in their order, have led from nothing to the system as it is now. -/
inductive Run (rules : Rules) : List Moment → System → Prop where
  | start : Run rules [] .empty
  | step {past : List Moment} {s t : System} {event : Event} (run : Run rules past s)
      (step : Step rules s event t) : Run rules (past ++ [⟨event, t.shared⟩]) t

/-- The moments `past`, in their order, have led from `start`, with nobody at work, to the system
as it is now, and all that has happened was allowed. -/
inductive Phase (rules : Rules) (Allowed : System → Event → Prop) (start : Shared) :
    List Moment → System → Prop where
  | start : Phase rules Allowed start [] ⟨start, []⟩
  | step {past : List Moment} {s t : System} {event : Event}
      (phase : Phase rules Allowed start past s) (allowed : Allowed s event)
      (step : Step rules s event t) : Phase rules Allowed start (past ++ [⟨event, t.shared⟩]) t

/-- A run is a phase that begins over an empty store and in which anything may happen. -/
theorem run_iff_phase {rules : Rules} {past : List Moment} {s : System} :
    Run rules past s ↔ Phase rules (fun _ _ => True) ⟨.empty, .empty⟩ past s := by
  constructor
  · intro run
    induction run with
    | start => exact .start
    | step run step ih => exact ih.step trivial step
  · intro phase
    induction phase with
    | start => exact .start
    | step phase allowed step ih => exact ih.step step

/-! ## Looking back

Statements about the past read it off the list of moments. A moment holds what the callers shared
after the event, and not what is left of their work, which nobody can observe.
-/

def Shared.stateOf? (s : Shared) (id : ShadowId) : Option Seed.State :=
  (s.tables.seeds.find? id).map (·.state)

/-- The states that were seen, and the one that is seen now unless it is the last of them. -/
def noteState (seen : List Seed.State) : Option Seed.State → List Seed.State
  | none => seen
  | some state => if seen.getLast? = some state then seen else seen ++ [state]

/-- The states that a seed has gone through. -/
def trail (past : List Moment) (id : ShadowId) : List Seed.State :=
  past.foldl (fun seen moment => noteState seen (moment.shared.stateOf? id)) []

/-- The state to which a result was told to have moved a seed. -/
def Event.applied? (id : ShadowId) : Event → Option Seed.State
  | .returned _ (.processResult result) (Except.ok (Outcome.applied state)) =>
    if result.id = id then some state else none
  | _ => none

/-- The states to which results were told to have moved a seed. -/
def applied (past : List Moment) (id : ShadowId) : List Seed.State :=
  past.filterMap (·.event.applied? id)

def Event.exchange? (n : Nat) : Event → Option Exchange
  | .answered m exchange => if m = n then some exchange else none
  | .failed m exchange => if m = n then some exchange else none
  | _ => none

def exchangesOf (past : List Moment) (n : Nat) : List Exchange :=
  past.filterMap (·.event.exchange? n)

/-! ## One job at a time -/

/-- The answers of a store and channels that do not fail, with the given fresh ids. -/
def Shared.serve (seedId groupId : ShadowId) (call : Call) (s : Shared) : call.Answer × Shared :=
  match call with
  | .store c => ((s.tables.answer c).1, { s with tables := (s.tables.answer c).2 })
  | .queue c => ((s.channels.answer c).1, { s with channels := (s.channels.answer c).2 })
  | .freshSeedId => (seedId, s)
  | .freshGroupId => (groupId, s)
  | .count _ => ((), s)
  | .setListening _ => ((), s)
  | .isListening => (false, s)
  | .isCancelled => (false, s)
  | .pause _ => (false, s)

theorem Shared.answers_serve (seedId groupId : ShadowId) (call : Call) (s : Shared) :
    s.Answers ⟨call, (s.serve seedId groupId call).1⟩ (s.serve seedId groupId call).2 := by
  cases call with
  | store c => exact ⟨rfl, rfl⟩
  | queue c => exact ⟨rfl, rfl⟩
  | _ => exact rfl

variable {rules : Rules} {past : List Moment} {s : System}

/-- A caller may do all that is left of its work while the others wait, and then it returns. -/
theorem Phase.goOn {Allowed : System → Event → Prop} {start : Shared}
    (phase : Phase rules Allowed start past s) (n : Nat) {job : Job} {rest : Work job.Answer}
    (turn : s.callers[n]? = some (some ⟨job, rest⟩))
    (answering : ∀ s exchange, Allowed s (.answered n exchange))
    (returning : ∀ s answer, Allowed s (.returned n job answer)) (seedId groupId : ShadowId) :
    ∃ moments, Phase rules Allowed start (past ++ moments)
        ⟨(rest.runState (Shared.serve seedId groupId) s.shared).2, s.callers.set n none⟩ ∧
      .returned n job (rest.runState (Shared.serve seedId groupId) s.shared).1
        ∈ moments.map (·.event) := by
  induction rest generalizing past s with
  | done answer =>
      exact ⟨[_], phase.step (returning s answer) (.finish turn), List.mem_singleton.mpr rfl⟩
  | call c next ih =>
      have step : Step rules s _ _ := .answer turn (s.shared.answers_serve seedId groupId c)
      obtain ⟨here, -⟩ := List.getElem?_eq_some_iff.mp turn
      obtain ⟨moments, whole, returned⟩ := ih _ (phase.step (answering s _) step)
        (List.getElem?_set_self here)
      rw [List.append_assoc, System.setCaller, List.set_set] at whole
      exact ⟨_, whole, List.mem_cons_of_mem _ returned⟩

/-- A caller may make some calls while the others wait. -/
theorem Phase.takeTurns {Allowed : System → Event → Prop} {start : Shared}
    (phase : Phase rules Allowed start past s) (n : Nat) {job : Job} {rest : Work job.Answer}
    (turn : s.callers[n]? = some (some ⟨job, rest⟩))
    (answering : ∀ s exchange, Allowed s (.answered n exchange)) (seedId groupId : ShadowId)
    (turns : Nat) :
    ∃ moments, Phase rules Allowed start (past ++ moments)
      ⟨(rest.runFor (Shared.serve seedId groupId) turns s.shared).2,
        s.callers.set n
          (some ⟨job, (rest.runFor (Shared.serve seedId groupId) turns s.shared).1⟩)⟩ := by
  -- A caller that makes no call stands where it stood.
  have still : ∀ {s : System} {rest : Work job.Answer},
      s.callers[n]? = some (some ⟨job, rest⟩) → s.callers.set n (some ⟨job, rest⟩) = s.callers := by
    intro s rest turn
    obtain ⟨here, there⟩ := List.getElem?_eq_some_iff.mp turn
    rw [← there, List.set_getElem_self]
  induction turns generalizing past s rest with
  | zero => exact ⟨[], by simpa [Program.runFor, still turn] using phase⟩
  | succ turns ih =>
      cases rest with
      | done answer => exact ⟨[], by simpa [Program.runFor, still turn] using phase⟩
      | call c next =>
          have step : Step rules s _ _ := .answer turn (s.shared.answers_serve seedId groupId c)
          obtain ⟨here, -⟩ := List.getElem?_eq_some_iff.mp turn
          obtain ⟨moments, whole⟩ :=
            ih (phase.step (answering s _) step) (List.getElem?_set_self here)
          rw [List.append_assoc, System.setCaller, List.set_set] at whole
          exact ⟨_, whole⟩

/-- A caller may do all that is left of its work while the others wait. -/
theorem Run.goOn (run : Run rules past s) {n : Nat} {job : Job} {rest : Work job.Answer}
    (turn : s.callers[n]? = some (some ⟨job, rest⟩)) (seedId groupId : ShadowId) :
    ∃ moments, Run rules (past ++ moments)
      ⟨(rest.runState (Shared.serve seedId groupId) s.shared).2, s.callers.set n none⟩ := by
  obtain ⟨moments, whole, -⟩ := (run_iff_phase.mp run).goOn n turn (fun _ _ => trivial)
    (fun _ _ => trivial) seedId groupId
  exact ⟨moments, run_iff_phase.mpr whole⟩

/-- **A job may be done from its beginning to its end while the other callers wait**, so that what
the service does for one caller after the other is one of the runs. -/
theorem Run.alone (run : Run rules past s) (job : Job) (seedId groupId : ShadowId) :
    ∃ moments, Run rules (past ++ moments)
      ⟨((job.work rules).runState (Shared.serve seedId groupId) s.shared).2,
        s.callers ++ [none]⟩ := by
  have begun := run.step (.begin s job)
  have turn : (s.callers ++ [some ⟨job, job.work rules⟩])[s.callers.length]?
      = some (some ⟨job, job.work rules⟩) := List.getElem?_concat_length
  obtain ⟨moments, whole⟩ := begun.goOn turn seedId groupId
  rw [List.append_assoc] at whole
  simp only [List.set_append_right _ _ (Nat.le_refl _), Nat.sub_self, List.set_cons_zero] at whole
  exact ⟨_, whole⟩

end WebCapture.Concurrency
