import WebCapture.Proofs.Concurrency.System
import WebCapture.Proofs.Provenance.Keeper

set_option autoImplicit false

/-! # Callers over a keeper

Any number of callers use the service over one keeper and one pair of channels. The calls that a
caller makes of the store are spelled out as calls of the keeper (`Keeper.spell`), each of which
is one atomic step; between two of them any other caller may take its turn. A call may fail,
whether or not it took effect. A caller that crashes is one that has no turn any more. Seeds are
captured only by somebody to whom they were handed out before (`System.HandsOut`).

A caller is kept with all exchanges that it has had, also after it has come to its end, so that the
state tells what has happened.
-/

namespace WebCapture.Provenance

open Concurrency (Job)
open Service (Rules SeedError Work)

/-! ## Plans -/

namespace Keeper

/-- A call of the keeper, or one that the service makes of others. -/
abbrev Deed (k : Keeper) : Type := k.Call ⊕ Service.Call

def Reply (k : Keeper) : k.Deed → Type
  | .inl d => k.Answer d
  | .inr c => c.Answer

abbrev Plan (k : Keeper) (α : Type) : Type := Program k.Deed k.Reply α

def spellCall (k : Keeper) : (c : Service.Call) → k.Plan c.Answer
  | .store c => (k.carry c).expand fun d => .call (.inl d) .done
  | c => .call (.inr c) .done

def spell (k : Keeper) {α : Type} (work : Work α) : k.Plan α := work.expand k.spellCall

end Keeper

/-! ## Jobs -/

def linesOf : Job → List String
  | .submit text _ => Service.linesOf text
  | .submitLines lines _ => lines
  | _ => []

def captured : Job → List Seed
  | .captureSeed seed => [seed]
  | .captureGroup group => group.seeds
  | _ => []

def seedsOf : (job : Job) → job.Answer → List Seed
  | .submit _ _, Except.ok (group : SeedGroup) => group.seeds
  | .submitLines _ _, Except.ok (group : SeedGroup) => group.seeds
  | .getGroup _, Except.ok (group : SeedGroup) => group.seeds
  | .getSeed _, Except.ok (seed : Seed) => [seed]
  | _, _ => []

/-- The error with which a submission ended. -/
def refusal? : (job : Job) → job.Answer → Option SeedError
  | .submit _ _, Except.error (e : SeedError) => some e
  | .submitLines _ _, Except.error (e : SeedError) => some e
  | _, _ => none

/-! ## The system and its steps -/

structure Scene (k : Keeper) where
  keeping : k.State
  channels : Queue.Channels

/-- A call of the keeper or of the queue is answered, or it fails and is done or not. What is
neither of them has no effect, and is answered in any way. -/
def Scene.Does {k : Keeper} (s : Scene k) : Exchange k.Deed k.Reply → Scene k → Prop
  | ⟨.inl d, answer⟩, t => k.Does s.keeping ⟨d, answer⟩ t.keeping ∧ t.channels = s.channels
  | ⟨.inr (.queue c), answer⟩, t =>
    t.keeping = s.keeping ∧
      (answer = (s.channels.answer c).1 ∧ t.channels = (s.channels.answer c).2 ∨
        (∃ error, answer = c.failure error) ∧
          (t.channels = s.channels ∨ t.channels = (s.channels.answer c).2))
  | _, t => t = s

/-- A job that was begun, the exchanges that were had for it, and what is left to do. -/
structure Caller (k : Keeper) where
  job : Job
  log : List (Exchange k.Deed k.Reply)
  rest : k.Plan job.Answer

structure System (k : Keeper) where
  scene : Scene k
  callers : List (Caller k)

def System.empty (k : Keeper) : System k := ⟨⟨k.start, .empty⟩, []⟩

/-- The seed is among those that some caller has brought. -/
def System.HandsOut {k : Keeper} (s : System k) (seed : Seed) : Prop :=
  ∃ caller ∈ s.callers, ∃ answer, caller.rest = .done answer ∧ seed ∈ seedsOf caller.job answer

inductive Step (k : Keeper) (rules : Rules) : System k → System k → Prop where
  | begin (s : System k) (job : Job) (known : ∀ seed ∈ captured job, s.HandsOut seed) :
      Step k rules s { s with callers := s.callers ++ [⟨job, [], k.spell (job.work rules)⟩] }
  | exchange {s : System k} {n : Nat} {job : Job} {log : List (Exchange k.Deed k.Reply)}
      {deed : k.Deed} {next : k.Reply deed → k.Plan job.Answer} {answer : k.Reply deed}
      {scene : Scene k} (turn : s.callers[n]? = some ⟨job, log, .call deed next⟩)
      (done : s.scene.Does ⟨deed, answer⟩ scene) :
      Step k rules s ⟨scene, s.callers.set n ⟨job, log ++ [⟨deed, answer⟩], next answer⟩⟩
  /-- The crawler takes a request. -/
  | takeRequest (s : System k) :
      Step k rules s
        { s with scene := { s.scene with channels := s.scene.channels.popRequest.2 } }
  /-- The crawler pushes a payload on the result channel. -/
  | pushResult (s : System k) (payload : Text.Utf8.Bytes) :
      Step k rules s
        { s with scene := { s.scene with channels := s.scene.channels.pushResult payload } }

inductive Reachable (k : Keeper) (rules : Rules) : System k → Prop where
  | start : Reachable k rules (.empty k)
  | step {s t : System k} (reached : Reachable k rules s) (step : Step k rules s t) :
      Reachable k rules t

/-! ## One job at a time -/

/-- The answers of a keeper and channels that do not fail, with the given fresh ids. -/
def Scene.serve {k : Keeper} (seedId groupId : ShadowId) (deed : k.Deed) (s : Scene k) :
    k.Reply deed × Scene k :=
  match deed with
  | .inl d => ((k.answer s.keeping d).1, { s with keeping := (k.answer s.keeping d).2 })
  | .inr (.queue c) => ((s.channels.answer c).1, { s with channels := (s.channels.answer c).2 })
  | .inr .freshSeedId => (seedId, s)
  | .inr .freshGroupId => (groupId, s)
  | .inr (.store c) => (c.failure (.backend ""), s)
  | .inr (.count _) => ((), s)
  | .inr (.setListening _) => ((), s)
  | .inr .isListening => (false, s)
  | .inr .isCancelled => (false, s)
  | .inr (.pause _) => (false, s)

theorem Scene.does_serve {k : Keeper} (seedId groupId : ShadowId) (deed : k.Deed) (s : Scene k) :
    s.Does ⟨deed, (s.serve seedId groupId deed).1⟩ (s.serve seedId groupId deed).2 := by
  cases deed with
  | inl d => exact ⟨.inl ⟨rfl, rfl⟩, rfl⟩
  | inr c =>
      cases c with
      | queue c => exact ⟨rfl, .inl ⟨rfl, rfl⟩⟩
      | _ => exact rfl

/-- A caller may do all that is left of its work while the others wait. -/
theorem Reachable.goOn {k : Keeper} {rules : Rules} {s : System k} (reached : Reachable k rules s)
    (n : Nat) {job : Job} {log : List (Exchange k.Deed k.Reply)} {rest : k.Plan job.Answer}
    (turn : s.callers[n]? = some ⟨job, log, rest⟩) (seedId groupId : ShadowId) :
    ∃ log', Reachable k rules
      ⟨(rest.runState (Scene.serve seedId groupId) s.scene).2,
        s.callers.set n
          ⟨job, log', .done (rest.runState (Scene.serve seedId groupId) s.scene).1⟩⟩ := by
  induction rest generalizing s log with
  | done answer =>
      obtain ⟨here, there⟩ := List.getElem?_eq_some_iff.mp turn
      have still : s.callers.set n ⟨job, log, .done answer⟩ = s.callers := by
        rw [← there, List.set_getElem_self]
      refine ⟨log, ?_⟩
      show Reachable k rules ⟨s.scene, s.callers.set n ⟨job, log, .done answer⟩⟩
      rw [still]
      exact reached
  | call deed next ih =>
      obtain ⟨here, -⟩ := List.getElem?_eq_some_iff.mp turn
      have step := reached.step (.exchange turn (s.scene.does_serve seedId groupId deed))
      obtain ⟨log', whole⟩ := ih _ step (List.getElem?_set_self here)
      rw [List.set_set] at whole
      exact ⟨log', whole⟩

/-- What a job answers and leaves behind if it is done as a whole and nothing fails. -/
def Scene.alone {k : Keeper} (rules : Rules) (seedId groupId : ShadowId) (job : Job) (s : Scene k) :
    job.Answer × Scene k :=
  (k.spell (job.work rules)).runState (Scene.serve seedId groupId) s

/-- A job that is permitted may be done as a whole. -/
theorem Reachable.alone {k : Keeper} {rules : Rules} {s : System k} (reached : Reachable k rules s)
    (seedId groupId : ShadowId) (job : Job) (known : ∀ seed ∈ captured job, s.HandsOut seed) :
    ∃ log, Reachable k rules
      ⟨(s.scene.alone rules seedId groupId job).2,
        s.callers ++ [⟨job, log, .done (s.scene.alone rules seedId groupId job).1⟩]⟩ := by
  have begun := reached.step (.begin s job known)
  obtain ⟨log, whole⟩ := begun.goOn s.callers.length List.getElem?_concat_length seedId groupId
  rw [List.set_append_right _ _ (Nat.le_refl _), Nat.sub_self, List.set_cons_zero] at whole
  exact ⟨log, whole⟩

end WebCapture.Provenance
