import WebCapture.CommandLine.Task
import WebCapture.Proofs.Listener.Background

set_option autoImplicit false

/-! # A task and the listener beside it

A task goes on call by call, and so does the listener that it has started; nothing is said about
which of the two is next. From outside both may be told to end at any moment. What comes back from
the store, the queue and the files is left open, and with it what a crawler does and which
commands of the broker fail.

A `Run` is a list of moves from the start of a task. `Fits` is what every move keeps: what is left
of the task is what its exchanges leave of it, and the listener is where its own exchanges have
brought it, according to `Proofs/Listener/Background`. From it follows what is known when one of
the two has ended.

To show that something can happen, the parties are made to take turns by a list (`Duo.play?`),
which computes; `Run.play` turns what was computed into a run.
-/

namespace WebCapture.CommandLine

open Program
open Service (Log)
open Service.Listener (Status TellsEnd)

abbrev TaskLog : Type := List (Exchange Call Call.Answer)

/-- A task with the listener beside it. -/
structure Duo where
  /-- What is left of the task. -/
  task : Program Call Call.Answer (Except Failure Unit)
  listener : Status
  /-- Whether all work was told to end. -/
  told : Bool

def Duo.start (task : Task Unit) : Duo := ⟨task.run, .absent, false⟩

/-! ## Moves

A move is an exchange of one of the two parties, or the shutdown. What an exchange of the task
does to the listener is `Duo.react`; the other way the listener acts on the task only by having
ended.
-/

/-- Whether work is to end is answered truly, and no pause is cut short before it is; all other
answers are possible. -/
def Possible (told : Bool) : Exchange Service.Call Service.Call.Answer → Prop
  | ⟨.isCancelled, answer⟩ => answer = told
  | ⟨.pause _, answer⟩ => answer = true → told = true
  | _ => True

/-- Whether an exchange of the task can take place now: a listener is started where there is none,
and whoever waits for the listener hears from it when it has ended. -/
def Duo.Allows (s : Duo) : Exchange Call Call.Answer → Prop
  | ⟨.service c, answer⟩ => Possible s.told ⟨c, answer⟩
  | ⟨.startListener, _⟩ => s.listener = .absent
  | ⟨.joinListener, reason⟩ => s.listener = .ended reason
  | _ => True

/-- What a call of the task does to the listener and to all work. -/
def Duo.react (s : Duo) : Call → Duo
  | .startListener => { s with listener := .started }
  | .cancel => { s with told := true }
  | _ => s

/-- What can happen next. -/
inductive Move where
  | task (e : Exchange Call Call.Answer)
  | listener (e : Exchange Service.Call Service.Call.Answer)
  /-- From outside all work is told to end. -/
  | shutdown

/-- One move of a task under these settings, of the listener beside it, or from outside. -/
inductive Step (settings : Config.Settings) : Duo → Move → Duo → Prop where
  | task {s : Duo} {c : Call} {next : c.Answer → Program Call Call.Answer (Except Failure Unit)}
      {answer : c.Answer} (todo : s.task = .call c next) (allowed : s.Allows ⟨c, answer⟩) :
      Step settings s (.task ⟨c, answer⟩) { s.react c with task := next answer }
  | listener {s : Duo} {c : Service.Call} {next : c.Answer → Service.Work Service.Listener.Next}
      {answer : c.Answer}
      (todo : s.listener.rest? settings.listener settings.rules = some (.call c next))
      (possible : Possible s.told ⟨c, answer⟩) :
      Step settings s (.listener ⟨c, answer⟩) { s with listener := .ofRest (next answer) }
  | shutdown {s : Duo} : Step settings s .shutdown { s with told := true }

inductive Run (settings : Config.Settings) (task : Task Unit) : List Move → Duo → Prop where
  | start : Run settings task [] (.start task)
  | step {moves : List Move} {move : Move} {s t : Duo} (run : Run settings task moves s)
      (step : Step settings s move t) : Run settings task (moves ++ [move]) t

def taskLog (moves : List Move) : TaskLog :=
  moves.filterMap fun
    | .task e => some e
    | _ => none

def listenerLog (moves : List Move) : Log :=
  moves.filterMap fun
    | .listener e => some e
    | _ => none

/-! ## What every move keeps

Two of the fields of `Fits` are about one party each. The others tie the two together: what the
task has asked of the listener, and why the listener may have been told to end.
-/

/-- What the moves of a task have led to fits what the task and its listener have exchanged. -/
structure Fits (settings : Config.Settings) (task : Task Unit) (moves : List Move) (s : Duo) :
    Prop where
  task : task.run.Reaches (taskLog moves) s.task
  listener : s.listener.After settings.listener settings.rules (listenerLog moves)
  /-- Whoever has waited for the listener has heard how it ended. -/
  joined : ∀ reason, ⟨.joinListener, reason⟩ ∈ taskLog moves → s.listener = .ended reason
  /-- Nobody is told to end before all work is. -/
  heard : ∀ e ∈ listenerLog moves, TellsEnd e → s.told = true
  told : s.told = true → .shutdown ∈ moves ∨ ∃ e ∈ taskLog moves, e.call = .cancel

variable {settings : Config.Settings} {task : Task Unit} {moves : List Move} {s t : Duo}

theorem Possible.told {told : Bool} {e : Exchange Service.Call Service.Call.Answer}
    (possible : Possible told e) (tells : TellsEnd e) : told = true := by
  obtain ⟨c, answer⟩ := e
  cases c with
  | isCancelled =>
      have true : answer = true := tells
      exact possible.symm.trans true
  | pause delay => exact possible tells
  | _ => exact tells.elim

theorem fits_start : Fits settings task [] (.start task) where
  task := rfl
  listener := rfl
  joined reason none := absurd none List.not_mem_nil
  heard e none := absurd none List.not_mem_nil
  told impossible := by cases impossible

/-- Only to start the listener changes how far it is. -/
theorem Duo.react_listener {c : Call} (other : c ≠ .startListener) :
    (s.react c).listener = s.listener := by
  cases c with
  | startListener => exact absurd rfl other
  | _ => rfl

/-- Only to tell all work to end changes whether it was told. -/
theorem Duo.react_told {c : Call} (other : c ≠ .cancel) : (s.react c).told = s.told := by
  cases c with
  | cancel => exact absurd rfl other
  | _ => rfl

theorem Duo.told_react {c : Call} (told : s.told = true) : (s.react c).told = true := by
  cases c with
  | cancel => rfl
  | _ => exact told

theorem taskLog_snoc (moves : List Move) (e : Exchange Call Call.Answer) :
    taskLog (moves ++ [.task e]) = taskLog moves ++ [e] := List.filterMap_append

theorem listenerLog_snoc (moves : List Move) (e : Exchange Service.Call Service.Call.Answer) :
    listenerLog (moves ++ [.listener e]) = listenerLog moves ++ [e] := List.filterMap_append

/-- An exchange of the task keeps the listener in a status that fits. -/
theorem Fits.listener_react {e : Exchange Call Call.Answer} (fits : Fits settings task moves s)
    (allowed : s.Allows e) :
    (s.react e.call).listener.After settings.listener settings.rules (listenerLog moves) := by
  obtain ⟨c, answer⟩ := e
  have listener := fits.listener
  by_cases starts : c = .startListener
  · subst starts
    have absent : s.listener = .absent := allowed
    rw [absent] at listener
    have none : listenerLog moves = [] := listener
    rw [none]
    exact Status.after_started
  · rw [Duo.react_listener starts]
    exact listener

theorem Fits.joined_react {e : Exchange Call Call.Answer} (fits : Fits settings task moves s)
    (allowed : s.Allows e) {reason : Service.ListenerExit}
    (joined : ⟨.joinListener, reason⟩ ∈ taskLog moves ++ [e]) :
    (s.react e.call).listener = .ended reason := by
  rcases List.mem_append.mp joined with before | now
  · have ended := fits.joined reason before
    have other : e.call ≠ .startListener := by
      intro starts
      obtain ⟨c, answer⟩ := e
      obtain rfl : c = .startListener := starts
      have absent : s.listener = .absent := allowed
      rw [ended] at absent
      cases absent
    rw [Duo.react_listener other]
    exact ended
  · obtain rfl := List.mem_singleton.mp now
    exact allowed

/-- **Every move keeps** that the state fits what was exchanged. -/
theorem Fits.step {move : Move} (fits : Fits settings task moves s) (step : Step settings s move t) :
    Fits settings task (moves ++ [move]) t := by
  cases step with
  | @task c next answer todo allowed =>
      have reached := fits.task
      rw [todo] at reached
      have same : listenerLog (moves ++ [.task ⟨c, answer⟩]) = listenerLog moves :=
        List.filterMap_append.trans (List.append_nil _)
      constructor
      · rw [taskLog_snoc]
        exact reached.snoc answer
      · rw [same]
        exact fits.listener_react allowed
      · intro reason joined
        rw [taskLog_snoc] at joined
        exact fits.joined_react allowed joined
      · intro e here tells
        rw [same] at here
        exact Duo.told_react (fits.heard e here tells)
      · intro told
        rw [taskLog_snoc]
        by_cases cancels : c = .cancel
        · exact .inr ⟨_, List.mem_append_right _ List.mem_cons_self, cancels⟩
        · rcases fits.told ((Duo.react_told cancels).symm.trans told) with shut | ⟨e, here, he⟩
          · exact .inl (List.mem_append_left _ shut)
          · exact .inr ⟨e, List.mem_append_left _ here, he⟩
  | @listener c next answer todo possible =>
      have same : taskLog (moves ++ [.listener ⟨c, answer⟩]) = taskLog moves :=
        List.filterMap_append.trans (List.append_nil _)
      constructor
      · rw [same]
        exact fits.task
      · rw [listenerLog_snoc]
        exact fits.listener.step todo answer
      · intro reason joined
        rw [same] at joined
        -- A listener that has ended makes no exchange.
        rw [fits.joined reason joined] at todo
        cases todo
      · intro e here tells
        rw [listenerLog_snoc] at here
        rcases List.mem_append.mp here with before | now
        · exact fits.heard e before tells
        · obtain rfl := List.mem_singleton.mp now
          exact possible.told tells
      · intro told
        rw [same]
        rcases fits.told told with shut | called
        · exact .inl (List.mem_append_left _ shut)
        · exact .inr called
  | shutdown =>
      have sameTask : taskLog (moves ++ [.shutdown]) = taskLog moves :=
        List.filterMap_append.trans (List.append_nil _)
      have sameListener : listenerLog (moves ++ [.shutdown]) = listenerLog moves :=
        List.filterMap_append.trans (List.append_nil _)
      constructor
      · rw [sameTask]
        exact fits.task
      · rw [sameListener]
        exact fits.listener
      · intro reason joined
        rw [sameTask] at joined
        exact fits.joined reason joined
      · intro e _ _
        rfl
      · intro _
        exact .inl (List.mem_append_right _ List.mem_cons_self)

/-- Whatever moves were made, the state fits them. -/
theorem Run.fits (run : Run settings task moves s) : Fits settings task moves s := by
  induction run with
  | start => exact fits_start
  | step run step ih => exact ih.step step

/-! ## When the listener has ended -/

/-- The exchanges of a task that has returned are those of a run. -/
theorem Fits.runs {outcome : Except Failure Unit} (fits : Fits settings task moves s)
    (returned : s.task = .done outcome) : task.run.Runs (taskLog moves) outcome := by
  have reached := fits.task
  rw [returned] at reached
  exact reached.done_runs

/-- A listener that has ended has dealt with all that it took. -/
theorem Fits.accounts {reason : Service.ListenerExit} (fits : Fits settings task moves s)
    (ended : s.listener = .ended reason) :
    ∃ fates, Service.Listener.Accounts settings.listener settings.rules (listenerLog moves)
      fates := by
  have after := fits.listener
  rw [ended] at after
  obtain ⟨fuel, runs⟩ := Status.listen_of_ended after
  exact Service.Listener.listen_runs runs

/-- A listener that has ended without giving up was told to, by the task or from outside. -/
theorem Fits.cancelled (fits : Fits settings task moves s)
    (ended : s.listener = .ended .cancelled) :
    .shutdown ∈ moves ∨ ∃ e ∈ taskLog moves, e.call = .cancel := by
  have after := fits.listener
  rw [ended] at after
  obtain ⟨e, here, tells⟩ := Status.tellsEnd_of_ended after
  exact fits.told (fits.heard e here tells)

/-- When both have ended, nothing happens any more. -/
theorem Step.eq_shutdown {move : Move} {outcome : Except Failure Unit}
    {reason : Service.ListenerExit} (step : Step settings s move t)
    (returned : s.task = .done outcome) (ended : s.listener = .ended reason) :
    move = .shutdown := by
  cases step with
  | task todo allowed =>
      rw [returned] at todo
      cases todo
  | listener todo possible =>
      rw [ended] at todo
      cases todo
  | shutdown => rfl

/-! ## Taking turns

A list of parties is enough to say who moves when, if what comes back from all other calls is
given as a function. Each turn is checked against `Step`, so that nothing can be played that could
not happen.
-/

inductive Party where
  | task
  | listener
  deriving DecidableEq, Repr

/-- What comes back from a call, if it can be made now: what is known of the listener and of the end
of all work, and for the rest what is given. -/
def Duo.answer? (s : Duo) (answers : (c : Call) → c.Answer) : (c : Call) → Option c.Answer
  | .service .isCancelled => some s.told
  | .service (.pause _) => some s.told
  | .startListener =>
    match s.listener with
    | .absent => some ()
    | _ => none
  | .joinListener =>
    match s.listener with
    | .ended reason => some reason
    | _ => none
  | c => some (answers c)

/-- The next exchange of a party, and the state after it. -/
def Duo.move? (settings : Config.Settings) (answers : (c : Call) → c.Answer) (s : Duo) :
    Party → Option (Move × Duo)
  | .task =>
    match s.task with
    | .done _ => none
    | .call c next => (s.answer? answers c).map fun answer =>
        (.task ⟨c, answer⟩, { s.react c with task := next answer })
  | .listener =>
    match s.listener.rest? settings.listener settings.rules with
    | some (.call c next) => (s.answer? answers (.service c)).map fun answer =>
        (.listener ⟨c, answer⟩, { s with listener := .ofRest (next answer) })
    | _ => none

/-- The state after the parties have taken turns. -/
def Duo.play? (settings : Config.Settings) (answers : (c : Call) → c.Answer) (s : Duo) :
    List Party → Option Duo
  | [] => some s
  | party :: more => (s.move? settings answers party).bind fun (_, t) => t.play? settings answers more

variable {answers : (c : Call) → c.Answer}

theorem Duo.allows_of_answer? {c : Call} {answer : c.Answer}
    (h : s.answer? answers c = some answer) : s.Allows ⟨c, answer⟩ := by
  cases c with
  | service c =>
      cases c with
      | isCancelled => exact (Option.some.inj h).symm
      | pause delay => exact fun told => (Option.some.inj h).trans told
      | _ => trivial
  | startListener =>
      obtain ⟨task, listener, told⟩ := s
      cases listener with
      | absent => rfl
      | _ => cases (h : none = some answer)
  | joinListener =>
      obtain ⟨task, listener, told⟩ := s
      cases listener with
      | ended reason => exact congrArg Status.ended (Option.some.inj h)
      | _ => cases (h : none = some answer)
  | _ => trivial

/-- A turn that a party takes is a move. -/
theorem Duo.step_of_move? {party : Party} {move : Move}
    (h : s.move? settings answers party = some (move, t)) : Step settings s move t := by
  cases party with
  | task =>
      unfold move? at h
      dsimp only at h
      split at h
      · cases h
      · obtain ⟨answer, known, same⟩ := Option.map_eq_some_iff.mp h
        cases same
        exact .task ‹_› (allows_of_answer? known)
  | listener =>
      unfold move? at h
      dsimp only at h
      split at h
      · obtain ⟨answer, known, same⟩ := Option.map_eq_some_iff.mp h
        cases same
        exact .listener ‹_› (allows_of_answer? known)
      · cases h

/-- Whoever takes turns makes a run. -/
theorem Run.play {parties : List Party} (run : Run settings task moves s)
    (h : s.play? settings answers parties = some t) : ∃ more, Run settings task more t := by
  induction parties generalizing moves s with
  | nil =>
      cases h
      exact ⟨moves, run⟩
  | cons party parties ih =>
      obtain ⟨⟨move, u⟩, moved, later⟩ := Option.bind_eq_some_iff.mp h
      exact ih (run.step (Duo.step_of_move? moved)) later

end WebCapture.CommandLine
