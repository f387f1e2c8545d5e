import WebCapture.CommandLine.Commands
import WebCapture.Proofs.CommandLine.Beside

set_option autoImplicit false

/-! # Submitting with a listener beside

A submission that is to wait for its captures starts the listener before it hands its addresses to
the crawler, and ends it before it prints what became of them. In between there is much that may
fail, and then the listener is left as it is (`submit_leaves_listener`): only a submission that
succeeds has ended its listener (`submit_awaits_listener`).

The first half of the proof is about the task alone. All its parts but the last leave the listener
alone (`Spares`), and the last one cannot fail once it has waited, so a run of the task either
fails without the two calls that end a listener or succeeds after them (`Concludes`). The second
half adds what every move of the task and its listener keeps (`Fits`).
-/

namespace WebCapture.CommandLine

open Program

variable {α β : Type}

/-! ## Tasks in sequence -/

namespace Task

theorem run_bind (t : Task α) (f : α → Task β) :
    (t >>= f).run = t.run >>= fun
      | .ok x => (f x).run
      | .error failure => pure (.error failure) := by
  rw [ExceptT.run_bind]
  refine congrArg _ (funext fun part => ?_)
  cases part <;> rfl

/-- A task in sequence ends with its first part if that fails, and otherwise goes on. -/
theorem runs_bind {t : Task α} {f : α → Task β} {log : TaskLog} {outcome : Except Failure β}
    (h : (t >>= f).run.Runs log outcome) :
    (∃ failure, outcome = .error failure ∧ t.run.Runs log (.error failure)) ∨
      ∃ x first rest, log = first ++ rest ∧ t.run.Runs first (.ok x) ∧
        (f x).run.Runs rest outcome := by
  rw [run_bind, Program.runs_bind] at h
  obtain ⟨part, first, rest, rfl, ht, hf⟩ := h
  cases part with
  | error failure =>
      obtain ⟨rfl, rfl⟩ := hf
      rw [List.append_nil]
      exact .inl ⟨failure, rfl, ht⟩
  | ok x => exact .inr ⟨x, first, rest, rfl, ht, hf⟩

theorem only_bind {P : Call → Prop} {t : Task α} {f : α → Task β} (ht : t.run.Only P)
    (hf : ∀ x, (f x).run.Only P) : (t >>= f).run.Only P := by
  rw [run_bind]
  refine Program.only_bind ht fun part => ?_
  cases part with
  | error failure => exact only_pure
  | ok x => exact hf x

/-! ## Parts that leave the listener alone

One lemma for each part of a submission, in the order in which they use each other.
-/

/-- A call that neither tells all work to end nor waits for the listener. -/
def Spares : Call → Prop
  | .cancel => False
  | .joinListener => False
  | _ => True

theorem ne_of_spares {c : Call} (spares : Spares c) : c ≠ .cancel ∧ c ≠ .joinListener := by
  constructor
  · rintro rfl
    exact spares
  · rintro rfl
    exact spares

theorem ask_spares {c : Call} (spares : Spares c) : (ask c).run.Only Spares :=
  ⟨spares, fun _ => trivial⟩

theorem settle_spares {ε : Type} (failure : ε → Failure) (result : Except ε α) :
    (settle failure result).run.Only Spares := by
  cases result <;> exact only_pure

/-- The work of the service leaves the listener alone. -/
theorem embed_spares (work : Service.Work α) : (embed work).Only Spares := by
  induction work with
  | done result => trivial
  | call c next ih => exact ⟨trivial, ih⟩

theorem work_spares (work : Service.Work α) : (Task.work work).run.Only Spares :=
  Program.only_bind (embed_spares work) fun _ => only_pure

theorem printAll_spares (lines : List String) : (printAll lines).run.Only Spares := by
  induction lines with
  | nil => exact only_pure
  | cons line more ih => exact only_bind (ask_spares trivial) fun _ => ih

theorem addresses_spares (urls : List String) (input : Option String) :
    (addresses urls input).run.Only Spares := by
  cases input with
  | none => exact only_pure
  | some path =>
      refine only_bind ?_ fun text => only_bind (ask_spares trivial) fun _ => only_pure
      exact only_bind (ask_spares trivial) fun content => settle_spares _ content

theorem connect_spares (settings : Config.Settings) : (connect settings).run.Only Spares := by
  refine only_bind ?_ fun _ => only_bind ?_ fun _ => ask_spares trivial
  · refine only_bind (ask_spares trivial) fun answer => only_bind (settle_spares _ answer) ?_
    exact fun _ => only_bind (ask_spares trivial) fun greeted => settle_spares _ greeted
  · exact only_bind (ask_spares trivial) fun answer => settle_spares _ answer

theorem loadGroup_spares (id : ShadowId) : (loadGroup id).run.Only Spares :=
  only_bind (work_spares _) fun group => settle_spares _ group

theorem awaitGroup_spares (id : ShadowId) (looks : Nat) :
    (awaitGroup id looks).run.Only Spares := by
  induction looks with
  | zero => exact loadGroup_spares id
  | succ looks ih =>
      refine only_bind (work_spares _) fun cancelled => ?_
      cases cancelled with
      | true => exact loadGroup_spares id
      | false =>
          refine only_bind (loadGroup_spares id) fun group => ?_
          split
          · exact only_pure
          · exact only_bind (work_spares _) fun _ => ih

/-! ## How a submission ends

A task in sequence concludes if its last part does and all others leave the listener alone, since
any of these may be where it fails.
-/

/-- The task either fails, and then it has left the listener alone, or it succeeds, and then it has
waited for the listener. -/
def Concludes (t : Task Unit) : Prop :=
  ∀ (log : TaskLog) (outcome : Except Failure Unit), t.run.Runs log outcome →
    (∃ failure, outcome = .error failure ∧ ∀ e ∈ log, Spares e.call) ∨
      outcome = .ok () ∧ ∃ reason, ⟨.joinListener, reason⟩ ∈ log

theorem concludes_bind {t : Task α} {f : α → Task Unit} (spares : t.run.Only Spares)
    (concludes : ∀ x, Concludes (f x)) : Concludes (t >>= f) := by
  intro log outcome h
  rcases runs_bind h with ⟨failure, rfl, ht⟩ | ⟨x, first, rest, rfl, ht, hf⟩
  · exact .inl ⟨failure, rfl, ht.only spares⟩
  · rcases concludes x rest outcome hf with ⟨failure, rfl, spared⟩ | ⟨rfl, reason, joined⟩
    · exact .inl ⟨failure, rfl, List.forall_mem_append.mpr ⟨ht.only spares, spared⟩⟩
    · exact .inr ⟨rfl, reason, List.mem_append_right _ joined⟩

theorem ok_of_printAll {lines : List String} {log : TaskLog} {outcome : Except Failure Unit}
    (h : (printAll lines).run.Runs log outcome) : outcome = .ok () := by
  induction lines generalizing log with
  | nil => exact h.2
  | cons line more ih =>
      obtain ⟨answer, rest, -, h⟩ := h
      exact ih h

/-- Once the captures were awaited, nothing can fail any more. -/
theorem reportCaptures_concludes (id : ShadowId) (waitTimeout : Nat) :
    Concludes (reportCaptures id waitTimeout) := by
  refine concludes_bind (awaitGroup_spares id _) fun group => ?_
  rintro log outcome ⟨told, rest, rfl, reason, rest, rfl, h⟩
  have joined : ∀ tail : TaskLog, (⟨.joinListener, reason⟩ : Exchange Call Call.Answer) ∈
      ⟨.cancel, told⟩ :: ⟨.joinListener, reason⟩ :: tail := fun tail =>
    List.mem_cons_of_mem _ List.mem_cons_self
  refine .inr ⟨?_, reason, joined rest⟩
  cases reason with
  | cancelled => exact ok_of_printAll h
  | queueFailed attempts error =>
      obtain ⟨answer, rest, -, h⟩ := h
      exact ok_of_printAll h

/-- Whatever fails before the captures are reported, the listener is left alone. -/
theorem submit_concludes (settings : Config.Settings) (urls : List String)
    (input : Option String) (waitTimeout : Nat) :
    Concludes (submit settings urls input true waitTimeout) := by
  unfold submit
  simp only [if_true]
  -- One line for each step of the submission; the fifth starts the listener.
  refine concludes_bind (addresses_spares urls input) fun urls => ?_
  refine concludes_bind (connect_spares settings) fun _ => ?_
  refine concludes_bind (work_spares _) fun submitted => ?_
  refine concludes_bind (settle_spares _ submitted) fun group => ?_
  refine concludes_bind (ask_spares trivial) fun _ => ?_
  refine concludes_bind (work_spares _) fun captured => ?_
  refine concludes_bind (settle_spares _ captured) fun captured => ?_
  refine concludes_bind (ask_spares trivial) fun _ => ?_
  refine concludes_bind (printAll_spares _) fun _ => ?_
  exact concludes_bind (ask_spares trivial) fun _ => reportCaptures_concludes group.id waitTimeout

end Task

variable {settings : Config.Settings} {urls : List String} {input : Option String}
  {waitTimeout : Nat} {moves : List Move} {s : Duo} {outcome : Except Failure Unit}

/-- **A submission that succeeds has ended its listener**, which has dealt with all that it took and
takes nothing any more. One that fails has neither told the listener to end nor waited for it: unless
the listener gives up, it is only a shutdown from outside that ends it. This is so whatever the
store, the queue and the files answer, whenever a shutdown comes, and whoever is next to move. -/
theorem submit_awaits_listener
    (run : Run settings (Task.submit settings urls input true waitTimeout) moves s)
    (returned : s.task = .done outcome) :
    (outcome = .ok () → ∃ reason fates, s.listener = .ended reason ∧
      Service.Listener.Accounts settings.listener settings.rules (listenerLog moves) fates ∧
      ∀ move t, Step settings s move t → move = .shutdown) ∧
    ∀ failure, outcome = .error failure →
      (∀ e ∈ taskLog moves, e.call ≠ .cancel ∧ e.call ≠ .joinListener) ∧
      (s.listener = .ended .cancelled → .shutdown ∈ moves) := by
  have fits := run.fits
  rcases Task.submit_concludes settings urls input waitTimeout _ _ (fits.runs returned) with
    ⟨failure, rfl, spared⟩ | ⟨rfl, reason, joined⟩
  · refine ⟨fun impossible => (by cases impossible), fun _ _ => ⟨fun e here => ?_, fun ended => ?_⟩⟩
    · exact Task.ne_of_spares (spared e here)
    · rcases fits.cancelled ended with shut | ⟨e, here, cancels⟩
      · exact shut
      · exact absurd cancels (Task.ne_of_spares (spared e here)).1
  · refine ⟨fun _ => ?_, fun failure impossible => (by cases impossible)⟩
    have ended := fits.joined reason joined
    obtain ⟨fates, accounts⟩ := fits.accounts ended
    exact ⟨reason, fates, ended, accounts, fun move t step => step.eq_shutdown returned ended⟩

/-! ## A submission that fails beside its listener

Two runs of the same submission are played. They differ in one answer: whether the request for the
seed can be handed over.
-/

/-- What a store and a queue may answer that keep a group and bring a result for a seed that nobody
knows. -/
def answersWith (enqueued : Except Queue.Error Unit) : (c : Call) → c.Answer
  | .service (.store (.saveGroup _)) => (Except.ok () : Except Store.Error Unit)
  | .service (.store (.compareAndSet _ _ _)) => (Except.ok () : Except Store.Error Unit)
  | .service (.store (.getGroup id)) => (Except.ok ⟨[], id⟩ : Except Store.Error SeedGroup)
  | .service (.store c) => c.failure (.backend "")
  | .service (.queue (.enqueue _)) => enqueued
  | .service (.queue (.awaitResult _)) =>
    (Except.ok ⟨"A", true, [], none⟩ : Except Queue.Error Capture.Result)
  | .service (.queue (.park _)) => (Except.ok () : Except Queue.Error Unit)
  | .service (.queue c) => c.failure .timeout
  | .service .freshSeedId => "S"
  | .service .freshGroupId => "G"
  | .service (.count _) => ()
  | .service (.setListening _) => ()
  | .service .isListening => true
  | .service .isCancelled => false
  | .service (.pause _) => false
  | .print _ => ()
  | .log _ _ => ()
  | .complain _ => ()
  | .environment _ => none
  | .readFile _ => (Except.ok "" : Except FileError String)
  | .now => ""
  | .serveCounters _ => ()
  | .connect _ => (Except.ok () : Except Broker.ConnectionFault Unit)
  | .ping => (Except.ok () : Except Broker.ErrorLine Unit)
  | .setUp _ => ()
  | .watchHealth _ => ()
  | .startListener => ()
  | .joinListener => .cancelled
  | .cancel => ()

/-- A submission of one address that waits for its capture. -/
def waitingSubmission : Task Unit := Task.submit .standard ["a.example"] none true 300

/-- The listener takes a result and puts it aside, and it ends after the task has told it to. -/
def succeeding : List Party :=
  .replicate 9 .task ++ .replicate 6 .listener ++ .replicate 9 .task ++ .replicate 2 .listener
    ++ .replicate 3 .task

/-- The listener has just taken a result when the request cannot be handed over. -/
def failing : List Party := .replicate 9 .task ++ .replicate 3 .listener ++ .replicate 2 .task

def Duo.succeeds : Duo → Bool
  | ⟨.done (.ok ()), _, _⟩ => true
  | _ => false

/-- Whether a task has failed while the listener is in the middle of a round. -/
def Duo.failsBesides : Duo → Bool
  | ⟨.done (.error _), .working _, _⟩ => true
  | _ => false

theorem succeeding_run :
    ∃ moves s, Run .standard waitingSubmission moves s ∧ s.task = .done (.ok ()) := by
  have ends : ((Duo.start waitingSubmission).play? .standard (answersWith (.ok ()))
      succeeding).any Duo.succeeds = true := by decide +kernel
  obtain ⟨s, played, succeeds⟩ := (Option.any_eq_true _ _).mp ends
  obtain ⟨moves, run⟩ := Run.start.play played
  refine ⟨moves, s, run, ?_⟩
  unfold Duo.succeeds at succeeds
  split at succeeds
  · rfl
  · cases succeeds

theorem failing_run :
    ∃ moves s failure rest, Run .standard waitingSubmission moves s ∧
      s.task = .done (.error failure) ∧ s.listener = .working rest := by
  have ends : ((Duo.start waitingSubmission).play? .standard
      (answersWith (.error (.transport "refused"))) failing).any Duo.failsBesides = true := by
    decide +kernel
  obtain ⟨s, played, fails⟩ := (Option.any_eq_true _ _).mp ends
  obtain ⟨moves, run⟩ := Run.start.play played
  unfold Duo.failsBesides at fails
  split at fails
  · exact ⟨moves, _, _, _, run, rfl, rfl⟩
  · cases fails

/-- One such submission succeeds and has ended its listener; another one fails without having told
its listener anything. -/
theorem submit_awaits_listener_twice :
    (∃ moves s reason fates, Run .standard waitingSubmission moves s ∧ s.task = .done (.ok ()) ∧
      s.listener = .ended reason ∧
      Service.Listener.Accounts Config.Settings.standard.listener Config.Settings.standard.rules
        (listenerLog moves) fates) ∧
    ∃ moves s failure, Run .standard waitingSubmission moves s ∧
      s.task = .done (.error failure) ∧
      ∀ e ∈ taskLog moves, e.call ≠ .cancel ∧ e.call ≠ .joinListener := by
  obtain ⟨moves, s, run, returned⟩ := succeeding_run
  obtain ⟨moves', s', failure, -, run', returned', -⟩ := failing_run
  obtain ⟨reason, fates, ended, accounts, -⟩ := (submit_awaits_listener run returned).1 rfl
  obtain ⟨spared, -⟩ := (submit_awaits_listener run' returned').2 failure rfl
  exact ⟨⟨moves, s, reason, fates, run, returned, ended, accounts⟩,
    moves', s', failure, run', returned', spared⟩

/-- **A submission that fails may leave its listener at work**, in the middle of a round and not told
to end. -/
theorem submit_leaves_listener :
    ¬ ∀ (settings : Config.Settings) (urls : List String) (input : Option String)
        (waitTimeout : Nat) (moves : List Move) (s : Duo) (outcome : Except Failure Unit),
        Run settings (Task.submit settings urls input true waitTimeout) moves s →
        s.task = .done outcome → s.listener = .absent ∨ ∃ reason, s.listener = .ended reason := by
  intro released
  obtain ⟨moves, s, failure, rest, run, returned, working⟩ := failing_run
  rcases released _ _ _ _ moves s _ run returned with absent | ⟨reason, ended⟩
  · rw [working] at absent
    cases absent
  · rw [working] at ended
    cases ended

end WebCapture.CommandLine
