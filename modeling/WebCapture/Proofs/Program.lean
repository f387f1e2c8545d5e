import WebCapture.Program

set_option autoImplicit false

/-! # What programs can do

A program that is carried out exchanges calls and answers with its surroundings. This file has the
notions in which all statements about the work of the service are made, and how each of them goes
through a sequence of programs.

* `Runs` says which exchanges a program may make until it ends, whatever the answers, and
  `Reaches` what is left of it after some of them.
* `Only` says that all calls of a program are of a kind, and `OnlyAfter` that some calls wait for
  an exchange.
* `Follows` says which exchanges surroundings allow, and what state they leave the surroundings
  in.
* `Ensures` says what holds of the result of a program and of the state that its surroundings are
  left in, however it is carried out. `Amid` adds surroundings in which others act between two
  calls.

A statement about a program in some surroundings speaks of a log of exchanges that the program
runs through and that the surroundings follow, or of what the program `Ensures` in them;
`Ensures.follows` leads from the second to the first.

Proofs follow the program: one lemma for each function of the service, in which `ensures_bind` or
`only_bind` takes the sequence apart and the lemmas of the functions that are called are used by
name.
-/

namespace WebCapture

/-- A computation goes on with the result of a part that has not failed. -/
theorem ok_bind {ε α β : Type} (x : α) (f : α → Except ε β) :
    ((Except.ok x : Except ε α) >>= f) = f x := rfl

/-- A computation gives a result only if its first part does. -/
theorem bind_eq_ok {ε α β : Type} {x : Except ε α} {f : α → Except ε β} {result : β} :
    x >>= f = .ok result ↔ ∃ part, x = .ok part ∧ f part = .ok result := by
  cases x with
  | error e =>
      constructor
      · intro h
        cases h
      · rintro ⟨part, h, -⟩
        cases h
  | ok part => exact ⟨fun h => ⟨part, rfl, h⟩, fun ⟨_, same, h⟩ => Except.ok.inj same ▸ h⟩

structure Exchange (Call : Type) (Answer : Call → Type) where
  call : Call
  answer : Answer call

namespace Program

variable {Call : Type} {Answer : Call → Type} {α β σ : Type}

/-! ## Runs -/

/-- The program may make the exchanges of a log, in their order, and then end with a result. -/
def Runs : Program Call Answer α → List (Exchange Call Answer) → α → Prop
  | done x, log, y => log = [] ∧ y = x
  | call c next, log, y => ∃ answer rest, log = ⟨c, answer⟩ :: rest ∧ (next answer).Runs rest y

theorem runs_pure {x y : α} {log : List (Exchange Call Answer)} :
    (pure x : Program Call Answer α).Runs log y ↔ log = [] ∧ y = x := Iff.rfl

/-- A program in sequence runs through a log of the first part and one of the second. -/
theorem runs_bind {p : Program Call Answer α} {f : α → Program Call Answer β} {y : β}
    {log : List (Exchange Call Answer)} :
    (p >>= f).Runs log y ↔
      ∃ x first rest, log = first ++ rest ∧ p.Runs first x ∧ (f x).Runs rest y := by
  induction p generalizing log with
  | done x =>
      constructor
      · intro h
        exact ⟨x, [], log, rfl, ⟨rfl, rfl⟩, h⟩
      · rintro ⟨x', first, rest, rfl, ⟨rfl, rfl⟩, h⟩
        exact h
  | call c next ih =>
      constructor
      · rintro ⟨answer, log', rfl, h⟩
        obtain ⟨x, first, rest, rfl, hp, hf⟩ := (ih answer).mp h
        exact ⟨x, ⟨c, answer⟩ :: first, rest, rfl, ⟨answer, first, rfl, hp⟩, hf⟩
      · rintro ⟨x, first, rest, rfl, ⟨answer, first', rfl, hp⟩, hf⟩
        exact ⟨answer, first' ++ rest, rfl, (ih answer).mpr ⟨x, first', rest, rfl, hp, hf⟩⟩

/-- The program may make the exchanges of a log, in their order, and `rest` is left of it. -/
def Reaches (p : Program Call Answer α) (log : List (Exchange Call Answer))
    (rest : Program Call Answer α) : Prop :=
  match log with
  | [] => rest = p
  | e :: log =>
    ∃ (c : Call) (next : Answer c → Program Call Answer α) (answer : Answer c),
      p = call c next ∧ e = ⟨c, answer⟩ ∧ (next answer).Reaches log rest

/-- A program that has ended makes no exchange. -/
theorem reaches_pure {x : α} {log : List (Exchange Call Answer)} {rest : Program Call Answer α} :
    (pure x : Program Call Answer α).Reaches log rest ↔ log = [] ∧ rest = pure x := by
  cases log with
  | nil => exact ⟨fun h => ⟨rfl, h⟩, And.right⟩
  | cons e log =>
      constructor
      · rintro ⟨c, next, answer, impossible, -⟩
        cases impossible
      · rintro ⟨impossible, -⟩
        cases impossible

/-- What is left of a program goes one exchange further. -/
theorem Reaches.snoc {p : Program Call Answer α} {log : List (Exchange Call Answer)} {c : Call}
    {next : Answer c → Program Call Answer α} (h : p.Reaches log (call c next))
    (answer : Answer c) : p.Reaches (log ++ [⟨c, answer⟩]) (next answer) := by
  induction log generalizing p with
  | nil => exact ⟨c, next, answer, h.symm, rfl, rfl⟩
  | cons e log ih =>
      obtain ⟨c', next', first, hp, he, h⟩ := h
      exact ⟨c', next', first, hp, he, ih h⟩

/-- However the rest of a program goes on, it is a run of the whole. -/
theorem Reaches.runs {p rest : Program Call Answer α} {log log' : List (Exchange Call Answer)}
    {x : α} (h : p.Reaches log rest) (runs : rest.Runs log' x) : p.Runs (log ++ log') x := by
  induction log generalizing p with
  | nil =>
      obtain rfl : rest = p := h
      exact runs
  | cons e log ih =>
      obtain ⟨c, next, answer, rfl, rfl, h⟩ := h
      exact ⟨answer, log ++ log', rfl, ih h⟩

/-- A program of which only its result is left has run. -/
theorem Reaches.done_runs {p : Program Call Answer α} {log : List (Exchange Call Answer)} {x : α}
    (h : p.Reaches log (done x)) : p.Runs log x := by
  have whole := h.runs (runs_pure.mpr ⟨rfl, rfl⟩)
  rwa [List.append_nil] at whole

/-! ## Carrying out -/

/-- A program in sequence is carried out part by part. -/
theorem runState_bind (handle : (c : Call) → σ → Answer c × σ) (p : Program Call Answer α)
    (f : α → Program Call Answer β) (s : σ) :
    (p >>= f).runState handle s =
      (f (p.runState handle s).1).runState handle (p.runState handle s).2 := by
  induction p generalizing s with
  | done x => rfl
  | call c next ih => exact ih (handle c s).1 (handle c s).2

/-- Carries a program out for at most so many calls: what is left of it, and the state then. -/
def runFor (handle : (c : Call) → σ → Answer c × σ) :
    Nat → Program Call Answer α → σ → Program Call Answer α × σ
  | 0, p, s => (p, s)
  | _ + 1, done x, s => (done x, s)
  | n + 1, call c next, s => (next (handle c s).1).runFor handle n (handle c s).2

/-! ## Kinds of calls -/

/-- Every call that the program may make satisfies `P`, whatever the answers before it. -/
def Only (P : Call → Prop) : Program Call Answer α → Prop
  | done _ => True
  | call c next => P c ∧ ∀ answer, (next answer).Only P

theorem only_pure {P : Call → Prop} {x : α} : (pure x : Program Call Answer α).Only P := trivial

theorem only_bind {P : Call → Prop} {p : Program Call Answer α} {f : α → Program Call Answer β}
    (hp : p.Only P) (hf : ∀ x, (f x).Only P) : (p >>= f).Only P := by
  induction p with
  | done x => exact hf x
  | call c next ih => exact ⟨hp.1, fun answer => ih answer (hp.2 answer)⟩

/-- What the second part of a program does may depend on the result with which the first ended. -/
theorem only_bind_of_runs {P : Call → Prop} {p : Program Call Answer α}
    {f : α → Program Call Answer β} (hp : p.Only P)
    (hf : ∀ log x, p.Runs log x → (f x).Only P) : (p >>= f).Only P := by
  induction p with
  | done x => exact hf [] x ⟨rfl, rfl⟩
  | call c next ih =>
      refine ⟨hp.1, fun answer => ih answer (hp.2 answer) fun log x runs => ?_⟩
      exact hf (⟨c, answer⟩ :: log) x ⟨answer, log, rfl, runs⟩

theorem Only.mono {P Q : Call → Prop} {p : Program Call Answer α} (h : p.Only P)
    (wider : ∀ c, P c → Q c) : p.Only Q := by
  induction p with
  | done x => trivial
  | call c next ih => exact ⟨wider c h.1, fun answer => ih answer (h.2 answer)⟩

/-- The exchanges of a program whose calls are of a kind are of that kind. -/
theorem Runs.only {P : Call → Prop} {p : Program Call Answer α} {x : α}
    {log : List (Exchange Call Answer)} (h : p.Runs log x) (hp : p.Only P) :
    ∀ e ∈ log, P e.call := by
  induction p generalizing log with
  | done y =>
      obtain ⟨rfl, -⟩ := h
      exact fun e he => absurd he List.not_mem_nil
  | call c next ih =>
      obtain ⟨answer, rest, rfl, h⟩ := h
      intro e he
      rcases List.mem_cons.mp he with rfl | he
      · exact hp.1
      · exact ih answer h (hp.2 answer) e he

/-- What is left of a program whose calls are of a kind makes calls of that kind only. -/
theorem Reaches.only {P : Call → Prop} {p rest : Program Call Answer α}
    {log : List (Exchange Call Answer)} (h : p.Reaches log rest) (hp : p.Only P) : rest.Only P := by
  induction log generalizing p with
  | nil =>
      obtain rfl : rest = p := h
      exact hp
  | cons e log ih =>
      obtain ⟨c, next, answer, rfl, -, h⟩ := h
      exact ih h (hp.2 answer)

/-! ## Calls that wait for an exchange -/

/-- The program makes calls that satisfy `Q` only after an exchange that satisfies `P`. -/
def OnlyAfter (P : Exchange Call Answer → Prop) (Q : Call → Prop) : Program Call Answer α → Prop
  | done _ => True
  | call c next => ¬Q c ∧ ∀ answer, P ⟨c, answer⟩ ∨ (next answer).OnlyAfter P Q

section OnlyAfter

variable {P : Exchange Call Answer → Prop} {Q : Call → Prop}

theorem onlyAfter_pure {x : α} : (pure x : Program Call Answer α).OnlyAfter P Q := trivial

/-- A program that makes no such calls at all need not wait. -/
theorem Only.onlyAfter {p : Program Call Answer α} (h : p.Only fun c => ¬Q c) :
    p.OnlyAfter P Q := by
  induction p with
  | done x => trivial
  | call c next ih => exact ⟨h.1, fun answer => .inr (ih answer (h.2 answer))⟩

/-- A program in sequence waits if its second part does wherever the first part has ended without
the exchange. -/
theorem onlyAfter_bind {p : Program Call Answer α} {f : α → Program Call Answer β}
    (hp : p.OnlyAfter P Q)
    (hf : ∀ log x, p.Runs log x → (∃ e ∈ log, P e) ∨ (f x).OnlyAfter P Q) :
    (p >>= f).OnlyAfter P Q := by
  induction p with
  | done x =>
      rcases hf [] x ⟨rfl, rfl⟩ with ⟨e, impossible, -⟩ | waits
      · exact absurd impossible List.not_mem_nil
      · exact waits
  | call c next ih =>
      refine ⟨hp.1, fun answer => ?_⟩
      by_cases here : P ⟨c, answer⟩
      · exact .inl here
      · refine .inr (ih answer ((hp.2 answer).resolve_left here) fun log x runs => ?_)
        rcases hf (⟨c, answer⟩ :: log) x ⟨answer, log, rfl, runs⟩ with ⟨e, there, he⟩ | waits
        · rcases List.mem_cons.mp there with rfl | there
          · exact absurd he here
          · exact .inl ⟨e, there, he⟩
        · exact .inr waits

/-- Whoever is about to make such a call has had the exchange. -/
theorem OnlyAfter.reaches {p : Program Call Answer α} {log : List (Exchange Call Answer)} {c : Call}
    {next : Answer c → Program Call Answer α} (h : p.OnlyAfter P Q)
    (reached : p.Reaches log (call c next)) (hc : Q c) : ∃ e ∈ log, P e := by
  induction log generalizing p with
  | nil =>
      obtain rfl : call c next = p := reached
      exact absurd hc h.1
  | cons e log ih =>
      obtain ⟨c', next', answer, rfl, rfl, reached⟩ := reached
      rcases h.2 answer with here | waits
      · exact ⟨_, List.mem_cons_self, here⟩
      · obtain ⟨e, there, he⟩ := ih waits reached
        exact ⟨e, List.mem_cons_of_mem _ there, he⟩

end OnlyAfter

/-! ## Surroundings

Surroundings are a relation between two states and the exchange that leads from the one to the
other. A store that may fail, a store that others use as well and a store that never fails differ
in this relation only.
-/

/-- Surroundings begun in one state may take part in the exchanges of a log and be left in
another, where `R` says what they do in one exchange. -/
def Follows (R : σ → Exchange Call Answer → σ → Prop) :
    σ → List (Exchange Call Answer) → σ → Prop
  | s, [], t => t = s
  | s, e :: log, t => ∃ u, R s e u ∧ Follows R u log t

variable {R : σ → Exchange Call Answer → σ → Prop}

theorem follows_append {s t : σ} {first rest : List (Exchange Call Answer)} :
    Follows R s (first ++ rest) t ↔ ∃ u, Follows R s first u ∧ Follows R u rest t := by
  induction first generalizing s with
  | nil => exact ⟨fun h => ⟨s, rfl, h⟩, fun ⟨u, hu, h⟩ => hu ▸ h⟩
  | cons e first ih =>
      constructor
      · rintro ⟨v, hv, h⟩
        obtain ⟨u, h₁, h₂⟩ := ih.mp h
        exact ⟨u, ⟨v, hv, h₁⟩, h₂⟩
      · rintro ⟨u, ⟨v, hv, h₁⟩, h₂⟩
        exact ⟨v, hv, ih.mpr ⟨u, h₁, h₂⟩⟩

/-- What every exchange of a log keeps is kept by all of them. -/
theorem Follows.keeps {P : σ → Prop} {s t : σ} {log : List (Exchange Call Answer)}
    (follows : Follows R s log t) (kept : ∀ e ∈ log, ∀ u v, R u e v → P u → P v) (h : P s) :
    P t := by
  induction log generalizing s with
  | nil =>
      obtain rfl : t = s := follows
      exact h
  | cons e log ih =>
      obtain ⟨u, first, follows⟩ := follows
      obtain ⟨here, later⟩ := List.forall_mem_cons.mp kept
      exact ih follows later (here s u first h)

/-- Of the surroundings only a part may be looked at. -/
theorem Follows.map {τ : Type} {R' : τ → Exchange Call Answer → τ → Prop} (part : σ → τ)
    (seen : ∀ s e t, R s e t → R' (part s) e (part t)) {s t : σ}
    {log : List (Exchange Call Answer)} (follows : Follows R s log t) :
    Follows R' (part s) log (part t) := by
  induction log generalizing s with
  | nil => exact congrArg part follows
  | cons e log ih =>
      obtain ⟨u, first, follows⟩ := follows
      exact ⟨part u, seen s e u first, ih follows⟩

/-! ## What a program ensures -/

/-- However the program is carried out in surroundings that begin in a state, its result and the
state that the surroundings are left in satisfy `Post`. -/
def Ensures (R : σ → Exchange Call Answer → σ → Prop) (Post : α → σ → Prop) :
    Program Call Answer α → σ → Prop
  | done x, s => Post x s
  | call c next, s => ∀ answer t, R s ⟨c, answer⟩ t → (next answer).Ensures R Post t

variable {Post Post' : α → σ → Prop} {p : Program Call Answer α} {s t : σ}

/-- A program in sequence ensures what its second part does wherever the first part leaves it. -/
theorem ensures_bind {Post : β → σ → Prop} {f : α → Program Call Answer β} :
    (p >>= f).Ensures R Post s ↔ p.Ensures R (fun x t => (f x).Ensures R Post t) s := by
  induction p generalizing s with
  | done x => exact Iff.rfl
  | call c next ih =>
      constructor
      · intro h answer t first
        exact (ih answer).mp (h answer t first)
      · intro h answer t first
        exact (ih answer).mpr (h answer t first)

theorem Ensures.mono (h : p.Ensures R Post s) (weaker : ∀ x t, Post x t → Post' x t) :
    p.Ensures R Post' s := by
  induction p generalizing s with
  | done x => exact weaker x s h
  | call c next ih =>
      intro answer t first
      exact ih answer (h answer t first)

/-- What a program ensures holds at the end of every run that the surroundings follow. -/
theorem Ensures.follows {x : α} {log : List (Exchange Call Answer)} (h : p.Ensures R Post s)
    (runs : p.Runs log x) (follows : Follows R s log t) : Post x t := by
  induction p generalizing s log with
  | done y =>
      obtain ⟨rfl, rfl⟩ := runs
      obtain rfl : t = s := follows
      exact h
  | call c next ih =>
      obtain ⟨answer, rest, rfl, runs⟩ := runs
      obtain ⟨u, first, follows⟩ := follows
      exact ih answer (h answer u first) runs follows

/-- A program that is carried out on a state runs through a log that the surroundings follow, if
they allow the answers. -/
theorem exists_log (handle : (c : Call) → σ → Answer c × σ)
    (allowed : ∀ c s, R s ⟨c, (handle c s).1⟩ (handle c s).2) (p : Program Call Answer α) (s : σ) :
    ∃ log, p.Runs log (p.runState handle s).1 ∧ Follows R s log (p.runState handle s).2 := by
  induction p generalizing s with
  | done x => exact ⟨[], ⟨rfl, rfl⟩, rfl⟩
  | call c next ih =>
      obtain ⟨log, runs, follows⟩ := ih (handle c s).1 (handle c s).2
      exact ⟨_ :: log, ⟨(handle c s).1, log, rfl, runs⟩, (handle c s).2, allowed c s, follows⟩

theorem Ensures.and (h : p.Ensures R Post s) (h' : p.Ensures R Post' s) :
    p.Ensures R (fun x t => Post x t ∧ Post' x t) s := by
  induction p generalizing s with
  | done x => exact ⟨h, h'⟩
  | call c next ih =>
      intro answer t first
      exact ih answer (h answer t first) (h' answer t first)

/-- What is always true is ensured. -/
theorem ensures_of_forall (h : ∀ x t, Post x t) : p.Ensures R Post s := by
  induction p generalizing s with
  | done x => exact h x s
  | call c next ih =>
      intro answer t _
      exact ih answer

/-! ## Surroundings in which others act

What others do is a relation between states too, the rely. It is assumed to be transitive, so that
it does not matter how often others act between two calls.
-/

/-- One exchange with surroundings in which others, of whom `Rely` tells what they may do, have
acted before. -/
def Amid (Rely : σ → σ → Prop) (R : σ → Exchange Call Answer → σ → Prop) (s : σ)
    (e : Exchange Call Answer) (t : σ) : Prop :=
  ∃ u, Rely s u ∧ R u e t

/-- What a program ensures while others act it still ensures after they have acted. -/
theorem Ensures.later {Rely : σ → σ → Prop} (h : p.Ensures (Amid Rely R) Post s)
    (relied : Rely s t) (transitive : ∀ {s t u}, Rely s t → Rely t u → Rely s u)
    (stable : ∀ {x s t}, Rely s t → Post x s → Post x t) : p.Ensures (Amid Rely R) Post t := by
  cases p with
  | done x => exact stable relied h
  | call c next =>
      rintro answer u ⟨v, acted, first⟩
      exact h answer u ⟨v, transitive relied acted, first⟩

/-! ## Calls that are made of smaller ones -/

section Expand

variable {Call' : Type} {Answer' : Call' → Type}
  {f : (c : Call) → Program Call' Answer' (Answer c)}

/-- The program, each call of which is carried out by a program of its own. -/
def expand (f : (c : Call) → Program Call' Answer' (Answer c)) :
    Program Call Answer α → Program Call' Answer' α
  | done x => done x
  | call c next => f c >>= fun answer => (next answer).expand f

/-- Calls of a kind are carried out by smaller calls of a kind. -/
theorem Only.expand {P : Call → Prop} {P' : Call' → Prop} (h : p.Only P)
    (hf : ∀ c, P c → (f c).Only P') : (p.expand f).Only P' := by
  induction p with
  | done x => trivial
  | call c next ih => exact only_bind (hf c h.1) fun answer => ih answer (h.2 answer)

/-- However the smaller calls are answered, there are answers to the greater ones with which the
program ends alike. -/
theorem runs_of_expand {x : α} {log : List (Exchange Call' Answer')} (h : (p.expand f).Runs log x) :
    ∃ log', p.Runs log' x := by
  induction p generalizing log with
  | done y => exact ⟨[], rfl, h.2⟩
  | call c next ih =>
      obtain ⟨answer, first, rest, -, -, h⟩ := runs_bind.mp h
      obtain ⟨log', runs⟩ := ih answer h
      exact ⟨_, answer, log', rfl, runs⟩

/-- If the smaller calls ensure what is expected of the greater ones, then the program ensures with
the smaller ones what it does with the greater ones. -/
theorem Ensures.expand {R' : σ → Exchange Call' Answer' → σ → Prop} (h : p.Ensures R Post s)
    (hf : ∀ c s, (f c).Ensures R' (fun answer t => R s ⟨c, answer⟩ t) s) :
    (p.expand f).Ensures R' Post s := by
  induction p generalizing s with
  | done x => exact h
  | call c next ih =>
      refine ensures_bind.mpr ((hf c s).mono fun answer t done => ?_)
      exact ih answer (h answer t done)

end Expand

end Program

end WebCapture
