set_option autoImplicit false

/-! # Programs over calls

A `Program` is a sequence of calls to its surroundings, each depending on the answers before it,
with a result at the end. The parts of the service, the dialogues with the broker and the tasks of
the command line are programs, each over calls of its own.

What the calls do is left open. `run` carries a program out with the answers of a given handler,
and `runState` does so on a state. Other definitions interrupt a program between two calls, let
several programs take turns, or let calls fail: a program is data, and what is left of it after
some calls is a program again. Its calls are therefore the atomic steps of whatever runs it.

Programs are composed with `do`. The equations `pure_bind`, `done_bind` and `call_bind` let `simp`
carry a composed program forward to its next call.
-/

namespace WebCapture

/-- A program that makes calls of type `Call`, where `Answer c` comes back from the call `c`,
and ends with a result. -/
inductive Program (Call : Type) (Answer : Call → Type) (α : Type) : Type where
  | done (result : α)
  | call (c : Call) (next : Answer c → Program Call Answer α)

namespace Program

variable {Call : Type} {Answer : Call → Type} {α β : Type}

/-- One program followed by another that depends on its result. -/
def bind (p : Program Call Answer α) (f : α → Program Call Answer β) : Program Call Answer β :=
  match p with
  | done result => f result
  | call c next => call c fun answer => (next answer).bind f

instance : Monad (Program Call Answer) where
  pure := done
  bind := bind

def run {m : Type → Type} [Monad m] (handle : (c : Call) → m (Answer c)) :
    Program Call Answer α → m α
  | done result => pure result
  | call c next => do (next (← handle c)).run handle

/-- Carries a program out on a state. -/
def runState {σ : Type} (handle : (c : Call) → σ → Answer c × σ) :
    Program Call Answer α → σ → α × σ
  | done result, s => (result, s)
  | call c next, s =>
    match handle c s with
    | (answer, s) => (next answer).runState handle s

@[simp] theorem pure_bind (x : α) (f : α → Program Call Answer β) : (pure x >>= f) = f x := rfl

@[simp] theorem done_bind (x : α) (f : α → Program Call Answer β) :
    (Program.done x >>= f) = f x := rfl

@[simp] theorem call_bind (c : Call) (next : Answer c → Program Call Answer α)
    (f : α → Program Call Answer β) :
    (Program.call c next >>= f) = Program.call c fun answer => next answer >>= f := rfl

end Program

end WebCapture
