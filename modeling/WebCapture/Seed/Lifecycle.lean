import WebCapture.Text.Quoted

set_option autoImplicit false

/-! # The lifecycle of a seed

A seed waits to be handed to the crawler, is then pending, and ends as a success or a failure:

    notEnqueued → pending → doneSuccess
                          → doneFailure

A seed that has ended never changes again; to capture its address once more it is submitted as a
new seed. `leadsTo` holds the three arrows of the picture and nothing else: no state leads to
itself, and a result that overtakes the mark of its seed has to take both steps.

The names of the states are shared with the crawler and with what is kept on the broker.
-/

namespace WebCapture.Seed

/-- Where a seed is in its lifecycle. -/
inductive State where
  | notEnqueued
  | pending
  | doneSuccess
  | doneFailure
  deriving DecidableEq, Repr

namespace State

def all : List State := [notEnqueued, pending, doneSuccess, doneFailure]

/-- The name of a state, which the crawler and the stores share. -/
def name : State → String
  | notEnqueued => "NotEnqueued"
  | pending => "Pending"
  | doneSuccess => "DoneSuccess"
  | doneFailure => "DoneFailure"

def ofName? (name : String) : Option State := all.find? fun state => state.name == name

def isTerminal : State → Bool
  | doneSuccess | doneFailure => true
  | notEnqueued | pending => false

def leadsTo : State → State → Bool
  | notEnqueued, pending => true
  | pending, doneSuccess => true
  | pending, doneFailure => true
  | _, _ => false

theorem ofName?_name (state : State) : ofName? state.name = some state := by
  cases state <;> decide

end State

def noStateMessage (text : String) : String :=
  Text.quoted text ++ " is not a valid capture state"

end WebCapture.Seed
