import WebCapture.Service.Listener

set_option autoImplicit false

/-! # The listener beside other work

A listener that was started works on its own, while whoever has started it goes on. `Status` tells
how far it is from one call to the next.

The listener looks whether it is to end only between two rounds, so it never leaves a result that
it has taken off the channel. `turn` is one such round, and `rest?` is what a listener that is at
work does next. Which of its calls falls between which calls of the other work is left to whoever
runs both.
-/

namespace WebCapture.Service.Listener

/-- One round of the listener, which says so if it is the last one. -/
def turn (config : Config.Listener) (rules : Rules) (failures : Nat) : Work Next := do
  match ← round config rules failures with
  | .goOn failures => return .goOn failures
  | .exit reason =>
    Work.setListening false
    return .exit reason

def opening : Work Next := do
  Work.setListening true
  return .goOn 0

/-- How far the listener is that works beside a task. -/
inductive Status where
  | absent
  /-- Between two rounds, after so many failed polls in a row. -/
  | waiting (failures : Nat)
  /-- In a round of which this is left. -/
  | working (rest : Work Next)
  | ended (reason : ListenerExit)

namespace Status

/-- How far the listener is when this is left of its round. -/
def ofRest : Work Next → Status
  | .done (.goOn failures) => .waiting failures
  | .done (.exit reason) => .ended reason
  | .call c next => .working (.call c next)

def started : Status := ofRest opening

/-- What is left of the round that the listener is in or is to begin, unless it is not at work. -/
def rest? (config : Config.Listener) (rules : Rules) : Status → Option (Work Next)
  | absent => none
  | waiting failures => some (turn config rules failures)
  | working rest => some rest
  | ended _ => none

end Status

end WebCapture.Service.Listener
