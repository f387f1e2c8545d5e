set_option autoImplicit false

/-! # How bad an event is

Events of the service that somebody may have to act upon, errors of the queue and the end of the
listener, are rated on one scale.
-/

namespace WebCapture

/-- How bad an event is. -/
inductive Severity where
  | low
  | medium
  | high
  | critical
  deriving DecidableEq, Repr

def Severity.name : Severity → String
  | low => "Low"
  | medium => "Medium"
  | high => "High"
  | critical => "Critical"

end WebCapture
