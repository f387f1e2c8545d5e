import WebCapture.Seed.Basic

set_option autoImplicit false

/-! # What is exchanged with the crawler

A `Request` asks the crawler to capture one seed; a `Result` reports what became of it. Both name
the seed by its public handle.

A request whose seed has no handle or no address is not sent (`Request.gap?`). A result whose
capture goes on asks for nothing; when the capture has come to its end, the errors decide between
success and failure (`Result.target?`). Whether the record that comes with a success can be used
is not looked at here.
-/

namespace WebCapture.Capture

/-- What the crawler needs to capture a seed. -/
structure Request where
  url : String
  id : ShadowId
  /-- The state of the seed when the request was made. -/
  state : Seed.State
  deriving DecidableEq, Repr

def Request.ofSeed (seed : Seed) : Request := ⟨seed.url, seed.id, .notEnqueued⟩

inductive Request.Gap where
  | id
  | url
  deriving DecidableEq, Repr

def Request.Gap.message : Request.Gap → String
  | .id => "request has no SeedShadowID"
  | .url => "request has no SeedURL"

/-- The first thing that is missing from a request. -/
def Request.gap? (request : Request) : Option Request.Gap :=
  if request.id = "" then some .id
  else if request.url = "" then some .url
  else none

/-- What the crawler reports about a seed. -/
structure Result where
  id : ShadowId
  /-- Whether the capture has come to an end. -/
  done : Bool
  errors : List String
  record : Option Seed.CaptureRecord
  deriving DecidableEq, Repr

/-- The state in which a result leaves its seed; none while the capture goes on. -/
def Result.target? (result : Result) : Option Seed.State :=
  if !result.done then none
  else if result.errors = [] then some .doneSuccess
  else some .doneFailure

end WebCapture.Capture
