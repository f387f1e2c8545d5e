import WebCapture.Queue.Basic
import WebCapture.Store.Basic
import WebCapture.Url.Admission

set_option autoImplicit false

/-! # What can go wrong in the service

Errors of the store, of the queue and of an address are told in the words of where they come from;
the number of the line, or that a request was to be handed over, stands in front. A `CaptureError`
of a group tells how far the work has come, since the seeds in front of the error stay handed
over.
-/

namespace WebCapture.Service

/-- What can go wrong with the submission and the keeping of seeds. -/
inductive SeedError where
  | emptyInput
  | inputTooLarge (size limit : Nat)
  | tooManyLines (lines limit : Nat)
  /-- A line, counted from 1, is refused. -/
  | invalidUrl (line : Nat) (refusal : Url.Refusal)
  | illegalTransition (source target : Seed.State)
  | record (error : Seed.RecordError)
  | store (error : Store.Error)
  deriving DecidableEq, Repr

def SeedError.message : SeedError → String
  | .emptyInput => "no input data"
  | .inputTooLarge size limit =>
    "input data is too large (" ++ toString size ++ " bytes, limit " ++ toString limit ++ ")"
  | .tooManyLines lines limit =>
    "too many lines (" ++ toString lines ++ ", limit " ++ toString limit ++ ")"
  | .invalidUrl line refusal => "line " ++ toString line ++ ": " ++ refusal.message
  | .illegalTransition source target =>
    "illegal state transition " ++ source.name ++ " -> " ++ target.name
  | .record error => error.message
  | .store error => error.message

/-- The state that a conflicting change found. -/
def SeedError.conflictingState? : SeedError → Option Seed.State
  | .store error => error.conflictingState?
  | _ => none

/-- What can go wrong when seeds are handed to the crawler. -/
inductive CaptureError where
  | queue (error : Queue.Error)
  | seed (error : SeedError)
  /-- The seeds before the one with the error stay enqueued and pending. -/
  | groupPartiallyEnqueued (enqueued total : Nat) (error : CaptureError)
  deriving DecidableEq, Repr

def CaptureError.message : CaptureError → String
  | .queue error => "enqueue failed: " ++ error.message
  | .seed error => error.message
  | .groupPartiallyEnqueued enqueued total error =>
    "group capture stopped after " ++ toString enqueued ++ " of " ++ toString total ++
      " seeds: " ++ error.message

end WebCapture.Service
