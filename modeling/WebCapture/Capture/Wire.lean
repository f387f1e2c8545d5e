import WebCapture.Capture.Message
import WebCapture.Json.Decoder
import WebCapture.Json.Text

set_option autoImplicit false

/-! # The written form of requests and results

Requests and results travel as JSON objects whose member names are fixed between the service and
the crawler. Members with other names are ignored when a message is read, a member that is known
must not come twice, and the members that may be missing are those that the crawler leaves out:
the errors and the capture record.

Each kind of message is written by one function and read by one `Record`, which gathers the
members in a draft. That the two agree is proved in `Proofs/Capture/Wire`, and what else is read
as a result in `Proofs/Capture/Members`.
-/

namespace WebCapture.Capture

open Json (Decoder Fault Record)

/-! ## Writing -/

def Request.text (request : Request) : String :=
  String.ofList (Json.objectText [
    ("SeedURL", Json.stringText request.url),
    ("SeedShadowID", Json.stringText request.id),
    ("Status", Json.stringText request.state.name)])

def recordText (record : Seed.CaptureRecord) : List Char :=
  Json.objectText [
    ("Timestamp", Json.stringText record.stamp),
    ("CapturedUrl", Json.stringText record.capturedUrl)]

/-- The written form of a result; a record that is absent is left out. -/
def Result.text (result : Result) : String :=
  String.ofList (Json.objectText ([
    ("SeedShadowID", Json.stringText result.id),
    ("Done", Json.booleanText result.done),
    ("ErrorMessages", Json.listText (result.errors.map Json.stringText))] ++
    (match result.record with
      | some record => [("CaptureMetadata", recordText record)]
      | none => [])))

/-! ## Reading -/

def statesByName : List (String × Seed.State) := Seed.State.all.map fun state => (state.name, state)

structure RequestDraft where
  url : Option String
  id : Option ShadowId
  state : Option Seed.State

def requestRecord : Record RequestDraft Request where
  title := "struct CaptureRequest"
  listTitle := "struct CaptureRequest with 3 elements"
  fields := [
    Json.field "SeedURL" Json.string (·.url)
      (fun draft x => { draft with url := some x }) false,
    Json.field "SeedShadowID" Json.string (·.id)
      (fun draft x => { draft with id := some x }) false,
    Json.field "Status" (Json.variant statesByName) (·.state)
      (fun draft x => { draft with state := some x }) false]
  closed := false
  draft := ⟨none, none, none⟩
  finish := fun draft => do
    let url ← Json.required "SeedURL" draft.url
    let id ← Json.required "SeedShadowID" draft.id
    let state ← Json.required "Status" draft.state
    return ⟨url, id, state⟩

structure RecordDraft where
  stamp : Option String
  capturedUrl : Option String

def captureRecord : Record RecordDraft Seed.CaptureRecord where
  title := "struct CaptureMetadata"
  listTitle := "struct CaptureMetadata with 2 elements"
  fields := [
    Json.field "Timestamp" Json.string (·.stamp)
      (fun draft x => { draft with stamp := some x }) false,
    Json.field "CapturedUrl" Json.string (·.capturedUrl)
      (fun draft x => { draft with capturedUrl := some x }) false]
  closed := false
  draft := ⟨none, none⟩
  finish := fun draft => do
    let stamp ← Json.required "Timestamp" draft.stamp
    let capturedUrl ← Json.required "CapturedUrl" draft.capturedUrl
    return ⟨stamp, capturedUrl⟩

structure ResultDraft where
  id : Option ShadowId
  done : Option Bool
  errors : Option (List String)
  record : Option (Option Seed.CaptureRecord)

/-- How a result is read. A null in place of the errors stands for none. -/
def resultRecord : Record ResultDraft Result where
  title := "struct CaptureResult"
  listTitle := "struct CaptureResult with 4 elements"
  fields := [
    Json.field "SeedShadowID" Json.string (·.id)
      (fun draft x => { draft with id := some x }) false,
    Json.field "Done" Json.boolean (·.done)
      (fun draft x => { draft with done := some x }) false,
    Json.field "ErrorMessages" (Json.nullable (Json.list Json.string)) (·.errors)
      (fun draft x => { draft with errors := some (x.getD []) }) true,
    Json.field "CaptureMetadata" (Json.nullable captureRecord.decoder) (·.record)
      (fun draft x => { draft with record := some x }) true]
  closed := false
  draft := ⟨none, none, none, none⟩
  finish := fun draft => do
    let id ← Json.required "SeedShadowID" draft.id
    let done ← Json.required "Done" draft.done
    return ⟨id, done, draft.errors.getD [], draft.record.getD none⟩

def Request.read (payload : Text.Utf8.Bytes) : Except Fault Request :=
  Json.decode requestRecord.decoder (Json.Source.ofBytes payload)

def Result.read (payload : Text.Utf8.Bytes) : Except Fault Result :=
  Json.decode resultRecord.decoder (Json.Source.ofBytes payload)

end WebCapture.Capture
