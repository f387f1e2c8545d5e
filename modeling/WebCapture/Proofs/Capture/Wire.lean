import WebCapture.Proofs.Capture.Members
import WebCapture.Queue.Channels

set_option autoImplicit false

/-! # Requests and results survive the wire

Requests and results are read back from their written forms, whatever characters they hold
(`Request.read_text`, `Result.read_text`). So whoever takes the payload of a request decodes the
request, a result that is put aside is put aside as it was, and no two messages have one payload
(`messages_survive`).

A result is written as one of the ways in which its members may be written, so that reading it
back is a case of `tells_resultRecord`. Requests have no optional members and are read directly.
Injectivity needs nothing about writing: what can be read back tells what was written
(`ofString_text_injective`).
-/

namespace WebCapture.Capture

open Json (IsString Member Tells isString_stringText spells_escaped)
open Text.Utf8 (Bytes)

/-! ## Requests -/

theorem lookUp_statesByName (state : Seed.State) :
    Json.lookUp statesByName state.name = .ok state := by
  cases state <;> rfl

/-- The members of a request fill its fields. -/
theorem tells_requestRecord (request : Request) :
    Tells requestRecord.decoder (Json.objectText [
      ("SeedURL", Json.stringText request.url),
      ("SeedShadowID", Json.stringText request.id),
      ("Status", Json.stringText request.state.name)]) (some request) := by
  have url : requestRecord.fields.find? (·.name == "SeedURL")
      = some (Json.field "SeedURL" Json.string (·.url)
        (fun draft x => { draft with url := some x }) false) := rfl
  have id : requestRecord.fields.find? (·.name == "SeedShadowID")
      = some (Json.field "SeedShadowID" Json.string (·.id)
        (fun draft x => { draft with id := some x }) false) := rfl
  have state : requestRecord.fields.find? (·.name == "Status")
      = some (Json.field "Status" (Json.variant statesByName) (·.state)
        (fun draft x => { draft with state := some x }) false) := rfl
  have setsUrl := Json.does_written url (Json.tells_string (isString_stringText request.url))
  have setsId := Json.does_written id (Json.tells_string (isString_stringText request.id))
  have setsState := Json.does_written state
    (Json.tells_variant (isString_stringText request.state.name)
      (lookUp_statesByName request.state))
  exact Json.tells_written (.cons setsUrl (.cons setsId (.cons setsState .nil)))

/-- **A request is read back from its written form.** -/
theorem Request.read_text (request : Request) :
    Request.read (Text.Utf8.ofString request.text) = .ok request := by
  rw [Request.text, Text.Utf8.ofString_ofList]
  exact Json.eq_ok_of_toOption (Json.decode_encode (tells_requestRecord request))

/-- **Whoever takes the payload of a request decodes the request.** -/
theorem decodeRequest_of_encodeRequest {request : Request} {payload : Text.Utf8.Bytes}
    (h : Queue.encodeRequest request = .ok payload) :
    Queue.decodeRequest payload = .ok request := by
  unfold Queue.encodeRequest at h
  split at h
  · nomatch h
  · have written : Text.Utf8.ofString request.text = payload := Except.ok.inj h
    rw [← written, Queue.decodeRequest, Request.read_text]

/-- A request is sent if it has an identifier and an address. -/
theorem encodeRequest_isOk_iff (request : Request) :
    (∃ payload, Queue.encodeRequest request = .ok payload) ↔
      request.id ≠ "" ∧ request.url ≠ "" := by
  rw [Queue.encodeRequest, Request.gap?]
  by_cases id : request.id = ""
  · simp [id]
  by_cases url : request.url = ""
  · simp [id, url]
  · simp [id, url]

/-! ## Results -/

def recordMembers (record : Seed.CaptureRecord) : List RecordMember :=
  [.stamp record.stamp, .capturedUrl record.capturedUrl]

def resultMembers (result : Result) : List ResultMember :=
  [.id result.id, .done result.done, .errors (some result.errors)] ++
    result.record.toList.map fun record => .record (some (recordMembers record))

theorem resultOf?_resultMembers (result : Result) :
    resultOf? (resultMembers result) = some result := by
  obtain ⟨id, done, errors, record⟩ := result
  cases record <;> rfl

theorem isObject_recordText (record : Seed.CaptureRecord) :
    Json.IsObject RecordMember.IsWritten (recordMembers record) (recordText record) :=
  Json.isObject_objectText
    (.cons (.stamp (spells_escaped _) (isString_stringText record.stamp))
      (.cons (.capturedUrl (spells_escaped _) (isString_stringText record.capturedUrl)) .nil))

/-- **A result is read back from its written form.** -/
theorem Result.read_text (result : Result) :
    Result.read (Text.Utf8.ofString result.text) = .ok result := by
  rw [Result.text, Text.Utf8.ofString_ofList]
  refine Json.eq_ok_of_toOption (Json.decode_encode ?_)
  rw [← resultOf?_resultMembers result]
  refine tells_resultRecord (Json.isObject_objectText ?_)
  have errors := Json.isList_listText isString_stringText result.errors
  refine .cons (.id (spells_escaped _) (isString_stringText result.id))
    (.cons (.done (spells_escaped _) rfl) (.cons (.errors (spells_escaped _) errors) ?_))
  cases result.record with
  | none => exact .nil
  | some record => exact .cons (.record (spells_escaped _) (isObject_recordText record)) .nil

theorem decodeResult_encodeResult (result : Result) :
    Queue.decodeResult (Queue.encodeResult result) = .ok result := by
  rw [Queue.decodeResult, Queue.encodeResult, Result.read_text]

/-! ## Messages -/

/-- What can be read back tells what was written. -/
theorem ofString_text_injective {α : Type} {write : α → String}
    {read : Bytes → Except Json.Fault α}
    (h : ∀ x, read (Text.Utf8.ofString (write x)) = .ok x) {x y : α}
    (same : Text.Utf8.ofString (write x) = Text.Utf8.ofString (write y)) : x = y := by
  have both := h x
  rw [same, h y] at both
  exact (Except.ok.inj both).symm

/-- **Requests and results survive the wire.** A result is decoded from its payload, and so from
the payload of what was decoded before; a result that is put aside is the next one among those put
aside. A request has a payload if it has an identifier and an address, and whoever takes the
payload off the request channel gets the request. Different messages are written differently. -/
theorem messages_survive :
    (∀ result, Queue.decodeResult (Queue.encodeResult result) = .ok result) ∧
    (∀ payload result, Queue.decodeResult payload = .ok result →
      Queue.decodeResult (Queue.encodeResult result) = Queue.decodeResult payload) ∧
    (∀ (channels : Queue.Channels) (result : Result),
      (channels.answer (.park result)).2.parked = channels.parked ++ [result]) ∧
    (∀ request, (∃ payload, Queue.encodeRequest request = .ok payload) ↔
      request.id ≠ "" ∧ request.url ≠ "") ∧
    (∀ request payload, Queue.encodeRequest request = .ok payload →
      Queue.decodeRequest payload = .ok request ∧
        ∀ more results unmatched,
          Queue.Channels.popRequest ⟨payload :: more, results, unmatched⟩
            = (.ok (some request), ⟨more, results, unmatched⟩)) ∧
    (∀ request request' : Request,
      Text.Utf8.ofString request.text = Text.Utf8.ofString request'.text → request = request') ∧
    (∀ result result', Queue.encodeResult result = Queue.encodeResult result' →
      result = result') := by
  refine ⟨decodeResult_encodeResult, ?_, ?_, encodeRequest_isOk_iff, ?_, ?_, ?_⟩
  · intro payload result decoded
    rw [decodeResult_encodeResult, decoded]
  · intro channels result
    simp [Queue.Channels.answer, Queue.Channels.parked, decodeResult_encodeResult,
      Except.toOption]
  · intro request payload encoded
    have decoded := decodeRequest_of_encodeRequest encoded
    refine ⟨decoded, fun more results unmatched => ?_⟩
    show ((Queue.decodeRequest payload).map some, _) = _
    rw [decoded]
    rfl
  · intro request request' same
    exact ofString_text_injective Request.read_text same
  · intro result result' same
    exact ofString_text_injective Result.read_text same

/-- A result with its identifier escaped, and a request with a quote and a backslash. -/
theorem messages_survive_escapes :
    (∃ payload, Queue.decodeResult payload = .ok ⟨"1", true, [], none⟩ ∧
        payload ≠ Queue.encodeResult ⟨"1", true, [], none⟩ ∧
        Queue.decodeResult (Queue.encodeResult ⟨"1", true, [], none⟩)
          = Queue.decodeResult payload) ∧
      ∃ payload, Queue.encodeRequest ⟨"http://a/\"\\", "1", .notEnqueued⟩ = .ok payload ∧
        Queue.decodeRequest payload = .ok ⟨"http://a/\"\\", "1", .notEnqueued⟩ := by
  obtain ⟨-, result, -, sent, request, -, -⟩ := messages_survive
  constructor
  · have one : Json.IsHex "0031".toList '1'.toNat := ⟨rfl, by decide⟩
    have id : ResultMember.IsWritten ⟨[], "SeedShadowID".toList, [],
        ⟨[], "\"\\u0031\"".toList, []⟩⟩ (.id "1") :=
      .id (spells_escaped "SeedShadowID".toList) ⟨_, .point one .nil, rfl⟩
    have done : ResultMember.IsWritten ⟨[], "Done".toList, [], ⟨[], "true".toList, []⟩⟩
        (.done true) := .done (spells_escaped "Done".toList) rfl
    have written : Json.IsObject ResultMember.IsWritten [.id "1", .done true]
        "\x7b\"SeedShadowID\":\"\\u0031\",\"Done\":true\x7d".toList :=
      ⟨[_, _], ⟨⟨_, .inl rfl, rfl⟩, by decide⟩, .cons id (.cons done .nil)⟩
    have decoded := decodeResult_of_read (Json.decode_encode (tells_resultRecord written))
    exact ⟨_, decoded, by decide +kernel, result _ _ decoded⟩
  · obtain ⟨payload, encoded⟩ := (sent ⟨"http://a/\"\\", "1", .notEnqueued⟩).2
      ⟨by decide, by decide⟩
    exact ⟨payload, encoded, (request _ _ encoded).1⟩

end WebCapture.Capture
