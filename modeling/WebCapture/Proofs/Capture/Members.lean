import WebCapture.Proofs.Json.Reading
import WebCapture.Queue.Basic

set_option autoImplicit false

/-! # A result depends on its members alone

A crawler may write a result in many ways: the members in any order, any character escaped, blanks
and members of other names anywhere. `ResultMember` is what a member says, and `resultOf?` puts
together what the members say; whatever the spelling, that is what is read
(`decodeResult_members`).

How a member may be written is a relation, `ResultMember.IsWritten`, between a member of the
grammar in `Proofs/Json/Grammar` and what it says. Every member that is written in one of these
ways has an effect on the draft of the result (`ResultMember.does`), and the effects of all
members, one after the other, come to the same as gathering the values of each field and asking
that there be no more than one (`apply_resultMembers`). The order of the members is gone in that
step.

`resultOf?_eq_none` says when members make up no result. Together with the theorem about reading
it tells exactly which objects of known members are refused.
-/

namespace WebCapture.Capture

open Json (IsBlank IsList IsObject IsString IsValue Member Spells Tells)
open Text.Utf8 (Bytes)

/-! ## Capture records

A capture record inside a result is an object like the result itself, so that all that is said
about the members of a result is said about those of a record first.
-/

inductive RecordMember where
  | stamp (stamp : String)
  | capturedUrl (url : String)
  /-- A member of another name, whatever its value. -/
  | other
  deriving DecidableEq, Repr

def recordNames : List String := ["Timestamp", "CapturedUrl"]

/-- How a member of a capture record may be written. Keys are compared without their escapes. -/
inductive RecordMember.IsWritten : Member → RecordMember → Prop
  | stamp {member : Member} {stamp : String} (key : Spells member.key "Timestamp".toList)
      (value : IsString member.item.value stamp) : IsWritten member (.stamp stamp)
  | capturedUrl {member : Member} {url : String} (key : Spells member.key "CapturedUrl".toList)
      (value : IsString member.item.value url) : IsWritten member (.capturedUrl url)
  | other {member : Member} {name : String} (key : Spells member.key name.toList)
      (unknown : name ∉ recordNames) (value : IsValue member.item.value) : IsWritten member .other

def RecordMember.stamp? : RecordMember → Option String
  | .stamp value => some value
  | _ => none

def RecordMember.capturedUrl? : RecordMember → Option String
  | .capturedUrl value => some value
  | _ => none

/-- What has to be said once. -/
def once? {β : Type} : List β → Option β
  | [x] => some x
  | _ => none

/-- What may be said once, and must not be said twice. -/
def atMostOnce? {β : Type} : List β → Option (Option β)
  | [] => some none
  | [x] => some (some x)
  | _ => none

def recordOf? (members : List RecordMember) : Option Seed.CaptureRecord := do
  let stamp ← once? (members.filterMap RecordMember.stamp?)
  let capturedUrl ← once? (members.filterMap RecordMember.capturedUrl?)
  return ⟨stamp, capturedUrl⟩

/-! ## Results -/

inductive ResultMember where
  | id (id : ShadowId)
  | done (done : Bool)
  /-- The errors, or the null. -/
  | errors (errors : Option (List String))
  /-- The members of the capture record, or the null. -/
  | record (record : Option (List RecordMember))
  /-- A member of another name, whatever its value. -/
  | other
  deriving DecidableEq, Repr

def resultNames : List String := ["SeedShadowID", "Done", "ErrorMessages", "CaptureMetadata"]

def nullText : List Char := ['n', 'u', 'l', 'l']

/-- How a member of a result may be written. Keys are compared without their escapes. -/
inductive ResultMember.IsWritten : Member → ResultMember → Prop
  | id {member : Member} {id : ShadowId} (key : Spells member.key "SeedShadowID".toList)
      (value : IsString member.item.value id) : IsWritten member (.id id)
  | done {member : Member} {done : Bool} (key : Spells member.key "Done".toList)
      (value : member.item.value = Json.booleanText done) : IsWritten member (.done done)
  | noErrors {member : Member} (key : Spells member.key "ErrorMessages".toList)
      (value : member.item.value = nullText) : IsWritten member (.errors none)
  | errors {member : Member} {errors : List String}
      (key : Spells member.key "ErrorMessages".toList)
      (value : IsList IsString errors member.item.value) : IsWritten member (.errors (some errors))
  | noRecord {member : Member} (key : Spells member.key "CaptureMetadata".toList)
      (value : member.item.value = nullText) : IsWritten member (.record none)
  | record {member : Member} {record : List RecordMember}
      (key : Spells member.key "CaptureMetadata".toList)
      (value : IsObject RecordMember.IsWritten record member.item.value) :
      IsWritten member (.record (some record))
  | other {member : Member} {name : String} (key : Spells member.key name.toList)
      (unknown : name ∉ resultNames) (value : IsValue member.item.value) : IsWritten member .other

def ResultMember.id? : ResultMember → Option ShadowId
  | .id value => some value
  | _ => none

def ResultMember.done? : ResultMember → Option Bool
  | .done value => some value
  | _ => none

def ResultMember.errors? : ResultMember → Option (Option (List String))
  | .errors value => some value
  | _ => none

def ResultMember.record? : ResultMember → Option (Option (List RecordMember))
  | .record value => some value
  | _ => none

/-- The capture record in a member: the null stands for none. -/
def recordIn? : Option (List RecordMember) → Option (Option Seed.CaptureRecord)
  | none => some none
  | some members => (recordOf? members).map some

/-- The result that members make up. Errors and capture record may be missing; a null stands for
no errors and for no record. -/
def resultOf? (members : List ResultMember) : Option Result := do
  let id ← once? (members.filterMap ResultMember.id?)
  let done ← once? (members.filterMap ResultMember.done?)
  let errors ← atMostOnce? (members.filterMap ResultMember.errors?)
  let record ← ((members.filterMap ResultMember.record?).mapM recordIn?).bind atMostOnce?
  return ⟨id, done, (errors.getD none).getD [], record.getD none⟩

/-! ## Gathering fields

A draft is filled member by member, and a field that is set refuses a second value. What is left
in the end does not depend on the order in which members of different fields came.
-/

/-- What a field holds after some values were put into it, one after the other: none fits into a
field that is set. -/
def gather {β : Type} : Option β → List β → Option (Option β)
  | x?, [] => some x?
  | none, x :: xs => gather (some x) xs
  | some _, _ :: _ => none

theorem gather_none {β : Type} (xs : List β) : gather none xs = atMostOnce? xs := by
  match xs with
  | [] => rfl
  | [_] => rfl
  | _ :: _ :: _ => rfl

theorem once?_eq {β : Type} (xs : List β) : once? xs = (atMostOnce? xs).bind id := by
  match xs with
  | [] => rfl
  | [_] => rfl
  | _ :: _ :: _ => rfl

theorem atMostOnce?_map {β γ : Type} (f : β → γ) (xs : List β) :
    atMostOnce? (xs.map f) = (atMostOnce? xs).map (Option.map f) := by
  match xs with
  | [] => rfl
  | [_] => rfl
  | _ :: _ :: _ => rfl

def RecordMember.effect : RecordMember → RecordDraft → Option RecordDraft
  | .stamp value, draft =>
    if draft.stamp.isSome then none else some { draft with stamp := some value }
  | .capturedUrl value, draft =>
    if draft.capturedUrl.isSome then none else some { draft with capturedUrl := some value }
  | .other, draft => some draft

/-- The members put their values into the fields of the draft. -/
theorem apply_recordMembers (members : List RecordMember) (draft : RecordDraft) :
    Json.apply (members.map RecordMember.effect) draft
      = (gather draft.stamp (members.filterMap RecordMember.stamp?)).bind fun stamp =>
          (gather draft.capturedUrl (members.filterMap RecordMember.capturedUrl?)).bind fun url =>
            some ⟨stamp, url⟩ := by
  induction members generalizing draft with
  | nil => rfl
  | cons member members ih =>
      obtain ⟨stamp, capturedUrl⟩ := draft
      rw [List.map_cons, Json.apply_cons]
      cases member with
      | stamp s =>
          cases stamp with
          | none => exact ih _
          | some _ => rfl
      | capturedUrl url =>
          cases capturedUrl with
          | none => exact ih _
          | some _ => exact (Option.bind_fun_none _).symm
      | other => exact ih _

/-- The first of some values that have to be read is put into a field that is not set. -/
theorem mapM_gather_cons {β γ : Type} (read : γ → Option β) (x? : Option β) (value : γ)
    (values : List γ) :
    ((value :: values).mapM read).bind (gather x?)
      = if x?.isSome then none
        else (read value).bind fun x => (values.mapM read).bind (gather (some x)) := by
  rw [List.mapM_cons]
  cases read value with
  | none => cases x? <;> rfl
  | some x => cases values.mapM read <;> cases x? <;> rfl

def ResultMember.effect : ResultMember → ResultDraft → Option ResultDraft
  | .id value, draft => if draft.id.isSome then none else some { draft with id := some value }
  | .done value, draft =>
    if draft.done.isSome then none else some { draft with done := some value }
  | .errors value, draft =>
    if draft.errors.isSome then none else some { draft with errors := some (value.getD []) }
  | .record value, draft =>
    if draft.record.isSome then none
    else (recordIn? value).map fun record => { draft with record := some record }
  | .other, draft => some draft

theorem apply_resultMembers (members : List ResultMember) (draft : ResultDraft) :
    Json.apply (members.map ResultMember.effect) draft
      = (gather draft.id (members.filterMap ResultMember.id?)).bind fun id =>
          (gather draft.done (members.filterMap ResultMember.done?)).bind fun done =>
            (gather draft.errors
                ((members.filterMap ResultMember.errors?).map (·.getD []))).bind fun errors =>
              (((members.filterMap ResultMember.record?).mapM recordIn?).bind
                  (gather draft.record)).bind fun record =>
                some ⟨id, done, errors, record⟩ := by
  induction members generalizing draft with
  | nil => rfl
  | cons member members ih =>
      obtain ⟨id, done, errors, record⟩ := draft
      rw [List.map_cons, Json.apply_cons]
      -- A member that comes for a second time makes both sides `none`, wherever it stands.
      cases member with
      | id value =>
          cases id with
          | none => exact ih _
          | some _ => rfl
      | done value =>
          cases done with
          | none => exact ih _
          | some _ => exact (Option.bind_fun_none _).symm
      | errors value =>
          cases errors with
          | none => exact ih _
          | some _ =>
              show none = (gather id (members.filterMap ResultMember.id?)).bind fun _ =>
                (gather done (members.filterMap ResultMember.done?)).bind fun _ => none
              rw [Option.bind_fun_none, Option.bind_fun_none]
      | record value =>
          have values : (ResultMember.record value :: members).filterMap ResultMember.record?
              = value :: members.filterMap ResultMember.record? := rfl
          rw [values, mapM_gather_cons]
          cases record with
          | none =>
              cases read : recordIn? value with
              | none =>
                  simp only [ResultMember.effect, read]
                  simp
              | some x =>
                  simp only [ResultMember.effect, read]
                  exact ih _
          | some _ => simp [ResultMember.effect]
      | other => exact ih _

/-! ## Reading members

Each member that may be written has a lemma on what it does to the draft. Which field of the
record its key names is known by computation, since there are only a few.
-/

theorem not_field_of_name {σ α : Type} {record : Json.Record σ α} {name : String}
    (unknown : name ∉ record.fields.map (·.name)) :
    record.fields.find? (·.name == name) = none := by
  rw [List.find?_eq_none]
  intro field here same
  exact unknown (List.mem_map.2 ⟨field, here, by simpa using same⟩)

theorem RecordMember.does {member : Member} {told : RecordMember} (padded : member.IsPadded)
    (h : RecordMember.IsWritten member told) : member.Does captureRecord told.effect := by
  cases h with
  | stamp key value =>
      have known : captureRecord.fields.find? (·.name == "Timestamp")
          = some (Json.field "Timestamp" Json.string (·.stamp)
            (fun draft x => { draft with stamp := some x }) false) := rfl
      exact Json.does_field padded key known (Json.tells_string value)
  | capturedUrl key value =>
      have known : captureRecord.fields.find? (·.name == "CapturedUrl")
          = some (Json.field "CapturedUrl" Json.string (·.capturedUrl)
            (fun draft x => { draft with capturedUrl := some x }) false) := rfl
      exact Json.does_field padded key known (Json.tells_string value)
  | other key unknown value =>
      exact Json.does_nothing padded key (not_field_of_name unknown) rfl value

/-- **A capture record is read as what its members make up.** -/
theorem tells_captureRecord {members : List RecordMember} {text : List Char}
    (h : IsObject RecordMember.IsWritten members text) :
    Tells captureRecord.decoder text (recordOf? members) := by
  have told := Json.tells_isObject h fun member x padded => RecordMember.does padded
  have empty : captureRecord.draft = ⟨none, none⟩ := rfl
  rw [apply_recordMembers, empty, gather_none, gather_none] at told
  rw [recordOf?, once?_eq, once?_eq]
  convert told using 1
  rcases atMostOnce? (members.filterMap RecordMember.stamp?) with _ | _ | stamp <;>
    rcases atMostOnce? (members.filterMap RecordMember.capturedUrl?) with _ | _ | url <;> rfl

theorem starts_isString {text : List Char} {s : String} (h : IsString text s) :
    Json.Starts text := by
  obtain ⟨inner, -, rfl⟩ := h
  exact ⟨'"', _, rfl, rfl, by decide, by decide⟩

/-- Errors are read whether they are listed or null. -/
theorem tells_errors {errors : List String} {text : List Char} (h : IsList IsString errors text) :
    Tells (Json.nullable (Json.list Json.string)) text (some (some errors)) := by
  have told := Json.tells_isList h fun cs s string =>
    ⟨starts_isString string, Json.tells_string string⟩
  obtain ⟨items, parts, -⟩ := h
  obtain ⟨inner, -, rfl⟩ := parts.enclosed
  exact Json.tells_nullable rfl (by decide) told

theorem tells_record {record : List RecordMember} {text : List Char}
    (h : IsObject RecordMember.IsWritten record text) :
    Tells (Json.nullable captureRecord.decoder) text ((recordOf? record).map some) := by
  have told := tells_captureRecord h
  obtain ⟨members, parts, -⟩ := h
  obtain ⟨inner, -, rfl⟩ := parts.enclosed
  exact Json.tells_nullable rfl (by decide) told

theorem does_errors {member : Member} {errors : Option (List String)} (padded : member.IsPadded)
    (key : Spells member.key "ErrorMessages".toList)
    (told : Tells (Json.nullable (Json.list Json.string)) member.item.value (some errors)) :
    member.Does resultRecord (ResultMember.errors errors).effect := by
  have known : resultRecord.fields.find? (·.name == "ErrorMessages")
      = some (Json.field "ErrorMessages" (Json.nullable (Json.list Json.string)) (·.errors)
        (fun draft x => { draft with errors := some (x.getD []) }) true) := rfl
  have does := Json.does_field padded key known told
  refine Eq.subst (funext fun draft => ?_) does
  obtain ⟨id, done, set, record⟩ := draft
  cases set <;> rfl

theorem ResultMember.does {member : Member} {told : ResultMember} (padded : member.IsPadded)
    (h : ResultMember.IsWritten member told) : member.Does resultRecord told.effect := by
  have recordKnown : resultRecord.fields.find? (·.name == "CaptureMetadata")
      = some (Json.field "CaptureMetadata" (Json.nullable captureRecord.decoder) (·.record)
        (fun draft x => { draft with record := some x }) true) := rfl
  cases h with
  | id key value =>
      have known : resultRecord.fields.find? (·.name == "SeedShadowID")
          = some (Json.field "SeedShadowID" Json.string (·.id)
            (fun draft x => { draft with id := some x }) false) := rfl
      exact Json.does_field padded key known (Json.tells_string value)
  | @done b key value =>
      have known : resultRecord.fields.find? (·.name == "Done")
          = some (Json.field "Done" Json.boolean (·.done)
            (fun draft x => { draft with done := some x }) false) := rfl
      have told := Json.tells_boolean b
      rw [← value] at told
      exact Json.does_field padded key known told
  | noErrors key value =>
      have told : Tells (Json.nullable (Json.list Json.string)) nullText (some none) :=
        Json.tells_null
      rw [← value] at told
      exact does_errors padded key told
  | errors key value => exact does_errors padded key (tells_errors value)
  | noRecord key value =>
      have told : Tells (Json.nullable captureRecord.decoder) nullText (some none) :=
        Json.tells_null
      rw [← value] at told
      exact Json.does_field padded key recordKnown told
  | record key value =>
      exact Json.does_field padded key recordKnown (tells_record value)
  | other key unknown value =>
      exact Json.does_nothing padded key (not_field_of_name unknown) rfl value

/-- **A result is read as what its members make up.** -/
theorem tells_resultRecord {members : List ResultMember} {text : List Char}
    (h : IsObject ResultMember.IsWritten members text) :
    Tells resultRecord.decoder text (resultOf? members) := by
  have told := Json.tells_isObject h fun member x padded => ResultMember.does padded
  have empty : resultRecord.draft = ⟨none, none, none, none⟩ := rfl
  have gathered : gather none = (atMostOnce? : List (Option Seed.CaptureRecord) → _) :=
    funext gather_none
  rw [apply_resultMembers, empty, gather_none, gather_none, gather_none, gathered,
    atMostOnce?_map] at told
  rw [resultOf?, once?_eq, once?_eq]
  convert told using 1
  rcases atMostOnce? (members.filterMap ResultMember.id?) with _ | _ | id <;>
    rcases atMostOnce? (members.filterMap ResultMember.done?) with _ | _ | done <;>
    rcases atMostOnce? (members.filterMap ResultMember.errors?) with _ | _ | errors <;>
    rcases ((members.filterMap ResultMember.record?).mapM recordIn?).bind atMostOnce?
      with _ | _ | record <;> rfl

/-! ## What members fail to make up

Members fail for the number of times that a field is given, and for nothing else, as their values
are of the right kind by the way they are written.
-/

theorem once?_eq_none {β : Type} {xs : List β} : once? xs = none ↔ xs.length ≠ 1 := by
  match xs with
  | [] => simp [once?]
  | [_] => simp [once?]
  | _ :: _ :: _ => simp [once?]

theorem atMostOnce?_eq_none {β : Type} {xs : List β} : atMostOnce? xs = none ↔ 1 < xs.length := by
  match xs with
  | [] => simp [atMostOnce?]
  | [_] => simp [atMostOnce?]
  | _ :: _ :: _ => simp [atMostOnce?]

/-- A capture record needs both fields, each of them once. -/
theorem recordOf?_eq_none {members : List RecordMember} :
    recordOf? members = none ↔ (members.filterMap RecordMember.stamp?).length ≠ 1 ∨
      (members.filterMap RecordMember.capturedUrl?).length ≠ 1 := by
  rw [← once?_eq_none, ← once?_eq_none, recordOf?]
  cases once? (members.filterMap RecordMember.stamp?) <;>
    cases once? (members.filterMap RecordMember.capturedUrl?) <;> simp

/-- What may be said once cannot be read if it is said twice or holds nothing. -/
theorem mapM_atMostOnce?_eq_none {β γ : Type} {read : γ → Option β} {values : List γ} :
    (values.mapM read).bind atMostOnce? = none ↔
      1 < values.length ∨ ∃ value ∈ values, read value = none := by
  match values with
  | [] => simp [atMostOnce?]
  | [value] =>
      rw [List.mapM_cons]
      cases held : read value <;> simp [held, atMostOnce?]
  | first :: second :: more =>
      have long : 1 < (first :: second :: more).length := by simp
      simp only [long, true_or, iff_true]
      rw [List.mapM_cons, List.mapM_cons]
      cases read first <;> cases read second <;> cases more.mapM read <;> rfl

theorem recordIn?_eq_none {value : Option (List RecordMember)} :
    recordIn? value = none ↔ ∃ record, value = some record ∧ recordOf? record = none := by
  cases value <;> simp [recordIn?]

/-- **A result needs its identifier and its state once; errors and capture record may be missing,
but must not be said twice, and a capture record has to be complete.** -/
theorem resultOf?_eq_none {members : List ResultMember} :
    resultOf? members = none ↔
      (members.filterMap ResultMember.id?).length ≠ 1 ∨
        (members.filterMap ResultMember.done?).length ≠ 1 ∨
        1 < (members.filterMap ResultMember.errors?).length ∨
        1 < (members.filterMap ResultMember.record?).length ∨
        ∃ record, some record ∈ members.filterMap ResultMember.record? ∧
          recordOf? record = none := by
  have records : ((members.filterMap ResultMember.record?).mapM recordIn?).bind atMostOnce? = none ↔
      1 < (members.filterMap ResultMember.record?).length ∨
        ∃ record, some record ∈ members.filterMap ResultMember.record? ∧
          recordOf? record = none := by
    rw [mapM_atMostOnce?_eq_none]
    refine or_congr_right ⟨?_, ?_⟩
    · rintro ⟨value, here, unread⟩
      obtain ⟨record, rfl, incomplete⟩ := recordIn?_eq_none.1 unread
      exact ⟨record, here, incomplete⟩
    · rintro ⟨record, here, incomplete⟩
      exact ⟨some record, here, recordIn?_eq_none.2 ⟨record, rfl, incomplete⟩⟩
  rw [← once?_eq_none, ← once?_eq_none, ← atMostOnce?_eq_none, ← records, resultOf?]
  cases once? (members.filterMap ResultMember.id?) <;>
    cases once? (members.filterMap ResultMember.done?) <;>
    cases atMostOnce? (members.filterMap ResultMember.errors?) <;>
    cases ((members.filterMap ResultMember.record?).mapM recordIn?).bind atMostOnce? <;> simp

/-! ## Payloads -/

theorem decodeResult_of_read {payload : Bytes} {result : Result}
    (h : (Result.read payload).toOption = some result) :
    Queue.decodeResult payload = .ok result := by
  rw [Queue.decodeResult, Json.eq_ok_of_toOption h]

theorem malformed_of_read {payload : Bytes} (h : (Result.read payload).toOption = none) :
    ∃ reason, Queue.decodeResult payload = .error (.malformed reason) := by
  rw [Queue.decodeResult]
  cases read : Result.read payload with
  | ok _ => rw [read] at h; cases h
  | error fault => exact ⟨fault.message, rfl⟩

/-- **A result is read off its members, however they are written, and nothing else may follow.**
Any order, any escapes, any blanks and any other members give the result that the known members
make up; a payload is malformed if a field that is needed is missing, if a known member is said
twice, or if something else than blanks follows. -/
theorem decodeResult_members {members : List ResultMember} {before text : List Char}
    (blank : IsBlank before) (written : IsObject ResultMember.IsWritten members text)
    (after : Bytes) :
    (∀ result, resultOf? members = some result → (∀ b ∈ after, Json.IsBlankByte b) →
      Queue.decodeResult (Text.Utf8.encode (before ++ text) ++ after) = .ok result) ∧
    (resultOf? members = none ∨ (∃ b ∈ after, ¬Json.IsBlankByte b) →
      ∃ reason, Queue.decodeResult (Text.Utf8.encode (before ++ text) ++ after)
        = .error (.malformed reason)) ∧
    (resultOf? members = none ↔
      (members.filterMap ResultMember.id?).length ≠ 1 ∨
        (members.filterMap ResultMember.done?).length ≠ 1 ∨
        1 < (members.filterMap ResultMember.errors?).length ∨
        1 < (members.filterMap ResultMember.record?).length ∨
        ∃ record, some record ∈ members.filterMap ResultMember.record? ∧
          ((record.filterMap RecordMember.stamp?).length ≠ 1 ∨
            (record.filterMap RecordMember.capturedUrl?).length ≠ 1)) := by
  have source : Json.Source.ofBytes (Text.Utf8.encode (before ++ text) ++ after)
      = before.map some ++ (text.map some ++ Json.Source.ofBytes after) := by
    rw [Json.Source.ofBytes, Text.Utf8.units_append, List.map_append, List.append_assoc]
    rfl
  have read := Json.decode_of_tells (tells_resultRecord written) blank (Json.Source.ofBytes after)
  rw [← source] at read
  simp only [Json.skipBlanks_ofBytes] at read
  refine ⟨?_, ?_, ?_⟩
  · intro result made blank'
    rw [if_pos blank', made] at read
    exact decodeResult_of_read read
  · intro fault
    refine malformed_of_read (read.trans ?_)
    rcases fault with none | ⟨b, here, visible⟩
    · rw [none, ite_self]
    · exact if_neg fun blank' => visible (blank' b here)
  · simp only [← recordOf?_eq_none]
    exact resultOf?_eq_none

/-- A result with its members in another order than usual, with escapes, blanks and members of
other names. -/
def wordyResult : List Char :=
  ("\x7b\"x\":[-1.5e3, null],\"SeedShadow\\u0049D\" :\"\\ud83d\\uDE00\",\"ErrorMessages\":null," ++
    "\"CaptureMetadata\":\x7b\"CapturedUrl\":\"\\/\",\"\":0,\"Timestamp\":\"t\"\x7d," ++
    "\n\"Done\": true\x7d").toList

theorem decodeResult_members_wordy :
    IsBlank [' '] ∧
      IsObject ResultMember.IsWritten
        [.other, .id "😀", .errors none, .record (some [.capturedUrl "/", .other, .stamp "t"]),
          .done true] wordyResult ∧
      Queue.decodeResult (Text.Utf8.encode ([' '] ++ wordyResult) ++ [0x0A])
        = .ok ⟨"😀", true, [], some ⟨"t", "/"⟩⟩ ∧
      ∃ reason, Queue.decodeResult (Text.Utf8.encode ([' '] ++ wordyResult) ++ [0x61])
        = .error (.malformed reason) := by
  have blank : IsBlank [' '] := by decide
  have plain : ∀ name : String, name.toList.all (Json.IsPlainChar ·) = true →
      Spells name.toList name.toList := by
    intro name plain
    have each := fun c hc => of_decide_eq_true (List.all_eq_true.1 plain c hc)
    have spells := Spells.behind_plain each .nil
    rwa [List.append_nil] at spells
  have number : Json.IsUnsigned (['1'] ++ (['.', '5'] ++ ['e', '3'])) :=
    .parts (.positive (by decide) (by decide)) (.present (by decide))
      (.present (.inl rfl) (.inl (Eq.refl [])) (by decide))
  have items : Json.IsListOf [⟨[], "-1.5e3".toList, []⟩, ⟨[' '], "null".toList, []⟩]
      "[-1.5e3, null]".toList := ⟨⟨_, .inl rfl, rfl⟩, by decide⟩
  have list : IsValue "[-1.5e3, null]".toList := by
    refine .list items ?_
    simp only [List.forall_mem_cons]
    exact ⟨.negative number, .null, by simp⟩
  have escaped : Spells "SeedShadow\\u0049D".toList "SeedShadowID".toList := by
    have code : Json.IsHex "0049".toList 'I'.toNat := ⟨rfl, by decide⟩
    have front : "SeedShadow".toList.all (Json.IsPlainChar ·) = true := by decide
    exact Spells.behind_plain (fun c hc => of_decide_eq_true (List.all_eq_true.1 front c hc))
      (.point code (plain "D" (by decide)))
  have smile : Spells "\\ud83d\\uDE00".toList "😀".toList := by
    have high : Json.IsHex "d83d".toList (0xD800 + 0x3D) := ⟨rfl, by decide⟩
    have low : Json.IsHex "DE00".toList (0xDC00 + 0x200) := ⟨rfl, by decide⟩
    exact .pair high low (by decide) (by decide) (by decide) .nil
  have record : IsObject RecordMember.IsWritten [.capturedUrl "/", .other, .stamp "t"]
      "\x7b\"CapturedUrl\":\"\\/\",\"\":0,\"Timestamp\":\"t\"\x7d".toList := by
    refine ⟨[⟨[], "CapturedUrl".toList, [], ⟨[], "\"\\/\"".toList, []⟩⟩,
      ⟨[], [], [], ⟨[], ['0'], []⟩⟩, ⟨[], "Timestamp".toList, [], ⟨[], "\"t\"".toList, []⟩⟩],
      ⟨⟨_, .inl rfl, rfl⟩, by decide⟩, ?_⟩
    have slash : IsString "\"\\/\"".toList "/" := ⟨['\\', '/'], .short (by decide) .nil, rfl⟩
    have zero : IsValue ['0'] := .positive (.parts .zero .absent .absent)
    exact .cons (.capturedUrl (plain "CapturedUrl" (by decide)) slash)
      (.cons (.other (plain "" (by decide)) (by decide) zero)
        (.cons (.stamp (plain "Timestamp" (by decide)) ⟨['t'], plain "t" (by decide), rfl⟩) .nil))
  have written : IsObject ResultMember.IsWritten
        [.other, .id "😀", .errors none, .record (some [.capturedUrl "/", .other, .stamp "t"]),
          .done true] wordyResult := by
    refine ⟨[⟨[], "x".toList, [], ⟨[], "[-1.5e3, null]".toList, []⟩⟩,
      ⟨[], "SeedShadow\\u0049D".toList, [' '], ⟨[], "\"\\ud83d\\uDE00\"".toList, []⟩⟩,
      ⟨[], "ErrorMessages".toList, [], ⟨[], nullText, []⟩⟩,
      ⟨[], "CaptureMetadata".toList, [],
        ⟨[], "\x7b\"CapturedUrl\":\"\\/\",\"\":0,\"Timestamp\":\"t\"\x7d".toList, []⟩⟩,
      ⟨['\n'], "Done".toList, [], ⟨[' '], "true".toList, []⟩⟩],
      ⟨⟨_, .inl rfl, by decide +kernel⟩, by decide⟩, ?_⟩
    exact .cons (.other (plain "x" (by decide)) (by decide) list)
      (.cons (.id escaped ⟨_, smile, rfl⟩)
        (.cons (.noErrors (plain "ErrorMessages" (by decide)) rfl)
          (.cons (.record (plain "CaptureMetadata" (by decide)) record)
            (.cons (.done (plain "Done" (by decide)) rfl) .nil))))
  have read := decodeResult_members blank written [0x0A]
  have refused := decodeResult_members blank written [0x61]
  have ends := List.forall_mem_singleton.2 (by decide : Json.IsBlankByte 0x0A)
  exact ⟨blank, written, read.1 _ rfl ends, refused.2.1 (.inr ⟨0x61, by decide, by decide⟩)⟩

end WebCapture.Capture
