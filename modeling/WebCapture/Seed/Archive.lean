import WebCapture.Text.Quoted
import WebCapture.Time.Reading

set_option autoImplicit false

/-! # Where a capture can be replayed

The crawler stamps a capture with the time at which it was made and tells the address it captured.
From these and the base address of the replay service come the details that a seed keeps: the
address of the replay and the time of the harvest.

A stamp has fourteen digits, or seventeen if it tells the milliseconds, and second 60 is read as a
leap second. `readStamp` complains first about what is no digit, and then about the length; when
the details of a capture are put together, the length is looked at before, in bytes.
-/

namespace WebCapture.Seed

/-- What the crawler tells about a capture it has stored. -/
structure CaptureRecord where
  /-- The time of the capture in digits, `YYYYMMDDhhmmss` or `YYYYMMDDhhmmssfff`. -/
  stamp : String
  /-- The captured address, as the crawler recorded it. -/
  capturedUrl : String
  deriving DecidableEq, Repr

/-- Where and when a capture was archived. -/
structure Archive where
  url : String
  harvestedAt : Time.Instant
  deriving DecidableEq, Repr

/-- Why a capture record cannot be used. -/
inductive RecordError where
  /-- The stamp has this many bytes. -/
  | stampLength (length : Nat)
  | stamp (text : String)
  deriving DecidableEq, Repr

def RecordError.message : RecordError → String
  | .stampLength length =>
    "timestamp must have 14 or 17 digits, got " ++ toString length ++ " characters"
  | .stamp text => "timestamp " ++ Text.quoted text ++ " does not match YYYYMMDDhhmmss[fff]"

/-- The time that a stamp denotes: fourteen digits, and perhaps three for milliseconds. -/
def readStamp (stamp : String) : Except RecordError Time.Instant :=
  let bytes := Text.Utf8.ofString stamp
  if !bytes.all (Time.digit? · |>.isSome) then .error (.stamp stamp)
  else if bytes.length ≠ 14 ∧ bytes.length ≠ 17 then .error (.stampLength bytes.length)
  else
    match Time.ofDigits? bytes (Time.number (bytes.drop 14) * 1000000) with
    | some instant => .ok instant
    | none => .error (.stamp stamp)

/-- The archive details of a capture. The captured address stands behind the stamp as it is,
since the replay service looks captures up by that very text. -/
def CaptureRecord.archive (record : CaptureRecord) (base : String) :
    Except RecordError Archive :=
  let length := (Text.Utf8.ofString record.stamp).length
  if length ≠ 14 ∧ length ≠ 17 then .error (.stampLength length)
  else
    match readStamp record.stamp with
    | .ok instant => .ok ⟨base ++ record.stamp ++ "/" ++ record.capturedUrl, instant⟩
    | .error e => .error e

end WebCapture.Seed
