import WebCapture.Decimal.Shortest

set_option autoImplicit false

/-! # Spans of time

A span is a number of seconds and nanoseconds, as settings give timeouts and delays. Its written
form uses the largest unit of which there is at least one, from seconds down to nanoseconds, with
a fraction if it needs one.
-/

namespace WebCapture.Time

/-- A length of time; `nanos` is less than a second. -/
structure Span where
  seconds : Nat
  nanos : Nat
  deriving DecidableEq, Repr

namespace Span

def ofSeconds (seconds : Nat) : Span := ⟨seconds, 0⟩

def ofMillis (millis : Nat) : Span := ⟨millis / 1000, millis % 1000 * 1000000⟩

def millis (span : Span) : Nat := span.seconds * 1000 + span.nanos / 1000000

/-- The milliseconds of a span, a begun one counting in full. -/
def millisUp (span : Span) : Nat := span.seconds * 1000 + (span.nanos + 999999) / 1000000

def isZero (span : Span) : Bool := span.seconds == 0 && span.nanos == 0

def isLonger (a b : Span) : Bool :=
  b.seconds < a.seconds || (a.seconds == b.seconds && b.nanos < a.nanos)

def toFloat (span : Span) : Float := Float.ofNat span.seconds + Float.ofNat span.nanos / 1e9

/-- A number with a fraction of `width` digits; zeros at its end are left out. -/
def withFraction (whole fraction width : Nat) : String :=
  let digits := Nat.toDigits 10 fraction
  let all := List.replicate (width - digits.length) '0' ++ digits
  let kept := (all.reverse.dropWhile (· == '0')).reverse
  toString whole ++ if fraction = 0 then "" else "." ++ String.ofList kept

/-- The span in the largest unit of which it has at least one. -/
def text (span : Span) : String :=
  if 0 < span.seconds then withFraction span.seconds span.nanos 9 ++ "s"
  else if 1000000 ≤ span.nanos then
    withFraction (span.nanos / 1000000) (span.nanos % 1000000) 6 ++ "ms"
  else if 1000 ≤ span.nanos then withFraction (span.nanos / 1000) (span.nanos % 1000) 3 ++ "µs"
  else toString span.nanos ++ "ns"

end Span

end WebCapture.Time
