import WebCapture.Time.Span

set_option autoImplicit false

/-! # Waiting between attempts

After each failed attempt the wait grows by a factor, up to a longest wait. Waits are computed in
floating point from the first one, `initialDelay * multiplier ^ attempt` milliseconds, and not
each from the one before, so the wait of an attempt does not depend on the attempts in front of
it.
-/

namespace WebCapture.Config

/-- How often something is tried and how long the waits in between are. -/
structure Retry where
  maxAttempts : Nat
  initialDelay : Time.Span
  maxDelay : Time.Span
  /-- By what the wait grows from one attempt to the next. -/
  multiplier : Float

namespace Retry

def standard : Retry := ⟨3, .ofMillis 100, .ofSeconds 10, 2.0⟩

/-- `acc · base ^ exponent`, by repeated squaring. -/
def powerFrom (acc base : Float) (exponent : Nat) : Float :=
  let acc := if exponent % 2 = 1 then acc * base else acc
  if exponent < 2 then acc else powerFrom acc (base * base) (exponent / 2)
termination_by exponent

def power (base : Float) (exponent : Int) : Float :=
  let p := powerFrom 1.0 base exponent.natAbs
  if exponent < 0 then 1.0 / p else p

/-- The wait before the attempt number `attempt`, counted from 0. The number of the attempt is
kept in 32 bits with a sign, and the wait in 64 bits of milliseconds. -/
def delay (retry : Retry) (attempt : Nat) : Time.Span :=
  let wanted := Float.ofNat retry.initialDelay.millis *
    power retry.multiplier ((attempt : Int).bmod 0x100000000)
  let most := Float.ofNat 0xFFFFFFFFFFFFFFFF
  let millis := if wanted.isNaN then most else if wanted < most then wanted else most
  let span := Time.Span.ofMillis millis.toUInt64.toNat
  if span.isLonger retry.maxDelay then retry.maxDelay else span

end Retry

end WebCapture.Config
