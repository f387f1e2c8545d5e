set_option autoImplicit false

/-! # Labels of host names in ASCII

A label of a host name that holds characters beyond ASCII is sent as an ASCII label: its ASCII
characters come first, and behind a hyphen follow numbers that say which other characters to
insert, and where. A number is written with digits of a varying weight; how the weights vary
depends on the size of the numbers before it (`adapt`).

No loop counts down from a guess. Writing a number ends because its quotient shrinks, reading
one because the text shrinks, and `decodeWith` because each number takes at least one digit.
-/

namespace WebCapture.Url.Punycode

/-! ## Digits and weights -/

/-- The digit with value `d`: `a` to `z` are 0 to 25, `0` to `9` are 26 to 35. -/
def digit (d : Nat) : Char :=
  if d < 26 then Char.ofNat ('a'.toNat + d) else Char.ofNat ('0'.toNat + (d - 26))

def digitValue? (c : Char) : Option Nat :=
  if 'a' ≤ c ∧ c ≤ 'z' then some (c.toNat - 'a'.toNat)
  else if 'A' ≤ c ∧ c ≤ 'Z' then some (c.toNat - 'A'.toNat)
  else if '0' ≤ c ∧ c ≤ '9' then some (c.toNat - '0'.toNat + 26)
  else none

/-- The smallest value that a digit of position `k` must have for the number to go on. -/
def threshold (k bias : Nat) : Nat :=
  if k ≤ bias then 1 else if bias + 26 ≤ k then 26 else k - bias

theorem threshold_pos (k bias : Nat) : 1 ≤ threshold k bias := by
  unfold threshold
  split
  · omega
  · split <;> omega

theorem threshold_le (k bias : Nat) : threshold k bias ≤ 26 := by
  unfold threshold
  split
  · omega
  · split <;> omega

/-- Divides `delta` by 35 until it is at most 455, counting 36 for each division. -/
def scaleDown (delta k : Nat) : Nat × Nat :=
  if 455 < delta then scaleDown (delta / 35) (k + 36) else (delta, k)
termination_by delta
decreasing_by omega

/-- The bias for the next number, after `delta` was written with `count` characters in place. -/
def adapt (delta count : Nat) (first : Bool) : Nat :=
  let d := if first then delta / 700 else delta / 2
  let (d, k) := scaleDown (d + d / count) 0
  k + 36 * d / (d + 38)

/-! ## Writing -/

def encodeNumber (bias k q : Nat) : List Char :=
  if q < threshold k bias then [digit q]
  else
    digit (threshold k bias + (q - threshold k bias) % (36 - threshold k bias)) ::
      encodeNumber bias (k + 36) ((q - threshold k bias) / (36 - threshold k bias))
termination_by q
decreasing_by
  have h₁ := threshold_pos k bias
  have h₂ := Nat.div_le_self (q - threshold k bias) (36 - threshold k bias)
  omega

/-- What has been written: the digits so far, the distance since the last insertion, the bias,
and how many characters are in place. -/
structure Writing where
  out : List Char
  delta : Nat
  bias : Nat
  count : Nat

/-- Passes over one character of the label while the characters with code `n` are inserted. -/
def Writing.pass (basic n : Nat) (w : Writing) (c : Char) : Writing :=
  if c.toNat < n then { w with delta := w.delta + 1 }
  else if c.toNat = n then
    ⟨w.out ++ encodeNumber w.bias 36 w.delta, 0,
      adapt w.delta (w.count + 1) (w.count == basic), w.count + 1⟩
  else w

/-- Inserts the characters with the codes `codes`, in ascending order; `n` is the smallest code
that may still come. -/
def Writing.insertAll (label : List Char) (basic : Nat) : List Nat → Nat → Writing → Writing
  | [], _, w => w
  | m :: more, n, w =>
    let w := { w with delta := w.delta + (m - n) * (w.count + 1) }
    let w := label.foldl (Writing.pass basic m) w
    insertAll label basic more (m + 1) { w with delta := w.delta + 1 }

/-- `n` put into an ascending list without repetition. -/
def insertCode (n : Nat) : List Nat → List Nat
  | [] => [n]
  | m :: more =>
    if n < m then n :: m :: more else if n = m then m :: more else m :: insertCode n more

/-- The ASCII form of a label, without the mark that tells that it is one. -/
def encode (label : List Char) : List Char :=
  let basic := label.filter (·.toNat < 128)
  let codes := (label.filter (128 ≤ ·.toNat)).foldr (fun c codes => insertCode c.toNat codes) []
  let w := Writing.insertAll label basic.length codes 128 ⟨[], 0, 72, basic.length⟩
  basic ++ (if basic = [] then [] else ['-']) ++ w.out

/-! ## Reading -/

def decodeNumber? (bias : Nat) : List Char → Nat → Nat → Nat → Option (Nat × List Char)
  | [], _, _, _ => none
  | c :: rest, k, weight, i =>
    match digitValue? c with
    | none => none
    | some d =>
      if d < threshold k bias then some (i + d * weight, rest)
      else decodeNumber? bias rest (k + 36) (weight * (36 - threshold k bias)) (i + d * weight)

theorem decodeNumber?_length {bias : Nat} {cs : List Char} {k weight i : Nat}
    {r : Nat × List Char} (h : decodeNumber? bias cs k weight i = some r) :
    r.2.length < cs.length := by
  induction cs generalizing k weight i with
  | nil => simp [decodeNumber?] at h
  | cons c rest ih =>
    rw [decodeNumber?] at h
    split at h
    · simp at h
    · split at h
      · cases h; simp
      · have := ih h
        simp only [List.length_cons]
        omega

/-- Inserts the characters that the numbers in `cs` tell of into `out`; `n` is the code and `i`
the place that were reached. -/
def decodeWith (cs : List Char) (out : List Char) (n i bias : Nat) : Option (List Char) :=
  if cs = [] then some out
  else
    match _h : decodeNumber? bias cs 36 1 i with
    | none => none
    | some (j, rest) =>
      let count := out.length + 1
      let code := n + j / count
      if code < 0xD800 ∨ (0xE000 ≤ code ∧ code < 0x110000) then
        decodeWith rest (out.take (j % count) ++ [Char.ofNat code] ++ out.drop (j % count))
          code (j % count + 1) (adapt (j - i) count (i == 0))
      else none
termination_by cs.length
decreasing_by exact decodeNumber?_length _h

/-- The characters behind the last hyphen of `cs`, and those before it; without a hyphen there
are none before it. -/
def splitLastHyphen (cs : List Char) : List Char × List Char :=
  let behind := cs.reverse.takeWhile (· != '-')
  if behind.length = cs.length then ([], cs)
  else (cs.take (cs.length - behind.length - 1), behind.reverse)

def decode? (cs : List Char) : Option (List Char) :=
  match splitLastHyphen cs with
  | ([], _) => decodeWith cs [] 128 0 72
  | (basic, numbers) => decodeWith numbers basic 128 0 72

end WebCapture.Url.Punycode
