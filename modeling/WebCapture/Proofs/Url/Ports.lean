import Mathlib.Data.List.TakeWhile
import WebCapture.Proofs.Program
import WebCapture.Proofs.Text.Blank
import WebCapture.Proofs.Url.Admission

set_option autoImplicit false

/-! # The port that is checked and the port that is read

An address does not keep the port of its scheme, so that `submittedPortText?` looks for it in the
submitted text, in a simpler way than `read` takes the text apart. Where `://` stands right behind
the scheme and nothing in the authority is dropped (`IsPlain`) both see the same port
(`namedPort?_of_isPlain`), and then a port is refused exactly if it is one of a well-known
service: `refuses_port_iff`. In other spellings of the same address the port of the scheme is not
seen, and one may be seen that is none: `port_overlooked`.

The two ways are compared step by step: where the authority starts and ends, which part of it is a
user name, where the host ends, and what the digits behind it denote. At each step the simple way
is right about a plain text, and each has its own section.
-/

namespace WebCapture.Url

/-! ## Marks in texts -/

theorem behindLast?_of_none {mark : Char} {cs : List Char} (h : mark ∉ cs) :
    behindLast? mark cs = none := if_neg h

theorem behindLast?_append {mark : Char} {behind : List Char} (h : mark ∉ behind)
    (front : List Char) : behindLast? mark (front ++ mark :: behind) = some behind := by
  have here : mark ∈ front ++ mark :: behind := by simp
  have others : ∀ c ∈ behind.reverse, (c != mark) = true := by
    intro c hc
    rw [bne_iff_ne]
    rintro rfl
    exact h (List.mem_reverse.mp hc)
  have turned : (front ++ mark :: behind).reverse = behind.reverse ++ (mark :: front.reverse) := by
    simp
  rw [behindLast?, if_pos here, turned, Text.takeWhile_append_stop others (by simp),
    List.reverse_reverse]

/-- Both ways to look for the end of a user name find the same. -/
theorem behindLast?_user (authority : List Char) :
    (behindLast? '@' authority).getD authority = (splitUser authority).2 := by
  by_cases user : '@' ∈ authority
  · -- The last `@` is not taken.
    have shorter : (authority.reverse.takeWhile (· != '@')).length ≠ authority.length := by
      intro whole
      have all : authority.reverse.takeWhile (· != '@') = authority.reverse :=
        (List.takeWhile_prefix _).eq_of_length (by simpa using whole)
      have impossible := List.takeWhile_eq_self_iff.mp all '@' (List.mem_reverse.mpr user)
      simp at impossible
    simp [behindLast?, splitUser, user, shorter]
  · have all : authority.reverse.takeWhile (· != '@') = authority.reverse := by
      rw [List.takeWhile_eq_self_iff]
      intro c hc
      rw [bne_iff_ne]
      rintro rfl
      exact user (List.mem_reverse.mp hc)
    simp [behindLast?, splitUser, user, all]

/-! ## The end of a host -/

/-- A host ends where its authority does, or at a colon. -/
theorem drop_hostLength (inBrackets : Bool) (cs : List Char) :
    cs.drop (hostLength inBrackets cs) = [] ∨
      ∃ digits, cs.drop (hostLength inBrackets cs) = ':' :: digits := by
  induction cs generalizing inBrackets with
  | nil => exact .inl rfl
  | cons c rest ih =>
      rw [hostLength]
      split
      · rename_i colon
        exact .inr ⟨rest, by rw [colon.1]; rfl⟩
      · exact ih _

/-- Without brackets the first colon ends the host. -/
theorem colon_not_mem_host {cs : List Char} (h : '[' ∉ cs) :
    ':' ∉ cs.take (hostLength false cs) := by
  induction cs with
  | nil => simp
  | cons c rest ih =>
      rw [List.mem_cons, not_or] at h
      rw [hostLength]
      split
      · simp
      · rename_i goesOn
        have other : c ≠ ':' := fun colon => goesOn ⟨colon, rfl⟩
        have outside : (if c = '[' then true else if c = ']' then false else false) = false := by
          rw [if_neg (Ne.symm h.1)]
          simp
        rw [outside, List.take_succ_cons, List.mem_cons, not_or]
        exact ⟨Ne.symm other, ih h.2⟩

/-! ## The digits of a port -/

theorem digits_of_number? {base : Nat} {cs : List Char} {n : Nat}
    (h : Text.number? base cs = some n) : ∀ c ∈ cs, (Text.digitValue? base c).isSome := by
  unfold Text.number? at h
  generalize 0 = first at h
  induction cs generalizing first with
  | nil => simp
  | cons c rest ih =>
      rw [List.foldlM_cons] at h
      obtain ⟨next, value, h⟩ := Option.bind_eq_some_iff.mp h
      obtain ⟨v, digit, -⟩ := Option.map_eq_some_iff.mp value
      exact List.forall_mem_cons.mpr ⟨by rw [digit]; rfl, ih next h⟩

/-- The characters of a port that is read are digits. -/
theorem digits_of_readPort {cs : List Char} {written : Option Nat}
    (h : readPort cs = .ok written) : ∀ c ∈ cs, (Text.digitValue? 10 c).isSome := by
  unfold readPort at h
  split at h
  · rename_i empty
    simp [empty]
  · rename_i filled
    cases number : Text.number? 10 cs with
    | some n => exact digits_of_number? number
    | none => simp [Text.numberBelow?, filled, number] at h

/-- A port that is read is the one that its text denotes. -/
theorem portNumber?_of_readPort {cs : List Char} {written : Option Nat}
    (h : readPort cs = .ok written) : portNumber? cs = written := by
  have digits := digits_of_readPort h
  have unsigned : Text.withoutPlus cs = cs := by
    unfold Text.withoutPlus
    split
    · have plus := digits '+' List.mem_cons_self
      cases plus
    · rfl
  unfold readPort at h
  rw [portNumber?, unsigned]
  split at h
  · rename_i empty
    cases h
    rw [empty]
    rfl
  · split at h
    · rename_i number
      cases h
      exact number
    · cases h

/-! ## The port of an authority

Brackets make the difference, because the pieces of a numeric address are parted by colons as
well.
-/

/-- The text of the port in a host with its port, as it is looked for in a submitted text. -/
def portTextOf? (hostPort : List Char) : Option (List Char) :=
  match behindLast? ']' hostPort with
  | some (':' :: port) => some port
  | some _ => none
  | none => behindLast? ':' hostPort

/-- Brackets stand around the whole host, or nowhere. -/
def IsBracketed (hostPort : List Char) : Prop :=
  hostPort.head? = some '[' ∨ '[' ∉ hostPort ∧ ']' ∉ hostPort

/-- A host that starts with a bracket ends with one. -/
theorem exists_closing {cs : List Char} {host : Host} (h : Host.read ('[' :: cs) = .ok host) :
    ∃ inside, cs = inside ++ [']'] := by
  have bracketed : Host.readBracketed cs = .ok host := h
  unfold Host.readBracketed at bracketed
  split at bracketed
  · rename_i closed
    exact List.getLast?_eq_some_iff.mp closed
  · cases bracketed

/-- What stands behind a host is nothing, or a port that is read as it would be looked for. -/
theorem behindHost_cases {hostPort : List Char} {written : Option Nat}
    (read : readPortText (hostPort.drop (hostLength false hostPort)) = .ok written) :
    (hostPort.drop (hostLength false hostPort) = [] ∧ written = none) ∨
      ∃ digits, hostPort.drop (hostLength false hostPort) = ':' :: digits ∧
        ':' ∉ digits ∧ ']' ∉ digits ∧ portNumber? digits = written := by
  rcases drop_hostLength false hostPort with last | ⟨digits, last⟩
  · rw [last] at read
    cases read
    exact .inl ⟨last, rfl⟩
  · rw [last] at read
    have read : readPort digits = .ok written := read
    have isDigit := digits_of_readPort read
    refine .inr ⟨digits, last, fun colon => ?_, fun bracket => ?_, portNumber?_of_readPort read⟩
    · exact absurd (isDigit ':' colon) (by decide)
    · exact absurd (isDigit ']' bracket) (by decide)

/-- **The port that is looked for is the one that is read.** -/
theorem portTextOf?_eq {hostPort : List Char} {host : Host} {written : Option Nat}
    (brackets : IsBracketed hostPort)
    (readHost : Host.read (hostPort.take (hostLength false hostPort)) = .ok host)
    (readPort : readPortText (hostPort.drop (hostLength false hostPort)) = .ok written) :
    (portTextOf? hostPort).bind portNumber? = written := by
  have whole := List.take_append_drop (hostLength false hostPort) hostPort
  rcases brackets with bracket | ⟨noLeft, noRight⟩
  · -- The last closing bracket is the one that ends the host.
    obtain ⟨front, closed⟩ :
        ∃ front, hostPort.take (hostLength false hostPort) = front ++ [']'] := by
      cases hostPort with
      | nil => cases bracket
      | cons c rest =>
          obtain rfl : c = '[' := Option.some.inj bracket
          obtain ⟨inside, closed⟩ := exists_closing readHost
          exact ⟨'[' :: inside, congrArg ('[' :: ·) closed⟩
    rw [closed, List.append_assoc, List.singleton_append] at whole
    rcases behindHost_cases readPort with ⟨last, rfl⟩ | ⟨digits, last, -, noBracket, number⟩
    · have behind : behindLast? ']' (front ++ [']']) = some [] :=
        behindLast?_append List.not_mem_nil front
      rw [last] at whole
      rw [whole] at behind
      rw [portTextOf?, behind]
      rfl
    · have behind : behindLast? ']' (front ++ ']' :: ':' :: digits) = some (':' :: digits) :=
        behindLast?_append (by simp [noBracket]) front
      rw [last] at whole
      rw [whole] at behind
      rw [portTextOf?, behind]
      exact number
  · -- Without brackets the last colon is the only one.
    have noColon := colon_not_mem_host noLeft
    rw [portTextOf?, behindLast?_of_none noRight]
    dsimp only
    rcases behindHost_cases readPort with ⟨last, rfl⟩ | ⟨digits, last, noColon', -, number⟩
    · rw [last, List.append_nil] at whole
      rw [whole] at noColon
      rw [behindLast?_of_none noColon]
      rfl
    · rw [last] at whole
      have behind := behindLast?_append noColon' (hostPort.take (hostLength false hostPort))
      rw [whole] at behind
      rw [behind]
      exact number

/-! ## Plain texts

`read` drops what does not count at the ends of the text, and line ends and tabulators anywhere.
That nothing is dropped in the scheme and in the authority is all that a plain text is asked for;
what follows may be changed in any way as long as it still ends the authority.
-/

/-- A text whose scheme, behind what does not count in front of it, is followed by `://` at once,
and whose authority is read as it is written: nothing in it is dropped. -/
structure IsPlainText (source lead name authority rest : List Char) : Prop where
  text : source = lead ++ (name ++ ':' :: '/' :: '/' :: (authority ++ rest))
  lead : ∀ c ∈ lead, isOuter c = true
  name : ∀ c ∈ name, isSchemeChar c = true
  inside : ∀ c ∈ authority, endsAuthority c = false ∧ isSkipped c = false
  last : ∃ c, authority.getLast? = some c ∧ isOuter c = false
  rest : ∀ c ∈ rest.head?, endsAuthority c = true
  brackets : IsBracketed (splitUser authority).2

variable {source lead name authority rest : List Char} {url : WebUrl} {written : Option Nat}

/-- What is dropped anywhere is dropped at the ends as well. -/
theorem isSkipped_of_counts {c : Char} (h : isOuter c = false) : isSkipped c = false := by
  rw [Bool.eq_false_iff]
  intro skipped
  simp only [isSkipped, Bool.or_eq_true, beq_iff_eq] at skipped
  rcases skipped with (rfl | rfl) | rfl <;> cases h

/-- What does not count at the ends of an address is neither part of a scheme nor ends an
authority. -/
theorem isOuter_cases {c : Char} (h : isOuter c = true) :
    isSchemeChar c = false ∧ endsAuthority c = false := by
  have small : c.toNat < 33 := by
    have low : c.toNat ≤ 0x20 := of_decide_eq_true h
    omega
  have all : ∀ v : Fin 33, isSchemeChar (Char.ofNat v.val) = false ∧
      endsAuthority (Char.ofNat v.val) = false := by decide
  have here := all ⟨c.toNat, small⟩
  rwa [Char.ofNat_toNat] at here

theorem counts_of_isSchemeChar {c : Char} (h : isSchemeChar c = true) : isOuter c = false := by
  rw [Bool.eq_false_iff]
  intro outer
  rw [(isOuter_cases outer).1] at h
  cases h

theorem counts_of_endsAuthority {c : Char} (h : endsAuthority c = true) : isOuter c = false := by
  rw [Bool.eq_false_iff]
  intro outer
  rw [(isOuter_cases outer).2] at h
  cases h

theorem behindScheme?_append {front : List Char} (h : ':' ∉ front) (behind : List Char) :
    behindScheme? (front ++ ':' :: '/' :: '/' :: behind) = some behind := by
  induction front with
  | nil => simp [behindScheme?]
  | cons c front ih =>
      rw [List.mem_cons, not_or] at h
      rw [List.cons_append]
      unfold behindScheme?
      rw [if_neg (Ne.symm h.1)]
      exact ih h.2

/-- The authority is taken up to whatever ends it. -/
theorem IsPlainText.takeWhile_authority (plain : IsPlainText source lead name authority rest)
    {behind : List Char} (ends : ∀ c ∈ behind.head?, endsAuthority c = true) :
    (authority ++ behind).takeWhile (!endsAuthority ·) = authority := by
  refine Text.takeWhile_append_stop (fun c hc => ?_) fun c hc => ?_
  · rw [(plain.inside c hc).1]
    rfl
  · rw [ends c hc]
    rfl

/-- The port is looked for in the authority. -/
theorem IsPlainText.submittedPortText? (plain : IsPlainText source lead name authority rest) :
    submittedPortText? source = portTextOf? (splitUser authority).2 := by
  have noColon : ':' ∉ lead ++ name := by
    rw [List.mem_append, not_or]
    constructor
    · intro colon
      exact absurd (plain.lead ':' colon) (by decide)
    · intro colon
      exact absurd (plain.name ':' colon) (by decide)
  have behind : behindScheme? source = some (authority ++ rest) := by
    rw [plain.text, ← List.append_assoc]
    exact behindScheme?_append noColon _
  rw [Url.submittedPortText?, behind]
  dsimp only
  rw [plain.takeWhile_authority plain.rest, behindLast?_user]
  rfl

/-- Nothing is dropped at the ends but in front of the scheme and behind the authority. -/
theorem IsPlainText.trimBy_eq (plain : IsPlainText source lead name authority rest) :
    Text.trimBy isOuter source =
      (name ++ ':' :: '/' :: '/' :: authority) ++ (rest.reverse.dropWhile isOuter).reverse := by
  have begins : ∀ c ∈ (name ++ ':' :: '/' :: '/' :: authority ++ rest).head?,
      isOuter c = false := by
    intro c hc
    cases name with
    | nil =>
        cases hc
        decide
    | cons first more =>
        cases hc
        exact counts_of_isSchemeChar (plain.name c List.mem_cons_self)
  have ends : ∀ c ∈ (name ++ ':' :: '/' :: '/' :: authority).getLast?, isOuter c = false := by
    intro c hc
    obtain ⟨last, lastOf, counts⟩ := plain.last
    have same : (name ++ ':' :: '/' :: '/' :: authority).getLast? = some last := by
      simp [List.getLast?_append, List.getLast?_cons, lastOf]
    rw [same] at hc
    cases hc
    exact counts
  have parts : source = lead ++ (name ++ ':' :: '/' :: '/' :: authority ++ rest) := by
    rw [plain.text]
    simp
  rw [parts]
  exact Text.trimBy_append plain.lead begins ends

/-- Nothing is dropped inside the scheme and the authority. -/
theorem IsPlainText.filter_eq (plain : IsPlainText source lead name authority rest) :
    (name ++ ':' :: '/' :: '/' :: authority).filter (!isSkipped ·) =
      name ++ ':' :: '/' :: '/' :: authority := by
  rw [List.filter_eq_self]
  intro c hc
  simp only [List.mem_append, List.mem_cons] at hc
  rw [Bool.not_eq_true']
  rcases hc with hc | rfl | rfl | rfl | hc
  · exact isSkipped_of_counts (counts_of_isSchemeChar (plain.name c hc))
  · decide
  · decide
  · decide
  · exact (plain.inside c hc).2

/-- A character that ends an authority stays in front of what follows it. -/
theorem endsAuthority_head {kept : List Char} (h : ∀ c ∈ kept.head?, endsAuthority c = true) :
    ∀ c ∈ (kept.filter (!isSkipped ·)).head?, endsAuthority c = true := by
  cases kept with
  | nil => exact fun c impossible => nomatch impossible
  | cons first more =>
      have ends := h first rfl
      have stays : (!isSkipped first) = true := by
        rw [isSkipped_of_counts (counts_of_endsAuthority ends)]
        rfl
      intro c hc
      rw [List.filter_cons, if_pos stays] at hc
      cases hc
      exact ends

/-- All of the authority counts, and what follows it still ends it. -/
theorem IsPlainText.counted_eq (plain : IsPlainText source lead name authority rest) :
    ∃ behind, counted source = name ++ ':' :: '/' :: '/' :: (authority ++ behind) ∧
      ∀ c ∈ behind.head?, endsAuthority c = true := by
  -- What is left of the rest starts as the rest does.
  have first : ∀ c ∈ (rest.reverse.dropWhile isOuter).reverse.head?, endsAuthority c = true := by
    intro c hc
    obtain ⟨more, parts⟩ : (rest.reverse.dropWhile isOuter).reverse <+: rest := by
      have last := List.reverse_prefix.mpr (List.dropWhile_suffix (l := rest.reverse) isOuter)
      rwa [List.reverse_reverse] at last
    refine plain.rest c ?_
    rw [← parts, List.head?_append, hc]
    rfl
  refine ⟨_, ?_, endsAuthority_head first⟩
  rw [counted, plain.trimBy_eq, List.filter_append, plain.filter_eq]
  simp

/-! ## The port that was read

The reader is followed from the whole text down to the authority. What it cuts off on the way is
the same as is cut off in a plain text.
-/

/-- The address of a web page is read behind its scheme. -/
theorem readWeb_of_read (h : read source = .ok (.web url written)) :
    ∃ name behind scheme, splitScheme? (counted source) = some (name, behind) ∧
      readWeb scheme behind = .ok (.web url written) := by
  unfold read at h
  split at h
  · cases h
  · rename_i name behind split
    cases known : Scheme.ofName? name with
    | some scheme =>
        rw [known] at h
        exact ⟨name, behind, scheme, split, h⟩
    | none =>
        rw [known] at h
        cases checked : checkOther name behind with
        | error e =>
            rw [checked] at h
            cases h
        | ok =>
            rw [checked] at h
            cases h

/-- What is read in the authority of a web page. -/
theorem readWeb_parts {scheme : Scheme} {cs : List Char}
    (h : readWeb scheme cs = .ok (.web url written))
    (cut : (cs.dropWhile isSlash).takeWhile (!endsAuthority ·) = authority) :
    Host.read ((splitUser authority).2.take
        (hostLength false (splitUser authority).2)) = .ok url.host ∧
      readPortText ((splitUser authority).2.drop
        (hostLength false (splitUser authority).2)) = .ok written ∧
      url.port = if written = some url.scheme.port then none else written := by
  unfold readWeb at h
  dsimp only at h
  rw [cut] at h
  split at h
  · cases h
  · obtain ⟨host, readHost, h⟩ := bind_eq_ok.mp h
    obtain ⟨port, readPort, h⟩ := bind_eq_ok.mp h
    cases h
    exact ⟨readHost, readPort, rfl⟩

/-- A scheme is cut off at the first colon. -/
theorem splitScheme?_append {behind : List Char} {found : List Char × List Char}
    (h : ∀ c ∈ name, isSchemeChar c = true)
    (cut : splitScheme? (name ++ ':' :: behind) = some found) : found.2 = behind := by
  have stops : ∀ c ∈ (':' :: behind).head?, isSchemeChar c = false := by
    intro c hc
    cases hc
    decide
  have rest : (name ++ ':' :: behind).dropWhile isSchemeChar = ':' :: behind :=
    Text.dropWhile_append_stop h stops
  unfold splitScheme? at cut
  split at cut
  · cases cut
  · split at cut
    · cases cut
    · simp only [rest] at cut
      cases cut
      rfl

/-- The port that an address keeps is looked for nowhere else. -/
theorem namedPort?_of_other {p : Nat} (h : read source = .ok (.web url written))
    (named : written = some p) (other : p ≠ url.scheme.port) : namedPort? url source = written := by
  obtain ⟨-, behind, scheme, -, read⟩ := readWeb_of_read h
  obtain ⟨-, -, port⟩ := readWeb_parts read rfl
  have kept : written ≠ some url.scheme.port := by
    rw [named]
    exact fun same => other (Option.some.inj same)
  rw [if_neg kept, named] at port
  rw [namedPort?_of_port port, named]

/-- A text that is plain in some reading of its parts. -/
def IsPlain (source : List Char) : Prop :=
  ∃ lead name authority rest, IsPlainText source lead name authority rest

/-- **The port of a plain text is the one that is checked.** -/
theorem namedPort?_of_isPlain (h : read source = .ok (.web url written))
    (plain : IsPlain source) : namedPort? url source = written := by
  obtain ⟨lead, name, authority, rest, plain⟩ := plain
  obtain ⟨behind, text, ends⟩ := plain.counted_eq
  obtain ⟨found, more, scheme, split, read⟩ := readWeb_of_read h
  rw [text] at split
  obtain rfl : more = '/' :: '/' :: (authority ++ behind) := splitScheme?_append plain.name split
  -- The slashes end where the authority starts, and it ends where it did in the text.
  have filled : ∀ c ∈ (authority ++ behind).head?, isSlash c = false := by
    intro c hc
    obtain ⟨last, lastOf, -⟩ := plain.last
    cases authority with
    | nil => cases lastOf
    | cons first more =>
        cases hc
        have inside := (plain.inside c List.mem_cons_self).1
        simp only [endsAuthority, Bool.or_eq_false_iff] at inside
        exact inside.1.1
  have slashes : ∀ c ∈ ['/', '/'], isSlash c = true := by simp [isSlash]
  have cut : (('/' :: '/' :: (authority ++ behind)).dropWhile isSlash).takeWhile
      (!endsAuthority ·) = authority := by
    rw [show '/' :: '/' :: (authority ++ behind) = ['/', '/'] ++ (authority ++ behind) from rfl,
      Text.dropWhile_append_stop slashes filled]
    exact plain.takeWhile_authority ends
  obtain ⟨readHost, readPort, port⟩ := readWeb_parts read cut
  have looked : (submittedPortText? source).bind portNumber? = written := by
    rw [plain.submittedPortText?]
    exact portTextOf?_eq plain.brackets readHost readPort
  cases kept : url.port with
  | none => rw [namedPort?, kept, looked]
  | some p =>
      rw [namedPort?_of_port kept]
      rw [kept] at port
      split at port
      · cases port
      · exact port

/-! ## What is refused for its port -/

theorem checkPort_eq_error {port : Option Nat} {e : Refusal} :
    checkPort port = .error e ↔ ∃ q, port = some q ∧ (1 ≤ q ∧ q ≤ 1022) ∧ e = .wellKnownPort q := by
  cases port with
  | none => simp [checkPort]
  | some n =>
      simp only [checkPort]
      split
      · rename_i low
        simp only [Except.error.injEq, Option.some.injEq, exists_eq_left']
        constructor
        · intro h
          exact ⟨⟨low.1, by omega⟩, h.symm⟩
        · exact fun h => h.2.symm
      · rename_i high
        simp only [reduceCtorEq, Option.some.injEq, exists_eq_left', false_iff, not_and]
        intro low
        exact absurd ⟨low.1, by omega⟩ high

/-- **A port is refused exactly if it is one of a well-known service.** The port is the one that
was read in the authority, also if it is that of the scheme: this one is seen in plain texts. -/
theorem refuses_port_iff {raw : String} {strict : Bool}
    (submitted : readSubmitted strict (Text.trimBy Text.isBlank raw.toList)
      = .ok (.web url written, source))
    (host : checkHost url.host = .ok ())
    (seen : (∃ p, written = some p ∧ p ≠ url.scheme.port) ∨ IsPlain source) (q : Nat) :
    vet raw strict = .error (.wellKnownPort q) ↔ written = some q ∧ 1 ≤ q ∧ q ≤ 1022 := by
  have found : read source = .ok (.web url written) := read_of_readSubmitted submitted
  have named : namedPort? url.withoutCredentials source = written := by
    change namedPort? url source = written
    rcases seen with ⟨p, here, other⟩ | plain
    · exact namedPort?_of_other found here other
    · exact namedPort?_of_isPlain found plain
  have hostPasses : checkHost url.withoutCredentials.host = .ok () := host
  have filled : Text.trimBy Text.isBlank raw.toList ≠ [] := by
    intro blank
    rw [blank] at submitted
    cases strict <;> cases submitted
  -- All checks but the one of the port are passed.
  have onlyPort : vet raw strict = .error (.wellKnownPort q) ↔
      checkPort written = .error (.wellKnownPort q) := by
    simp only [vet, if_neg filled, submitted, admitAddress, hostPasses, named]
    cases checkPort written <;> simp
  rw [onlyPort, checkPort_eq_error]
  constructor
  · rintro ⟨p, here, low, same⟩
    cases same
    exact ⟨here, low⟩
  · rintro ⟨here, low⟩
    exact ⟨q, here, low, rfl⟩

/-- The port of the scheme behind a user name, before a query that looks like another address. -/
theorem refuses_port_of_scheme :
    vet "https://a@example.com:443/p?x=://y:22" false = .error (.wellKnownPort 443) := by
  let url : WebUrl := ⟨.https, ⟨['a'], []⟩, .name "example.com".toList, none, [['p']],
    some "x=://y:22".toList, none⟩
  have submitted : readSubmitted false (Text.trimBy Text.isBlank
      "https://a@example.com:443/p?x=://y:22".toList) =
      .ok (.web url (some 443), "https://a@example.com:443/p?x=://y:22".toList) := by
    decide +kernel
  have plain : IsPlainText "https://a@example.com:443/p?x=://y:22".toList [] "https".toList
      "a@example.com:443".toList "/p?x=://y:22".toList :=
    { text := by rfl
      lead := by simp
      name := List.all_eq_true.mp (by decide +kernel)
      inside := by simp [endsAuthority, isSlash, isSkipped]
      last := ⟨'3', by decide +kernel⟩
      rest := by simp [endsAuthority, isSlash]
      brackets := .inr (by simp [splitUser]) }
  exact (refuses_port_iff submitted rfl (.inr ⟨_, _, _, _, plain⟩) 443).mpr ⟨rfl, by decide⟩

/-- **The port of the scheme is overlooked** where no slashes follow the scheme. -/
theorem port_overlooked :
    ¬∀ (raw : String) (strict : Bool) (source : List Char) (url : WebUrl) (written : Option Nat),
      readSubmitted strict (Text.trimBy Text.isBlank raw.toList)
        = .ok (.web url written, source) → checkHost url.host = .ok () →
      ∀ q, vet raw strict = .error (.wellKnownPort q) ↔ written = some q ∧ 1 ≤ q ∧ q ≤ 1022 := by
  intro refuses
  let url : WebUrl := ⟨.https, .none, .name "example.com".toList, none, [[]], none, none⟩
  have submitted : readSubmitted false (Text.trimBy Text.isBlank "https:example.com:443".toList) =
      .ok (.web url (some 443), "https:example.com:443".toList) := by
    decide +kernel
  have admitted : (vet "https:example.com:443" false).isOk = true := by decide +kernel
  have refused := (refuses _ _ _ _ _ submitted rfl 443).mpr ⟨rfl, by decide⟩
  rw [refused] at admitted
  cases admitted

end WebCapture.Url
