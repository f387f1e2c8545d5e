import Mathlib
import WebCapture.Proofs.Program
import WebCapture.Proofs.Url.Host
import WebCapture.Proofs.Url.Path

set_option autoImplicit false

/-! # Addresses are read back

An address of a web page that was read from any text is normal once its credentials are gone:
`read_normal`. The text of a normal address is cut at the same places where its parts were put
together (`readWeb_written`): no part holds a character that ends it. So if the host is its own
form, the text is read as that address, with no port written but its own:
`WebUrl.IsNormal.read_text`. So is the text without the slash of an empty path:
`WebUrl.IsNormal.read_withoutSlash`.

The parts themselves have been dealt with one by one, in `Proofs/Url/Host`, `Proofs/Url/Path` and
`Proofs/Url/Escapes`. Each has two facts to contribute: which characters its text may hold, and
that its text is read as itself.
-/

namespace WebCapture.Url

open WebUrl (credentialsText fragmentText pathText portText queryText)

/-! ## Normal addresses -/

/-- An address in the form that is stored: no credentials, the host in its one form, the port
of the scheme left out, the path resolved, and escapes wherever they are needed. -/
structure WebUrl.IsNormal (url : WebUrl) : Prop where
  noUser : url.credentials = .none
  host : url.host.IsNormal
  port : ∀ n, url.port = some n → n < 65536 ∧ n ≠ url.scheme.port
  path : IsNormalPath url.path
  query : ∀ q, url.query = some q → Escaped querySet q
  fragment : ∀ f, url.fragment = some f → Escaped fragmentSet f

variable {cs : List Char} {url : WebUrl}

/-! ## What was read is normal

Whatever the parts of an address were written like, they are normal as soon as they are read, each
by a lemma about its reader.
-/

theorem readPortText_lt {port : Nat} (h : readPortText cs = .ok (some port)) : port < 65536 := by
  unfold readPortText at h
  split at h
  · unfold readPort at h
    split at h
    · cases h
    · split at h
      · rename_i n number
        cases h
        exact Text.numberBelow?_lt number
      · cases h
  · cases h

theorem readQueryAndFragment_escaped (cs : List Char) :
    (∀ q, (readQueryAndFragment cs).1 = some q → Escaped querySet q) ∧
      (∀ f, (readQueryAndFragment cs).2 = some f → Escaped fragmentSet f) := by
  unfold readQueryAndFragment
  split
  · constructor
    · intro q hq
      cases hq
      exact escaped_escape querySet_sparesEscapes _
    · intro f hf
      dsimp only at hf
      split at hf
      · cases hf
        exact escaped_escape fragmentSet_sparesEscapes _
      · cases hf
  · constructor
    · intro q hq
      cases hq
    · intro f hf
      cases hf
      exact escaped_escape fragmentSet_sparesEscapes _
  · constructor <;> intro _ none <;> cases none

/-- **The address of a web page that was read is normal but for its credentials.** -/
theorem readWeb_normal {scheme : Scheme} {address : Address}
    (h : readWeb scheme cs = .ok address) :
    ∃ url written, address = .web url written ∧ url.withoutCredentials.IsNormal := by
  unfold readWeb at h
  dsimp only at h
  split at h
  · cases h
  · obtain ⟨host, readHost, h⟩ := bind_eq_ok.mp h
    obtain ⟨written, readPort, h⟩ := bind_eq_ok.mp h
    cases h
    obtain ⟨query, fragment⟩ := readQueryAndFragment_escaped _
    refine ⟨_, _, rfl, rfl, Host.read_normal readHost, ?_, readPath_normal _, query, fragment⟩
    -- The port of the scheme is left out.
    intro port named
    change (if written = some scheme.port then none else written) = some port at named
    split at named
    · cases named
    · rename_i other
      subst named
      exact ⟨readPortText_lt readPort, fun same => other (congrArg some same)⟩

theorem read_normal {written : Option Nat} (h : read cs = .ok (.web url written)) :
    url.withoutCredentials.IsNormal := by
  unfold read at h
  split at h
  · cases h
  · split at h
    · obtain ⟨found, port, same, normal⟩ := readWeb_normal h
      cases same
      exact normal
    · rename_i name rest _ _ _
      cases checked : checkOther name rest with
      | error e =>
          rw [checked] at h
          cases h
      | ok =>
          rw [checked] at h
          cases h

/-! ## Texts of normal addresses -/

/-- No part of an address is lost at its ends or between its characters. -/
theorem counted_of_visible (h : ∀ c ∈ cs, 0x20 < c.toNat) : counted cs = cs := by
  have inner : ∀ c ∈ cs, isOuter c = false := by
    intro c hc
    have := h c hc
    simp only [isOuter, decide_eq_false_iff_not]
    omega
  -- Tabs and line ends are controls.
  have kept : ∀ c ∈ cs, (!isSkipped c) = true := by
    intro c hc
    have visible := h c hc
    simp only [isSkipped, Bool.not_eq_true', Bool.or_eq_false_iff, beq_eq_false_iff_ne]
    constructor
    · constructor
      · rintro rfl
        exact absurd visible (by decide)
      · rintro rfl
        exact absurd visible (by decide)
    · rintro rfl
      exact absurd visible (by decide)
  rw [counted, Text.trimBy_of_none inner, List.filter_eq_self.mpr kept]

theorem splitScheme?_name (scheme : Scheme) (rest : List Char) :
    splitScheme? (scheme.name ++ ':' :: rest) = some (scheme.name, rest) := by
  cases scheme <;> rfl

theorem ofName?_schemeName (scheme : Scheme) : Scheme.ofName? scheme.name = some scheme := by
  cases scheme <;> rfl

/-- Without an `@` there are no credentials. -/
theorem splitUser_of_none (h : ∀ c ∈ cs, c ≠ '@') : splitUser cs = (none, cs) := by
  have all : cs.reverse.takeWhile (· != '@') = cs.reverse := by
    rw [List.takeWhile_eq_self_iff]
    intro c hc
    have other := h c (List.mem_reverse.mp hc)
    simpa using other
  simp [splitUser, all]

theorem readPortText_portText {port : Option Nat} (h : ∀ n, port = some n → n < 65536) :
    readPortText (portText port) = .ok port := by
  cases port with
  | none => rfl
  | some n =>
      have digits : Text.numberBelow? 65536 (Text.decimal n) = some n :=
        Text.numberBelow?_decimal (h n rfl)
      show readPort (Text.decimal n) = _
      rw [readPort, if_neg (Text.decimal_ne_nil n), digits]

theorem readQueryAndFragment_text {query fragment : Option (List Char)}
    (hq : ∀ q, query = some q → Escaped querySet q)
    (hf : ∀ f, fragment = some f → Escaped fragmentSet f) :
    readQueryAndFragment (queryText query ++ fragmentText fragment) = (query, fragment) := by
  have escapedFragment : ∀ f, fragment = some f → escape fragmentSet f = f := fun f same =>
    escape_of_escaped (hf f same)
  cases query with
  | none =>
      cases fragment with
      | none => rfl
      | some f =>
          show (none, some (escape fragmentSet f)) = _
          rw [escapedFragment f rfl]
  | some q =>
      have escapedQuery : escape querySet q = q := escape_of_escaped (hq q rfl)
      -- A number sign in the query is escaped, so that the first one starts the fragment.
      have noHash : ∀ c ∈ q, (c != '#') = true := by
        intro c hc
        have other : c ≠ '#' := (hq q rfl).free (by decide) c hc
        simpa using other
      have stop : ∀ c ∈ (fragmentText fragment).head?, (c != '#') = false := by
        cases fragment <;> simp [fragmentText]
      show readQueryAndFragment ('?' :: (q ++ fragmentText fragment)) = _
      simp only [readQueryAndFragment]
      rw [Text.takeWhile_append_stop noHash stop, Text.dropWhile_append_stop noHash stop,
        escapedQuery]
      cases fragment with
      | none => rfl
      | some f =>
          simp only [fragmentText]
          rw [escapedFragment f rfl]

/-! ## Reading the text

The text is read from its scheme on. At each place the next character ends the part before it, or
there is no next character.
-/

/-- A way to write a path behind a host: it starts with a slash or is left out. -/
structure IsWrittenPath (path : List (List Char)) (written : List Char) : Prop where
  chars : ∀ c ∈ written, 0x20 < c.toNat ∧ endsPath c = false
  starts : ∀ c ∈ written.head?, endsAuthority c = true
  read : readPath written = path

theorem IsNormalPath.isWrittenPath {path : List (List Char)} (h : IsNormalPath path) :
    IsWrittenPath path (pathText path) := by
  refine ⟨h.text_chars, fun c hc => ?_, readPath_pathText h⟩
  rw [pathText_eq h.filled] at hc
  cases hc
  decide

/-- A lone slash may be left out. -/
theorem isWrittenPath_nil : IsWrittenPath [[]] [] := by
  refine ⟨fun c hc => ?_, fun c hc => ?_, readPath_nil⟩
  · cases hc
  · cases hc

theorem portText_chars (port : Option Nat) : ∀ c ∈ portText port, IsHostChar c := by
  intro c hc
  cases port with
  | none => cases hc
  | some n =>
      rcases List.mem_cons.mp hc with rfl | hc
      · exact isHostChar_colon
      · exact Text.forall_mem_decimal isHostChar_digitChar n c hc

/-- The characters of an authority without credentials. -/
theorem authority_chars (h : url.IsNormal) :
    ∀ c ∈ url.host.text ++ portText url.port, IsHostChar c := by
  intro c hc
  rcases List.mem_append.mp hc with hc | hc
  · exact h.host.text_chars c hc
  · exact portText_chars _ c hc

theorem afterPath_stop (url : WebUrl) : ∀ c ∈ url.afterPath.head?, endsPath c = true := by
  intro c hc
  unfold WebUrl.afterPath at hc
  cases query : url.query with
  | some q =>
      rw [query] at hc
      cases hc
      decide
  | none =>
      cases fragment : url.fragment with
      | some f =>
          rw [query, fragment] at hc
          cases hc
          decide
      | none =>
          rw [query, fragment] at hc
          cases hc

theorem afterPath_chars (h : url.IsNormal) : ∀ c ∈ url.afterPath, 0x20 < c.toNat := by
  intro c hc
  rcases List.mem_append.mp hc with hc | hc
  · cases query : url.query with
    | none =>
        rw [query] at hc
        cases hc
    | some q =>
        rw [query] at hc
        rcases List.mem_cons.mp hc with rfl | hc
        · decide
        · exact (h.query q query).visible (by decide) c hc
  · cases fragment : url.fragment with
    | none =>
        rw [fragment] at hc
        cases hc
    | some f =>
        rw [fragment] at hc
        rcases List.mem_cons.mp hc with rfl | hc
        · decide
        · exact (h.fragment f fragment).visible (by decide) c hc

variable {written : List Char}

/-- What follows the authority ends it: the path, or what follows the path if that is left out. -/
theorem IsWrittenPath.ends_authority (hw : IsWrittenPath url.path written) :
    ∀ c ∈ (written ++ url.afterPath).head?, endsAuthority c = true := by
  intro c hc
  cases written with
  | cons first rest => exact hw.starts c hc
  | nil =>
      have ends := afterPath_stop url c hc
      simp only [endsPath, Bool.or_eq_true] at ends
      rcases ends with ends | ends <;> simp [endsAuthority, ends]

theorem WebUrl.IsNormal.withoutCredentials_eq (h : url.IsNormal) :
    url.withoutCredentials = url := by
  obtain ⟨scheme, credentials, host, port, path, query, fragment⟩ := url
  obtain rfl : credentials = .none := h.noUser
  rfl

/-- The address behind its scheme. Each part is cut where the next one starts. -/
theorem readWeb_written (h : url.IsNormal) (own : url.host.IsOwnForm)
    (hw : IsWrittenPath url.path written) :
    readWeb url.scheme (['/', '/'] ++ (url.host.text ++ portText url.port ++ (written ++
      url.afterPath))) = .ok (.web url url.port) := by
  have chars := authority_chars h
  have filled := h.host.text_ne_nil
  -- The slashes behind the scheme end at the host, the authority at the path or what follows it.
  have noSlash : ∀ c ∈ (url.host.text ++ portText url.port ++ (written ++ url.afterPath)).head?,
      isSlash c = false := by
    intro c hc
    obtain ⟨first, rest, text⟩ := List.exists_cons_of_ne_nil filled
    rw [text] at hc
    cases hc
    have inside : endsAuthority c = false := by
      refine (h.host.text_chars c ?_).inside
      rw [text]
      exact List.mem_cons_self
    simp only [endsAuthority, Bool.or_eq_false_iff] at inside
    exact inside.1.1
  have inside : ∀ c ∈ url.host.text ++ portText url.port, (!endsAuthority c) = true := by
    intro c hc
    rw [(chars c hc).inside]
    rfl
  have pathStarts : ∀ c ∈ (written ++ url.afterPath).head?, (!endsAuthority c) = false := by
    intro c hc
    rw [hw.ends_authority c hc]
    rfl
  -- The path ends at the query or the fragment.
  have pathChars : ∀ c ∈ written, (!endsPath c) = true := by
    intro c hc
    rw [(hw.chars c hc).2]
    rfl
  have pathStops : ∀ c ∈ url.afterPath.head?, (!endsPath c) = false := by
    intro c hc
    rw [afterPath_stop url c hc]
    rfl
  -- What was cut out is read part by part.
  have noUser : splitUser (url.host.text ++ portText url.port) =
      (none, url.host.text ++ portText url.port) :=
    splitUser_of_none fun c hc => (chars c hc).noUser
  have longHost : url.host.text.length ≠ 0 := fun none => filled (List.length_eq_zero_iff.mp none)
  have port : readPortText (portText url.port) = .ok url.port :=
    readPortText_portText fun n named => (h.port n named).1
  have after : readQueryAndFragment url.afterPath = (url.query, url.fragment) :=
    readQueryAndFragment_text h.query h.fragment
  have named : (if url.port = some url.scheme.port then none else url.port) = url.port :=
    if_neg fun same => (h.port _ same).2 rfl
  have slashes : ∀ c ∈ ['/', '/'], isSlash c = true := by simp [isSlash]
  rw [readWeb, Text.dropWhile_append_stop slashes noSlash]
  dsimp only
  rw [Text.takeWhile_append_stop inside pathStarts, Text.dropWhile_append_stop inside pathStarts,
    noUser]
  dsimp only
  -- The host and the port lie next to each other in the authority.
  rw [hostLength_text h.host, if_neg longHost, List.take_left, List.drop_left,
    Host.read_text h.host own, ok_bind, port, ok_bind,
    Text.takeWhile_append_stop pathChars pathStops, Text.dropWhile_append_stop pathChars pathStops,
    after, hw.read, named]
  exact congrArg (Except.ok <| Address.web · url.port) h.withoutCredentials_eq

theorem beforePath_eq (h : url.IsNormal) : url.beforePath =
    url.scheme.name ++ ':' :: (['/', '/'] ++ (url.host.text ++ portText url.port)) := by
  have none : credentialsText Credentials.none = [] := rfl
  rw [WebUrl.beforePath, h.noUser, none]
  simp

/-- The characters of a written address are those of its parts and the marks between them. -/
theorem forall_mem_written {P : Char → Prop} (h : url.IsNormal) (scheme : ∀ c ∈ url.scheme.name, P c)
    (colon : P ':') (slash : P '/') (host : ∀ c ∈ url.host.text, P c)
    (port : ∀ c ∈ portText url.port, P c) (path : ∀ c ∈ written, P c)
    (after : ∀ c ∈ url.afterPath, P c) : ∀ c ∈ url.beforePath ++ written ++ url.afterPath, P c := by
  intro c hc
  rw [beforePath_eq h] at hc
  simp only [List.mem_append, List.mem_cons, List.not_mem_nil, or_false, or_assoc] at hc
  rcases hc with hc | rfl | rfl | rfl | hc | hc | hc | hc
  · exact scheme c hc
  · exact colon
  · exact slash
  · exact slash
  · exact host c hc
  · exact port c hc
  · exact path c hc
  · exact after c hc

/-- A written address holds no blanks and controls. -/
theorem written_visible (h : url.IsNormal) (hw : IsWrittenPath url.path written) :
    ∀ c ∈ url.beforePath ++ written ++ url.afterPath, 0x20 < c.toNat := by
  have scheme : url.scheme.name.all (0x20 < ·.toNat) = true := by
    cases url.scheme <;> decide
  exact forall_mem_written h (fun c hc => of_decide_eq_true (List.all_eq_true.mp scheme c hc))
    (by decide) (by decide)
    (fun c hc => (h.host.text_chars c hc).visible) (fun c hc => (portText_chars _ c hc).visible)
    (fun c hc => (hw.chars c hc).1) (afterPath_chars h)

theorem read_written (h : url.IsNormal) (own : url.host.IsOwnForm)
    (hw : IsWrittenPath url.path written) :
    read (url.beforePath ++ written ++ url.afterPath) = .ok (.web url url.port) := by
  -- The text is cut behind the scheme first.
  have parts : url.beforePath ++ written ++ url.afterPath = url.scheme.name ++ ':' ::
      (['/', '/'] ++ (url.host.text ++ portText url.port ++ (written ++ url.afterPath))) := by
    rw [beforePath_eq h]
    simp
  have all : counted (url.beforePath ++ written ++ url.afterPath) = _ :=
    counted_of_visible (written_visible h hw)
  rw [read, all, parts, splitScheme?_name]
  dsimp only
  rw [ofName?_schemeName]
  exact readWeb_written h own hw

/-- **The text of a normal address is read as that address.** -/
theorem WebUrl.IsNormal.read_text (h : url.IsNormal) (own : url.host.IsOwnForm) :
    read url.text = .ok (.web url url.port) := read_written h own h.path.isWrittenPath

/-- The slash of an empty path can be left out. -/
theorem WebUrl.IsNormal.read_withoutSlash (h : url.IsNormal) (own : url.host.IsOwnForm)
    (lone : url.path = [[]]) :
    read (url.beforePath ++ url.afterPath) = .ok (.web url url.port) := by
  have written : IsWrittenPath url.path [] := by
    rw [lone]
    exact isWrittenPath_nil
  have read := read_written h own written
  rwa [List.append_nil] at read

end WebCapture.Url
