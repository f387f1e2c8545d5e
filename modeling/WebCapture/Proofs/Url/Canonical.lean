import WebCapture.Proofs.Url.Ports

set_option autoImplicit false

/-! # Canonical texts are fixed

The canonical text of an admitted address is ASCII without blanks and controls
(`canonicalText_visible`), and it is plain: its port stands where it is looked for
(`isPlainText_written`), and it has a path of its own exactly if its slash was kept
(`hasPath_written`). So to submit it once more takes the same address and the same text out of it,
provided that the host is its own form: `vet_canonical`.

The lone slash of an empty path is dropped if the submitted text had none, and that is decided by
looking at the text. A canonical text without it has none to be found, not even where a slash
stands in its query.
-/

namespace WebCapture.Url

open WebUrl (fragmentText pathText portText queryText)

variable {url : WebUrl} {cs written source : List Char}

/-! ## The characters of an address -/

theorem isBlank_of_visible {c : Char} (visible : 0x20 < c.toNat) (ascii : c.toNat < 0x80) :
    Text.isBlank c = false := by
  simp only [Text.isBlank, Bool.or_eq_false_iff, Bool.and_eq_false_iff, decide_eq_false_iff_not,
    beq_eq_false_iff_ne]
  omega

theorem Escaped.ascii {set : EscapeSet} (h : Escaped set cs) : ∀ c ∈ cs, c.toNat < 0x80 := by
  intro c hc
  have plain := h c hc
  simp only [needsEscape, Bool.or_eq_false_iff, decide_eq_false_iff_not] at plain
  omega

theorem digitChar_ascii (v : Fin 16) : v.val.digitChar.toNat < 0x80 := by
  revert v
  decide

theorem Host.IsNormal.text_ascii {host : Host} (h : host.IsNormal) :
    ∀ c ∈ host.text, c.toNat < 0x80 := by
  intro c hc
  cases host with
  | name text => exact of_decide_eq_true (h.chars c hc).2
  | ipv4 ip => exact of_decide_eq_true (ip.text_chars c hc).2
  | ipv6 ip =>
      have inside : ∀ c ∈ ip.text, c.toNat < 0x80 := ip.forall_mem_text digitChar_ascii (by decide)
      simp only [Host.text, List.mem_append, List.mem_singleton] at hc
      rcases hc with (rfl | hc) | rfl
      · decide
      · exact inside c hc
      · decide

theorem portText_ascii (port : Option Nat) : ∀ c ∈ portText port, c.toNat < 0x80 := by
  intro c hc
  cases port with
  | none => cases hc
  | some n =>
      have digits : ∀ c ∈ Text.decimal n, c.toNat < 0x80 := Text.forall_mem_decimal digitChar_ascii n
      rcases List.mem_cons.mp hc with rfl | hc
      · decide
      · exact digits c hc

theorem IsNormalPath.text_ascii {path : List (List Char)} (h : IsNormalPath path) :
    ∀ c ∈ pathText path, c.toNat < 0x80 := by
  intro c hc
  obtain ⟨segment, here, hc⟩ := List.mem_flatMap.mp hc
  rcases List.mem_cons.mp hc with rfl | hc
  · decide
  · exact (h.segments segment here).escaped.ascii c hc

theorem afterPath_ascii (h : url.IsNormal) : ∀ c ∈ url.afterPath, c.toNat < 0x80 := by
  intro c hc
  rcases List.mem_append.mp hc with hc | hc
  · cases query : url.query with
    | none =>
        rw [query] at hc
        cases hc
    | some q =>
        rw [query] at hc
        rcases List.mem_cons.mp hc with rfl | hc
        · decide
        · exact (h.query q query).ascii c hc
  · cases fragment : url.fragment with
    | none =>
        rw [fragment] at hc
        cases hc
    | some f =>
        rw [fragment] at hc
        rcases List.mem_cons.mp hc with rfl | hc
        · decide
        · exact (h.fragment f fragment).ascii c hc

/-- A written address is ASCII. -/
theorem written_ascii (h : url.IsNormal) (ascii : ∀ c ∈ written, c.toNat < 0x80) :
    ∀ c ∈ url.beforePath ++ written ++ url.afterPath, c.toNat < 0x80 := by
  have scheme : url.scheme.name.all (·.toNat < 0x80) = true := by
    cases url.scheme <;> decide
  exact forall_mem_written h (fun c hc => of_decide_eq_true (List.all_eq_true.mp scheme c hc))
    (by decide) (by decide) h.host.text_ascii (portText_ascii _) ascii (afterPath_ascii h)

/-! ## Written addresses are plain

Both forms of a canonical text are treated at once: `IsWrittenPath` covers the path as it is and
the lone slash that was left out.
-/

/-- Brackets stand around a numeric address of eight pieces, and nowhere else. -/
theorem isBracketed_text {host : Host} (h : host.IsNormal) (port : Option Nat) :
    IsBracketed (host.text ++ portText port) := by
  have digits : ∀ c ∈ portText port, c ≠ '[' ∧ c ≠ ']' := by
    intro c hc
    cases port with
    | none => cases hc
    | some n =>
        have inside : ∀ c ∈ Text.decimal n, c ≠ '[' ∧ c ≠ ']' :=
          Text.forall_mem_decimal (by decide) n
        rcases List.mem_cons.mp hc with rfl | hc
        · decide
        · exact inside c hc
  have outside : ∀ {text : List Char}, (∀ c ∈ text, HostName.IsNameChar c) →
      IsBracketed (text ++ portText port) := by
    intro text chars
    have none : ∀ c ∈ text ++ portText port, c ≠ '[' ∧ c ≠ ']' := by
      intro c hc
      rcases List.mem_append.mp hc with hc | hc
      · obtain ⟨-, -, -, left, right⟩ := (chars c hc).plain
        exact ⟨left, right⟩
      · exact digits c hc
    exact .inr ⟨fun left => (none _ left).1 rfl, fun right => (none _ right).2 rfl⟩
  cases host with
  | name text => exact outside h.chars
  | ipv4 ip => exact outside ip.text_chars
  | ipv6 ip => exact .inl rfl

/-- **A written address is plain**: nothing in it is dropped, and its authority stands between `://`
and its path. -/
theorem isPlainText_written (h : url.IsNormal) (hw : IsWrittenPath url.path written) :
    IsPlainText (url.beforePath ++ written ++ url.afterPath) [] url.scheme.name
      (url.host.text ++ portText url.port) (written ++ url.afterPath) := by
  have chars := authority_chars h
  have visible : ∀ c ∈ url.host.text ++ portText url.port, isOuter c = false := by
    intro c hc
    have := (chars c hc).visible
    simp only [isOuter, decide_eq_false_iff_not]
    omega
  have noUser : splitUser (url.host.text ++ portText url.port) =
      (none, url.host.text ++ portText url.port) :=
    splitUser_of_none fun c hc => (chars c hc).noUser
  have filled : url.host.text ++ portText url.port ≠ [] := fun none =>
    h.host.text_ne_nil (List.append_eq_nil_iff.mp none).1
  have schemeChars : url.scheme.name.all isSchemeChar = true := by
    cases url.scheme <;> decide
  constructor
  · rw [beforePath_eq h]
    simp
  · exact fun c impossible => absurd impossible List.not_mem_nil
  · exact List.all_eq_true.mp schemeChars
  · exact fun c hc => ⟨(chars c hc).inside, isSkipped_of_counts (visible c hc)⟩
  · exact ⟨_, List.getLast?_eq_some_getLast filled, visible _ (List.getLast_mem filled)⟩
  · exact hw.ends_authority
  · rw [noUser]
    exact isBracketed_text h.host url.port

/-- **A written address has a path of its own exactly if its path was not left out.** -/
theorem hasPath_written (h : url.IsNormal) (hw : IsWrittenPath url.path written) :
    hasPath (url.beforePath ++ written ++ url.afterPath) = !written.isEmpty := by
  have plain := isPlainText_written h hw
  have noColon : ':' ∉ url.scheme.name := fun colon => absurd (plain.name ':' colon) (by decide)
  have behind : behindScheme? (url.beforePath ++ written ++ url.afterPath) =
      some (url.host.text ++ portText url.port ++ (written ++ url.afterPath)) := by
    rw [plain.text]
    exact behindScheme?_append noColon _
  -- The first character that ends the authority is the one behind it.
  have inside : (url.host.text ++ portText url.port).find? endsAuthority = none := by
    rw [List.find?_eq_none]
    intro c hc
    rw [(plain.inside c hc).1]
    exact Bool.false_ne_true
  rw [hasPath, behind]
  dsimp only
  rw [List.find?_append, inside, Option.none_or]
  cases written with
  | cons first more =>
      have starts : endsAuthority first = true := hw.starts first rfl
      -- Neither a question mark nor a number sign stands in a path.
      have slash : isSlash first = true := by
        have kept := (hw.chars first List.mem_cons_self).2
        simp only [endsPath, Bool.or_eq_false_iff] at kept
        simpa [endsAuthority, kept.1, kept.2] using starts
      rw [List.cons_append, List.find?_cons, starts]
      exact slash
  | nil =>
      rw [List.nil_append]
      cases after : url.afterPath with
      | nil => rfl
      | cons first more =>
          have ends := afterPath_stop url first (by rw [after]; rfl)
          simp only [endsPath, Bool.or_eq_true, beq_iff_eq] at ends
          rcases ends with rfl | rfl <;> rfl

/-! ## Canonical texts -/

/-- A canonical text is the address as it is written, with its path or with a lone slash left
out. -/
theorem canonicalText_written (h : url.IsNormal) (source : List Char) :
    ∃ written, IsWrittenPath url.path written ∧ (∀ c ∈ written, c.toNat < 0x80) ∧
      canonicalText url source = url.beforePath ++ written ++ url.afterPath := by
  unfold canonicalText
  split
  · rename_i bare
    refine ⟨[], bare.1 ▸ isWrittenPath_nil, fun c hc => absurd hc List.not_mem_nil, ?_⟩
    rw [List.append_nil]
  · exact ⟨_, h.path.isWrittenPath, h.path.text_ascii, rfl⟩

/-- A canonical text holds neither blanks nor controls. -/
theorem canonicalText_visible (h : url.IsNormal) (source : List Char) :
    ∀ c ∈ canonicalText url source, Text.isBlank c = false := by
  obtain ⟨written, hw, ascii, text⟩ := canonicalText_written h source
  rw [text]
  exact fun c hc => isBlank_of_visible (written_visible h hw c hc) (written_ascii h ascii c hc)

/-- **The canonical text of a canonical text is that text**: a slash that was kept is kept, and one
that was dropped is not missed. -/
theorem canonicalText_canonicalText (h : url.IsNormal) (source : List Char) :
    canonicalText url (canonicalText url source) = canonicalText url source := by
  by_cases lone : url.path = [[]]
  · -- The text without the slash has no path, and the text with it has one.
    have without : hasPath (url.beforePath ++ url.afterPath) = false := by
      have written := hasPath_written h (lone ▸ isWrittenPath_nil)
      rwa [List.append_nil] at written
    have whole : hasPath url.text = true := by
      have slash : (pathText url.path).isEmpty = false := by
        rw [lone]
        rfl
      rw [WebUrl.text, hasPath_written h h.path.isWrittenPath, slash]
      rfl
    cases submitted : hasPath source with
    | false => simp only [canonicalText, lone, submitted, without, and_self, if_true]
    | true => simp only [canonicalText, lone, submitted, whole, reduceCtorEq, and_false, if_false]
  · simp only [canonicalText, lone, false_and, if_false]

/-- **The canonical text of an address that may be admitted is admitted as that address**, whether
an address must name its scheme or not. -/
theorem vet_canonicalText (h : url.IsNormal) (own : url.host.IsOwnForm) (host : ¬url.host.IsInternal)
    (port : ∀ n, url.port = some n → ¬(1 ≤ n ∧ n ≤ 1022)) (source : List Char) (strict : Bool) :
    vet (String.ofList (canonicalText url source)) strict =
      .ok ⟨url, canonicalText url source⟩ := by
  have found : read (canonicalText url source) = .ok (.web url url.port) :=
    read_canonicalText h own source
  have trimmed : Text.trimBy Text.isBlank (canonicalText url source) = canonicalText url source :=
    Text.trimBy_of_none (canonicalText_visible h source)
  have submitted : readSubmitted strict (canonicalText url source) =
      .ok (.web url url.port, canonicalText url source) := by
    rw [readSubmitted, found]
  have plain : IsPlain (canonicalText url source) := by
    obtain ⟨written, hw, -, text⟩ := canonicalText_written h source
    rw [text]
    exact ⟨_, _, _, _, isPlainText_written h hw⟩
  rw [vet_eq_ok, String.toList_ofList, trimmed]
  refine ⟨canonicalText_ne_nil url source, _, url, url.port, submitted, h.withoutCredentials_eq.symm, ?_,
    host, ?_⟩
  · exact (canonicalText_canonicalText h source).symm
  · intro n named
    exact port n ((namedPort?_of_isPlain found plain).symm.trans named)

/-- **Canonical texts are fixed.** What was admitted is admitted again under its canonical text, as
the same address with the same text, whether an address must name its scheme or not, provided that
its host is its own form. -/
theorem vet_canonical {raw : String} {strict : Bool} {clean : CleanUrl}
    (h : vet raw strict = .ok clean) (own : clean.url.host.IsOwnForm) (strict' : Bool) :
    vet clean.text strict' = .ok clean := by
  obtain ⟨-, source, url, written, submitted, admits⟩ := vet_eq_ok.mp h
  have normal : clean.url.IsNormal := by
    rw [admits.url_eq]
    exact read_normal (read_of_readSubmitted submitted)
  have port : ∀ n, clean.url.port = some n → ¬(1 ≤ n ∧ n ≤ 1022) := fun n named =>
    admits.port n (namedPort?_of_port named source)
  have again := vet_canonicalText normal own admits.host port source strict'
  obtain ⟨kept, canonical⟩ := clean
  obtain rfl : canonical = canonicalText kept source := admits.canonical_eq
  exact again

/-- Credentials, capital letters and a missing path, and a slash that is none of the path. -/
theorem vet_canonical_without_slash : ∃ clean,
    vet " HTTP://user:pw@EXAMPLE.com:8443?q=/ " false = .ok clean ∧
      clean.text = "http://example.com:8443?q=/" ∧
      vet "http://example.com:8443?q=/" true = .ok clean := by
  have vetted : (vet " HTTP://user:pw@EXAMPLE.com:8443?q=/ " false).toOption =
      some ⟨⟨.http, .none, .name "example.com".toList, some 8443, [[]], some "q=/".toList, none⟩,
        "http://example.com:8443?q=/".toList⟩ := by
    decide +kernel
  have submitted : Host.read "EXAMPLE.com".toList = .ok (.name "example.com".toList) := by
    decide +kernel
  have escapes : Text.Utf8.decode? (unescape "EXAMPLE.com".toList) = some "EXAMPLE.com".toList := by
    decide +kernel
  cases h : vet " HTTP://user:pw@EXAMPLE.com:8443?q=/ " false with
  | error e =>
      rw [h] at vetted
      cases vetted
  | ok clean =>
      rw [h] at vetted
      cases vetted
      have own : (Host.name "example.com".toList).IsOwnForm :=
        Host.read_ownForm submitted escapes (by decide +kernel)
      exact ⟨_, rfl, by decide, vet_canonical h own true⟩

end WebCapture.Url
