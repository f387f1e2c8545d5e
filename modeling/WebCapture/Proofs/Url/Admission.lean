import WebCapture.Proofs.Url.Network
import WebCapture.Proofs.Url.Reparse

set_option autoImplicit false

/-! # What was checked is what is read again

The checks look at an address that was read from the submitted text, but what is stored and handed
to the crawler is another text, the canonical one. `vet_safe` says that reading that text gives
the very address that was checked, and that it leads neither to the machine itself nor into a
private network nor to a port of a well-known service.

That the host is read as itself is a promise of the rules for international names, under which a
name beyond plain ASCII labels is stored in its `xn--` form. It is taken as a condition
(`Host.IsOwnForm`); for every other host it is `Host.read_ownForm`.

Only the first of these statements depends on that condition. The others are about the address
that was read, whatever its text would be read as.
-/

namespace WebCapture.Url

variable {source : List Char} {url : WebUrl} {clean : CleanUrl}

/-- A canonical text starts with a scheme. -/
theorem canonicalText_ne_nil (url : WebUrl) (source : List Char) : canonicalText url source ≠ [] := by
  have scheme : url.scheme.name ≠ [] := by
    cases url.scheme <;> exact List.cons_ne_nil _ _
  intro empty
  unfold canonicalText at empty
  split at empty <;> simp [WebUrl.text, WebUrl.beforePath, scheme] at empty

/-- **The canonical text of a normal address is read as that address** if its host is its own form,
whether its slash was dropped or not. -/
theorem read_canonicalText (h : url.IsNormal) (own : url.host.IsOwnForm) (source : List Char) :
    read (canonicalText url source) = .ok (.web url url.port) := by
  unfold canonicalText
  split
  · rename_i bare
    exact h.read_withoutSlash own bare.1
  · exact h.read_text own

/-- What is admitted was read from the text as it was submitted or with `https` before it. -/
theorem read_of_readSubmitted {strict : Bool} {raw : List Char} {address : Address}
    (h : readSubmitted strict raw = .ok (address, source)) : read source = .ok address := by
  unfold readSubmitted at h
  split at h
  · rename_i found
    cases h
    exact found
  · -- Without a scheme the text is read a second time.
    split at h
    · cases h
    · dsimp only at h
      split at h
      · rename_i found
        cases h
        exact found
      · cases h
  · cases h

/-- What is read from a text that is submitted is what is checked. -/
theorem vet_of_readSubmitted {raw : String} {strict : Bool} {address : Address}
    (h : readSubmitted strict (Text.trimBy Text.isBlank raw.toList) = .ok (address, source)) :
    vet raw strict = admitAddress address source := by
  have filled : Text.trimBy Text.isBlank raw.toList ≠ [] := by
    intro blank
    rw [blank] at h
    cases strict <;> cases h
  unfold vet
  dsimp only
  rw [if_neg filled, h]

/-- The port in an address is the one that is checked. -/
theorem namedPort?_of_port {port : Nat} (h : url.port = some port) (source : List Char) :
    namedPort? url source = some port := by
  rw [namedPort?, h]

/-- What an address has passed that was admitted. -/
structure Admits (url : WebUrl) (source : List Char) (clean : CleanUrl) : Prop where
  url_eq : clean.url = url.withoutCredentials
  canonical_eq : clean.canonical = canonicalText clean.url source
  host : ¬clean.url.host.IsInternal
  port : ∀ n, namedPort? clean.url source = some n → ¬(1 ≤ n ∧ n ≤ 1022)

/-- An address is admitted exactly if it is one of a web page that passes the checks. -/
theorem admitAddress_eq_ok {address : Address} :
    admitAddress address source = .ok clean ↔
      ∃ url written, address = .web url written ∧ Admits url source clean := by
  constructor
  · intro h
    cases address with
    | other scheme => cases h
    | web url written =>
        refine ⟨url, written, rfl, ?_⟩
        simp only [admitAddress] at h
        split at h
        · cases h
        rename_i host
        split at h
        · cases h
        rename_i port
        -- Both checks have looked at the address that is kept.
        cases h
        exact ⟨rfl, rfl, (checkHost_eq_ok _).mp host, (checkPort_eq_ok _).mp port⟩
  · rintro ⟨url, written, rfl, admits⟩
    obtain ⟨kept, canonical⟩ := clean
    have same : kept = url.withoutCredentials := admits.url_eq
    subst same
    have text : canonical = canonicalText url.withoutCredentials source := admits.canonical_eq
    have host : checkHost url.withoutCredentials.host = .ok () :=
      (checkHost_eq_ok _).mpr admits.host
    have port : checkPort (namedPort? url.withoutCredentials source) = .ok () :=
      (checkPort_eq_ok _).mpr admits.port
    simp only [admitAddress, host, port, text]

/-- A text is admitted exactly if it is not blank, can be read, and is read as such an address. -/
theorem vet_eq_ok {raw : String} {strict : Bool} :
    vet raw strict = .ok clean ↔ Text.trimBy Text.isBlank raw.toList ≠ [] ∧
      ∃ source url written, readSubmitted strict (Text.trimBy Text.isBlank raw.toList)
        = .ok (.web url written, source) ∧ Admits url source clean := by
  unfold vet
  dsimp only
  by_cases blank : Text.trimBy Text.isBlank raw.toList = []
  · simp [blank]
  rw [if_neg blank]
  cases found : readSubmitted strict (Text.trimBy Text.isBlank raw.toList) with
  | error e => simp
  | ok submitted =>
      obtain ⟨address, source⟩ := submitted
      dsimp only
      rw [admitAddress_eq_ok]
      constructor
      · rintro ⟨url, written, rfl, admits⟩
        exact ⟨blank, source, url, written, rfl, admits⟩
      · rintro ⟨-, source', url, written, same, admits⟩
        cases same
        exact ⟨url, written, rfl, admits⟩

/-- An address that was admitted has a canonical text. -/
theorem text_ne_empty {raw : String} {strict : Bool} (h : vet raw strict = .ok clean) :
    clean.text ≠ "" := by
  obtain ⟨-, source, url, written, -, admits⟩ := vet_eq_ok.mp h
  intro empty
  refine canonicalText_ne_nil clean.url source ?_
  rw [← admits.canonical_eq]
  exact String.ofList_eq_empty_iff.mp empty

/-- **What was checked is what the crawler gets.** Reading the canonical text of an admitted
address gives that address again, provided that its host is its own form. In any case it is the
address of a web page without credentials, its host is neither the machine itself nor in a private
network, and it names no port from 1 to 1022. -/
theorem vet_safe {raw : String} {strict : Bool} (h : vet raw strict = .ok clean) :
    (clean.url.host.IsOwnForm → read clean.text.toList = .ok (.web clean.url clean.url.port)) ∧
      (clean.url.scheme.name = "http".toList ∨ clean.url.scheme.name = "https".toList) ∧
      clean.url.credentials = ⟨[], []⟩ ∧
      ¬clean.url.host.IsInternal ∧
      ∀ port, clean.url.port = some port → ¬(1 ≤ port ∧ port ≤ 1022) := by
  obtain ⟨-, source, url, written, submitted, admits⟩ := vet_eq_ok.mp h
  have found : read source = .ok (.web url written) := read_of_readSubmitted submitted
  have normal : clean.url.IsNormal := by
    rw [admits.url_eq]
    exact read_normal found
  have text : clean.text.toList = canonicalText clean.url source := by
    rw [CleanUrl.text, String.toList_ofList, admits.canonical_eq]
  have scheme : clean.url.scheme.name = "http".toList ∨
      clean.url.scheme.name = "https".toList := by
    cases clean.url.scheme <;> decide
  refine ⟨fun own => ?_, scheme, normal.noUser, admits.host, ?_⟩
  · rw [text]
    exact read_canonicalText normal own source
  · intro port named
    exact admits.port port (namedPort?_of_port named source)

/-- A number in mixed bases, capital letters, credentials and no path. -/
theorem vet_safe_short_address : ∃ clean,
    vet " HTTP://user:pw@0x5D.0270.0xD822?q" false = .ok clean ∧
      clean.text = "http://93.184.216.34?q" ∧
      read clean.text.toList = .ok (.web clean.url clean.url.port) ∧
      ¬clean.url.host.IsInternal := by
  have vetted : (vet " HTTP://user:pw@0x5D.0270.0xD822?q" false).toOption =
      some ⟨⟨.http, .none, .ipv4 ⟨93, 184, 216, 34⟩, none, [[]], some ['q'], none⟩,
        "http://93.184.216.34?q".toList⟩ := by
    decide +kernel
  cases h : vet " HTTP://user:pw@0x5D.0270.0xD822?q" false with
  | error e =>
      rw [h] at vetted
      cases vetted
  | ok clean =>
      rw [h] at vetted
      cases vetted
      obtain ⟨again, -, -, outside, -⟩ := vet_safe h
      exact ⟨_, rfl, by decide, again trivial, outside⟩

end WebCapture.Url
