import WebCapture.Proofs.Url.Ports

set_option autoImplicit false

/-! # Spellings of the local name

The name of the machine itself can be spelled in many ways: with capital letters, escapes,
full-width letters, characters that leave no trace, and with the dot that marks a name as a full
one. A plain name is what a text is read as exactly if the text spells that name
(`Host.read_eq_name`), so the check of the host refuses every spelling without the dot, and no
spelling with it: `local_name_needs_dot`, and `local_name_passes` for one that is admitted.

The check compares names in their ASCII form, so what has to be known is which texts have a given
name as their form. A text in plain ASCII labels has it if it is the name in lower case. Any other
text is mapped, and then each label is put into its ASCII form; the result is a plain name only if
nothing had to be put into another form.
-/

namespace WebCapture.Url

/-! ## Spellings of plain names

For the names in question no label starts with `xn--`. So a label that is written that way cannot
be one of theirs, although it is decoded: what it shows would be ASCII, and such forms are
refused.
-/

namespace HostName

variable {cs name ascii : List Char} {labels shown : List (List Char)}

/-- A text spells a name: its letters in lower case are that name if it is plain; otherwise its
characters are mapped to that name. -/
def Spells (cs name : List Char) : Prop :=
  if isPlain cs then cs.map lower = name else mapText? cs = some name

theorem asciiLabel_of_ascii {label : List Char} (h : label.all isAscii = true) :
    asciiLabel label = label := if_pos h

theorem shownLabel?_of_unmarked {label : List Char} (h : isMarked label = false) :
    shownLabel? label = some label := by
  simp [shownLabel?, h]

/-- Labels that are no ASCII forms are shown as they are. -/
theorem mapM_shownLabel?_of_unmarked (h : ∀ label ∈ labels, isMarked label = false) :
    labels.mapM shownLabel? = some labels := by
  induction labels with
  | nil => rfl
  | cons label more ih =>
      obtain ⟨first, others⟩ := List.forall_mem_cons.mp h
      rw [List.mapM_cons, shownLabel?_of_unmarked first, ih others]
      rfl

/-- A label that is shown in ASCII is shown as it is: no ASCII form stands for another. -/
theorem shownLabel?_ascii {label seen : List Char} (h : shownLabel? label = some seen)
    (ascii : seen.all isAscii = true) : seen = label := by
  unfold shownLabel? at h
  split at h
  · split at h
    · cases h
    · split at h
      · cases h
      · rename_i found _
        split at h
        · cases h
        · rename_i beyond
          split at h
          · cases h
            exact absurd ascii beyond
          · cases h
  · exact (Option.some.inj h).symm

theorem mapM_shownLabel?_ascii (h : labels.mapM shownLabel? = some shown)
    (ascii : ∀ label ∈ shown, label.all isAscii = true) : shown = labels := by
  induction labels generalizing shown with
  | nil => exact (Option.some.inj h).symm
  | cons label more ih =>
      rw [List.mapM_cons] at h
      obtain ⟨seen, first, h⟩ := Option.bind_eq_some_iff.mp h
      obtain ⟨others, rest, h⟩ := Option.bind_eq_some_iff.mp h
      cases h
      obtain ⟨here, there⟩ := List.forall_mem_cons.mp ascii
      rw [shownLabel?_ascii first here, ih rest there]

/-- A name that joins ASCII forms is plain only if each of them is its own. -/
theorem ascii_of_isPlain_intercalate
    (plain : isPlain (['.'].intercalate (shown.map asciiLabel)) = true) :
    ∀ label ∈ shown, label.all isAscii = true := by
  intro label here
  by_contra beyond
  have form : asciiLabel label = asciiMark ++ Punycode.encode label := if_neg beyond
  have noDot : ∀ c ∈ asciiMark, (c == '.') = false := by simp [asciiMark]
  obtain ⟨first, more, -, cut⟩ := Text.splitOnP_append_front noDot (Punycode.encode label)
  rw [isPlain, Bool.and_eq_true, List.all_eq_true, List.all_eq_true] at plain
  -- The mark starts one of the labels of the whole name.
  have among : asciiMark ++ first ∈ (['.'].intercalate (shown.map asciiLabel)).splitOn '.' := by
    have filled : shown.map asciiLabel ≠ [] := List.ne_nil_of_mem (List.mem_map_of_mem here)
    rw [List.splitOn_eq_splitOnP, Text.splitOnP_intercalate rfl filled]
    refine List.mem_flatMap.mpr ⟨_, List.mem_map_of_mem here, ?_⟩
    rw [form, cut]
    exact List.mem_cons_self
  have marked : isMarked (asciiMark ++ first) = true := rfl
  have unmarked := plain.2 _ among
  rw [marked] at unmarked
  cases unmarked

/-- **A plain name is the ASCII form of the texts that are mapped to it**, and of no others. -/
theorem international?_eq_plain (plain : isPlain name = true)
    (h : international? cs = some ascii) : ascii = name ↔ mapText? cs = some name := by
  unfold international? at h
  simp only [Option.bind_eq_bind, Option.bind_eq_some_iff] at h
  obtain ⟨mapped, map, shown, labels, h⟩ := h
  have joined : ['.'].intercalate (shown.map asciiLabel) = ascii := by
    split at h
    · cases h
    split at h
    · cases h
    split at h
    · cases h
    exact Option.some.inj h
  rw [map, Option.some.injEq, ← joined]
  -- Labels in ASCII are joined as they are shown.
  have kept : (∀ label ∈ shown, label.all isAscii = true) →
      ['.'].intercalate (shown.map asciiLabel) = ['.'].intercalate shown := by
    intro ascii
    rw [List.map_congr_left fun label here => asciiLabel_of_ascii (ascii label here), List.map_id']
  constructor
  · rintro rfl
    have ascii := ascii_of_isPlain_intercalate plain
    rw [kept ascii, mapM_shownLabel?_ascii labels ascii, List.intercalate_splitOn]
  · rintro rfl
    rw [isPlain, Bool.and_eq_true, List.all_eq_true, List.all_eq_true] at plain
    -- No label of a plain name is an ASCII form that would be decoded.
    have unmarked : ∀ label ∈ mapped.splitOn '.', isMarked label = false := by
      intro label here
      have free := plain.2 label here
      rwa [Bool.not_eq_true'] at free
    have same : mapped.splitOn '.' = shown :=
      Option.some.inj ((mapM_shownLabel?_of_unmarked unmarked).symm.trans labels)
    have ascii : ∀ label ∈ shown, label.all isAscii = true := by
      intro label here
      rw [List.all_eq_true]
      exact fun c hc => plain.1 c (Text.mem_splitOnP (same ▸ here) hc).1
    rw [kept ascii, ← same, List.intercalate_splitOn]

/-- **A plain name is the ASCII form of its spellings**, and of no others. -/
theorem toAscii?_eq_plain (plain : isPlain name = true) (h : toAscii? cs = some ascii) :
    ascii = name ↔ Spells cs name := by
  unfold Spells
  by_cases all : isPlain cs = true
  · rw [toAscii?, if_pos all, plain?_eq_some] at h
    obtain ⟨-, rfl⟩ := h
    rw [if_pos all]
  · rw [toAscii?, if_neg all] at h
    rw [if_neg all]
    exact international?_eq_plain plain h

end HostName

/-! ## Spellings of hosts -/

variable {cs name source : List Char} {host : Host} {url : WebUrl} {written : Option Nat}

/-- The text of a host spells a name, its escapes resolved. A text in brackets spells none. -/
def Host.Spells (cs name : List Char) : Prop :=
  cs.head? ≠ some '[' ∧
    ∃ decoded, Text.Utf8.decode? (unescape cs) = some decoded ∧ HostName.Spells decoded name

/-- **A host is read as a plain name exactly if its text spells that name.** -/
theorem Host.read_eq_name (plain : HostName.isPlain name = true)
    (noNumber : endsInNumber name = false) (h : Host.read cs = .ok host) :
    host = .name name ↔ Host.Spells cs name := by
  unfold Host.read at h
  split at h
  · -- Whatever is read between brackets is a numeric address.
    constructor
    · rintro rfl
      unfold Host.readBracketed at h
      split at h
      · split at h <;> cases h
      · cases h
    · rintro ⟨outside, -⟩
      exact absurd rfl outside
  · rename_i outside
    split at h
    · rename_i decoded found
      obtain ⟨ascii, form, filled, kind⟩ := Host.readName_cases h
      -- A name is kept in its ASCII form, and a plain one has few spellings.
      have same : ascii = name ↔ HostName.Spells decoded name :=
        HostName.toAscii?_eq_plain plain form
      constructor
      · rintro rfl
        refine ⟨fun bracket => ?_, decoded, found, ?_⟩
        · obtain ⟨rest, rfl⟩ := List.head?_eq_some_iff.mp bracket
          exact outside rest rfl
        · rcases kind with ⟨address, impossible⟩ | ⟨-, kept⟩
          · cases impossible
          · cases kept
            exact same.mp rfl
      · rintro ⟨-, decoded', found', spells⟩
        obtain rfl : decoded = decoded' := Option.some.inj (found.symm.trans found')
        obtain rfl := same.mpr spells
        have read := Host.readName_name form filled noNumber
        rw [read] at h
        exact (Except.ok.inj h).symm
    · cases h

def writtenHost (source : List Char) : List Char :=
  match splitScheme? (counted source) with
  | none => []
  | some (_, behind) =>
    let hostPort := (splitUser ((behind.dropWhile isSlash).takeWhile (!endsAuthority ·))).2
    hostPort.take (hostLength false hostPort)

/-- The host of an address is the one that is written in it. -/
theorem read_writtenHost (h : read source = .ok (.web url written)) :
    Host.read (writtenHost source) = .ok url.host := by
  obtain ⟨name, behind, scheme, split, web⟩ := readWeb_of_read h
  obtain ⟨host, -, -⟩ := readWeb_parts web rfl
  rw [writtenHost, split]
  exact host

/-! ## The local name -/

def localName : List Char := "localhost".toList

/-- The same name with the dot of the root of all names. -/
def rootedLocalName : List Char := "localhost.".toList

/-- A host is the name of the machine itself, with or without the dot of the root. -/
def Host.IsLocalName (host : Host) : Prop := host = .name localName ∨ host = .name rootedLocalName

variable {raw : String} {strict : Bool}

/-- An address whose host passes the check is refused for its port or not at all. -/
theorem vet_eq_error_of_host {e : Refusal}
    (submitted : readSubmitted strict (Text.trimBy Text.isBlank raw.toList)
      = .ok (.web url written, source))
    (passes : checkHost url.host = .ok ()) (refused : vet raw strict = .error e) :
    ∃ q, e = .wellKnownPort q := by
  have kept : checkHost url.withoutCredentials.host = .ok () := passes
  rw [vet_of_readSubmitted submitted] at refused
  simp only [admitAddress, kept] at refused
  split at refused
  · rename_i port
    cases refused
    obtain ⟨q, -, -, rfl⟩ := checkPort_eq_error.mp port
    exact ⟨q, rfl⟩
  · cases refused

/-- An address that leads to the machine by its name is refused for that. -/
theorem vet_localName
    (submitted : readSubmitted strict (Text.trimBy Text.isBlank raw.toList)
      = .ok (.web url written, source))
    (host : url.host = .name localName) : vet raw strict = .error .loopback := by
  have refused : checkHost url.withoutCredentials.host = .error .loopback := by
    change checkHost url.host = _
    rw [host]
    rfl
  rw [vet_of_readSubmitted submitted]
  simp only [admitAddress, refused]

/-- **The name of the machine itself is refused in every spelling without the dot of the root, and
admitted in every spelling with it**, unless the port is refused. -/
theorem local_name_needs_dot
    (submitted : readSubmitted strict (Text.trimBy Text.isBlank raw.toList)
      = .ok (.web url written, source)) :
    (Host.Spells (writtenHost source) localName → vet raw strict = .error .loopback) ∧
      (Host.Spells (writtenHost source) rootedLocalName →
        ∀ e, vet raw strict = .error e → ∃ q, e = .wellKnownPort q) ∧
      ∀ clean, vet raw strict = .ok clean →
        (clean.url.host.IsLocalName ↔ Host.Spells (writtenHost source) rootedLocalName) := by
  have found : read source = .ok (.web url written) := read_of_readSubmitted submitted
  have host := read_writtenHost found
  have bare : url.host = .name localName ↔ Host.Spells (writtenHost source) localName :=
    Host.read_eq_name (by decide +kernel) (by decide +kernel) host
  have rooted : url.host = .name rootedLocalName ↔
      Host.Spells (writtenHost source) rootedLocalName :=
    Host.read_eq_name (by decide +kernel) (by decide +kernel) host
  refine ⟨fun spells => vet_localName submitted (bare.mpr spells), ?_, ?_⟩
  · intro spells e refused
    refine vet_eq_error_of_host submitted ?_ refused
    rw [rooted.mpr spells]
    rfl
  · intro clean admitted
    obtain ⟨-, source', url', written', submitted', admits⟩ := vet_eq_ok.mp admitted
    cases submitted.symm.trans submitted'
    have same : clean.url.host = url.host := by
      rw [admits.url_eq]
      rfl
    rw [same, ← rooted, Host.IsLocalName]
    constructor
    · rintro (here | here)
      · rw [vet_localName submitted here] at admitted
        cases admitted
      · exact here
    · exact .inr

/-- Capital letters and an escape, behind a user name. -/
theorem local_name_with_capitals : vet "http://me@LoCaL%48oST/" false = .error .loopback := by
  have submitted : readSubmitted false (Text.trimBy Text.isBlank
      "http://me@LoCaL%48oST/".toList) =
      .ok (.web ⟨.http, ⟨"me".toList, []⟩, .name localName, none, [[]], none, none⟩ none,
        "http://me@LoCaL%48oST/".toList) := by
    decide +kernel
  have written : writtenHost "http://me@LoCaL%48oST/".toList = "LoCaL%48oST".toList := by
    decide +kernel
  refine (local_name_needs_dot submitted).1 ?_
  rw [written]
  refine ⟨by simp, "LoCaLHoST".toList, by decide +kernel, ?_⟩
  rw [HostName.Spells, if_pos (by decide +kernel)]
  decide +kernel

/-- **The name of the machine itself is admitted** with the dot of the root behind it. -/
theorem local_name_passes :
    ¬∀ (raw : String) (strict : Bool) (clean : CleanUrl), vet raw strict = .ok clean →
      ¬clean.url.host.IsLocalName := by
  intro refuses
  have vetted : (vet "http://localhost./" false).toOption =
      some ⟨⟨.http, .none, .name rootedLocalName, none, [[]], none, none⟩,
        "http://localhost./".toList⟩ := by
    decide +kernel
  cases admitted : vet "http://localhost./" false with
  | error e =>
      rw [admitted] at vetted
      cases vetted
  | ok clean =>
      rw [admitted] at vetted
      cases vetted
      exact refuses _ _ _ admitted (.inr rfl)

end WebCapture.Url
