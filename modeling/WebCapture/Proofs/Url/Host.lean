import WebCapture.Proofs.Url.Address
import WebCapture.Proofs.Url.Escapes
import WebCapture.Proofs.Url.HostName
import WebCapture.Url.Reader

set_option autoImplicit false

/-! # Hosts are read back

Every host that is read from any spelling is normal (`Host.read_normal`): a numeric address, or a
name of which nothing ends the host early (`Host.IsNormal.text_chars`, `hostLength_text`). The
text of a normal host is read as that host if the host is its own form (`Host.read_text`). Numeric
addresses are, and so are all names that were submitted in plain labels (`Host.read_ownForm`);
whether another name is its own form is left to the rules of international names.

A name whose last label is a number is read as a numeric address or not at all, so that no normal
name is one. This is what keeps a name that was read from being taken for an address when it is
read again.
-/

namespace WebCapture.Url

open HostName (IsNameChar toAscii?)

/-! ## Normal hosts -/

/-- A name of characters that may stand in one, which does not stand for a numeric address. -/
structure IsNormalName (text : List Char) : Prop where
  chars : ∀ c ∈ text, IsNameChar c
  filled : text ≠ []
  noNumber : endsInNumber text = false

def Host.IsNormal : Host → Prop
  | .name text => IsNormalName text
  | .ipv4 _ => True
  | .ipv6 _ => True

/-- A host that is read as itself. A numeric address is, and a name if it is its own ASCII form. -/
def Host.IsOwnForm : Host → Prop
  | .name text => toAscii? text = some text
  | .ipv4 _ => True
  | .ipv6 _ => True

/-- A character that may stand in a host that is written in an address. -/
structure IsHostChar (c : Char) : Prop where
  visible : 0x20 < c.toNat
  inside : endsAuthority c = false
  noUser : c ≠ '@'

/-- A name is read as itself or as the address it stands for. -/
theorem Host.readName_cases {cs : List Char} {host : Host} (h : Host.readName cs = .ok host) :
    ∃ ascii, toAscii? cs = some ascii ∧ ascii ≠ [] ∧
      ((∃ address, host = .ipv4 address) ∨ (endsInNumber ascii = false ∧ host = .name ascii)) := by
  unfold Host.readName at h
  split at h
  · cases h
  · cases h
  · rename_i ascii filled form
    refine ⟨ascii, form, filled, ?_⟩
    split at h
    · split at h
      · cases h
        exact .inl ⟨_, rfl⟩
      · cases h
    · rename_i noNumber
      cases h
      exact .inr ⟨Bool.eq_false_iff.mpr noNumber, rfl⟩

/-- **A host is normal, whatever spelling it is read from.** -/
theorem Host.read_normal {cs : List Char} {host : Host} (h : Host.read cs = .ok host) :
    host.IsNormal := by
  unfold Host.read at h
  split at h
  · -- Whatever is read between brackets is a numeric address.
    unfold Host.readBracketed at h
    split at h
    · split at h
      · cases h
        trivial
      · cases h
    · cases h
  · -- A name that does not end in a number is stored in its ASCII form.
    split at h
    · obtain ⟨ascii, form, filled, ⟨address, rfl⟩ | ⟨noNumber, rfl⟩⟩ := readName_cases h
      · trivial
      · exact ⟨HostName.toAscii?_chars form, filled, noNumber⟩
    · cases h

/-- **A host that was submitted in plain labels is its own form.** -/
theorem Host.read_ownForm {cs decoded : List Char} {host : Host} (h : Host.read cs = .ok host)
    (escapes : Text.Utf8.decode? (unescape cs) = some decoded)
    (plain : HostName.isPlain decoded = true) : host.IsOwnForm := by
  unfold Host.read at h
  split at h
  · unfold Host.readBracketed at h
    split at h
    · split at h
      · cases h
        trivial
      · cases h
    · cases h
  · rw [escapes] at h
    obtain ⟨ascii, form, -, ⟨address, rfl⟩ | ⟨-, rfl⟩⟩ := readName_cases h
    · trivial
    · exact HostName.toAscii?_idem plain form

/-! ## Characters of hosts -/

/-- The characters that would end a name, or part it, may not stand in one. -/
theorem HostName.IsNameChar.plain {c : Char} (h : IsNameChar c) :
    IsHostChar c ∧ c ≠ '%' ∧ c ≠ ':' ∧ c ≠ '[' ∧ c ≠ ']' := by
  have free := h.1
  simp only [HostName.isForbidden, Bool.or_eq_false_iff, decide_eq_false_iff_not, List.mem_cons,
    List.not_mem_nil, or_false, not_or] at free
  obtain ⟨⟨low, -⟩, percent, hash, slash, colon, -, -, question, user, left, back, right, -⟩ := free
  refine ⟨⟨by omega, ?_, user⟩, percent, colon, left, right⟩
  simp [endsAuthority, isSlash, hash, slash, question, back]

theorem Ipv4.text_chars (ip : Ipv4) : ∀ c ∈ ip.text, IsNameChar c :=
  ip.forall_mem_text (by unfold IsNameChar; decide) ⟨by decide, by decide⟩

theorem isHostChar_digitChar (v : Fin 16) : IsHostChar v.val.digitChar := by
  have all : ∀ v : Fin 16, 0x20 < v.val.digitChar.toNat ∧ endsAuthority v.val.digitChar = false ∧
      v.val.digitChar ≠ '@' := by decide
  obtain ⟨visible, inside, noUser⟩ := all v
  exact ⟨visible, inside, noUser⟩

theorem isHostChar_colon : IsHostChar ':' := ⟨by decide, by decide, by decide⟩

theorem Ipv6.text_chars (ip : Ipv6) : ∀ c ∈ ip.text, IsHostChar c ∧ c ≠ '[' ∧ c ≠ ']' := by
  have brackets : ∀ v : Fin 16, v.val.digitChar ≠ '[' ∧ v.val.digitChar ≠ ']' := by decide
  refine ip.forall_mem_text ?_ ?_
  · intro v
    exact ⟨isHostChar_digitChar v, brackets v⟩
  · exact ⟨isHostChar_colon, by decide, by decide⟩

variable {host : Host}

theorem Host.IsNormal.text_chars (h : host.IsNormal) : ∀ c ∈ host.text, IsHostChar c := by
  intro c hc
  cases host with
  | name text => exact (h.chars c hc).plain.1
  | ipv4 ip => exact (ip.text_chars c hc).plain.1
  | ipv6 ip =>
      simp only [Host.text, List.mem_append, List.mem_singleton] at hc
      rcases hc with (rfl | hc) | rfl
      · exact ⟨by decide, by decide, by decide⟩
      · exact (ip.text_chars c hc).1
      · exact ⟨by decide, by decide, by decide⟩

theorem Host.IsNormal.text_ne_nil (h : host.IsNormal) : host.text ≠ [] := by
  cases host with
  | name text => exact h.filled
  | ipv4 ip =>
      intro none
      -- An empty text would be read as no address.
      have read := ip.read?_text
      rw [show ip.text = [] from none] at read
      cases read
  | ipv6 ip => exact List.cons_ne_nil _ _

/-! ## Reading -/

/-- A name without brackets and escapes is read as it stands. -/
theorem Host.read_plain {cs : List Char} (h : ∀ c ∈ cs, IsNameChar c) :
    Host.read cs = Host.readName cs := by
  have escapes : Text.Utf8.decode? (unescape cs) = some cs := by
    rw [unescape_of_none fun c hc => (h c hc).plain.2.1, Text.Utf8.decode?_encode]
  rw [Host.read, escapes]
  rintro rest rfl
  exact (h '[' List.mem_cons_self).plain.2.2.2.1 rfl

theorem isMarked_decimal (n : Nat) : HostName.isMarked (Text.decimal n) = false := by
  have noHyphen : ∀ c ∈ Text.decimal n, HostName.lower c ≠ '-' :=
    Text.forall_mem_decimal (by decide) n
  -- The mark `xn--` has hyphens, and digits do not turn into them.
  rw [HostName.isMarked, beq_eq_false_iff_ne]
  intro marked
  have hyphen : '-' ∈ ((Text.decimal n).take 4).map HostName.lower := by
    rw [marked]
    decide
  obtain ⟨c, hc, lowered⟩ := List.mem_map.mp hyphen
  exact noHyphen c (List.mem_of_mem_take hc) lowered

/-- An address of four octets is a name in its ASCII form. -/
theorem Ipv4.toAscii?_text (ip : Ipv4) : toAscii? ip.text = some ip.text := by
  have plain : HostName.isPlain ip.text = true := by
    rw [HostName.isPlain, Bool.and_eq_true, List.all_eq_true, List.all_eq_true, ip.splitOn_text]
    refine ⟨fun c hc => (ip.text_chars c hc).2, fun part h => ?_⟩
    simp only [Ipv4.parts, List.mem_cons, List.not_mem_nil, or_false] at h
    rcases h with rfl | rfl | rfl | rfl <;> rw [isMarked_decimal] <;> rfl
  have lowered : ip.text.map HostName.lower = ip.text := by
    have small : ∀ c ∈ ip.text, HostName.lower c = c := ip.forall_mem_text (by decide) (by decide)
    rw [List.map_congr_left small, List.map_id']
  rw [toAscii?, if_pos plain, HostName.plain?_eq_some]
  exact ⟨fun c hc => (ip.text_chars c hc).1, lowered.symm⟩

variable {cs ascii : List Char}

theorem Host.readName_name (form : toAscii? cs = some ascii) (filled : ascii ≠ [])
    (noNumber : endsInNumber ascii = false) : Host.readName cs = .ok (.name ascii) := by
  cases ascii with
  | nil => exact absurd rfl filled
  | cons c rest => simp [Host.readName, form, noNumber]

theorem Host.readName_ipv4 {ip : Ipv4} (form : toAscii? cs = some ascii)
    (number : endsInNumber ascii = true) (read : Ipv4.read? ascii = some ip) :
    Host.readName cs = .ok (.ipv4 ip) := by
  cases ascii with
  | nil => cases number
  | cons c rest => simp [Host.readName, form, number, read]

/-- **The text of a host that is its own form is read as that host.** -/
theorem Host.read_text (h : host.IsNormal) (own : host.IsOwnForm) :
    Host.read host.text = .ok host := by
  cases host with
  | name text =>
      rw [Host.text, Host.read_plain h.chars]
      exact Host.readName_name own h.filled h.noNumber
  | ipv4 ip =>
      rw [Host.text, Host.read_plain ip.text_chars]
      exact Host.readName_ipv4 ip.toAscii?_text ip.endsInNumber_text ip.read?_text
  | ipv6 ip =>
      have closed : (ip.text ++ [']']).getLast? = some ']' := List.getLast?_concat
      show Host.readBracketed (ip.text ++ [']']) = _
      rw [Host.readBracketed, if_pos closed, List.dropLast_concat, ip.read?_text]

/-! ## The end of a host -/

/-- Colons count only outside of brackets. -/
theorem hostLength_append {inBrackets : Bool} {cs : List Char}
    (h : ∀ c ∈ cs, c ≠ '[' ∧ c ≠ ']' ∧ (c = ':' → inBrackets = true)) (rest : List Char) :
    hostLength inBrackets (cs ++ rest) = hostLength inBrackets rest + cs.length := by
  induction cs with
  | nil => rfl
  | cons c cs ih =>
      obtain ⟨⟨left, right, colon⟩, more⟩ := List.forall_mem_cons.mp h
      have goesOn : ¬(c = ':' ∧ inBrackets = false) := by
        rintro ⟨same, outside⟩
        rw [colon same] at outside
        cases outside
      rw [List.cons_append, hostLength, if_neg goesOn, if_neg left, if_neg right, ih more,
        List.length_cons, Nat.add_assoc]

theorem hostLength_portText (port : Option Nat) : hostLength false (WebUrl.portText port) = 0 := by
  cases port <;> rfl

/-- **A host goes up to the colon of its port.** -/
theorem hostLength_text (h : host.IsNormal) (port : Option Nat) :
    hostLength false (host.text ++ WebUrl.portText port) = host.text.length := by
  have outside : ∀ {cs : List Char}, (∀ c ∈ cs, IsNameChar c) →
      hostLength false (cs ++ WebUrl.portText port) = cs.length := by
    intro cs chars
    rw [hostLength_append, hostLength_portText, Nat.zero_add]
    intro c hc
    obtain ⟨-, -, colon, left, right⟩ := (chars c hc).plain
    exact ⟨left, right, fun same => absurd same colon⟩
  cases host with
  | name text => exact outside h.chars
  | ipv4 ip => exact outside ip.text_chars
  | ipv6 ip =>
      have inside : ∀ c ∈ ip.text, c ≠ '[' ∧ c ≠ ']' ∧ (c = ':' → true = true) := by
        intro c hc
        exact ⟨(ip.text_chars c hc).2.1, (ip.text_chars c hc).2.2, fun _ => rfl⟩
      -- The colons of the address stand between brackets, that of the port behind them.
      show hostLength true (ip.text ++ [']'] ++ WebUrl.portText port) + 1 = _
      rw [List.append_assoc, hostLength_append inside]
      show hostLength false (WebUrl.portText port) + 1 + ip.text.length + 1 = _
      rw [hostLength_portText]
      simp only [Host.text, List.length_append, List.length_singleton]

end WebCapture.Url
