import WebCapture.Proofs.Text.Blank
import WebCapture.Proofs.Time.Stamps
import WebCapture.Seed.Archive

set_option autoImplicit false

/-! # Captures are archived under the times of their stamps

The stamps that clocks can show are the only texts that are read as times (`readStamp_eq_ok`). The
archive details of a capture are those of its stamp, and the stamp and the captured address can be
told from the address of the replay (`url_inj`). `stamps_exact` collects what holds of stamps.

A stamp has fourteen digits, or seventeen with the milliseconds: `YYYYMMDDhhmmssfff`. That a text
of this form is refused is possible in one way only, by showing a day or a time that there is not;
the sixtieth second of a minute counts as one that there may be.

The addresses of two replays can be the same only for the same capture, although the stamps differ
in length. The base is the same for both, the stamp is all digits, and the slash behind it is
none.
-/

namespace WebCapture.Seed

open Text.Utf8 (ofString)
open Time (Instant Spells Stamp clockOf digit?)

/-! ## Reading stamps

A `Stamp` is a clock with milliseconds or without, and its text is what a clock shows. Reading
goes by digits and positions, so the two are brought together by cutting digits at the places
where the parts of a stamp end (`clockOf_text`).
-/

/-- The digits of a stamp are read as what they were written from. -/
theorem clockOf_text {stamp : Stamp} (shown : stamp.IsShown) :
    clockOf (ofString stamp.text) = stamp.clock ∧
      Time.number ((ofString stamp.text).drop 14) = stamp.millis.getD 0 := by
  obtain ⟨clock, millis⟩ := stamp
  have digits : Spells (ofString clock.digits) 14 clock.number :=
    Time.Clock.spells_digits shown.clock
  obtain ⟨length, -, value⟩ := digits
  cases millis with
  | none =>
      show clockOf (ofString clock.digits) = clock ∧
        Time.number ((ofString clock.digits).drop 14) = 0
      have whole : (ofString clock.digits).take 14 = ofString clock.digits :=
        List.take_of_length_le (by omega)
      constructor
      · apply Time.clockOf_eq (by omega) shown.clock
        rw [whole, value]
      · rw [List.drop_of_length_le (by omega)]
        rfl
  | some millis =>
      have small : millis < 1000 := shown.millis millis rfl
      obtain ⟨-, -, more⟩ : Spells (ofString (Time.padded 3 millis)) 3 millis :=
        Time.spells_padded (by decide) small
      show clockOf (ofString (clock.digits ++ Time.padded 3 millis)) = clock ∧
        Time.number ((ofString (clock.digits ++ Time.padded 3 millis)).drop 14) = millis
      rw [Text.Utf8.ofString_append]
      constructor
      · apply Time.clockOf_eq _ shown.clock
        · rw [List.take_left' length, value]
        · rw [List.length_append]
          omega
      · rw [List.drop_left' length, more]

/-- The stamp that digits denote, if there are fourteen or seventeen of them. -/
def stampOf (text : String) : Stamp :=
  ⟨clockOf (ofString text),
    if (ofString text).length = 17 then some (Time.number ((ofString text).drop 14)) else none⟩

/-- Digits are the stamp that they denote. -/
theorem text_stampOf {text : String} (digits : (ofString text).all (digit? · |>.isSome) = true)
    (length : (ofString text).length = 14 ∨ (ofString text).length = 17)
    (shown : (clockOf (ofString text)).IsShown) :
    (stampOf text).IsShown ∧ text = (stampOf text).text := by
  have spelled := Time.spells_of_all digits
  have number := Time.number_clockOf (show 14 ≤ (ofString text).length by omega)
  rcases length with length | length
  · have none : (stampOf text) = ⟨clockOf (ofString text), none⟩ := by
      rw [stampOf, if_neg (by omega)]
    have shown' : (stampOf text).IsShown := by
      rw [none]
      exact ⟨shown, fun millis told => nomatch told⟩
    refine ⟨shown', Text.Utf8.ofString_inj.mp ?_⟩
    have whole : (ofString text).take 14 = ofString text := List.take_of_length_le (by omega)
    have spelled' := Time.Stamp.spells_text shown'
    rw [none] at spelled' ⊢
    rw [length] at spelled
    rw [whole] at number
    -- Both texts spell the same number in fourteen digits.
    exact (spelled.compare spelled').2.mpr number.symm
  · -- The last three of seventeen digits are the milliseconds.
    have told : (stampOf text)
        = ⟨clockOf (ofString text), some (Time.number ((ofString text).drop 14))⟩ := by
      rw [stampOf, if_pos length]
    have three : ((ofString text).drop 14).length = 3 := by
      rw [List.length_drop]
      omega
    have shown' : (stampOf text).IsShown := by
      rw [told]
      refine ⟨shown, fun millis told => ?_⟩
      obtain rfl := Option.some.inj told
      have small := Time.number_lt ((ofString text).drop 14)
      rw [three] at small
      exact small
    refine ⟨shown', Text.Utf8.ofString_inj.mp ?_⟩
    have whole := Time.number_behind ((ofString text).take 14) ((ofString text).drop 14)
    rw [List.take_append_drop, three, ← number] at whole
    have spelled' := Time.Stamp.spells_text shown'
    rw [told] at spelled' ⊢
    rw [length] at spelled
    exact (spelled.compare spelled').2.mpr whole

/-- A stamp that clocks can show is read as its time. -/
theorem readStamp_text {stamp : Stamp} (shown : stamp.IsShown) :
    readStamp stamp.text = .ok stamp.instant := by
  obtain ⟨length, digits, -⟩ := Stamp.spells_text shown
  obtain ⟨clock, behind⟩ := clockOf_text shown
  have width := stamp.width_cases
  have found : Time.ofDigits? (ofString stamp.text)
      (Time.number ((ofString stamp.text).drop 14) * 1000000) = some stamp.instant := by
    rw [Time.ofDigits?_eq_some, clock, behind]
    exact ⟨shown.clock, rfl⟩
  unfold readStamp
  dsimp only
  rw [digits, if_neg (by decide), if_neg (by omega), found]

/-- A text that is read as a time is a stamp that clocks can show. -/
theorem exists_stamp {text : String} {t : Instant} (h : readStamp text = .ok t) :
    ∃ stamp : Stamp, stamp.IsShown ∧ text = stamp.text ∧ t = stamp.instant := by
  unfold readStamp at h
  dsimp only at h
  split at h
  · cases h
  rename_i digits
  split at h
  · cases h
  rename_i length
  rw [Bool.not_eq_true', Bool.not_eq_false] at digits
  have proper : (ofString text).length = 14 ∨ (ofString text).length = 17 := by omega
  split at h
  · rename_i found
    obtain ⟨shown, rfl⟩ := Time.ofDigits?_eq_some.mp found
    obtain ⟨shown', same⟩ := text_stampOf digits proper shown
    refine ⟨stampOf text, shown', same, ?_⟩
    obtain rfl := Except.ok.inj h
    obtain ⟨-, behind⟩ := clockOf_text shown'
    rw [← same] at behind
    rw [Stamp.instant, ← behind]
    rfl
  · cases h

/-- **Stamps that clocks can show, and no other texts, are read as times.** -/
theorem readStamp_eq_ok {text : String} {t : Instant} :
    readStamp text = .ok t ↔
      ∃ stamp : Stamp, stamp.IsShown ∧ text = stamp.text ∧ t = stamp.instant := by
  constructor
  · exact exists_stamp
  · rintro ⟨stamp, shown, rfl, rfl⟩
    exact readStamp_text shown

/-- The text is that of a stamp that clocks can show. -/
def IsStamp (text : String) : Prop := ∃ stamp : Stamp, stamp.IsShown ∧ text = stamp.text

theorem exists_readStamp {text : String} : (∃ t, readStamp text = .ok t) ↔ IsStamp text := by
  constructor
  · rintro ⟨t, h⟩
    obtain ⟨stamp, shown, same, -⟩ := readStamp_eq_ok.mp h
    exact ⟨stamp, shown, same⟩
  · rintro ⟨stamp, shown, same⟩
    exact ⟨stamp.instant, readStamp_eq_ok.mpr ⟨stamp, shown, same, rfl⟩⟩

theorem width_eq {stamp : Stamp} (shown : stamp.IsShown) :
    (ofString stamp.text).length = stamp.width := (Stamp.spells_text shown).1

/-- A time gives back the stamp from which it was read. -/
theorem stamp_of_readStamp {text : String} {t : Instant} (h : readStamp text = .ok t) :
    (t.stamp ((ofString text).length = 17)).text = text := by
  obtain ⟨stamp, shown, rfl, rfl⟩ := readStamp_eq_ok.mp h
  have told : decide ((ofString stamp.text).length = 17) = stamp.millis.isSome := by
    rw [width_eq shown, Stamp.width]
    cases stamp.millis <;> rfl
  rw [told, Stamp.instant_stamp shown]

/-- Times follow each other as the stamps of one length do from which they were read. -/
theorem before_iff_of_readStamp {text text' : String} {t t' : Instant}
    (h : readStamp text = .ok t) (h' : readStamp text' = .ok t')
    (alike : (ofString text).length = (ofString text').length) :
    t.Before t' ↔ ofString text < ofString text' := by
  obtain ⟨stamp, shown, rfl, rfl⟩ := readStamp_eq_ok.mp h
  obtain ⟨stamp', shown', rfl, rfl⟩ := readStamp_eq_ok.mp h'
  rw [width_eq shown, width_eq shown'] at alike
  have spelled' := Stamp.spells_text shown'
  rw [← alike] at spelled'
  exact (Stamp.before_iff shown shown' alike).trans
    ((Stamp.spells_text shown).compare spelled').1.symm

/-- Digits are cut between two characters, wherever they are cut. -/
theorem exists_cut {text : String} (digits : (ofString text).all (digit? · |>.isSome) = true)
    (n : Nat) : ∃ front back, text = front ++ back ∧ ofString front = (ofString text).take n := by
  obtain ⟨-, bytes⟩ := Time.encode_of_digits digits
  refine ⟨String.ofList (text.toList.take n), String.ofList (text.toList.drop n), ?_, ?_⟩
  · apply String.toList_inj.mp
    rw [String.toList_append, String.toList_ofList, String.toList_ofList, List.take_append_drop]
  · have split : Text.Utf8.encode (text.toList.take n) ++ Text.Utf8.encode (text.toList.drop n)
        = ofString text := by
      rw [Text.Utf8.encode, Text.Utf8.encode, ← List.flatMap_append, List.take_append_drop]
      rfl
    have front : (Text.Utf8.encode (text.toList.take n)).all (digit? · |>.isSome) = true := by
      rw [← split, List.all_append, Bool.and_eq_true] at digits
      exact digits.1
    rw [Text.Utf8.ofString_ofList, (Time.encode_of_digits front).2, Text.Utf8.ofString, bytes,
      List.map_take]

/-! ## Archive details

The length of a stamp is looked at first, and a text of another length is refused for it whatever
else it is. So the two errors divide the texts that are not stamps between them.
-/

variable {record record' : CaptureRecord} {base : String} {archive archive' : Archive}

theorem length_of_readStamp {text : String} {t : Instant} (h : readStamp text = .ok t) :
    (ofString text).length = 14 ∨ (ofString text).length = 17 := by
  obtain ⟨stamp, shown, rfl, -⟩ := readStamp_eq_ok.mp h
  rw [width_eq shown]
  exact stamp.width_cases

/-- A text of a proper length is refused as a whole. -/
theorem readStamp_eq_error {text : String} {error : RecordError}
    (length : (ofString text).length = 14 ∨ (ofString text).length = 17)
    (h : readStamp text = .error error) : error = .stamp text := by
  have proper : ¬((ofString text).length ≠ 14 ∧ (ofString text).length ≠ 17) := by omega
  unfold readStamp at h
  dsimp only at h
  rw [if_neg proper] at h
  split at h
  · exact (Except.error.inj h).symm
  · split at h
    · cases h
    · exact (Except.error.inj h).symm

/-- A record whose stamp has a proper length is archived if the stamp is read. -/
theorem archive_of_length
    (length : (ofString record.stamp).length = 14 ∨ (ofString record.stamp).length = 17) :
    record.archive base = match readStamp record.stamp with
      | .ok t => .ok ⟨base ++ record.stamp ++ "/" ++ record.capturedUrl, t⟩
      | .error e => .error e := by
  have proper : ¬((ofString record.stamp).length ≠ 14 ∧ (ofString record.stamp).length ≠ 17) := by
    omega
  unfold CaptureRecord.archive
  cases readStamp record.stamp <;> exact if_neg proper

theorem archive_of_not_length
    (length : ¬((ofString record.stamp).length = 14 ∨ (ofString record.stamp).length = 17)) :
    record.archive base = .error (.stampLength (ofString record.stamp).length) := by
  unfold CaptureRecord.archive
  dsimp only
  rw [if_pos (by omega)]

/-- **The archive details of a capture are those of its stamp**, with the captured address behind
it as it is. -/
theorem archive_eq_ok : record.archive base = .ok archive ↔
    readStamp record.stamp = .ok archive.harvestedAt ∧
      archive.url = base ++ record.stamp ++ "/" ++ record.capturedUrl := by
  obtain ⟨url, harvestedAt⟩ := archive
  by_cases length : (ofString record.stamp).length = 14 ∨ (ofString record.stamp).length = 17
  · rw [archive_of_length length]
    cases readStamp record.stamp with
    | ok t =>
        simp only [Except.ok.injEq, Archive.mk.injEq]
        constructor
        · rintro ⟨rfl, rfl⟩
          exact ⟨rfl, rfl⟩
        · rintro ⟨rfl, rfl⟩
          exact ⟨rfl, rfl⟩
    | error e => simp
  · rw [archive_of_not_length length]
    constructor
    · intro h
      cases h
    · rintro ⟨h, -⟩
      exact absurd (length_of_readStamp h) length

theorem exists_archive : (∃ archive, record.archive base = .ok archive) ↔ IsStamp record.stamp := by
  rw [← exists_readStamp]
  constructor
  · rintro ⟨archive, h⟩
    exact ⟨_, (archive_eq_ok.mp h).1⟩
  · rintro ⟨t, h⟩
    exact ⟨⟨_, t⟩, archive_eq_ok.mpr ⟨h, rfl⟩⟩

/-- A stamp of another length is refused for its length. -/
theorem archive_eq_stampLength {n : Nat} : record.archive base = .error (.stampLength n) ↔
    (ofString record.stamp).length = n ∧ n ≠ 14 ∧ n ≠ 17 := by
  by_cases length : (ofString record.stamp).length = 14 ∨ (ofString record.stamp).length = 17
  · rw [archive_of_length length]
    cases h : readStamp record.stamp with
    | ok t =>
        simp only [reduceCtorEq, false_iff]
        omega
    | error e =>
        obtain rfl := readStamp_eq_error length h
        simp only [Except.error.injEq, reduceCtorEq, false_iff]
        omega
  · rw [archive_of_not_length length]
    simp only [Except.error.injEq, RecordError.stampLength.injEq]
    omega

/-- A stamp of a proper length that no clock can show is refused as it is. -/
theorem archive_eq_stamp {text : String} : record.archive base = .error (.stamp text) ↔
    text = record.stamp ∧
      ((ofString record.stamp).length = 14 ∨ (ofString record.stamp).length = 17) ∧
      ¬IsStamp record.stamp := by
  by_cases length : (ofString record.stamp).length = 14 ∨ (ofString record.stamp).length = 17
  · rw [archive_of_length length, ← exists_readStamp]
    cases h : readStamp record.stamp with
    | ok t => simp
    | error e =>
        obtain rfl := readStamp_eq_error length h
        simp only [Except.error.injEq, RecordError.stamp.injEq, length, reduceCtorEq, exists_false,
          not_false_eq_true, and_self, and_true]
        exact eq_comm
  · rw [archive_of_not_length length]
    simp [length]

/-- The stamp and the captured address can be told from the address of the replay. -/
theorem url_inj (h : record.archive base = .ok archive) (h' : record'.archive base = .ok archive')
    (same : archive.url = archive'.url) : record = record' := by
  obtain ⟨read, written⟩ := archive_eq_ok.mp h
  obtain ⟨read', written'⟩ := archive_eq_ok.mp h'
  have digits : ∀ {text : String} {t : Instant}, readStamp text = .ok t →
      ∀ b ∈ ofString text, (digit? b).isSome = true := by
    intro text t read
    obtain ⟨stamp, shown, rfl, -⟩ := readStamp_eq_ok.mp read
    exact List.all_eq_true.mp (Stamp.spells_text shown).2.1
  rw [written, written'] at same
  have bytes := congrArg ofString same
  simp only [Text.Utf8.ofString_append, List.append_assoc, List.append_cancel_left_eq] at bytes
  -- The slash behind the stamp is no digit.
  have slash : ∀ rest, ∀ b ∈ (ofString "/" ++ rest).head?, (digit? b).isSome = false := by
    intro rest b first
    obtain rfl := Option.some.inj first
    rfl
  have stamps := congrArg (List.takeWhile (digit? · |>.isSome)) bytes
  rw [Text.takeWhile_append_stop (digits read) (slash _),
    Text.takeWhile_append_stop (digits read') (slash _)] at stamps
  rw [stamps, List.append_cancel_left_eq, List.append_cancel_left_eq] at bytes
  obtain ⟨stamp, capturedUrl⟩ := record
  obtain ⟨stamp', capturedUrl'⟩ := record'
  rw [CaptureRecord.mk.injEq]
  exact ⟨Text.Utf8.ofString_inj.mp stamps, Text.Utf8.ofString_inj.mp bytes⟩

/-- **Stamps tell times exactly.** Texts are read as times if they are stamps that clocks can show,
and only then. A time gives back its stamp, and times follow each other as stamps of one length do.
The digits of a stamp can be cut anywhere. A capture is archived if its stamp is such a stamp; it
is refused for the length of the stamp if that is neither 14 nor 17, and for the stamp itself
otherwise. The address of the replay is the base, the stamp, a slash and the captured address, and
no two captures have one address. -/
theorem stamps_exact :
    (∀ text, (∃ t, readStamp text = .ok t) ↔ IsStamp text) ∧
    (∀ text t, readStamp text = .ok t →
      (t.stamp ((ofString text).length = 17)).text = text) ∧
    (∀ text text' t t', readStamp text = .ok t → readStamp text' = .ok t' →
      (ofString text).length = (ofString text').length →
      (t.Before t' ↔ ofString text < ofString text')) ∧
    (∀ text, (ofString text).all (digit? · |>.isSome) = true → ∀ n, ∃ front back,
      text = front ++ back ∧ ofString front = (ofString text).take n) ∧
    ∀ (base : String) (record : CaptureRecord),
      ((∃ archive, record.archive base = .ok archive) ↔ IsStamp record.stamp) ∧
      (∀ n, record.archive base = .error (.stampLength n) ↔
        (ofString record.stamp).length = n ∧ n ≠ 14 ∧ n ≠ 17) ∧
      (∀ text, record.archive base = .error (.stamp text) ↔ text = record.stamp ∧
        ((ofString record.stamp).length = 14 ∨ (ofString record.stamp).length = 17) ∧
        ¬IsStamp record.stamp) ∧
      ∀ archive, record.archive base = .ok archive →
        readStamp record.stamp = .ok archive.harvestedAt ∧
        archive.url = base ++ record.stamp ++ "/" ++ record.capturedUrl ∧
        ∀ (record' : CaptureRecord) (archive' : Archive), record'.archive base = .ok archive' →
          archive.url = archive'.url → record = record' := by
  refine ⟨fun _ => exists_readStamp, fun _ _ => stamp_of_readStamp,
    fun _ _ _ _ => before_iff_of_readStamp, fun _ => exists_cut, fun base record =>
      ⟨exists_archive, fun _ => archive_eq_stampLength, fun _ => archive_eq_stamp, ?_⟩⟩
  intro archive h
  obtain ⟨read, url⟩ := archive_eq_ok.mp h
  exact ⟨read, url, fun _ _ => url_inj h⟩

/-- A leap second comes after the second before it and before the next day. -/
theorem stamps_exact_leap_second : ∃ t t' t'',
    readStamp "20161231235959" = .ok t ∧ readStamp "20161231235960" = .ok t' ∧
      readStamp "20170101000000" = .ok t'' ∧ (t'.stamp false).text = "20161231235960" ∧
      t.Before t' ∧ t'.Before t'' := by
  obtain ⟨-, back, order, -⟩ := stamps_exact
  have read : readStamp "20161231235959" = .ok ⟨17166, 86399, 0⟩ := by decide
  have read' : readStamp "20161231235960" = .ok ⟨17166, 86399, 1000000000⟩ := by decide
  have read'' : readStamp "20170101000000" = .ok ⟨17167, 0, 0⟩ := by decide
  have before := (order _ _ _ _ read read' (by decide)).mpr (by decide)
  have after := (order _ _ _ _ read' read'' (by decide)).mpr (by decide)
  have long : decide ((ofString "20161231235960").length = 17) = false := by decide
  have text := back _ _ read'
  rw [long] at text
  exact ⟨_, _, _, read, read', read'', text, before, after⟩

end WebCapture.Seed
