import WebCapture.Config.Basic
import WebCapture.Proofs.Submissions.Course
import WebCapture.Proofs.Url.Canonical

set_option autoImplicit false

/-! # How long a line may be

A submission may have as many bytes as its lines may have together, and nothing looks at the
length of a single line. So a line is bounded by what the others leave of the whole
(`size_line_le`), and by nothing else (`exists_taken_line`). It is bounded by the length that an
address may have only where no more than one line is allowed: `length_bounds_lines_iff`, and
`length_exceeded` for a line that is taken though it is longer.

Lines are measured without the blanks around them, as they are admitted without these. The marks
that end the lines are bytes of the text but of no line.
-/

namespace WebCapture.Service

open Program
open Url (WebUrl)

variable {rules : Rules} {text line : String} {front back : List String} {n : Nat}

/-! ## Texts that are taken -/

/-- The text is taken, if the store does not fail. -/
def CanBeTaken (rules : Rules) (text : String) : Prop :=
  ∃ grouped log group, (submit rules text grouped).Runs log (.ok group)

/-- A text is taken if no size is wrong and each of its lines is admitted. -/
theorem canBeTaken_iff :
    CanBeTaken rules text ↔
      Fits rules text ∧ ∀ line ∈ linesOf text, Admitted rules.strict line := by
  constructor
  · rintro ⟨grouped, log, group, runs⟩
    cases submit_runs.mp runs with
    | stored fits admitted => exact ⟨fits, exists_admitLines_eq_ok.mp ⟨_, admitted⟩⟩
  · rintro ⟨fits, each⟩
    obtain ⟨urls, admitted⟩ := exists_admitLines_eq_ok.mpr each
    have ids : (List.replicate urls.length "").length = urls.length := List.length_replicate
    exact ⟨true, _, _, submit_runs.mpr (.stored fits admitted ids (.grouped ""))⟩

/-! ## Lines are no longer than what the others leave -/

/-- **A line has at most the bytes that the other lines leave.** -/
theorem size_line_le (fits : Fits rules text) (parts : linesOf text = front ++ line :: back) :
    (trimmed line).utf8ByteSize + spent (front ++ back) ≤ rules.sizeLimit := by
  have all : spent (front ++ line :: back) = text.utf8ByteSize + 1 := parts ▸ spent_linesOf text
  rw [spent_append, spent] at all
  rw [spent_append]
  have trimming := size_trimmed_le line
  calc (trimmed line).utf8ByteSize + (spent front + spent back)
      ≤ text.utf8ByteSize := by omega
    _ ≤ rules.sizeLimit := fits.size

/-! ## Lines may be as long as that

An address may be made as long as one likes by its query. The shortest one that is made so has
nine bytes, and each character more makes it one byte longer.
-/

/-- An address with a query of so many characters. -/
def longUrl (n : Nat) : WebUrl :=
  ⟨.http, .none, .name ['a'], none, [[]], some (List.replicate n 'a'), none⟩

theorem longUrl_isNormal (n : Nat) : (longUrl n).IsNormal where
  noUser := rfl
  host := ⟨fun c here => List.mem_singleton.mp here ▸ ⟨by decide, by decide⟩, by decide, by decide⟩
  port _ impossible := nomatch impossible
  path := ⟨List.cons_ne_nil _ _, fun s here => List.mem_singleton.mp here ▸ Url.isNormalSegment_nil⟩
  query q here := by
    cases here
    intro c hc
    rw [(List.mem_replicate.mp hc).2]
    decide
  fragment _ impossible := nomatch impossible

def longText (n : Nat) : List Char := "http://a?".toList ++ List.replicate n 'a'

theorem canonicalText_longUrl (n : Nat) :
    Url.canonicalText (longUrl n) "http://a".toList = longText n := by
  have bare : Url.hasPath "http://a".toList = false := by decide +kernel
  have front : (longUrl n).beforePath = "http://a".toList := by
    show (longUrl 0).beforePath = "http://a".toList
    decide +kernel
  have back : (longUrl n).afterPath = '?' :: List.replicate n 'a' := List.append_nil _
  have mark : "http://a?".toList = "http://a".toList ++ ['?'] := by decide +kernel
  unfold longText
  rw [Url.canonicalText, if_pos ⟨rfl, bare⟩, front, back, mark, List.append_assoc]
  rfl

theorem utf8ByteSize_longText (n : Nat) : (String.ofList (longText n)).utf8ByteSize = n + 9 := by
  have query : String.utf8Len (List.replicate n 'a') = n := by
    induction n with
    | zero => rfl
    | succ n ih =>
        rw [List.replicate_succ, String.utf8Len_cons, ih]
        rfl
  have front : String.utf8Len "http://a?".toList = 9 := by decide +kernel
  unfold longText
  rw [String.utf8ByteSize_ofList, String.utf8Len_append, query, front, Nat.add_comm]

theorem admitted_longText (strict : Bool) (n : Nat) :
    Admitted strict (String.ofList (longText n)) := by
  rw [← canonicalText_longUrl]
  have outside : ¬(longUrl n).host.IsInternal := by
    rw [← Url.checkHost_eq_ok]
    rfl
  have own : (longUrl n).host.IsOwnForm := by
    show Url.HostName.toAscii? ['a'] = some ['a']
    decide
  exact ⟨_, Url.vet_canonicalText (longUrl_isNormal n) own outside (fun _ h => nomatch h) _ strict⟩

/-- No character of the address is a blank or ends a line. -/
theorem longText_visible (n : Nat) : ∀ c ∈ longText n, Text.isBlank c = false :=
  canonicalText_longUrl n ▸ Url.canonicalText_visible (longUrl_isNormal n) _

/-- **Every size that the whole submission may have is that of a line that is taken**, from that of
a short address on. -/
theorem exists_taken_line (allowed : 0 < rules.maxLines) (short : 9 ≤ n)
    (fits : n ≤ rules.sizeLimit) :
    ∃ text, CanBeTaken rules text ∧ linesOf text = [text] ∧
      (trimmed text).utf8ByteSize = n := by
  obtain ⟨k, rfl⟩ : ∃ k, n = k + 9 := ⟨n - 9, by omega⟩
  have size := utf8ByteSize_longText k
  have lone : linesOf (String.ofList (longText k)) = [String.ofList (longText k)] := by
    have whole : ∀ c ∈ longText k, (c == '\n') = false := by
      intro c hc
      rw [beq_eq_false_iff_ne]
      rintro rfl
      cases longText_visible k _ hc
    rw [linesOf, String.toList_ofList, List.splitOn_eq_singleton_of_beq_eq_false whole]
    rfl
  have kept : trimmed (String.ofList (longText k)) = String.ofList (longText k) := by
    rw [trimmed, String.toList_ofList, Text.trimBy_of_none (longText_visible k)]
  refine ⟨_, canBeTaken_iff.mpr ⟨⟨?_, ?_, ?_⟩, ?_⟩, lone, ?_⟩
  · intro empty
    rw [empty] at size
    cases size
  · rwa [size]
  · rwa [lone]
  · intro line here
    rw [lone, List.mem_singleton] at here
    exact here ▸ admitted_longText rules.strict k
  · rw [kept, size]

/-! ## The length of an address -/

/-- **Every line has at most the bytes that the others leave, and the length that an address may have
bounds all of them only if one line is allowed.** -/
theorem length_bounds_lines_iff (rules : Rules) (allowed : 0 < rules.maxLines)
    (room : 8 ≤ rules.maxUrlLength) (most : rules.maxUrlLength < 0xFFFFFFFFFFFFFFFF) :
    (∀ text, CanBeTaken rules text → ∀ front line back, linesOf text = front ++ line :: back →
      (trimmed line).utf8ByteSize + spent (front ++ back) ≤ rules.sizeLimit) ∧
    ((∀ text, CanBeTaken rules text →
      ∀ line ∈ linesOf text, (trimmed line).utf8ByteSize ≤ rules.maxUrlLength) ↔
        rules.maxLines = 1) := by
  have bounded : ∀ text, CanBeTaken rules text →
      ∀ front line back, linesOf text = front ++ line :: back →
        (trimmed line).utf8ByteSize + spent (front ++ back) ≤ rules.sizeLimit :=
    fun text taken front line back parts => size_line_le (canBeTaken_iff.mp taken).1 parts
  refine ⟨bounded, fun all => ?_, fun lone text taken line here => ?_⟩
  · by_contra several
    -- What two lines may have together leaves room for one that is longer.
    have longer : rules.maxUrlLength + 1 ≤ rules.sizeLimit := by
      refine Nat.le_min.mpr ⟨?_, most⟩
      calc rules.maxUrlLength + 1
          ≤ rules.maxUrlLength * 2 := by omega
        _ ≤ rules.maxUrlLength * rules.maxLines := Nat.mul_le_mul_left _ (by omega)
    obtain ⟨text, taken, alone, size⟩ := exists_taken_line allowed (by omega) longer
    have short := all text taken text (by rw [alone]; exact List.mem_singleton_self text)
    omega
  · obtain ⟨front, back, parts⟩ := List.append_of_mem here
    calc (trimmed line).utf8ByteSize
        ≤ (trimmed line).utf8ByteSize + spent (front ++ back) := Nat.le_add_right _ _
      _ ≤ rules.sizeLimit := bounded text taken front line back parts
      _ ≤ rules.maxUrlLength * rules.maxLines := Nat.min_le_left _ _
      _ = rules.maxUrlLength := by rw [lone, Nat.mul_one]

/-- With the settings where nothing else is said a line may be longer. -/
theorem standard_length_exceeded :
    ∃ text, CanBeTaken Config.Settings.standard.rules text ∧
      ∃ line ∈ linesOf text, 65536 < (trimmed line).utf8ByteSize := by
  by_contra none
  have lone := (length_bounds_lines_iff Config.Settings.standard.rules (by decide) (by decide)
    (by decide)).2.mp fun text taken line here => by
      by_contra longer
      exact none ⟨text, taken, line, here, Nat.lt_of_not_le longer⟩
  cases lone

/-- **A line is taken that is longer than an address may be.** -/
theorem length_exceeded :
    ¬∀ (rules : Rules) (text : String), 0 < rules.maxUrlLength → 0 < rules.maxLines →
      CanBeTaken rules text →
      ∀ line ∈ linesOf text, (trimmed line).utf8ByteSize ≤ rules.maxUrlLength := by
  intro bounds
  let rules : Rules := ⟨10, 2, false, "https://archive.test/"⟩
  have lone : linesOf "a.example-x.cz" = ["a.example-x.cz"] := by decide
  have taken : CanBeTaken rules "a.example-x.cz" := by
    refine canBeTaken_iff.mpr ⟨⟨by decide, by decide, by decide⟩, fun line here => ?_⟩
    rw [lone, List.mem_singleton] at here
    have vetted : (Url.vet "a.example-x.cz" false).isOk = true := by decide +kernel
    cases admitted : Url.vet "a.example-x.cz" false with
    | error e =>
        rw [admitted] at vetted
        cases vetted
    | ok url => exact ⟨url, here ▸ admitted⟩
  have short := bounds rules _ (by decide) (by decide) taken _ (by rw [lone]; exact List.mem_singleton_self _)
  exact absurd short (by decide)

end WebCapture.Service
