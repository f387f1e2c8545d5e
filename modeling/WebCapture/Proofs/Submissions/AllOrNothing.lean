import WebCapture.Proofs.Groups.Progress
import WebCapture.Proofs.Store.Backend
import WebCapture.Proofs.Submissions.Course
import WebCapture.Proofs.Url.Admission

set_option autoImplicit false

/-! # A submission is taken as a whole or not at all

A submission makes one call of the store at most, and behind it only names a group and counts. So
either nothing has been stored, whatever went wrong, or there is one new seed for each line, in
the order of the lines (`Course.taken_or_unchanged`). The ids that are given out are new and a
call of the store is answered or fails without effect here; the store may be of any kind.
`submit_all_or_nothing` says all this of every run.

What a run can look like is known from `Proofs/Submissions/Course`, so that nothing is said here
about the program any more. Each of its exchanges is met by the store and the counters, and the
few kinds of exchanges have one lemma each on what they change.

That the store does not refuse the seeds is proved, too: they have addresses, they have not been
captured, and their ids are new (`fit_of_fresh`). So a submission whose lines are admitted fails
only where a call of the store is lost.
-/

namespace WebCapture.Service

open Concurrency (tally)
open Program
open Store (Backend Tables checkBatch)

/-! ## Surroundings

A store is known by what can be read in it (`Backend.Holds`), and a submission that was taken is
told by what is read behind it. What the store keeps besides makes no difference.
-/

/-- What is kept outside of the service: what is in a store, and the counters. -/
@[ext]
structure Ledger (k : Backend) where
  kept : k.State
  counters : Counters

namespace Ledger

variable {k : Backend} {s t : Ledger k} {tables : Tables} {e : Store.Error}

/-- A call of the store is answered, and what is to be counted is counted. Nothing else has an
effect, and it is answered in any way. -/
def Answers (s : Ledger k) (e : Exchange Call Call.Answer) (t : Ledger k) : Prop :=
  t.counters = tally s.counters e ∧
    match e with
    | ⟨.store asked, answer⟩ =>
      answer = (k.answer s.kept asked).1 ∧ t.kept = (k.answer s.kept asked).2
    | _ => t.kept = s.kept

/-- A call of the store fails with any error, and has no effect. -/
def Fails (s : Ledger k) (e : Exchange Call Call.Answer) (t : Ledger k) : Prop :=
  t = s ∧ ∃ (asked : Store.Call) (error : Store.Error), e = ⟨.store asked, asked.failure error⟩

def Meets (s : Ledger k) (e : Exchange Call Call.Answer) (t : Ledger k) : Prop :=
  s.Answers e t ∨ s.Fails e t

theorem Meets.of_drawing {id : ShadowId} (h : s.Meets (drawing id) t) : t = s := by
  rcases h with ⟨counted, kept⟩ | ⟨rfl, -⟩
  · exact Ledger.ext kept counted
  · rfl

theorem Meets.of_naming {id : ShadowId} (h : s.Meets (naming id) t) : t = s := by
  rcases h with ⟨counted, kept⟩ | ⟨rfl, -⟩
  · exact Ledger.ext kept counted
  · rfl

theorem Meets.of_noting {event : Event} (h : s.Meets (noting event) t) :
    t = ⟨s.kept, s.counters.count event⟩ := by
  rcases h with ⟨counted, kept⟩ | ⟨-, asked, error, impossible⟩
  · exact Ledger.ext kept counted
  · cases impossible

/-- A call of the store that is not told to have failed was done. -/
theorem Meets.of_done {asked : Store.Call} {answer : asked.Answer}
    (h : s.Meets ⟨.store asked, answer⟩ t) (fine : ∀ e, answer ≠ asked.failure e) :
    (k.answer s.kept asked).1 = answer ∧ t = ⟨(k.answer s.kept asked).2, s.counters⟩ := by
  rcases h with ⟨counted, told, kept⟩ | ⟨-, asked', error, same⟩
  · exact ⟨told.symm, Ledger.ext kept counted⟩
  · cases same
    exact absurd rfl (fine error)

/-- A call of the store that would succeed is not answered with an error. -/
theorem not_answers_failure {asked : Store.Call}
    (succeeds : (k.answer s.kept asked).1 ≠ asked.failure e) (t : Ledger k) :
    ¬s.Answers ⟨.store asked, asked.failure e⟩ t :=
  fun ⟨_, told, _⟩ => succeeds told.symm

/-- A call of the store that would succeed, but is told to have failed, has no effect. -/
theorem Meets.of_failed {asked : Store.Call} (h : s.Meets ⟨.store asked, asked.failure e⟩ t)
    (succeeds : (k.answer s.kept asked).1 ≠ asked.failure e) : t = s :=
  (h.resolve_left (not_answers_failure succeeds t)).1

/-- Drawing ids changes nothing. -/
theorem eq_of_drawing {ids : List ShadowId} (follows : Follows Meets s (ids.map drawing) t) :
    t = s := by
  refine follows.keeps (P := (· = s)) (fun e here u v met same => ?_) rfl
  obtain ⟨id, -, rfl⟩ := List.mem_map.mp here
  exact met.of_drawing.trans same

end Ledger

/-! ## Ids

The ids of a run can be read off its exchanges, in the order in which they were given out: first
those of the seeds, and then that of the group.
-/

def drawn? : Exchange Call Call.Answer → Option ShadowId
  | ⟨.freshSeedId, id⟩ => some id
  | _ => none

def drawn (log : Log) : List ShadowId := log.filterMap drawn?

def named? : Exchange Call Call.Answer → Option ShadowId
  | ⟨.freshGroupId, id⟩ => some id
  | _ => none

def named (log : Log) : List ShadowId := log.filterMap named?

/-- The ids that are given out are new: those of seeds differ, and neither they nor those of groups
are in use. -/
structure IsFresh (tables : Tables) (log : Log) : Prop where
  distinct : (drawn log).Nodup
  seeds : ∀ id ∈ drawn log, id ≠ "" ∧ tables.seeds.find? id = none
  groups : ∀ id ∈ named log, id ≠ "" ∧ tables.groups.find? id = none

variable {rules : Rules} {text : String} {grouped : Bool} {urls : List Url.CleanUrl}
  {ids : List ShadowId} {seeds : List Seed} {lines : List String} {log : Log}
  {answer : Except SeedError SeedGroup} {group : SeedGroup} {k : Backend} {s t : Ledger k}
  {tables : Tables}

/-- Behind its seeds a submission draws no more ids for seeds. -/
theorem drawn_of_storing (ids : List ShadowId) (storing : Storing seeds grouped log answer) :
    drawn (ids.map drawing ++ log) = ids := by
  have first : (ids.map drawing).filterMap drawn? = ids := by
    rw [List.filterMap_map]
    exact List.filterMap_some
  have last : log.filterMap drawn? = [] := by cases storing <;> rfl
  rw [drawn, List.filterMap_append, first, last, List.append_nil]

theorem named_of_drawing (ids : List ShadowId) (log : Log) :
    named (ids.map drawing ++ log) = named log := by
  have none : (ids.map drawing).filterMap named? = [] := by
    rw [List.filterMap_map, List.filterMap_eq_nil_iff]
    exact fun _ _ => rfl
  rw [named, List.filterMap_append, none, List.nil_append, named]

/-- What a line becomes: a new seed with the canonical text of its address. -/
def BecomesSeed (strict : Bool) (line : String) (seed : Seed) : Prop :=
  ∃ url, Url.vet line strict = .ok url ∧ seed = ⟨url.text, true, .notEnqueued, none, seed.id⟩

/-- Each line becomes a seed, in the order of the lines. -/
theorem seedsOf_lines {strict : Bool}
    (each : List.Forall₂ (fun line url => Url.vet line strict = .ok url) lines urls)
    (same : ids.length = urls.length) :
    List.Forall₂ (BecomesSeed strict) lines (seedsOf urls ids) := by
  induction each generalizing ids with
  | nil =>
      obtain rfl : ids = [] := List.length_eq_zero_iff.mp same
      exact .nil
  | @cons line url _ _ vetted more ih =>
      obtain ⟨id, others, rfl⟩ := List.exists_cons_of_length_eq_add_one same
      exact .cons ⟨url, vetted, rfl⟩ (ih (Nat.succ.inj same))

theorem new_of_becomesSeed {strict : Bool}
    (each : List.Forall₂ (BecomesSeed strict) lines seeds) :
    ∀ seed ∈ seeds, seed.url ≠ "" ∧ seed.state = .notEnqueued ∧ seed.archive = none := by
  induction each with
  | nil => exact fun seed here => absurd here List.not_mem_nil
  | cons becomes more ih =>
      obtain ⟨url, vetted, made⟩ := becomes
      rw [made]
      exact List.forall_mem_cons.mpr ⟨⟨Url.text_ne_empty vetted, rfl, rfl⟩, ih⟩

/-- The seeds of a submission are fit to be stored under new ids. -/
theorem fit_of_fresh (each : List.Forall₂ (BecomesSeed rules.strict) (linesOf text) seeds)
    (drawn_eq : drawn log = seeds.map (·.id)) (fresh : IsFresh tables log) :
    checkBatch tables.seeds.has seeds = .ok () := by
  refine Store.checkBatch_eq_ok.mpr ⟨?_, fun seed here => ?_, drawn_eq ▸ fresh.distinct⟩
  · rintro rfl
    exact linesOf_ne_nil text (List.forall₂_nil_right_iff.mp each)
  · obtain ⟨named, free⟩ := fresh.seeds seed.id (drawn_eq ▸ List.mem_map_of_mem here)
    obtain ⟨addressed, state, bare⟩ := new_of_becomesSeed each seed here
    refine ⟨Store.newSeedViolation?_eq_none.mpr ⟨addressed, named, state, bare⟩, ?_⟩
    rw [Table.has, free]
    rfl

/-! ## How a submission ends -/

def isSaving : Exchange Call Call.Answer → Bool
  | ⟨.store (.save _), Except.ok ()⟩ => true
  | ⟨.store (.saveGroup _), Except.ok ()⟩ => true
  | _ => false

/-- The store has stored something. -/
def IsSaved (log : Log) : Prop := log.any isSaving = true

/-- To draw ids stores nothing. -/
theorem isSaved_drawing : IsSaved (ids.map drawing ++ log) ↔ IsSaved log := by
  have none : (ids.map drawing).any isSaving = false := by
    rw [List.any_map, List.any_eq_false]
    exact fun id _ impossible => nomatch impossible
  rw [IsSaved, List.any_append, none, Bool.false_or, IsSaved]

/-- Seeds are told as stored if the store has stored them, and only then. -/
theorem Storing.ok_iff (storing : Storing seeds grouped log answer) :
    (∃ group, answer = .ok group) ↔ IsSaved log := by
  cases storing with
  | grouped id => exact ⟨fun _ => rfl, fun _ => ⟨_, rfl⟩⟩
  | single id => exact ⟨fun _ => rfl, fun _ => ⟨_, rfl⟩⟩
  | groupFailed id e =>
      exact ⟨fun ⟨_, impossible⟩ => (nomatch impossible), fun impossible => nomatch impossible⟩
  | failed e =>
      exact ⟨fun ⟨_, impossible⟩ => (nomatch impossible), fun impossible => nomatch impossible⟩

/-- **A submission succeeds if no size is wrong, each line is admitted and the store succeeds**, and
only then. -/
theorem Course.ok_iff (course : Course rules text grouped log answer) :
    (∃ group, answer = .ok group) ↔
      Fits rules text ∧ (∀ line ∈ linesOf text, Admitted rules.strict line) ∧ IsSaved log := by
  cases course with
  | oversized size =>
      constructor
      · rintro ⟨group, impossible⟩
        cases impossible
      · rintro ⟨fits, -⟩
        cases size.symm.trans (sizeError?_eq_none.mpr fits)
  | refused fits refused =>
      constructor
      · rintro ⟨group, impossible⟩
        cases impossible
      · rintro ⟨-, each, -⟩
        obtain ⟨urls, admitted⟩ := exists_admitLines_eq_ok.mpr each
        cases admitted.symm.trans refused
  | stored fits admitted same storing =>
      rw [isSaved_drawing, storing.ok_iff]
      have each := exists_admitLines_eq_ok.mp ⟨_, admitted⟩
      exact ⟨fun saved => ⟨fits, each, saved⟩, fun h => h.2.2⟩

/-- **The first line that is not admitted is told**, and counted. -/
theorem Course.first_refused (course : Course rules text grouped log answer)
    (fits : Fits rules text) {front back : List String} {line : String} {refusal : Url.Refusal}
    (parts : linesOf text = front ++ line :: back)
    (admitted : ∀ earlier ∈ front, Admitted rules.strict earlier)
    (refused : Url.vet line rules.strict = .error refusal) :
    log = [noting .rejected] ∧ answer = .error (.invalidUrl (front.length + 1) refusal) := by
  have first : admitLines rules.strict 1 (linesOf text) =
      .error (.invalidUrl (front.length + 1) refusal) :=
    admitLines_eq_error.mpr
      ⟨front, line, back, refusal, parts, admitted, refused, by rw [Nat.add_comm]⟩
  cases course with
  | oversized size => cases size.symm.trans (sizeError?_eq_none.mpr fits)
  | refused fits refused' =>
      cases first.symm.trans refused'
      exact ⟨rfl, rfl⟩
  | stored fits admitted' => cases first.symm.trans admitted'

/-! ## What is stored -/

/-- A submission was taken: each line has become a seed, in the order of the lines; all of them are
stored, as a group if that is what was asked for, and nothing else has changed but that they are
counted. -/
structure Taken (strict : Bool) (lines : List String) (grouped : Bool) (group : SeedGroup)
    (s t : Ledger k) : Prop where
  lines : List.Forall₂ (BecomesSeed strict) lines group.seeds
  distinct : (group.seeds.map (·.id)).Nodup
  stored : ∀ seed ∈ group.seeds, k.getSeed t.kept seed.id = .ok seed
  others : ∀ id, id ∉ group.seeds.map (·.id) → k.getSeed t.kept id = k.getSeed s.kept id
  listed : grouped = true → k.getGroup t.kept group.id = .ok group
  unlisted : grouped = false → k.getGroup t.kept group.id = .error (.groupNotFound group.id)
  groups : ∀ id, id ≠ group.id →
    (k.getGroup t.kept id = .error (.groupNotFound id) ↔
      k.getGroup s.kept id = .error (.groupNotFound id))
  counters : t.counters =
    { s.counters with seedsSubmitted := s.counters.seedsSubmitted + group.seeds.length }

/-- What is read behind a submission is what the tables hold. -/
theorem taken_of_holds {strict : Bool} {after : Tables} (holds : k.Holds s.kept tables)
    (later : k.Holds t.kept after) (fit : checkBatch tables.seeds.has group.seeds = .ok ())
    (each : List.Forall₂ (BecomesSeed strict) lines group.seeds)
    (inserted : after.seeds = (tables.insertSeeds group.seeds).seeds)
    (listed : grouped = true → after.getGroup group.id = .ok group)
    (unlisted : grouped = false → after.groups.find? group.id = none)
    (groups : ∀ id, id ≠ group.id → after.groups.find? id = tables.groups.find? id)
    (counters : t.counters =
      { s.counters with seedsSubmitted := s.counters.seedsSubmitted + group.seeds.length }) :
    Taken strict lines grouped group s t where
  lines := each
  distinct := (Store.checkBatch_eq_ok.mp fit).2.2
  stored seed here := by
    rw [Backend.getSeed_eq later, Tables.getSeed_eq_ok, inserted]
    exact Tables.find?_insertSeeds_of_new fit here
  others id other := by
    rw [Backend.getSeed_eq later, Backend.getSeed_eq holds,
      ← Tables.getSeed_insertSeeds_of_other fit other, Tables.getSeed, Tables.getSeed, inserted]
  listed asked := (Backend.getGroup_eq later group.id).trans (listed asked)
  unlisted asked := by
    rw [Backend.getGroup_eq later, Tables.getGroup_eq_notFound]
    exact unlisted asked
  groups id other := by
    rw [Backend.getGroup_eq later, Backend.getGroup_eq holds, Tables.getGroup_eq_notFound,
      Tables.getGroup_eq_notFound, groups id other]
  counters := counters

/-- Seeds that are told to be stored are stored and counted. -/
theorem Storing.taken {strict : Bool} (storing : Storing seeds grouped log (.ok group))
    (follows : Follows Ledger.Meets s log t) (holds : k.Holds s.kept tables)
    (each : List.Forall₂ (BecomesSeed strict) lines seeds)
    (fit : checkBatch tables.seeds.has seeds = .ok ())
    (free : ∀ id ∈ named log, id ≠ "" ∧ tables.groups.find? id = none) :
    Taken strict lines grouped group s t := by
  cases storing with
  | grouped id =>
      obtain ⟨u, named, v, saved, w, counted, rfl⟩ := follows
      obtain rfl := named.of_naming
      obtain ⟨done, rfl⟩ := saved.of_done (by rintro e ⟨⟩)
      obtain rfl := counted.of_noting
      obtain ⟨-, later⟩ := Backend.holds_of_savedGroup holds done
      refine taken_of_holds holds later fit each rfl ?_ (by rintro ⟨⟩) ?_ rfl
      · exact fun _ => Tables.getGroup_inserted fit
      · intro other different
        rw [Table.find?_put, if_neg (Ne.symm different)]
  | single id =>
      obtain ⟨u, saved, v, named, w, counted, rfl⟩ := follows
      obtain ⟨done, rfl⟩ := saved.of_done (by rintro e ⟨⟩)
      obtain rfl := named.of_naming
      obtain rfl := counted.of_noting
      obtain ⟨-, later⟩ := Backend.holds_of_saved holds done
      refine taken_of_holds holds later fit each rfl (by rintro ⟨⟩) ?_ (fun _ _ => rfl) rfl
      exact fun _ => (free id (List.mem_singleton_self id)).2

/-- If seeds are told not to be stored, though they are fit for it, nothing has changed, and a call
has failed. -/
theorem Storing.unchanged {e : SeedError} (storing : Storing seeds grouped log (.error e))
    (follows : Follows Ledger.Meets s log t) (holds : k.Holds s.kept tables)
    (fit : checkBatch tables.seeds.has seeds = .ok ())
    (free : ∀ id ∈ named log, id ≠ "" ∧ tables.groups.find? id = none) :
    t = s ∧ ¬Follows Ledger.Answers s log t := by
  cases storing with
  | groupFailed id e =>
      obtain ⟨u, named, v, failed, rfl⟩ := follows
      obtain rfl := named.of_naming
      -- The store itself would have taken the group, so that the call has failed on the way.
      obtain ⟨filled, free⟩ := free id (List.mem_singleton_self id)
      have succeeds : (k.answer u.kept (.saveGroup ⟨seeds, id⟩)).1 ≠ Except.error e := by
        rw [Backend.savedGroup_of_fit holds filled (by rw [Table.has, free]; rfl) fit]
        rintro ⟨⟩
      refine ⟨failed.of_failed succeeds, ?_⟩
      rintro ⟨u', named', v', answered, -⟩
      obtain rfl := Ledger.Meets.of_naming (.inl named')
      exact Ledger.not_answers_failure succeeds v' answered
  | failed e =>
      obtain ⟨u, failed, rfl⟩ := follows
      have succeeds : (k.answer s.kept (.save seeds)).1 ≠ Except.error e := by
        rw [Backend.saved_of_fit holds fit]
        rintro ⟨⟩
      refine ⟨failed.of_failed succeeds, ?_⟩
      rintro ⟨u', answered, -⟩
      exact Ledger.not_answers_failure succeeds u' answered

/-- **A submission is taken as a whole, or nothing is stored**, and if no call of the store fails it
is taken wherever it may be. -/
theorem Course.taken_or_unchanged (course : Course rules text grouped log answer)
    (follows : Follows Ledger.Meets s log t) (holds : k.Holds s.kept tables)
    (fresh : IsFresh tables log) :
    (∃ group, answer = .ok group ∧ Taken rules.strict (linesOf text) grouped group s t) ∨
      ∃ e, answer = .error e ∧ t.kept = s.kept ∧
        t.counters.seedsSubmitted = s.counters.seedsSubmitted ∧
        (Follows Ledger.Answers s log t → Fits rules text →
          ¬∀ line ∈ linesOf text, Admitted rules.strict line) := by
  cases course with
  | oversized size =>
      obtain rfl : t = s := follows
      refine .inr ⟨_, rfl, rfl, rfl, fun _ fits => ?_⟩
      cases size.symm.trans (sizeError?_eq_none.mpr fits)
  | refused fits refused =>
      obtain ⟨u, counted, rfl⟩ := follows
      obtain rfl := counted.of_noting
      refine .inr ⟨_, rfl, rfl, rfl, fun _ _ each => ?_⟩
      obtain ⟨urls, admitted⟩ := exists_admitLines_eq_ok.mpr each
      cases admitted.symm.trans refused
  | @stored urls ids log answer fits admitted same storing =>
      -- While ids are drawn nothing changes, and what is stored then is fit for it.
      obtain ⟨u, first, rest⟩ := follows_append.mp follows
      obtain rfl := Ledger.eq_of_drawing first
      have each : List.Forall₂ (BecomesSeed rules.strict) (linesOf text) (seedsOf urls ids) :=
        seedsOf_lines (admitLines_eq_ok.mp admitted) same
      have fit : checkBatch tables.seeds.has (seedsOf urls ids) = .ok () := by
        refine fit_of_fresh each ?_ fresh
        rw [drawn_of_storing ids storing, seedsOf_ids same]
      have free : ∀ id ∈ named log, id ≠ "" ∧ tables.groups.find? id = none :=
        named_of_drawing ids log ▸ fresh.groups
      cases answer with
      | ok group => exact .inl ⟨group, rfl, storing.taken rest holds each fit free⟩
      | error e =>
          obtain ⟨rfl, failed⟩ := storing.unchanged rest holds fit free
          refine .inr ⟨e, rfl, rfl, rfl, fun answered => ?_⟩
          obtain ⟨u, drawn, answered⟩ := follows_append.mp answered
          obtain rfl := Ledger.eq_of_drawing (drawn.map id fun _ _ _ met => .inl met)
          exact absurd answered failed

/-- **A submission is all or nothing and keeps the order of the lines.** It succeeds exactly if no
size is wrong, each line is admitted and the store succeeds; then it is taken as a whole. If it
fails, what is in the store and the number of seeds that were submitted are as before; and if no
size is wrong, the first line that is not admitted is told with its number and counted. A submission
that may be taken fails only where a call of the store does. -/
theorem submit_all_or_nothing (holds : k.Holds s.kept tables) (fresh : IsFresh tables log)
    (runs : (submit rules text grouped).Runs log answer)
    (follows : Follows Ledger.Meets s log t) :
    ((∃ group, answer = .ok group) ↔
      Fits rules text ∧ (∀ line ∈ linesOf text, Admitted rules.strict line) ∧ IsSaved log) ∧
    (∀ group, answer = .ok group → Taken rules.strict (linesOf text) grouped group s t) ∧
    (∀ e, answer = .error e →
      t.kept = s.kept ∧ t.counters.seedsSubmitted = s.counters.seedsSubmitted) ∧
    (Fits rules text → ∀ front line back refusal, linesOf text = front ++ line :: back →
      (∀ earlier ∈ front, Admitted rules.strict earlier) →
      Url.vet line rules.strict = .error refusal →
      answer = .error (.invalidUrl (front.length + 1) refusal) ∧
        t.counters = { s.counters with urlsRejected := s.counters.urlsRejected + 1 }) ∧
    (Follows Ledger.Answers s log t → Fits rules text →
      (∀ line ∈ linesOf text, Admitted rules.strict line) → ∃ group, answer = .ok group) := by
  have course : Course rules text grouped log answer := submit_runs.mp runs
  have outcome := course.taken_or_unchanged follows holds fresh
  refine ⟨course.ok_iff, fun group told => ?_, fun e told => ?_, ?_, fun answered fits each => ?_⟩
  · rcases outcome with ⟨group', told', taken⟩ | ⟨e, told', -⟩
    · cases told.symm.trans told'
      exact taken
    · cases told.symm.trans told'
  · rcases outcome with ⟨group, told', -⟩ | ⟨e', told', kept, counted, -⟩
    · cases told.symm.trans told'
    · exact ⟨kept, counted⟩
  · intro fits front line back refusal parts admitted refused
    obtain ⟨rfl, told⟩ := course.first_refused fits parts admitted refused
    obtain ⟨u, counted, rfl⟩ := follows
    obtain rfl := counted.of_noting
    exact ⟨told, rfl⟩
  · rcases outcome with ⟨group, told, -⟩ | ⟨e, -, -, -, failed⟩
    · exact ⟨group, told⟩
    · exact absurd each (failed answered fits)

/-- Two lines are stored as a group, the second of them with a mark of another line end. -/
theorem submit_all_or_nothing_two_lines :
    let group : SeedGroup := ⟨[⟨"https://a.test", true, .notEnqueued, none, "A"⟩,
      ⟨"http://b.test/x", true, .notEnqueued, none, "B"⟩], "G"⟩
    let start : Ledger .memory := ⟨Tables.empty, .zero⟩
    ∃ log t, (submit ⟨100, 10, false, "https://archive.test/"⟩
        "a.test\nHTTP://b.test/x\r" true).Runs log (.ok group) ∧
      Follows Ledger.Meets start log t ∧
      Taken false ["a.test", "HTTP://b.test/x\r"] true group start t := by
  intro group start
  let text := "a.test\nHTTP://b.test/x\r"
  let first : Url.CleanUrl :=
    ⟨⟨.https, .none, .name "a.test".toList, none, [[]], none, none⟩, "https://a.test".toList⟩
  let second : Url.CleanUrl :=
    ⟨⟨.http, .none, .name "b.test".toList, none, [['x']], none, none⟩, "http://b.test/x".toList⟩
  have parts : linesOf text = ["a.test", "HTTP://b.test/x\r"] := by decide +kernel
  have admitted : admitLines false 1 (linesOf text) = .ok [first, second] := by
    have vetted : (admitLines false 1 (linesOf text)).toOption = some [first, second] := by
      decide +kernel
    cases outcome : admitLines false 1 (linesOf text) with
    | error e =>
        rw [outcome] at vetted
        cases vetted
    | ok urls =>
        rw [outcome] at vetted
        exact congrArg Except.ok (Option.some.inj vetted)
  let stored : Log := [naming "G", savingGroup group (.ok ()), noting (.submitted 2)]
  have made : seedsOf [first, second] ["A", "B"] = group.seeds := by decide +kernel
  have storing : Storing (seedsOf [first, second] ["A", "B"]) true stored (.ok group) :=
    made ▸ .grouped "G"
  have course : Course ⟨100, 10, false, "https://archive.test/"⟩ text true
      (["A", "B"].map drawing ++ stored) (.ok group) :=
    .stored ⟨by decide, by decide, by decide⟩ admitted rfl storing
  let after : Ledger .memory := ⟨(Tables.empty.answer (.saveGroup group)).2, .zero⟩
  let done : Ledger .memory := ⟨after.kept, after.counters.count (.submitted 2)⟩
  have follows : Follows Ledger.Meets start (["A", "B"].map drawing ++ stored) done :=
    ⟨start, .inl ⟨rfl, rfl⟩, start, .inl ⟨rfl, rfl⟩, start, .inl ⟨rfl, rfl⟩,
      after, .inl ⟨rfl, rfl, rfl⟩, done, .inl ⟨rfl, rfl⟩, rfl⟩
  have fresh : IsFresh Tables.empty (["A", "B"].map drawing ++ stored) := by
    have drawn_eq : drawn (["A", "B"].map drawing ++ stored) = ["A", "B"] := rfl
    have named_eq : named (["A", "B"].map drawing ++ stored) = ["G"] := rfl
    refine ⟨drawn_eq ▸ by decide, fun id here => ⟨?_, rfl⟩, fun id here => ⟨?_, rfl⟩⟩
    · rw [drawn_eq] at here
      rintro rfl
      simp at here
    · rw [named_eq] at here
      rintro rfl
      simp at here
  have runs := submit_runs.mpr course
  have taken := (submit_all_or_nothing rfl fresh runs follows).2.1 group rfl
  exact ⟨_, _, runs, follows, parts ▸ taken⟩

end WebCapture.Service
