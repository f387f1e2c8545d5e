import WebCapture.Proofs.Service.Exchanges
import WebCapture.Proofs.Submissions.Lines

set_option autoImplicit false

/-! # The course of a submission

A submission that is refused for its sizes makes no exchange at all, and one that is refused for a
line only counts that. Any other draws an id for each line, makes one call of the store, and if
that succeeds counts the seeds: `submit_runs` says that these are all its runs, and that whatever
comes back from the calls there is such a run.

A group is named before it is stored, since it is stored under its name. Seeds on their own are
told under the name of a group, too, but they are stored first and the name is not.
-/

namespace WebCapture.Service

open Program

variable {rules : Rules} {text : String} {grouped : Bool} {urls : List Url.CleanUrl}
  {ids : List ShadowId} {seeds : List Seed} {log : Log}

/-! ## Exchanges -/

def drawing (id : ShadowId) : Exchange Call Call.Answer := ⟨.freshSeedId, id⟩

def naming (id : ShadowId) : Exchange Call Call.Answer := ⟨.freshGroupId, id⟩

def saving (seeds : List Seed) (answer : Except Store.Error Unit) : Exchange Call Call.Answer :=
  ⟨.store (.save seeds), answer⟩

def savingGroup (group : SeedGroup) (answer : Except Store.Error Unit) :
    Exchange Call Call.Answer := ⟨.store (.saveGroup group), answer⟩

def noting (event : Event) : Exchange Call Call.Answer := ⟨.count event, ()⟩

/-! ## Seeds -/

def seedsOf (urls : List Url.CleanUrl) (ids : List ShadowId) : List Seed :=
  List.zipWith (fun url id => Seed.ofUrl url.text id) urls ids

theorem seedsOf_ids (same : ids.length = urls.length) : (seedsOf urls ids).map (·.id) = ids := by
  induction urls generalizing ids with
  | nil =>
      obtain rfl : ids = [] := List.length_eq_zero_iff.mp same
      rfl
  | cons url more ih =>
      obtain ⟨id, others, rfl⟩ := List.exists_cons_of_length_eq_add_one same
      exact congrArg (id :: ·) (ih (Nat.succ.inj same))

/-- The id of the first seed is drawn before the others. -/
theorem seedsFor_cons_runs {url : Url.CleanUrl} :
    (seedsFor (url :: urls)).Runs log seeds ↔ ∃ (id : ShadowId) (rest : Log) (others : List Seed),
      log = drawing id :: rest ∧ (seedsFor urls).Runs rest others ∧
        seeds = Seed.ofUrl url.text id :: others := by
  constructor
  · intro h
    obtain ⟨id, first, rest, rfl, drawn, h⟩ := runs_bind.mp h
    obtain ⟨others, middle, last, rfl, tail, rfl, rfl⟩ := runs_bind.mp h
    obtain ⟨answer, none, rfl, rfl, rfl⟩ := drawn
    rw [List.append_nil]
    exact ⟨id, middle, others, rfl, tail, rfl⟩
  · rintro ⟨id, rest, others, rfl, tail, rfl⟩
    refine runs_bind.mpr ⟨id, [drawing id], rest, rfl, ⟨id, [], rfl, rfl, rfl⟩, runs_bind.mpr ?_⟩
    exact ⟨others, rest, [], (List.append_nil _).symm, tail, rfl, rfl⟩

/-- Each address gets one id. -/
theorem seedsFor_runs :
    (seedsFor urls).Runs log seeds ↔ ∃ ids : List ShadowId, ids.length = urls.length ∧
      log = ids.map drawing ∧ seeds = seedsOf urls ids := by
  induction urls generalizing log seeds with
  | nil =>
      constructor
      · rintro ⟨rfl, rfl⟩
        exact ⟨[], rfl, rfl, rfl⟩
      · rintro ⟨ids, empty, rfl, rfl⟩
        obtain rfl : ids = [] := List.length_eq_zero_iff.mp empty
        exact ⟨rfl, rfl⟩
  | cons url more ih =>
      rw [seedsFor_cons_runs]
      constructor
      · rintro ⟨id, rest, others, rfl, tail, rfl⟩
        obtain ⟨ids, same, rfl, rfl⟩ := ih.mp tail
        exact ⟨id :: ids, congrArg (· + 1) same, rfl, rfl⟩
      · rintro ⟨ids, same, rfl, rfl⟩
        obtain ⟨id, others, rfl⟩ := List.exists_cons_of_length_eq_add_one same
        exact ⟨id, others.map drawing, seedsOf more others, rfl,
          ih.mpr ⟨others, Nat.succ.inj same, rfl, rfl⟩, rfl⟩

/-! ## Storing

The part behind the seeds is looked at on its own, with the seeds given. It has two ways to
succeed and two to fail, and no other runs.
-/

/-- In these exchanges seeds are stored, as a group or each on its own, and counted; or the store
fails. -/
inductive Storing (seeds : List Seed) : Bool → Log → Except SeedError SeedGroup → Prop where
  | grouped (id : ShadowId) :
      Storing seeds true
        [naming id, savingGroup ⟨seeds, id⟩ (.ok ()), noting (.submitted seeds.length)]
        (.ok ⟨seeds, id⟩)
  | groupFailed (id : ShadowId) (e : Store.Error) :
      Storing seeds true [naming id, savingGroup ⟨seeds, id⟩ (.error e)] (.error (.store e))
  | single (id : ShadowId) :
      Storing seeds false [saving seeds (.ok ()), naming id, noting (.submitted seeds.length)]
        (.ok ⟨seeds, id⟩)
  | failed (e : Store.Error) : Storing seeds false [saving seeds (.error e)] (.error (.store e))

/-- The part of a submission behind its seeds. -/
def storeAndCount (seeds : List Seed) (grouped : Bool) : Work (Except SeedError SeedGroup) := do
  match ← storeSeeds seeds grouped with
  | .error e => return .error (.store e)
  | .ok group =>
    Work.count (.submitted group.seeds.length)
    return .ok group

theorem storeAndCount_runs {answer : Except SeedError SeedGroup} :
    (storeAndCount seeds grouped).Runs log answer ↔ Storing seeds grouped log answer := by
  constructor
  · intro h
    cases grouped with
    | true =>
        obtain ⟨id, rest, rfl, stored, rest', rfl, h⟩ := h
        cases stored with
        | error e =>
            obtain ⟨rfl, rfl⟩ := h
            exact .groupFailed id e
        | ok =>
            obtain ⟨-, -, rfl, rfl, rfl⟩ := h
            exact .grouped id
    | false =>
        obtain ⟨stored, rest, rfl, h⟩ := h
        cases stored with
        | error e =>
            obtain ⟨rfl, rfl⟩ := h
            exact .failed e
        | ok =>
            obtain ⟨id, -, rfl, -, -, rfl, rfl, rfl⟩ := h
            exact .single id
  · intro h
    cases h with
    | grouped id => exact ⟨id, _, rfl, .ok (), _, rfl, (), [], rfl, rfl, rfl⟩
    | groupFailed id e => exact ⟨id, _, rfl, .error e, [], rfl, rfl, rfl⟩
    | single id => exact ⟨.ok (), _, rfl, id, _, rfl, (), [], rfl, rfl, rfl⟩
    | failed e => exact ⟨.error e, [], rfl, rfl, rfl⟩

/-! ## Submissions -/

/-- The exchanges and the answer of a submission. -/
inductive Course (rules : Rules) (text : String) (grouped : Bool) :
    Log → Except SeedError SeedGroup → Prop where
  | oversized {e : SeedError} (size : sizeError? rules text = some e) :
      Course rules text grouped [] (.error e)
  | refused {e : SeedError} (fits : Fits rules text)
      (refused : admitLines rules.strict 1 (linesOf text) = .error e) :
      Course rules text grouped [noting .rejected] (.error e)
  | stored {urls : List Url.CleanUrl} {ids : List ShadowId} {log : Log}
      {answer : Except SeedError SeedGroup} (fits : Fits rules text)
      (admitted : admitLines rules.strict 1 (linesOf text) = .ok urls)
      (same : ids.length = urls.length) (storing : Storing (seedsOf urls ids) grouped log answer) :
      Course rules text grouped (ids.map drawing ++ log) answer

theorem linesOf_ne_nil (text : String) : linesOf text ≠ [] := by
  rw [linesOf, ne_eq, List.map_eq_nil_iff]
  exact List.splitOn_ne_nil _ _

/-- **These are the runs of a submission**, and all of them. -/
theorem submit_runs {answer : Except SeedError SeedGroup} :
    (submit rules text grouped).Runs log answer ↔ Course rules text grouped log answer := by
  unfold submit
  cases size : sizeError? rules text with
  | some e =>
      constructor
      · rintro ⟨rfl, rfl⟩
        -- Nothing is exchanged.
        exact .oversized size
      · intro course
        cases course with
        | oversized size' =>
            cases size.symm.trans size'
            exact ⟨rfl, rfl⟩
        | refused fits | stored fits => cases size.symm.trans (sizeError?_eq_none.mpr fits)
  | none =>
      have fits : Fits rules text := sizeError?_eq_none.mp size
      dsimp only
      rw [submitLines, if_neg (linesOf_ne_nil text)]
      cases admitted : admitLines rules.strict 1 (linesOf text) with
      | error e =>
          constructor
          · rintro ⟨-, rest, rfl, rfl, rfl⟩
            exact .refused fits admitted
          · intro course
            cases course with
            | oversized size' => cases size.symm.trans size'
            | refused fits refused =>
                cases admitted.symm.trans refused
                exact ⟨(), [], rfl, rfl, rfl⟩
            | stored fits admitted' => cases admitted.symm.trans admitted'
      | ok urls =>
          -- A submission of admitted lines falls into drawing the ids and all that follows.
          change ((seedsFor urls >>= fun seeds => storeAndCount seeds grouped).Runs log answer ↔ _)
          rw [runs_bind]
          constructor
          · rintro ⟨seeds, first, rest, rfl, drawn, h⟩
            obtain ⟨ids, same, rfl, rfl⟩ := seedsFor_runs.mp drawn
            exact .stored fits admitted same (storeAndCount_runs.mp h)
          · intro course
            cases course with
            | oversized size' => cases size.symm.trans size'
            | refused fits refused => cases admitted.symm.trans refused
            | @stored urls' ids log' _ fits admitted' same storing =>
                cases admitted.symm.trans admitted'
                exact ⟨seedsOf urls ids, ids.map drawing, log', rfl,
                  seedsFor_runs.mpr ⟨ids, same, rfl, rfl⟩, storeAndCount_runs.mpr storing⟩

end WebCapture.Service
