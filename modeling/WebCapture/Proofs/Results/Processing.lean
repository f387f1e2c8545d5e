import WebCapture.Proofs.Concurrency.SeedCalls
import WebCapture.Proofs.Program
import WebCapture.Proofs.Results.Verdict

set_option autoImplicit false

/-! # What processing a result does to its seed

Processing is up to four calls of the store, and each depends on what came back before. Whatever
fails on the way, and whether or not it took effect, the seed is always one step nearer to what
the verdict of the result makes of it (`Nearing`), and it is settled if nothing failed:
`processResult_nears`. Others may mark the seed as pending meanwhile. Without a verdict nothing is
done to the seed: `processResult_idle`.

To be on its way means for a seed that the verdict would still make the same of it. So `Nearing`
compares what `Verdict.settle` makes of the seed now with what it would have made of it at first,
and the calls of the work are all of a kind that this comparison does not see: a mark, a move to
the last state, and the missing archive details.

Whether calls may fail at all is a parameter. With failures the lemmas tell what an attempt leaves
behind wherever it stops; without, that it arrives.
-/

namespace WebCapture.Concurrency

open Program
open Service (NeedsRecord Rules SeedError Verdict advance finish processResult processResult_eq
  reconcile respond respond_bare respond_of_none respond_settled respond_waiting verdict?
  verdict?_eq_some verdict_archive_named)

/-- One exchange about a seed, before which others may have acted. -/
abbrev Shared.Serves (id : ShadowId) (marking faulty : Prop) :
    Shared → Exchange → Shared → Prop :=
  Amid (Shared.Leaves id marking) (Shared.Tries faulty)

variable {rules : Rules} {result : Capture.Result} {v : Verdict} {id : ShadowId} {seed : Seed}
  {s t : Shared} {marking faulty : Prop}

/-! ## Single calls

Between the exchanges of the work others may have marked the seed, so what is known of it before a
call is known up to such a mark.
-/

/-- A seed is read as it is, though it may have been marked before. -/
theorem getSeed_ensures {Post : Except SeedError Seed → Shared → Prop}
    (found : s.seed? id = some seed)
    (read : ∀ now t, t.seed? id = some now → Marked marking seed now → Post (.ok now) t)
    (failed : ∀ e now t, faulty → t.seed? id = some now → Marked marking seed now →
      Post (.error e) t) :
    (Service.getSeed id).Ensures (Shared.Serves id marking faulty) Post s := by
  rintro answer t ⟨u, left, tried⟩
  obtain ⟨now, found', marked⟩ := left.stored seed found
  obtain ⟨rfl, rfl | ⟨may, e, rfl⟩⟩ := tried.getSeed found'
  · exact read now _ found' marked
  · exact failed _ now _ may found' marked

/-- A transition that the lifecycle allows is one compare-and-set. -/
theorem transition_ensures {R : Shared → Exchange → Shared → Prop} {source target : Seed.State}
    {Post : Except SeedError Unit → Shared → Prop} (leads : source.leadsTo target = true)
    (h : ∀ (answer : Except Store.Error Unit) t,
      R s ⟨.store (.compareAndSet id source target), answer⟩ t → Post (answer.mapError .store) t) :
    (Service.transition id source target).Ensures R Post s := by
  rw [Service.transition, if_pos leads]
  exact h

/-! ## Nearing the end -/

/-- The seed is on its way to what the verdict makes of it, and it has arrived there if nothing
could fail. -/
def Nearing (v : Verdict) (id : ShadowId) (seed : Seed) (faulty : Prop) {α : Type}
    (answer : Except SeedError α) (t : Shared) : Prop :=
  ∃ now, t.seed? id = some now ∧ now.isConsistent = true ∧ v.settle now = v.settle seed ∧
    (faulty ∨ (∃ x, answer = .ok x) ∧ now = v.settle seed)

/-- A mark does not lead a seed off its way. -/
theorem settle_of_marked (v : Verdict) {now : Seed} (h : Marked marking seed now) :
    v.settle now = v.settle seed := by
  rcases h with rfl | ⟨-, waiting, rfl⟩
  · rfl
  · exact v.settle_marked waiting

/-- Others cannot lead a seed off its way. -/
theorem Nearing.later {α : Type} {answer : Except SeedError α}
    (h : Nearing v id seed faulty answer s) (left : s.Leaves id marking t) :
    Nearing v id seed faulty answer t := by
  obtain ⟨now, found, consistent, nearing, arrived⟩ := h
  obtain ⟨then', found', marked⟩ := left.stored now found
  refine ⟨then', found', marked.isConsistent consistent, ?_, ?_⟩
  · rw [settle_of_marked v marked, nearing]
  · rcases arrived with may | ⟨ok, rfl⟩
    · exact .inl may
    · -- A seed that has ended is not marked.
      refine .inr ⟨ok, marked.eq fun waiting => ?_⟩
      have ended := v.settle_isTerminal seed
      rw [waiting] at ended
      cases ended

/-- What a seed nears does not change when it is marked or moved on its way. -/
theorem Nearing.of_settle {now : Seed} {α : Type} {answer : Except SeedError α}
    (h : Nearing v id now faulty answer t) (same : v.settle now = v.settle seed) :
    Nearing v id seed faulty answer t := by
  rw [Nearing, ← same]
  exact h

/-- A success may be told in another way. -/
theorem Nearing.ok {α β : Type} {x : α} (h : Nearing v id seed faulty (.ok x) t) (y : β) :
    Nearing v id seed faulty (.ok y) t := by
  obtain ⟨now, found, consistent, nearing, arrived⟩ := h
  exact ⟨now, found, consistent, nearing, arrived.imp_right fun done => ⟨⟨y, rfl⟩, done.2⟩⟩

/-- An error is passed on; there is none unless calls may fail. -/
theorem Nearing.error {α β : Type} {e : SeedError}
    (h : Nearing v id seed faulty (.error e : Except SeedError α) t) :
    Nearing v id seed faulty (.error e : Except SeedError β) t := by
  obtain ⟨now, found, consistent, nearing, may | ⟨⟨x, impossible⟩, -⟩⟩ := h
  · exact ⟨now, found, consistent, nearing, .inl may⟩
  · cases impossible

/-! ## The parts of the work

Each part of the work ends with a seed on its way if it starts with one. A seed that waits may
have been marked by others just before it is to be marked here; the compare-and-set then refuses,
which is no error.
-/

/-- After the archive details of a success were to be written, it has those of the verdict. -/
theorem updateArchive_nears {archive : Seed.Archive} (found : s.seed? id = some seed)
    (consistent : seed.isConsistent = true) (success : seed.state = .doneSuccess)
    (bare : seed.archive = none) (known : v.archive = some archive) (named : archive.url ≠ "") :
    (Service.updateArchive id archive).Ensures (Shared.Serves id marking faulty)
      (Nearing v id seed faulty) s := by
  have settled : v.settle seed = { seed with archive := some archive } := by
    rw [v.settle_succeeded success, bare, known]
    rfl
  rintro answer t ⟨u, left, tried⟩
  obtain ⟨now, found', marked⟩ := left.stored seed found
  obtain rfl : now = seed := marked.eq (by simp [success])
  have written : Seed.isConsistent { now with archive := some archive } = true := by
    simp [Seed.isConsistent, success]
  have again : v.settle { now with archive := some archive } = v.settle now := by
    rw [← settled, v.settle_settle]
  rcases tried.updateArchive found' success named with
    ⟨rfl, found''⟩ | ⟨may, ⟨e, rfl⟩, found'' | found''⟩
  · exact ⟨_, found'', written, again, .inr ⟨⟨(), rfl⟩, settled.symm⟩⟩
  · exact ⟨_, found'', consistent, rfl, .inl may⟩
  · exact ⟨_, found'', written, again, .inl may⟩

/-- A pending seed is moved to its last state and gets its archive details. Where calls may fail,
the seed may be waiting still. -/
theorem finish_nears (found : s.seed? id = some seed) (consistent : seed.isConsistent = true)
    (reconciled : faulty ∨ seed.state = .pending)
    (named : ∀ archive, v.archive = some archive → archive.url ≠ "") :
    (finish id v.state v.archive).Ensures (Shared.Serves id marking faulty)
      (Nearing v id seed faulty) s := by
  unfold finish
  rw [ensures_bind]
  refine transition_ensures v.leadsTo_state ?_
  rintro answer t ⟨u, left, tried⟩
  obtain ⟨now, found', marked⟩ := left.stored seed found
  have consistent' := marked.isConsistent consistent
  have same := settle_of_marked v marked
  have bare : now.state = .pending → now.archive = none :=
    fun pending => Seed.archive_eq_none consistent' (by simp [pending])
  -- The seed after the move. It has not got its archive details yet.
  have moved_nears : now.state = .pending →
      Seed.isConsistent { now with state := v.state } = true ∧
        v.settle { now with state := v.state } = v.settle seed := fun pending =>
    ⟨by simp [Seed.isConsistent, bare pending], by rw [v.settle_moved pending (bare pending), same]⟩
  rcases tried.compareAndSet found' consistent' v.leadsTo_state with
    ⟨pending, rfl, found''⟩ | ⟨conflict, rfl, found''⟩ |
      ⟨may, ⟨e, rfl⟩, found'' | ⟨pending, found''⟩⟩
  · obtain ⟨moved_consistent, nearing⟩ := moved_nears pending
    cases known : v.archive with
    | none =>
        refine ⟨_, found'', moved_consistent, nearing, .inr ⟨⟨(), rfl⟩, ?_⟩⟩
        rw [← same, v.settle_waiting (.inr pending), known, ← bare pending]
    | some archive =>
        have success : v.state = .doneSuccess := by
          cases v with
          | success => rfl
          | failure => cases known
        exact (updateArchive_nears found'' moved_consistent success (bare pending) known
          (named archive known)).mono fun _ _ h => h.of_settle nearing
  · -- A pending seed would have been moved.
    have may : faulty := by
      rcases reconciled with may | pending
      · exact may
      · rw [marked.eq (by simp [pending])] at conflict
        exact absurd pending conflict
    exact ⟨now, found'', consistent', same, .inl may⟩
  · exact ⟨now, found'', consistent', same, .inl may⟩
  · exact ⟨_, found'', (moved_nears pending).1, (moved_nears pending).2, .inl may⟩

/-- Reconciling leaves a seed that has not ended as it is or marks it; and it is pending then, if
nothing could fail. That somebody else was faster to mark it is no error. -/
theorem reconcile_ensures (found : s.seed? id = some seed) (consistent : seed.isConsistent = true)
    (waiting : seed.state = .notEnqueued ∨ seed.state = .pending) :
    (reconcile id (decide (seed.state = .notEnqueued))).Ensures (Shared.Serves id marking faulty)
      (fun answer t => ∃ now, t.seed? id = some now ∧ Marked True seed now ∧
        (faulty ∨ answer = .ok () ∧ now.state = .pending)) s := by
  rcases waiting with new | pending
  · rw [decide_eq_true new, reconcile, if_pos rfl, ensures_bind]
    refine transition_ensures rfl ?_
    rintro answer t ⟨u, left, tried⟩
    obtain ⟨now, found', marked⟩ := left.stored seed found
    have mark : Marked True seed { seed with state := .pending } := .inr ⟨trivial, new, rfl⟩
    have marked' : now = seed ∨ now = { seed with state := .pending } :=
      marked.imp_right fun h => h.2.2
    -- The call does its work, meets a mark of others, or fails with or without effect.
    rcases tried.compareAndSet found' (marked.isConsistent consistent) rfl with
      ⟨waiting, rfl, found''⟩ | ⟨conflict, rfl, found''⟩ |
        ⟨may, ⟨e, rfl⟩, found'' | ⟨waiting, found''⟩⟩
    · rcases marked' with rfl | rfl
      · exact ⟨_, found'', mark, .inr ⟨rfl, rfl⟩⟩
      · cases waiting
    · rcases marked' with rfl | rfl
      · exact absurd new conflict
      · exact ⟨_, found'', mark, .inr ⟨rfl, rfl⟩⟩
    · dsimp only [Except.mapError]
      split <;> exact ⟨_, found'', marked.imp_right fun h => ⟨trivial, h.2⟩, .inl may⟩
    · -- A seed that was still waiting had not been marked by others.
      obtain rfl : now = seed := by
        rcases marked' with rfl | rfl
        · rfl
        · cases waiting
      dsimp only [Except.mapError]
      split <;> exact ⟨_, found'', mark, .inl may⟩
  · rw [decide_eq_false (by simp [pending])]
    exact ⟨seed, found, .refl seed, .inr ⟨rfl, pending⟩⟩

/-- A seed that has not ended is moved to its last state and gets its archive details, after it was
marked where that is needed. -/
theorem advance_nears (h : verdict? rules result = some v) (found : s.seed? result.id = some seed)
    (consistent : seed.isConsistent = true)
    (waiting : seed.state = .notEnqueued ∨ seed.state = .pending) :
    (advance rules result v.state (decide (seed.state = .notEnqueued))).Ensures
      (Shared.Serves result.id marking faulty) (Nearing v result.id seed faulty) s := by
  obtain ⟨-, computed⟩ := verdict?_eq_some.mp h
  unfold advance
  rw [computed]
  dsimp only
  rw [ensures_bind]
  refine (reconcile_ensures found consistent waiting).mono ?_
  rintro answer u ⟨now, found', marked, reconciled⟩
  have same := settle_of_marked v marked
  cases answer with
  | error e =>
      refine ⟨now, found', marked.isConsistent consistent, same, .inl ?_⟩
      rcases reconciled with may | ⟨impossible, -⟩
      · exact may
      · cases impossible
  | ok x =>
      dsimp only
      rw [ensures_bind]
      refine (finish_nears found' (marked.isConsistent consistent)
        (reconciled.imp_right And.right) fun _ => verdict_archive_named h).mono ?_
      intro answer t nearing
      cases answer with
      | error e => exact (nearing.of_settle same).error
      | ok x =>
          -- What comes last only counts, while others may mark once more.
          rintro counted w ⟨u', left, tried⟩
          obtain rfl := tried.count
          exact ((nearing.of_settle same).later left).ok _

/-- Whatever state a seed was read in, it is led nearer to what the verdict makes of it. -/
theorem respond_nears (h : verdict? rules result = some v) (found : s.seed? result.id = some seed)
    (consistent : seed.isConsistent = true) :
    (respond rules result seed).Ensures (Shared.Serves result.id marking faulty)
      (Nearing v result.id seed faulty) s := by
  cases hs : seed.state with
  | notEnqueued =>
      rw [respond_waiting h (.inl hs)]
      exact advance_nears h found consistent (.inl hs)
  | pending =>
      rw [respond_waiting h (.inr hs)]
      exact advance_nears h found consistent (.inr hs)
  | doneFailure =>
      have settled := v.settle_failed hs
      rw [respond_settled h (by simp [hs, Seed.State.isTerminal]) settled]
      exact ⟨seed, found, consistent, rfl, .inr ⟨⟨_, rfl⟩, settled.symm⟩⟩
  | doneSuccess =>
      by_cases settled : v.settle seed = seed
      · rw [respond_settled h (by simp [hs, Seed.State.isTerminal]) settled]
        exact ⟨seed, found, consistent, rfl, .inr ⟨⟨_, rfl⟩, settled.symm⟩⟩
      · obtain ⟨archive, bare, known⟩ := v.bare_of_unsettled hs settled
        rw [respond_bare h hs bare known, ensures_bind]
        refine (updateArchive_nears found consistent hs bare known
          (verdict_archive_named h known)).mono ?_
        intro answer t nearing
        cases answer with
        | error e => exact nearing.error
        | ok x => exact nearing.ok _

/-! ## The whole work -/

/-- **Each attempt to process a result leads its seed nearer to what the verdict makes of it**,
wherever the attempt fails and whether or not the failing calls took effect; an attempt in which
nothing fails leads it there. -/
theorem processResult_nears (h : verdict? rules result = some v)
    (found : s.seed? result.id = some seed) (consistent : seed.isConsistent = true) :
    (processResult rules result).Ensures (Shared.Serves result.id marking faulty)
      (Nearing v result.id seed faulty) s := by
  rw [processResult_eq, ensures_bind]
  refine getSeed_ensures found ?_ ?_
  · intro now t found' marked
    refine (respond_nears h found' (marked.isConsistent consistent)).mono ?_
    exact fun _ _ nearing => nearing.of_settle (settle_of_marked v marked)
  · intro e now t may found' marked
    exact ⟨now, found', marked.isConsistent consistent, settle_of_marked v marked, .inl may⟩

/-- **Without a verdict nothing is done to the seed.** The result is refused if its record is
needed, since the stamp is bad then. -/
theorem processResult_idle (h : verdict? rules result = none)
    (found : s.seed? result.id = some seed) (consistent : seed.isConsistent = true) :
    (processResult rules result).Ensures (Shared.Serves result.id marking faulty)
      (fun answer t => ∃ now, t.seed? result.id = some now ∧ Marked marking seed now ∧
        (faulty ∨ (∃ outcome, answer = .ok outcome) ∧
            (result.done = true → now.state.isTerminal = true) ∨
          NeedsRecord result now ∧ ∃ record bad, result.record = some record ∧
            (Seed.readStamp record.stamp).isOk = false ∧ answer = .error (.record bad))) s := by
  rw [processResult_eq, ensures_bind]
  refine getSeed_ensures found ?_ ?_
  · intro now t found' marked
    dsimp only
    rcases respond_of_none h (marked.isConsistent consistent) with
      ⟨⟨outcome, done⟩, ended⟩ | ⟨needs, record, bad, hr, unreadable, refused⟩
    · rw [done]
      exact ⟨now, found', marked, .inr (.inl ⟨⟨outcome, rfl⟩, ended⟩)⟩
    · rw [refused]
      exact ⟨now, found', marked, .inr (.inr ⟨needs, record, bad, hr, unreadable, rfl⟩)⟩
  · intro e now t may found' marked
    exact ⟨now, found', marked, .inl may⟩

end WebCapture.Concurrency
