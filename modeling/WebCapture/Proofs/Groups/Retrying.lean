import WebCapture.Proofs.Groups.Marking

set_option autoImplicit false

/-! # Group captures that are tried again

A group capture that was stopped is tried again on the group as it is stored then. At any time the
stored group falls into two parts: the seeds in front are marked, and the seeds behind them wait
(`Halfway`). An attempt moves the boundary over the seeds that it hands over; if it is stopped at
a mark, then the first seed behind the boundary was requested in vain (`Halfway.attempt`).

From this it follows by induction how often each seed is requested in a series of attempts
(`Series.halfway`), and `retries_finish` says what a series comes to that ends well. Others may
act at any time, on other groups and seeds; between two attempts a result for a seed of the group
would be read as a seed that does not wait, which is not looked at here.
-/

namespace WebCapture.Concurrency

open Program
open Service (CaptureError GroupCapture Handing IsMarking Log Obstacle captureGroup counting marking
  requestsOf surplus waiting)
open Store (Tables)

variable {s t u : Shared} {gid : ShadowId} {e : Exchange} {log : Log}

/-! ## Attempts -/

/-- Others leave a group alone, and the seeds that are its members. -/
structure Shared.Spares (gid : ShadowId) (members : List ShadowId) (s t : Shared) : Prop where
  group : t.tables.groups.find? gid = s.tables.groups.find? gid
  seeds : ∀ id ∈ members, t.seed? id = s.seed? id

/-- An attempt to capture a group: the group as it was read, what was exchanged, and the answer. -/
structure GroupAttempt where
  group : SeedGroup
  log : Log
  answer : Except CaptureError GroupCapture

/-- The attempt was stopped at the mark of a seed, which was its last call. -/
def GroupAttempt.stopsAt (attempt : GroupAttempt) (id : ShadowId) : Bool :=
  match attempt.answer, attempt.log.getLast? with
  | .error _, some ⟨.store (.compareAndSet key .notEnqueued .pending), Except.error _⟩ => key == id
  | _, _ => false

/-- Attempts to capture a group, one after the other, each on the group as it is read then. Calls
may fail without effect, and others spare the group. -/
inductive Series (gid : ShadowId) (members : List ShadowId) :
    Shared → List GroupAttempt → Shared → Prop where
  | none {s t : Shared} (spared : s.Spares gid members t) : Series gid members s [] t
  | more {s u v t : Shared} {attempt : GroupAttempt} {attempts : List GroupAttempt}
      (spared : s.Spares gid members u) (read : u.tables.getGroup gid = .ok attempt.group)
      (runs : (captureGroup attempt.group).Runs attempt.log attempt.answer)
      (follows : Follows (Amid (Shared.Spares gid members) Shared.Meets) u attempt.log v)
      (rest : Series gid members v attempts t) : Series gid members s (attempt :: attempts) t

def requestsOfAll (attempts : List GroupAttempt) : List Capture.Request :=
  attempts.flatMap fun attempt => requestsOf attempt.log

/-- How many attempts were stopped at the mark of a seed. -/
def stops (attempts : List GroupAttempt) (id : ShadowId) : Nat :=
  attempts.countP fun attempt => attempt.stopsAt id

theorem stops_cons (attempt : GroupAttempt) (attempts : List GroupAttempt) (id : ShadowId) :
    stops (attempt :: attempts) id = stops attempts id + (attempt.stopsAt id).toNat := by
  unfold stops
  rw [List.countP_cons]
  cases attempt.stopsAt id <;> rfl

/-! ## Requests that are repeated

The requests of a series are in the order of the group, each seed's next to each other: a seed is
requested again only at the beginning of the next attempt, before any seed behind it.
-/

/-- So many requests for each seed, in the order of the seeds. -/
def repeated (times : Seed → Nat) (seeds : List Seed) : List Capture.Request :=
  seeds.flatMap fun seed => List.replicate (times seed) (.ofSeed seed)

theorem repeated_congr {times times' : Seed → Nat} {seeds : List Seed}
    (same : ∀ seed ∈ seeds, times seed = times' seed) :
    repeated times seeds = repeated times' seeds :=
  List.flatMap_congr fun seed here => by rw [same seed here]

theorem repeated_never (seeds : List Seed) : repeated (fun _ => 0) seeds = [] := by
  simp [repeated]

theorem repeated_once (seeds : List Seed) : repeated (fun _ => 1) seeds = seeds.map .ofSeed := by
  induction seeds with
  | nil => rfl
  | cons seed more ih =>
      rw [List.map_cons, ← ih]
      rfl

theorem repeated_append (times : Seed → Nat) (first rest : List Seed) :
    repeated times (first ++ rest) = repeated times first ++ repeated times rest :=
  List.flatMap_append

/-- One more request for the first seed stands in front of the others. -/
theorem repeated_succ {times times' : Seed → Nat} {seed : Seed} {more : List Seed}
    (first : times seed = times' seed + 1) (same : ∀ other ∈ more, times other = times' other) :
    repeated times (seed :: more) = .ofSeed seed :: repeated times' (seed :: more) := by
  have cons : ∀ times, repeated times (seed :: more) =
      List.replicate (times seed) (.ofSeed seed) ++ repeated times more :=
    fun _ => List.flatMap_cons
  rw [cons, cons, first, List.replicate_succ, List.cons_append, repeated_congr same]

/-- One more request for the first seed of two parts stands in front of the others, whichever part
it is in. -/
theorem repeated_parts_succ {times times' : Seed → Nat} {seed : Seed} {more first rest : List Seed}
    (parts : first ++ rest = seed :: more) (again : times seed = times' seed + 1)
    (same : ∀ other ∈ more, times other = times' other) :
    repeated (fun seed => 1 + times seed) first ++ repeated times rest =
      .ofSeed seed :: (repeated (fun seed => 1 + times' seed) first ++ repeated times' rest) := by
  cases first with
  | nil =>
      rw [List.nil_append] at parts
      subst parts
      exact repeated_succ again same
  | cons head first =>
      rw [List.cons_append, List.cons.injEq] at parts
      obtain ⟨rfl, rfl⟩ := parts
      have front : repeated (fun seed => 1 + times seed) (head :: first) =
          .ofSeed head :: repeated (fun seed => 1 + times' seed) (head :: first) := by
        refine repeated_succ (by rw [again, Nat.add_assoc]) fun other here => ?_
        rw [same other (List.mem_append_left _ here)]
      have back : repeated times rest = repeated times' rest :=
        repeated_congr fun other here => same other (List.mem_append_right _ here)
      rw [front, back, List.cons_append]

/-! ## Groups that are captured halfway

The two parts are given as lists of seeds as they were when they were new. So the seeds in front
are stored with the mark, and those behind as they stand in the list.
-/

/-- Of a stored group, whose seeds were new, some are marked and the others wait. -/
structure Halfway (gid : ShadowId) (marked rest : List Seed) (s : Shared) : Prop where
  listed : s.tables.groups.find? gid = some ((marked ++ rest).map (·.id))
  distinct : ((marked ++ rest).map (·.id)).Nodup
  new : ∀ seed ∈ marked ++ rest, seed.state = .notEnqueued
  marked : ∀ seed ∈ marked, s.seed? seed.id = some seed.mark
  waits : ∀ seed ∈ rest, s.seed? seed.id = some seed

variable {front rest : List Seed}

theorem Halfway.spared (half : Halfway gid front rest s)
    (spared : s.Spares gid ((front ++ rest).map (·.id)) t) : Halfway gid front rest t where
  listed := spared.group.trans half.listed
  distinct := half.distinct
  new := half.new
  marked seed here := by
    have member := List.mem_map_of_mem (f := Seed.id) (List.mem_append_left rest here)
    rw [spared.seeds seed.id member, half.marked seed here]
  waits seed here := by
    have member := List.mem_map_of_mem (f := Seed.id) (List.mem_append_right front here)
    rw [spared.seeds seed.id member, half.waits seed here]

/-- The group is read as it is stored. -/
theorem Halfway.read (half : Halfway gid front rest s) :
    s.tables.getGroup gid = .ok ⟨front.map Seed.mark ++ rest, gid⟩ := by
  have found : s.tables.getSeeds ((front ++ rest).map (·.id))
      = .ok (front.map Seed.mark ++ rest) := by
    rw [Tables.getSeeds_eq_ok]
    simp only [List.map_append, List.map_map]
    congr 1
    · exact List.map_congr_left half.marked
    · exact List.map_congr_left half.waits
  simp only [Tables.getGroup, half.listed, found]

/-- The seeds that wait are those behind the marked ones. -/
theorem Halfway.waiting_eq (half : Halfway gid front rest s) :
    waiting (front.map Seed.mark ++ rest) = rest := by
  have none_marked : waiting (front.map Seed.mark) = [] := by
    unfold waiting
    rw [List.filter_eq_nil_iff]
    intro seed here
    obtain ⟨before, -, rfl⟩ := List.mem_map.mp here
    simp [before.mark_state]
  have all_rest : waiting rest = rest := by
    unfold waiting
    rw [List.filter_eq_self]
    intro seed here
    simp [half.new seed (List.mem_append_right front here)]
  unfold waiting at *
  rw [List.filter_append, none_marked, all_rest, List.nil_append]

/-- The boundary moves over the seeds that are marked, if nothing else happens to the group. -/
theorem Halfway.advance {handed behind : List Seed} (half : Halfway gid front (handed ++ behind) s)
    (listed : t.tables.groups.find? gid = s.tables.groups.find? gid)
    (marked : ∀ seed ∈ handed, ∃ now, s.seed? seed.id = some now ∧ t.seed? seed.id = some now.mark)
    (others : ∀ id ∈ (front ++ (handed ++ behind)).map (·.id), id ∉ handed.map (·.id) →
      t.seed? id = s.seed? id) : Halfway gid (front ++ handed) behind t := by
  have distinct := half.distinct
  simp only [List.map_append, List.nodup_append, List.mem_append] at distinct
  obtain ⟨-, ⟨-, -, apart⟩, ahead⟩ := distinct
  constructor
  · rw [listed, half.listed, List.append_assoc]
  · rw [List.append_assoc]
    exact half.distinct
  · rw [List.append_assoc]
    exact half.new
  · intro seed here
    rcases List.mem_append.mp here with here | here
    · have mine : seed.id ∈ front.map (·.id) := List.mem_map_of_mem here
      have untouched : seed.id ∉ handed.map (·.id) := fun there =>
        ahead seed.id mine seed.id (.inl there) rfl
      have member : seed.id ∈ (front ++ (handed ++ behind)).map (·.id) :=
        List.mem_map_of_mem (List.mem_append_left _ here)
      rw [others seed.id member untouched, half.marked seed here]
    · obtain ⟨now, found, after⟩ := marked seed here
      have waited := half.waits seed (List.mem_append_left _ here)
      rw [after, Option.some.inj (found.symm.trans waited)]
  · intro seed here
    have mine : seed.id ∈ behind.map (·.id) := List.mem_map_of_mem here
    have untouched : seed.id ∉ handed.map (·.id) := fun there =>
      apart seed.id there seed.id mine rfl
    have member : seed.id ∈ (front ++ (handed ++ behind)).map (·.id) :=
      List.mem_map_of_mem (List.mem_append_right _ (List.mem_append_right _ here))
    rw [others seed.id member untouched, half.waits seed (List.mem_append_right _ here)]

/-- No call of a group capture changes which seeds a group has. -/
theorem Shared.Meets.groups_eq (marks : IsMarking e.call) (h : s.Meets e t) :
    t.tables.groups = s.tables.groups := by
  have tried : s.Tries True e t := h.imp_right fun failed => ⟨trivial, failed.1⟩
  obtain ⟨call, answer⟩ := e
  rcases tried.tables_cases with same | ⟨c, rfl, done⟩
  · rw [same]
  · rw [done]
    cases c with
    | compareAndSet id expected next =>
        refine (Tables.compareAndSet_atomic id expected next).induction
          (P := fun after => after.groups = s.tables.groups) rfl fun after moved => ?_
        obtain ⟨-, -, -, -, rfl⟩ := Tables.compareAndSet_eq_ok.mp moved
        rfl
    | _ => exact marks.elim

/-- What an attempt comes to: the seeds in `handed` were marked, and `behind` still wait. -/
structure GroupAttempt.Comes (attempt : GroupAttempt) (handed behind : List Seed) : Prop where
  finished : ∀ capture, attempt.answer = .ok capture → behind = []
  requests : (requestsOf attempt.log = handed.map .ofSeed ∧ ∀ id, attempt.stopsAt id = false) ∨
    ∃ seed more, behind = seed :: more ∧
      requestsOf attempt.log = handed.map .ofSeed ++ [.ofSeed seed] ∧
      ∀ id, attempt.stopsAt id = (seed.id == id)

/-- The exchanges of an attempt tell what it comes to. -/
theorem comes_of_handing {attempt : GroupAttempt} {seeds : List Seed} {handed : Nat}
    {obstacle : Option Obstacle} {total skipped : Nat}
    (handing : Handing seeds handed obstacle attempt.log)
    (told : attempt.answer = Service.summary total handed skipped obstacle) :
    attempt.Comes (seeds.take handed) (seeds.drop handed) := by
  have requested := handing.requestsOf_eq
  rcases handing.cases with ⟨rfl, rfl⟩ | ⟨met, seed, rfl, next, earlier, there⟩
  · refine ⟨fun _ _ => List.drop_length, .inl ⟨requested, fun id => ?_⟩⟩
    simp [GroupAttempt.stopsAt, told, Service.summary]
  · have failed : ∀ capture, attempt.answer ≠ .ok capture := by
      intro capture ok
      rw [told] at ok
      cases ok
    refine ⟨fun capture ok => absurd ok (failed capture), ?_⟩
    cases met with
    | refused e =>
        refine .inl ⟨requested, fun id => ?_⟩
        -- A request that was refused is counted, and so the log does not end with a mark.
        have last : attempt.log.getLast? = some (counting false) := by
          rw [← there, List.getLast?_append]
          rfl
        simp only [GroupAttempt.stopsAt, told, Service.summary, last]
        rfl
    | unmarked e =>
        obtain ⟨inside, here⟩ := List.getElem?_eq_some_iff.mp next
        refine .inr ⟨seed, seeds.drop (handed + 1), ?_, ?_, fun id => ?_⟩
        · rw [List.drop_eq_getElem_cons inside, here]
        · rw [requested]
          simp only [surplus, List.take_add_one, next, Option.toList_some, List.map_append,
            List.map_cons, List.map_nil]
        · have last : attempt.log.getLast? = some (marking seed (.error e)) := by
            rw [← there, List.getLast?_append]
            rfl
          simp only [GroupAttempt.stopsAt, told, Service.summary, last]
          rfl

/-- **An attempt marks some of the seeds that wait, from the first on**, and leaves the others as
they are. -/
theorem Halfway.attempt (half : Halfway gid front rest s) {attempt : GroupAttempt}
    (read : s.tables.getGroup gid = .ok attempt.group)
    (runs : (captureGroup attempt.group).Runs attempt.log attempt.answer)
    (follows : Follows (Amid (Shared.Spares gid ((front ++ rest).map (·.id))) Shared.Meets) s
      attempt.log t) :
    ∃ handed behind, rest = handed ++ behind ∧ Halfway gid (front ++ handed) behind t ∧
      attempt.Comes handed behind := by
  rw [half.read] at read
  have group_eq := Except.ok.inj read
  obtain ⟨handed, obstacle, handing, told⟩ := Service.captureGroup_runs runs
  rw [← group_eq, half.waiting_eq] at handing
  have comes := comes_of_handing handing told
  have split := (List.take_append_drop handed rest).symm
  refine ⟨rest.take handed, rest.drop handed, split, ?_, comes⟩
  have distinct : (rest.map (·.id)).Nodup := by
    have distinct := half.distinct
    rw [List.map_append] at distinct
    exact distinct.of_append_right
  have members : ∀ seed ∈ rest, seed.id ∈ (front ++ rest).map (·.id) := fun seed here =>
    List.mem_map_of_mem (List.mem_append_right front here)
  obtain ⟨marked, others⟩ := seeds_of_handing (· ∈ (front ++ rest).map (·.id))
    (fun _ _ spared => spared.seeds) handing distinct members follows
  -- Neither the capture nor others have changed which members the group has.
  have listed : t.tables.groups.find? gid = s.tables.groups.find? gid := by
    have marks := runs.only (Service.captureGroup_marks _)
    refine follows.keeps
      (P := fun u => u.tables.groups.find? gid = s.tables.groups.find? gid) ?_ rfl
    rintro e here u v ⟨w, spared, met⟩ same
    rw [met.groups_eq (marks e here), spared.group, same]
  refine Halfway.advance (by rwa [← split]) listed marked fun id member => ?_
  exact others id (by rwa [← split] at member)

/-- Where no seed waits any more, a capture ends at once. -/
theorem Halfway.captureGroup_runs_iff (half : Halfway gid front [] s)
    {answer : Except CaptureError GroupCapture} :
    (captureGroup ⟨front.map Seed.mark ++ [], gid⟩).Runs log answer ↔
      log = [] ∧ answer = .ok ⟨0, front.length⟩ := by
  have only : ∀ {log answer}, (captureGroup ⟨front.map Seed.mark ++ [], gid⟩).Runs log answer →
      log = [] ∧ answer = .ok ⟨0, front.length⟩ := by
    intro log answer runs
    obtain ⟨handed, obstacle, handing, rfl⟩ := Service.captureGroup_runs runs
    simp only [half.waiting_eq] at handing ⊢
    cases handing
    exact ⟨rfl, by simp [Service.summary]⟩
  refine ⟨only, ?_⟩
  rintro ⟨rfl, rfl⟩
  obtain ⟨log, runs, -⟩ := exists_log (R := Shared.Answers) (Shared.serve "" "")
    (fun call s => s.answers_serve "" "" call)
    (captureGroup ⟨front.map Seed.mark ++ [], gid⟩) s
  obtain ⟨rfl, told⟩ := only runs
  rwa [told] at runs

/-! ## Series of attempts

The induction over a series needs to know of the first attempt how far it has moved the boundary,
and of the others what they have requested from there on.
-/

/-- What an attempt requested adds up with what later attempts requested: one more request for each
seed that it marked, and for the one at whose mark it was stopped. -/
theorem GroupAttempt.Comes.requests_cons {attempt : GroupAttempt} {attempts : List GroupAttempt}
    {first second behind : List Seed} (comes : attempt.Comes first (second ++ behind))
    (distinct : ((second ++ behind).map (·.id)).Nodup)
    (never : ∀ seed ∈ first, stops (attempt :: attempts) seed.id = 0)
    (later : requestsOfAll attempts = repeated (fun seed => 1 + stops attempts seed.id) second ++
      repeated (fun seed => stops attempts seed.id) behind) :
    requestsOfAll (attempt :: attempts) =
      repeated (fun seed => 1 + stops (attempt :: attempts) seed.id) (first ++ second) ++
        repeated (fun seed => stops (attempt :: attempts) seed.id) behind := by
  have once : repeated (fun seed => 1 + stops (attempt :: attempts) seed.id) first
      = first.map .ofSeed := by
    rw [← repeated_once]
    exact repeated_congr fun seed here => by rw [never seed here]
  have both : requestsOfAll (attempt :: attempts) =
      requestsOf attempt.log ++ requestsOfAll attempts := List.flatMap_cons
  rw [both, later, repeated_append, once]
  rcases comes.requests with ⟨requested, quiet⟩ | ⟨seed, more, next, requested, only⟩
  · have same : ∀ id, stops (attempt :: attempts) id = stops attempts id := by
      intro id
      rw [stops_cons, quiet]
      rfl
    simp only [requested, same, List.append_assoc]
  · have again : stops (attempt :: attempts) seed.id = stops attempts seed.id + 1 := by
      rw [stops_cons, only, BEq.rfl]
      rfl
    -- The others have other ids.
    have same : ∀ other ∈ more, stops (attempt :: attempts) other.id = stops attempts other.id := by
      intro other here
      rw [next, List.map_cons, List.nodup_cons] at distinct
      have different : seed.id ≠ other.id := by
        intro alike
        exact distinct.1 (List.mem_map.mpr ⟨other, here, alike.symm⟩)
      rw [stops_cons, only, beq_eq_false_iff_ne.mpr different]
      rfl
    rw [requested, List.append_assoc, List.append_assoc, repeated_parts_succ next again same]
    rfl

/-- **In a series of attempts every seed is requested once, and once more for each time that it
could not be marked.** The seeds in `handed` were marked, and those in `behind` still wait, of which
the first may have been requested in vain. -/
theorem Series.halfway {members : List ShadowId} {attempts : List GroupAttempt}
    (series : Series gid members s attempts t) (half : Halfway gid front rest s)
    (own : members = (front ++ rest).map (·.id)) :
    ∃ handed behind, rest = handed ++ behind ∧ Halfway gid (front ++ handed) behind t ∧
      (∀ seed ∈ front, stops attempts seed.id = 0) ∧
      requestsOfAll attempts = repeated (fun seed => 1 + stops attempts seed.id) handed ++
        repeated (fun seed => stops attempts seed.id) behind ∧
      ∀ last capture, attempts.getLast? = some last → last.answer = .ok capture → behind = [] := by
  -- The boundary between the two parts moves with every attempt, so the parts vary.
  induction series generalizing front rest with
  | none spared =>
      subst own
      refine ⟨[], rest, rfl, ?_, fun _ _ => rfl, ?_, fun _ _ impossible => nomatch impossible⟩
      · rw [List.append_nil]
        exact half.spared spared
      · exact (repeated_never rest).symm
  | @more s u v t attempt attempts spared read runs follows series ih =>
      subst own
      obtain ⟨first, behind₁, rfl, half₁, comes⟩ := (half.spared spared).attempt read runs follows
      obtain ⟨second, behind, rfl, half₂, unstopped, requests, finished⟩ :=
        ih half₁ (by rw [List.append_assoc])
      -- Only a seed behind the boundary can be one that the attempt was stopped at.
      have quiet : ∀ seed ∈ front ++ first, attempt.stopsAt seed.id = false := by
        intro seed here
        rcases comes.requests with ⟨-, never⟩ | ⟨stopped, more, next, -, only⟩
        · exact never seed.id
        · rw [only, beq_eq_false_iff_ne]
          have distinct := half₁.distinct
          rw [next, List.map_append, List.nodup_append] at distinct
          exact (distinct.2.2 seed.id (List.mem_map_of_mem here) stopped.id
            List.mem_cons_self).symm
      have never : ∀ seed ∈ front ++ first, stops (attempt :: attempts) seed.id = 0 := by
        intro seed here
        rw [stops_cons, unstopped seed here, quiet seed here]
        rfl
      refine ⟨first ++ second, behind, (List.append_assoc _ _ _).symm, ?_, ?_, ?_, ?_⟩
      · rwa [← List.append_assoc]
      · exact fun seed here => never seed (List.mem_append_left _ here)
      · have distinct : ((second ++ behind).map (·.id)).Nodup := by
          have distinct := half₁.distinct
          rw [List.map_append] at distinct
          exact distinct.of_append_right
        refine comes.requests_cons distinct (fun seed here => ?_) requests
        exact never seed (List.mem_append_right _ here)
      · intro last capture here ok
        cases attempts with
        | nil =>
            obtain rfl : attempt = last := Option.some.inj here
            exact (List.append_eq_nil_iff.mp (comes.finished capture ok)).2
        | cons next more => exact finished last capture (by simpa using here) ok

/-- **A group capture that is tried again until it succeeds has done its work.** In any series of
attempts on a stored group of new seeds, each on the group as it is read then, of which any may be
stopped by any call that fails, and of which the last succeeds: all seeds are pending at the end.
The requests came in the order of the group, each seed's once and once more for each attempt that
was stopped at its mark. A further capture of the group, as it is read then, ends without a call
and tells that all seeds were skipped. -/
theorem retries_finish {group : SeedGroup} {attempts : List GroupAttempt} {last : GroupAttempt}
    {capture : GroupCapture} (sound : s.tables.IsSound)
    (read : s.tables.getGroup group.id = .ok group)
    (new : ∀ seed ∈ group.seeds, seed.state = .notEnqueued)
    (series : Series group.id (group.seeds.map (·.id)) s attempts t)
    (ended : attempts.getLast? = some last) (succeeded : last.answer = .ok capture) :
    (∀ seed ∈ group.seeds, t.seed? seed.id = some { seed with state := .pending }) ∧
    requestsOfAll attempts = repeated (fun seed => 1 + stops attempts seed.id) group.seeds ∧
    ∃ reloaded, t.tables.getGroup group.id = .ok reloaded ∧
      ∀ log answer, (captureGroup reloaded).Runs log answer ↔
        log = [] ∧ answer = .ok ⟨0, group.seeds.length⟩ := by
  obtain ⟨listed, stored⟩ := sound.getGroup_eq_ok read
  obtain ⟨-, distinct, -⟩ := sound.group _ _ listed
  have half : Halfway group.id [] group.seeds s :=
    ⟨listed, distinct, new, fun seed here => absurd here List.not_mem_nil, stored⟩
  obtain ⟨handed, behind, whole, half', -, requests, finished⟩ := series.halfway half rfl
  obtain rfl := finished last capture ended succeeded
  obtain rfl : group.seeds = handed := whole.trans (List.append_nil handed)
  refine ⟨fun seed here => ?_, requests.trans (List.append_nil _), _, half'.read, ?_⟩
  · rw [half'.marked seed here, Seed.mark, if_pos (new seed here)]
  · exact fun _ _ => half'.captureGroup_runs_iff

/-- An attempt may be carried out while others wait. -/
theorem Series.next {members : List ShadowId} {group : SeedGroup} {attempts : List GroupAttempt}
    (handle : (call : Service.Call) → Shared → call.Answer × Shared)
    (meets : ∀ call (s : Shared), s.Meets ⟨call, (handle call s).1⟩ (handle call s).2)
    (read : s.tables.getGroup gid = .ok group)
    (rest : Series gid members ((captureGroup group).runState handle s).2 attempts t) :
    ∃ log, Series gid members s
      (⟨group, log, ((captureGroup group).runState handle s).1⟩ :: attempts) t := by
  have alone : ∀ s : Shared, s.Spares gid members s := fun _ => ⟨rfl, fun _ _ => rfl⟩
  obtain ⟨log, runs, follows⟩ :=
    exists_log (R := Amid (Shared.Spares gid members) Shared.Meets) handle
      (fun call s => ⟨s, alone s, meets call s⟩) (captureGroup group) s
  exact ⟨log, .more (alone s) read runs follows rest⟩

/-- The second seed of a group cannot be marked at first, but only when the capture is tried
again. -/
theorem retries_finish_failed_mark :
    let first : Seed := ⟨"http://a.test/", true, .notEnqueued, none, "A"⟩
    let second : Seed := ⟨"http://b.test/", true, .notEnqueued, none, "B"⟩
    let group : SeedGroup := ⟨[first, second], "G"⟩
    let s : Shared := ⟨Store.tablesAfter [.saveGroup group], .empty⟩
    ∃ stopped last t, Series "G" ["A", "B"] s [stopped, last] t ∧
      stopped.answer = .error (.groupPartiallyEnqueued 1 2 (.seed (.store (.backend "down")))) ∧
      last.answer = .ok ⟨1, 1⟩ ∧
      t.seed? "B" = some { second with state := .pending } ∧
      requestsOfAll [stopped, last] =
        repeated (fun seed => 1 + stops [stopped, last] seed.id) [first, second] := by
  intro first second group s
  have none_after : ∀ u, Series "G" ["A", "B"] u [] u := fun _ => .none ⟨rfl, fun _ _ => rfl⟩
  let halfway := ((captureGroup group).runState (Shared.serveUnmarked "B" "down") s).2
  obtain ⟨again, lastSeries⟩ := @Series.next halfway _ "G" ["A", "B"] ⟨[first.mark, second], "G"⟩ []
    (Shared.serve "" "") (fun call s => .inl (s.answers_serve "" "" call)) (by decide +kernel)
    (none_after _)
  obtain ⟨log, series⟩ := Series.next (Shared.serveUnmarked "B" "down")
    (Shared.meets_serveUnmarked "B" "down") rfl lastSeries
  obtain ⟨pending, requests, -⟩ :=
    @retries_finish s _ group _ _ ⟨1, 1⟩ (Store.isSound_after _) rfl (by decide) series rfl rfl
  exact ⟨_, _, _, series, rfl, rfl, pending second (by decide), requests⟩

end WebCapture.Concurrency
