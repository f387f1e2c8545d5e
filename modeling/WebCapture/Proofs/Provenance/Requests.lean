import WebCapture.Proofs.Capture.Wire
import WebCapture.Proofs.Provenance.Broker
import WebCapture.Proofs.Provenance.System
import WebCapture.Proofs.Service.HandingOver

set_option autoImplicit false

/-! # Only validated seeds reach the crawler

Whatever callers do at the same time, over a store in memory or on the broker, every request in
the request channel names a stored seed by its address, and this address is the canonical text of
a line that was submitted and admitted; and a submission that is refused for its lines leaves no
trace: `only_validated_seeds_requested`.

The proof says once what each job may do (`IsProper`) and what it is sure of when it ends
(`work_brings`). Spelled out over a lawful keeper, a job still does no more (`spell_proper`) and
is sure of the same (`spell_brings`), though others act between its calls. From this follows that
no step takes the system out of order (`Step.inOrder`).

Groups are not looked up but handed on: a caller captures a group that some caller was brought,
and a group keeps the addresses that its seeds had when it was read. That these are the stored
ones is what `Brings` is about.
-/

namespace WebCapture.Provenance

open Program
open Concurrency (Job)
open Keeper
open Service (FailsInStore IsAdmitted IsCount Rules SeedError Work)

variable {k : Keeper} {rules : Rules} {job : Job}

/-! ## What jobs do

Every call of a job is one that the service makes in its own name: it stores seeds of admitted
lines, works on seeds that are stored, or hands over seeds that it was given.
-/

/-- A call by which a job stores seeds of admitted lines only, and requests captured seeds only. -/
def IsProper (rules : Rules) (job : Job) : Service.Call → Prop
  | .store c => ∀ seed ∈ newSeeds c, IsAdmitted rules.strict (linesOf job) seed.url
  | .queue (.enqueue request) =>
    ∃ seed ∈ captured job, request = Capture.Request.ofSeed seed
  | _ => True

theorem proper_of_submission (rules : Rules) (job : Job) {c : Service.Call}
    (h : Service.IsSubmission rules.strict (linesOf job) c) : IsProper rules job c := by
  cases c with
  | store c =>
      cases c with
      | save seeds => exact h
      | saveGroup group => exact h
      | _ => exact h.elim
  | queue c => exact h.elim
  | _ => trivial

/-- Work on one seed stores no others. -/
theorem proper_of_workOn {id : ShadowId} {c : Service.Call} (h : Service.IsWorkOn id c) :
    IsProper rules job c := by
  cases c with
  | store c =>
      cases c with
      | getSeed key => exact fun seed here => absurd here List.not_mem_nil
      | compareAndSet key expected next => exact fun seed here => absurd here List.not_mem_nil
      | updateArchive key archive => exact fun seed here => absurd here List.not_mem_nil
      | _ => exact h.elim
  | queue c => exact h.elim
  | _ => trivial

/-- To capture the seeds of the job stores no seeds, and requests no others. -/
theorem proper_of_captures {c : Service.Call} (h : Service.IsCaptureOf (captured job) c) :
    IsProper rules job c := by
  unfold Service.IsCaptureOf at h
  split at h
  · exact fun seed here => absurd here List.not_mem_nil
  · exact h
  · trivial
  · exact h.elim

/-- **Jobs store seeds of admitted lines only, and request captured seeds only.** -/
theorem work_proper (rules : Rules) (job : Job) :
    (job.work rules).Only (IsProper rules job) := by
  have onSeed : ∀ {α : Type} {work : Work α} {id : ShadowId}, work.Only (Service.IsWorkOn id) →
      work.Only (IsProper rules job) := fun h => h.mono fun _ => proper_of_workOn
  have ofCaptured : ∀ {α : Type} {work : Work α}, work.Only (Service.IsCaptureOf (captured job)) →
      work.Only (IsProper rules job) := fun h => h.mono fun _ => proper_of_captures
  cases job with
  | submit text grouped =>
      exact (Service.submit_isSubmission rules text grouped).mono fun _ =>
        proper_of_submission rules (.submit text grouped)
  | submitLines lines grouped =>
      exact (Service.submitLines_isSubmission rules lines grouped).mono fun _ =>
        proper_of_submission rules (.submitLines lines grouped)
  | getGroup id => exact ⟨fun _ here => absurd here List.not_mem_nil, fun _ => trivial⟩
  | getSeed id => exact onSeed (Service.getSeed_workOn id)
  | updateState id state => exact onSeed (Service.updateState_workOn id state)
  | transition id source target => exact onSeed (Service.transition_workOn id source target)
  | updateArchive id archive => exact onSeed (Service.updateArchive_workOn id archive)
  | captureSeed seed =>
      exact ofCaptured (Service.captureSeed_captures (List.mem_singleton_self seed))
  | captureGroup group => exact ofCaptured (Service.captureGroup_captures group)
  | processResult result => exact onSeed (Service.processResult_workOn rules result)

/-! ## What jobs are sure of

Jobs that return seeds return them as the store has told them, and what the store tells of
addresses is true.
-/

/-- What a call of the service is sure of over a lawful keeper, others having acted before. -/
def Serves (k : Keeper) (s : k.State) : Concurrency.Exchange → k.State → Prop
  | ⟨.store c, answer⟩, t => k.Keeps s t ∧ k.Tells c answer t
  | _, t => k.Keeps s t

/-- All seeds that a job brings are stored with their addresses. -/
def Brings (k : Keeper) (job : Job) (answer : job.Answer) (s : k.State) : Prop :=
  ∀ seed ∈ seedsOf job answer, k.Knows s seed

theorem storeSeeds_brings (seeds : List Seed) (grouped : Bool) (s : k.State) :
    (Service.storeSeeds seeds grouped).Ensures (Serves k)
      (fun answer t => ∀ group, answer = .ok group → ∀ seed ∈ group.seeds, k.Knows t seed) s := by
  unfold Service.storeSeeds
  split
  · rintro id t - answer u ⟨-, told⟩
    cases answer with
    | error e => exact fun group impossible => nomatch impossible
    | ok =>
        rintro group same
        cases same
        exact told rfl
  · rintro answer t ⟨-, told⟩
    cases answer with
    | error e => exact fun group impossible => nomatch impossible
    | ok =>
        rintro id u kept group same seed here
        cases same
        exact (told rfl seed here).later kept

theorem submitLines_brings (rules : Rules) (lines : List String) (grouped : Bool) (s : k.State) :
    (Service.submitLines rules lines grouped).Ensures (Serves k)
      (fun answer t => ∀ group, answer = .ok group → ∀ seed ∈ group.seeds, k.Knows t seed) s := by
  unfold Service.submitLines
  split
  · exact fun group impossible => nomatch impossible
  · split
    · rintro counted t - group impossible
      cases impossible
    · refine ensures_bind.mpr (ensures_of_forall fun seeds t => ?_)
      refine ensures_bind.mpr ((storeSeeds_brings seeds grouped t).mono fun stored u known => ?_)
      cases stored with
      | error e => exact fun group impossible => nomatch impossible
      | ok group =>
          rintro counted v kept group' same seed here
          cases same
          exact (known group rfl seed here).later kept

/-- **Whoever is brought seeds is brought them with the addresses under which they are stored.** -/
theorem work_brings (rules : Rules) (job : Job) (s : k.State) :
    (job.work rules).Ensures (Serves k) (Brings k job) s := by
  -- Most jobs bring no seeds at all.
  have nothing : ∀ {job : Job}, (∀ answer, seedsOf job answer = []) →
      (job.work rules).Ensures (Serves k) (Brings k job) s := by
    intro job none
    refine ensures_of_forall fun answer t seed here => ?_
    rw [none answer] at here
    cases here
  cases job with
  | submitLines lines grouped =>
      refine (submitLines_brings rules lines grouped s).mono fun answer t known seed here => ?_
      cases answer with
      | error e => cases here
      | ok group => exact known group rfl seed here
  | submit text grouped =>
      show (Service.submit rules text grouped).Ensures (Serves k) _ s
      unfold Service.submit
      split
      · exact fun seed here => absurd here List.not_mem_nil
      · refine (submitLines_brings rules _ grouped s).mono fun answer t known seed here => ?_
        cases answer with
        | error e => cases here
        | ok group => exact known group rfl seed here
  | getGroup id =>
      rintro answer t ⟨-, told⟩ seed here
      cases answer with
      | error e => cases here
      | ok group => exact told group rfl seed here
  | getSeed id =>
      rintro answer t ⟨-, told⟩ seed here
      cases answer with
      | error e => cases here
      | ok read =>
          cases List.mem_singleton.mp here
          exact told seed rfl
  | _ => exact nothing fun answer => rfl

/-! ## Over a keeper

The calls of the store are replaced by the calls of a keeper, of which there may be several. What
was shown of each call is now shown of all that it is carried out by.
-/

def IsProperDeed (rules : Rules) (job : Job) : k.Deed → Prop
  | .inl d => ∀ s, k.Adds (IsAdmitted rules.strict (linesOf job)) s (k.answer s d).2
  | .inr c => IsProper rules job c

def Sees (k : Keeper) (s : k.State) : Exchange k.Deed k.Reply → k.State → Prop
  | ⟨.inl d, answer⟩, t => k.Does s ⟨d, answer⟩ t
  | ⟨.inr _, _⟩, t => t = s

/-- Others act who keep what is stored, and then a caller has an exchange. -/
def Turns (k : Keeper) : k.State → Exchange k.Deed k.Reply → k.State → Prop :=
  Amid k.Keeps (Sees k)

theorem Keeper.Adds.mono {New New' : String → Prop} {s t : k.State} (h : k.Adds New s t)
    (wider : ∀ url, New url → New' url) : k.Adds New' s t where
  keeps := h.keeps
  new id url found := (h.new id url found).imp_right (wider url)

/-- **Spelled out over a lawful keeper, a job does nothing improper.** -/
theorem spell_proper (lawful : k.IsLawful) (rules : Rules) (job : Job) :
    (k.spell (job.work rules)).Only (IsProperDeed rules job) := by
  refine (work_proper rules job).expand fun c proper => ?_
  cases c with
  | store c =>
      refine (lawful.adds c).expand fun d adds => ⟨fun s => ?_, fun _ => trivial⟩
      refine (adds s).mono ?_
      rintro url ⟨seed, here, rfl⟩
      exact proper seed here
  | _ => exact ⟨proper, fun _ => trivial⟩

/-- **Spelled out over a lawful keeper, a job is sure of the same**, though others act between its
calls. -/
theorem spell_brings (lawful : k.IsLawful) (rules : Rules) (job : Job) (s : k.State) :
    (k.spell (job.work rules)).Ensures (Turns k) (Brings k job) s := by
  refine (work_brings rules job s).expand fun c s => ?_
  have kept : ∀ {c : Service.Call} {answer : c.Answer} {t : k.State},
      Turns k s ⟨.inr c, answer⟩ t → k.Keeps s t := by
    rintro c answer t ⟨u, relied, rfl⟩
    exact relied
  cases c with
  | store c => exact (lawful.carry_ensures c s).expand fun d s answer t turn => turn
  | _ => exact fun answer t turn => kept turn

/-! ## Systems in order

Order is an invariant of the whole system. For each caller it has what is left of its work, as a
program that ensures its end over the keeper; for the request channel it has every payload in it.
-/

/-- A caller that is on its way, or at its end: it has done what its job is, will bring seeds
that are stored, and captures seeds that are stored. -/
structure Caller.InOrder (rules : Rules) (s : k.State) (caller : Caller k) : Prop where
  reaches : (k.spell (caller.job.work rules)).Reaches caller.log caller.rest
  brings : caller.rest.Ensures (Turns k) (Brings k caller.job) s
  knows : ∀ seed ∈ captured caller.job, k.Knows s seed

/-- A payload is a request for a stored seed with its address. -/
def IsRequest (k : Keeper) (s : k.State) (payload : Text.Utf8.Bytes) : Prop :=
  ∃ request, Queue.decodeRequest payload = .ok request ∧
    k.url? s request.id = some request.url

/-- Every caller is in order, all addresses were admitted, and all requests are for stored seeds. -/
structure System.InOrder (rules : Rules) (s : System k) : Prop where
  callers : ∀ caller ∈ s.callers, caller.InOrder rules s.scene.keeping
  admitted : ∀ id url, k.url? s.scene.keeping id = some url →
    ∃ job ∈ s.callers.map (·.job), IsAdmitted rules.strict (linesOf job) url
  requests : ∀ payload ∈ s.scene.channels.requests, IsRequest k s.scene.keeping payload

/-- Others who keep what is stored do not take a caller out of order. -/
theorem Caller.InOrder.later {caller : Caller k} {s t : k.State} (h : caller.InOrder rules s)
    (kept : k.Keeps s t) : caller.InOrder rules t where
  reaches := h.reaches
  brings := h.brings.later kept Keeps.trans fun kept known seed here =>
    (known seed here).later kept
  knows seed here := (h.knows seed here).later kept

theorem IsRequest.later {s t : k.State} {payload : Text.Utf8.Bytes} (h : IsRequest k s payload)
    (kept : k.Keeps s t) : IsRequest k t payload := by
  obtain ⟨request, decoded, found⟩ := h
  exact ⟨request, decoded, kept _ _ found⟩

/-- What one exchange of a job does to what all use: it adds admitted addresses, and requests for
captured seeds. -/
theorem Scene.Does.effects {s t : Scene k} {deed : k.Deed} {answer : k.Reply deed}
    (h : s.Does ⟨deed, answer⟩ t) (proper : IsProperDeed rules job deed) :
    k.Adds (IsAdmitted rules.strict (linesOf job)) s.keeping t.keeping ∧
      ∀ payload ∈ t.channels.requests, payload ∈ s.channels.requests ∨
        ∃ seed ∈ captured job,
          Queue.encodeRequest (Capture.Request.ofSeed seed) = .ok payload := by
  cases deed with
  | inl d =>
      obtain ⟨done, same⟩ := h
      rw [same]
      exact ⟨done.adds (proper s.keeping), fun _ here => .inl here⟩
  | inr c =>
      have unchanged : t = s → k.Adds (IsAdmitted rules.strict (linesOf job)) s.keeping t.keeping ∧
          ∀ payload ∈ t.channels.requests, payload ∈ s.channels.requests ∨
            ∃ seed ∈ captured job,
              Queue.encodeRequest (Capture.Request.ofSeed seed) = .ok payload := by
        rintro rfl
        exact ⟨.refl t.keeping, fun _ here => .inl here⟩
      cases c with
      | queue c =>
          obtain ⟨same, changed⟩ := h
          rw [same]
          refine ⟨.refl s.keeping, fun payload here => ?_⟩
          -- The channels are as they were, or the call was done.
          have cases : t.channels = s.channels ∨ t.channels = (s.channels.answer c).2 := by
            rcases changed with ⟨-, done⟩ | ⟨-, old | done⟩
            · exact .inr done
            · exact .inl old
            · exact .inr done
          rcases cases with old | done
          · exact .inl (old ▸ here)
          · rw [done] at here
            cases c with
            | enqueue request =>
                obtain ⟨seed, among, rfl⟩ := proper
                simp only [Queue.Channels.answer] at here
                split at here
                · exact .inl here
                · rename_i encoding encoded
                  rcases List.mem_append.mp here with old | new
                  · exact .inl old
                  · rw [List.mem_singleton.mp new]
                    exact .inr ⟨seed, among, encoded⟩
            | awaitResult timeout =>
                simp only [Queue.Channels.answer, Queue.Channels.takeResult] at here
                split at here <;> exact .inl here
            | pendingRequests => exact .inl here
            | pendingResults => exact .inl here
            | park result => exact .inl here
      | _ => exact unchanged h

/-- A request for a known seed is one for a stored seed. -/
theorem isRequest_of_knows {s : k.State} {seed : Seed} {payload : Text.Utf8.Bytes}
    (known : k.Knows s seed)
    (encoded : Queue.encodeRequest (Capture.Request.ofSeed seed) = .ok payload) :
    IsRequest k s payload :=
  ⟨Capture.Request.ofSeed seed, Capture.decodeRequest_of_encodeRequest encoded, known⟩

/-- Seeds that were handed out are stored. -/
theorem System.InOrder.knows_of_handsOut {s : System k} (order : s.InOrder rules) {seed : Seed}
    (h : s.HandsOut seed) : k.Knows s.scene.keeping seed := by
  obtain ⟨caller, here, answer, ended, brought⟩ := h
  have brings := (order.callers caller here).brings
  rw [ended] at brings
  exact brings seed brought

/-- To begin a job that is permitted keeps the system in order. -/
theorem System.InOrder.begin (lawful : k.IsLawful) {s : System k} (order : s.InOrder rules)
    (known : ∀ seed ∈ captured job, s.HandsOut seed) :
    System.InOrder rules
      { s with callers := s.callers ++ [⟨job, [], k.spell (job.work rules)⟩] } where
  callers caller here := by
    rcases List.mem_append.mp here with old | new
    · exact order.callers caller old
    · rw [List.mem_singleton.mp new]
      exact ⟨rfl, spell_brings lawful rules job _, fun seed among =>
        order.knows_of_handsOut (known seed among)⟩
  admitted id url found := by
    obtain ⟨job', here, admitted⟩ := order.admitted id url found
    refine ⟨job', ?_, admitted⟩
    rw [List.map_append]
    exact List.mem_append_left _ here
  requests := order.requests

/-- An exchange keeps the system in order. -/
theorem System.InOrder.exchange (lawful : k.IsLawful) {s : System k} (order : s.InOrder rules)
    {n : Nat} {log : List (Exchange k.Deed k.Reply)} {deed : k.Deed}
    {next : k.Reply deed → k.Plan job.Answer} {answer : k.Reply deed} {scene : Scene k}
    (turn : s.callers[n]? = some ⟨job, log, .call deed next⟩)
    (done : s.scene.Does ⟨deed, answer⟩ scene) :
    System.InOrder rules
      ⟨scene, s.callers.set n ⟨job, log ++ [⟨deed, answer⟩], next answer⟩⟩ := by
  have own := order.callers _ (List.mem_of_getElem? turn)
  have proper : IsProperDeed rules job deed := (own.reaches.only (spell_proper lawful rules job)).1
  obtain ⟨adds, requests⟩ := done.effects proper
  -- What is left of the job relies on others only to keep what is stored, and nobody came between.
  have goesOn : (next answer).Ensures (Turns k) (Brings k job) scene.keeping := by
    refine own.brings answer scene.keeping ⟨s.scene.keeping, .refl _, ?_⟩
    cases deed with
    | inl d => exact done.1
    | inr c =>
        cases c with
        | queue c => exact done.1
        | _ => exact congrArg Scene.keeping done
  -- The caller has still got its job, so no line that was submitted is lost.
  have jobs : (s.callers.set n ⟨job, log ++ [⟨deed, answer⟩], next answer⟩).map (·.job)
      = s.callers.map (·.job) := by
    have listed : (s.callers.map (·.job))[n]? = some job := by
      rw [List.getElem?_map, turn]
      rfl
    obtain ⟨here, there⟩ := List.getElem?_eq_some_iff.mp listed
    calc (s.callers.set n ⟨job, log ++ [⟨deed, answer⟩], next answer⟩).map (·.job)
        = (s.callers.map (·.job)).set n job := List.map_set
      _ = (s.callers.map (·.job)).set n (s.callers.map (·.job))[n] := by rw [there]
      _ = s.callers.map (·.job) := List.set_getElem_self here
  refine ⟨fun caller here => ?_, fun id url found => ?_, fun payload here => ?_⟩
  · rcases List.mem_or_eq_of_mem_set here with other | rfl
    · exact (order.callers caller other).later adds.keeps
    · exact ⟨own.reaches.snoc answer, goesOn, fun seed among =>
        (own.knows seed among).later adds.keeps⟩
  · rw [jobs]
    rcases adds.new id url found with old | new
    · exact order.admitted id url old
    · exact ⟨job, List.mem_map.mpr ⟨_, List.mem_of_getElem? turn, rfl⟩, new⟩
  · rcases requests payload here with old | ⟨seed, among, encoded⟩
    · exact (order.requests payload old).later adds.keeps
    · exact isRequest_of_knows ((own.knows seed among).later adds.keeps) encoded

/-- **No step takes the system out of order.** -/
theorem Step.inOrder (lawful : k.IsLawful) {s t : System k} (order : s.InOrder rules)
    (step : Step k rules s t) : t.InOrder rules := by
  cases step with
  | begin job known => exact order.begin lawful known
  | exchange turn done => exact order.exchange lawful turn done
  | takeRequest =>
      -- The requests that stay in the channel were there before.
      refine ⟨order.callers, order.admitted, fun payload here => ?_⟩
      refine order.requests payload ?_
      simp only [Queue.Channels.popRequest] at here
      split at here
      · exact here
      · rename_i first more waiting
        rw [waiting]
        exact List.mem_cons_of_mem first here
  | pushResult payload => exact ⟨order.callers, order.admitted, order.requests⟩

theorem Reachable.inOrder (lawful : k.IsLawful) {s : System k} (reached : Reachable k rules s) :
    s.InOrder rules := by
  induction reached with
  | start =>
      refine ⟨fun caller here => ?_, fun id url found => ?_, fun payload here => ?_⟩
      · cases here
      · exact nomatch (lawful.empty id).symm.trans found
      · cases here
  | step reached step ih => exact step.inOrder lawful ih

/-! ## Refused submissions -/

def IsCountDeed : k.Deed → Prop
  | .inl _ => False
  | .inr c => IsCount c

/-- A submission that was refused for its lines has only counted. -/
theorem counts_of_refusal {log : List (Exchange k.Deed k.Reply)} {answer : job.Answer}
    (runs : (k.spell (job.work rules)).Runs log answer) {e : SeedError}
    (refused : refusal? job answer = some e) (input : ∀ reason, e ≠ .store reason) :
    ∀ x ∈ log, IsCountDeed x.call := by
  -- It did nothing but count, or only the store could fail it.
  have only : ∀ {work : Work (Except SeedError SeedGroup)},
      work.Only IsCount ∨ FailsInStore work → (k.spell work).Runs log (.error e) →
        ∀ x ∈ log, IsCountDeed x.call := by
    intro work either runs
    rcases either with counts | fails
    · refine runs.only (counts.expand fun c count => ?_)
      cases c with
      | store c => exact count.elim
      | _ => exact ⟨count, fun _ => trivial⟩
    · obtain ⟨log', runs'⟩ := runs_of_expand runs
      obtain ⟨reason, same⟩ := fails log' e runs'
      exact absurd same (input reason)
  cases job with
  | submit text grouped =>
      cases answer with
      | ok group => cases refused
      | error e' =>
          cases refused
          exact only (Service.submit_refused_or_stored rules text grouped) runs
  | submitLines lines grouped =>
      cases answer with
      | ok group => cases refused
      | error e' =>
          cases refused
          exact only (Service.submitLines_refused_or_stored rules lines grouped) runs
  | _ => cases refused

/-! ## Only validated seeds reach the crawler -/

inductive Storage where
  | memory
  | broker (rows : Store.Rows)

def Storage.keeper : Storage → Keeper
  | memory => Provenance.memory
  | broker rows => Provenance.broker rows

theorem Storage.isLawful (storage : Storage) : storage.keeper.IsLawful := by
  cases storage with
  | memory => exact memory_isLawful
  | broker rows => exact broker_isLawful rows

/-- **Only validated, persisted seeds reach the crawler.** Over either store, however the calls
of any callers are interleaved, whichever of them fail, with or without effect, and whoever goes
no further, as long as seeds are captured only after they were handed out: every payload in the
request channel decodes to a request that names a stored seed and has its address, and this
address is the canonical text of an admitted line of some submission. A submission that ended
with an error which is none of the store has made no call of the store or of the queue. -/
theorem only_validated_seeds_requested (storage : Storage) (rules : Rules)
    {s : System storage.keeper} (reached : Reachable storage.keeper rules s) :
    (∀ payload ∈ s.scene.channels.requests, ∃ request,
      Queue.decodeRequest payload = .ok request ∧
      storage.keeper.url? s.scene.keeping request.id = some request.url ∧
      ∃ caller ∈ s.callers, ∃ line ∈ linesOf caller.job, ∃ clean,
        Url.vet line rules.strict = .ok clean ∧ request.url = clean.text) ∧
    ∀ caller ∈ s.callers, ∀ answer e, caller.rest = .done answer →
      refusal? caller.job answer = some e → (∀ reason, e ≠ .store reason) →
      ∀ x ∈ caller.log, ∃ event, x.call = .inr (.count event) := by
  have order := reached.inOrder storage.isLawful
  refine ⟨fun payload here => ?_, fun caller here answer e ended refused input x among => ?_⟩
  · obtain ⟨request, decoded, found⟩ := order.requests payload here
    obtain ⟨job, listed, line, submitted, clean, vetted, same⟩ := order.admitted _ _ found
    obtain ⟨caller, there, rfl⟩ := List.mem_map.mp listed
    exact ⟨request, decoded, found, caller, there, line, submitted, clean, vetted, same.symm⟩
  · have reaches := (order.callers caller here).reaches
    rw [ended] at reaches
    have ends : (Program.done answer : storage.keeper.Plan caller.job.Answer).Runs [] answer :=
      ⟨rfl, rfl⟩
    have runs := reaches.runs ends
    rw [List.append_nil] at runs
    have counts := counts_of_refusal runs refused input x among
    obtain ⟨deed, reply⟩ := x
    cases deed with
    | inl d => exact counts.elim
    | inr c =>
        cases c with
        | count event => exact ⟨event, rfl⟩
        | _ => exact counts.elim

/-- A group is stored on the broker and captured, and its request is found in the channel. -/
theorem only_validated_seeds_requested_captured_group :
    let storage : Storage := .broker ⟨"web:"⟩
    let request : Capture.Request := ⟨"http://a.test", "A", .notEnqueued⟩
    ∃ s : System storage.keeper,
      Reachable storage.keeper ⟨100, 10, true, "https://archive.test/"⟩ s ∧
      s.scene.channels.requests = [Text.Utf8.ofString request.text] ∧
      ∃ found, Queue.decodeRequest (Text.Utf8.ofString request.text) = .ok found ∧
        storage.keeper.url? s.scene.keeping found.id = some found.url ∧
        ∃ caller ∈ s.callers, ∃ line ∈ linesOf caller.job, ∃ clean,
          Url.vet line true = .ok clean ∧ found.url = clean.text := by
  intro storage request
  obtain ⟨log, submitted⟩ := Reachable.start.alone "A" "G" (.submitLines ["http://a.test"] true)
    fun _ here => absurd here List.not_mem_nil
  -- The seed of the group was handed out by the submission.
  have brought : (⟨"http://a.test", true, .notEnqueued, none, "A"⟩ : Seed) ∈
      seedsOf (.submitLines ["http://a.test"] true)
        (Scene.alone ⟨100, 10, true, "https://archive.test/"⟩ "A" "G"
          (.submitLines ["http://a.test"] true)
          (⟨[], .empty⟩ : Scene (Storage.broker ⟨"web:"⟩).keeper)).1 := by
    decide +kernel
  obtain ⟨log', captured⟩ := submitted.alone "" ""
    (.captureGroup ⟨[⟨"http://a.test", true, .notEnqueued, none, "A"⟩], "G"⟩) fun seed here => by
      cases List.mem_singleton.mp here
      exact ⟨_, List.mem_cons_self, _, rfl, brought⟩
  have channel : (Scene.alone ⟨100, 10, true, "https://archive.test/"⟩ "" ""
      (.captureGroup ⟨[⟨"http://a.test", true, .notEnqueued, none, "A"⟩], "G"⟩)
      (Scene.alone ⟨100, 10, true, "https://archive.test/"⟩ "A" "G"
        (.submitLines ["http://a.test"] true)
        (⟨[], .empty⟩ : Scene (Storage.broker ⟨"web:"⟩).keeper)).2).2.channels.requests
      = [Text.Utf8.ofString (⟨"http://a.test", "A", .notEnqueued⟩ : Capture.Request).text] := by
    decide +kernel
  refine ⟨_, captured, channel, ?_⟩
  exact (only_validated_seeds_requested storage _ captured).1 _ (channel ▸ List.mem_cons_self)

end WebCapture.Provenance
