import WebCapture.Service.Capture
import WebCapture.Service.Health
import WebCapture.Service.Listener
import WebCapture.Simulation.World

set_option autoImplicit false

/-! # Trying the service step by step

A `Session` is a world together with the groups that submissions have returned. A `Step` is
something done in it: by a user of the service, by the crawler, by the store itself, or to the
world. `Session.perform` does a step and tells what came of it.

The groups are kept because a user may hold on to a group that was returned, whose seeds then are
as they were: a capture of such a group does not see what has become of its seeds since.
-/

namespace WebCapture.Simulation

open Text.Utf8 (Bytes)
open Service (SeedError CaptureError)

/-! ## Steps and replies

A reply tells what a user would be told, with errors as they are.
-/

inductive Step where
  | submit (text : String) (grouped : Bool)
  | submitLines (lines : List String) (grouped : Bool)
  | getSeed (id : ShadowId)
  | getGroup (id : ShadowId)
  | updateState (id : ShadowId) (state : Seed.State)
  | transition (id : ShadowId) (source target : Seed.State)
  | updateArchive (id : ShadowId) (record : Seed.CaptureRecord)
  | captureSeed (id : ShadowId)
  /-- Capture a group; with `stale` as a submission returned it, otherwise as it is now. -/
  | captureGroup (id : ShadowId) (stale : Bool)
  | process (payload : Bytes)
  /-- Run the listener until it is cancelled: from the start, after some milliseconds, or when
  nothing is left. -/
  | listen (cancelled : Bool) (cancelAfter : Option Nat)
  | health (expectListener : Bool) (thresholds : Service.Health.Thresholds)
  /-- Look after the health of the service regularly, for some milliseconds. -/
  | watch (expectListener : Bool) (thresholds : Service.Health.Thresholds) (every total : Nat)
  | setListening (running : Bool)
  | countResult (state : Seed.State)
  /-- A call of the store. -/
  | store (call : Store.Call)
  | countSeeds
  | enqueue (request : Capture.Request)
  | park (payload : Bytes)
  /-- Wait for a result; a payload may arrive after some milliseconds. -/
  | awaitResult (timeout : Time.Span) (arrival : Option (Nat × Bytes))
  | popRequest
  | push (payload : Bytes)
  | pushResult (payload : Bytes)
  | parked
  | failStore (operation : Store.Operation) (plan : Plan Store.Error)
  | failQueue (operation : Queue.Operation) (plan : Plan Queue.Error)
  | failBroker (command : String) (plan : Plan Broker.ErrorLine)
  | hook (hook : Hook)
  /-- Put keys on the broker. -/
  | load (keys : List (String × Broker.Value))

inductive Reply where
  | nothing
  | done
  | number (n : Nat)
  | truth (value : Bool)
  | seed (seed : Seed)
  | group (group : SeedGroup)
  | captured (capture : Service.GroupCapture)
  | outcome (outcome : Service.Outcome)
  | request (request : Option Capture.Request)
  | results (results : List Capture.Result)
  /-- What a wait brought, and how long it took on a clock that can be told. -/
  | awaited (result : Except Queue.Error Capture.Result) (elapsed : Option Nat)
  /-- The wait would never have ended. -/
  | blocked
  | listened (reason : Service.ListenerExit) (running : Bool) (elapsed : Option Nat)
  | health (report : Service.Health.Report)
  | watched (checks : Nat)
  | seedError (error : SeedError)
  | captureError (error : CaptureError)
  | storeError (error : Store.Error)
  | queueError (error : Queue.Error)

namespace Reply

def ofSeed {α : Type} (success : α → Reply) : Except SeedError α → Reply
  | .ok x => success x
  | .error e => .seedError e

def ofCapture {α : Type} (success : α → Reply) : Except CaptureError α → Reply
  | .ok x => success x
  | .error e => .captureError e

def ofStore {α : Type} (success : α → Reply) : Except Store.Error α → Reply
  | .ok x => success x
  | .error e => .storeError e

def ofQueue {α : Type} (success : α → Reply) : Except Queue.Error α → Reply
  | .ok x => success x
  | .error e => .queueError e

def ofStoreCall : (call : Store.Call) → call.Answer → Reply
  | .save _, answer => ofStore (fun _ => done) answer
  | .saveGroup _, answer => ofStore (fun _ => done) answer
  | .getGroup _, answer => ofStore group answer
  | .getSeed _, answer => ofStore seed answer
  | .updateState _ _, answer => ofStore (fun _ => done) answer
  | .compareAndSet _ _ _, answer => ofStore (fun _ => done) answer
  | .updateArchive _ _, answer => ofStore (fun _ => done) answer

end Reply

/-! ## Sessions -/

/-- A world, and the groups that submissions have returned in it. -/
structure Session where
  world : World
  submitted : Table ShadowId SeedGroup

namespace Session

def start (world : World) : Session := ⟨world, []⟩

def rules (session : Session) : Service.Rules := session.world.settings.rules

def carryOut {α : Type} (session : Session) (work : Service.Work α) : α × Session :=
  let (result, world) := session.world.carryOut work
  (result, { session with world })

/-- How much time has passed since `before`, if the backend lets the clock decide about it. -/
def elapsed (session : Session) (before : Nat) : Option Nat :=
  match session.world.backend with
  | .memory _ _ => some (session.world.clock - before)
  | .broker _ => none

def submit (session : Session) (work : Service.Work (Except SeedError SeedGroup)) :
    Reply × Session :=
  match session.carryOut work with
  | (.ok group, session) =>
    (.group group, { session with submitted := session.submitted.put group.id group })
  | (.error e, session) => (.seedError e, session)

def captureSeed (session : Session) (id : ShadowId) : Reply × Session :=
  match session.carryOut (Service.getSeed id) with
  | (.error e, session) => (.seedError e, session)
  | (.ok seed, session) =>
    let (result, session) := session.carryOut (Service.captureSeed seed)
    (.ofCapture (fun _ => .done) result, session)

/-- Looks a group up: as a submission returned it, if that is wanted and one did, otherwise as
the store has it. -/
def lookUp (session : Session) (id : ShadowId) (stale : Bool) :
    Except SeedError SeedGroup × Session :=
  match if stale then session.submitted.find? id else none with
  | some group => (.ok group, session)
  | none => session.carryOut (Service.getGroup id)

def captureGroup (session : Session) (id : ShadowId) (stale : Bool) : Reply × Session :=
  match session.lookUp id stale with
  | (.error e, session) => (.seedError e, session)
  | (.ok group, session) =>
    let (result, session) := session.carryOut (Service.captureGroup group)
    (.ofCapture .captured result, session)

/-- More rounds than the listener can take until nothing is left. -/
def listenerRounds (session : Session) : Nat :=
  session.world.resultsLeft + session.world.pollFaults + 3

def listen (session : Session) (cancelled : Bool) (cancelAfter : Option Nat) : Reply × Session :=
  let before := session.world.clock
  let fuel := session.listenerRounds
  let world := { session.world with
    cancelled
    ending := .beforeIdlePoll
    cancelAt := cancelAfter.map (before + ·) }
  let listener := Service.Listener.listen world.settings.listener session.rules fuel
  let (reason, world) := world.carryOut listener
  let world := { world with
    cancelled := false
    ending := .never
    cancelAt := none }
  let session := { session with world }
  match reason with
  | some reason => (.listened reason world.listening (session.elapsed before), session)
  | none => (.blocked, session)

/-- Looks after the health of the service a number of times. -/
def watch (session : Session) (expectListener : Bool) (thresholds : Service.Health.Thresholds) :
    Nat → Session
  | 0 => session
  | n + 1 =>
    (session.carryOut (Service.Health.check thresholds expectListener)).2.watch expectListener
      thresholds n

/-- Waits for a result. On a broker the wait is over at once. -/
def awaitResult (session : Session) (timeout : Time.Span) (arrival : Option (Nat × Bytes)) :
    Reply × Session :=
  let before := session.world.clock
  let arrival := arrival.map fun (delay, payload) => (before + delay, payload)
  let (result, session) :=
    { session with world := { session.world with arrival } }.carryOut
      (Service.Work.awaitResult timeout)
  let reply := if session.world.blocked then .blocked
    else .awaited result (session.elapsed before)
  let world := { session.world with blocked := false }
  let world := match arrival with
    | some (time, _) => world.passUntil time
    | none => world
  (reply, { session with world })

/-! ### The other side of the channels -/

def push (session : Session) (payload : Bytes) : Session :=
  { session with world := session.world.pushResult payload }

/-- Takes the first request off its channel, as a worker of the crawler does. -/
def popRequest (session : Session) : Reply × Session :=
  let world := session.world
  match world.backend with
  | .memory tables channels =>
    let (request, channels) := channels.popRequest
    (.ofQueue .request request,
      { session with world := { world with backend := .memory tables channels } })
  | .broker side =>
    match side.keys.pop world.settings.broker.requestKey with
    | .error e => (.queueError (Queue.ofErrorLine e), session)
    | .ok (none, _) => (.request none, session)
    | .ok (some payload, keys) =>
      let session := { session with world := { world with backend := .broker { side with keys } } }
      match Capture.Request.read payload with
      | .ok request => (.request (some request), session)
      | .error fault => (.queueError (.serialization fault.message), session)

/-- The session after keys were put on the broker. -/
def load (session : Session) (keys : List (String × Broker.Value)) : Session :=
  match session.world.backend with
  | .memory _ _ => session
  | .broker side =>
    let side := { side with keys := side.keys.putAll keys }
    { session with world := { session.world with backend := .broker side } }

/-- The session after a failure of the broker was planned. -/
def failBroker (session : Session) (command : String) (plan : Plan Broker.ErrorLine) : Session :=
  match session.world.backend with
  | .memory _ _ => session
  | .broker side =>
    let side := { side with faults := side.faults ++ [(command, plan)] }
    { session with world := { session.world with backend := .broker side } }

/-- What the store tells about the number of its seeds and of the results put aside; a broker
does not tell. -/
def tell (session : Session) (reply : Store.Tables → Queue.Channels → Reply) : Reply × Session :=
  match session.world.backend with
  | .memory tables channels => (reply tables channels, session)
  | .broker _ => (.nothing, session)

def withResult (session : Session) (payload : Bytes)
    (next : Capture.Result → Reply × Session) : Reply × Session :=
  match Queue.decodeResult payload with
  | .error e => (.queueError e, session)
  | .ok result => next result

/-! ### Steps -/

def perform (session : Session) : Step → Reply × Session
  | .submit text grouped => session.submit (Service.submit session.rules text grouped)
  | .submitLines lines grouped =>
    session.submit (Service.submitLines session.rules lines grouped)
  | .getSeed id =>
    let (result, session) := session.carryOut (Service.getSeed id)
    (.ofSeed .seed result, session)
  | .getGroup id =>
    let (result, session) := session.carryOut (Service.getGroup id)
    (.ofSeed .group result, session)
  | .updateState id state =>
    let (result, session) := session.carryOut (Service.updateState id state)
    (.ofSeed (fun _ => .done) result, session)
  | .transition id source target =>
    let (result, session) := session.carryOut (Service.transition id source target)
    (.ofSeed (fun _ => .done) result, session)
  | .updateArchive id record =>
    match Service.archiveOf session.rules record with
    | .error e => (.seedError e, session)
    | .ok archive =>
      let (result, session) := session.carryOut (Service.updateArchive id archive)
      (.ofSeed (fun _ => .done) result, session)
  | .captureSeed id => session.captureSeed id
  | .captureGroup id stale => session.captureGroup id stale
  | .process payload =>
    session.withResult payload fun result =>
      let (outcome, session) := session.carryOut (Service.processResult session.rules result)
      (.ofSeed .outcome outcome, session)
  | .listen cancelled cancelAfter => session.listen cancelled cancelAfter
  | .health expectListener thresholds =>
    let (report, session) := session.carryOut (Service.Health.check thresholds expectListener)
    (.health report, session)
  | .watch expectListener thresholds every total =>
    let checks := total / every + 1
    let session := session.watch expectListener thresholds checks
    let world := session.world.passUntil (session.world.clock + total)
    (.watched checks, { session with world })
  | .setListening running =>
    (.truth running, (session.carryOut (Service.Work.setListening running)).2)
  | .countResult state => (.nothing, (session.carryOut (Service.Work.count (.result state))).2)
  | .store call =>
    let (answer, world) := session.world.store call
    (.ofStoreCall call answer, { session with world })
  | .countSeeds => session.tell fun tables _ => .number tables.seeds.length
  | .enqueue request =>
    let (result, session) := session.carryOut (Service.Work.enqueue request)
    (.ofQueue (fun _ => .done) result, session)
  | .park payload =>
    session.withResult payload fun result =>
      let (result, session) := session.carryOut (Service.Work.park result)
      (.ofQueue (fun _ => .done) result, session)
  | .awaitResult timeout arrival => session.awaitResult timeout arrival
  | .popRequest => session.popRequest
  | .push payload => (.nothing, session.push payload)
  | .pushResult payload =>
    session.withResult payload fun result =>
      (.nothing, session.push (Queue.encodeResult result))
  | .parked => session.tell fun _ channels => .results channels.parked
  | .failStore operation plan =>
    let world := { session.world with
      storeFaults := session.world.storeFaults ++ [(operation, plan)] }
    (.nothing, { session with world })
  | .failQueue operation plan =>
    let world := { session.world with
      queueFaults := session.world.queueFaults ++ [(operation, plan)] }
    (.nothing, { session with world })
  | .failBroker command plan => (.nothing, session.failBroker command plan)
  | .hook hook =>
    let world := { session.world with hooks := session.world.hooks ++ [hook] }
    (.nothing, { session with world })
  | .load keys => (.nothing, session.load keys)

end Session

/-! ## What can be seen

A view shows the same of both backends as far as both can tell.
-/

/-- What can be seen of a world from outside. -/
structure View where
  /-- The state of every seed, and whether it is archived; a broker does not tell. -/
  states : Option (List (ShadowId × Seed.State × Bool))
  /-- How many requests, results, and results put aside there are. -/
  depths : Nat × Nat × Nat
  counters : Service.Counters
  deriving DecidableEq, Repr

def View.empty : View := ⟨none, (0, 0, 0), .zero⟩

def World.view (world : World) : View where
  states := match world.backend with
    | .memory tables _ =>
      some (tables.seeds.map fun (id, seed) => (id, seed.state, seed.archive.isSome))
    | .broker _ => none
  depths :=
    let lists := world.settings.broker
    match world.backend with
    | .memory _ channels =>
      (channels.requests.length, channels.results.length, channels.unmatched.length)
    | .broker side =>
      (side.size lists.requestKey, side.size lists.resultKey, side.size lists.unmatchedKey)
  counters := world.counters

end WebCapture.Simulation
