import WebCapture.Broker.Dialogue
import WebCapture.Config.Basic
import WebCapture.Queue.Channels
import WebCapture.Service.Call
import WebCapture.Simulation.Faults
import WebCapture.Store.Tables

set_option autoImplicit false

/-! # A world to try the service in

A `World` answers the calls of the service one after the other: from memory or through a broker,
with a clock of its own, with failures as planned, and with interventions that play the part of
another process. `World.carryOut` runs a part of the service's work in it.

Time passes only while somebody waits. A result that is on its way arrives when the clock has come
to its moment. A listener would run for ever, so the world can be told to end it at the first poll
that finds nothing, either before that poll or after it.
-/

namespace WebCapture.Simulation

open Text.Utf8 (Bytes)
open Broker (Command ErrorLine Keyspace)

/-! ## The broker

What a broker is sent is noted, so that it can be seen afterwards. A command that is planned to
fail is not carried out.
-/

/-- A broker that notes the commands it is sent, and fails as planned. -/
structure BrokerSide where
  keys : Keyspace
  faults : Plans String ErrorLine
  /-- The commands that were sent, in their order; the loading of scripts is left out. -/
  sent : List Command

namespace BrokerSide

def note (side : BrokerSide) (command : Command) : BrokerSide :=
  match command with
  | .load _ => side
  | _ => { side with sent := side.sent ++ [command] }

def reply (side : BrokerSide) (command : Command) : command.Reply × BrokerSide :=
  let side := side.note command
  match side.faults.next command.name with
  | (some line, faults) => (.error line, { side with faults })
  | (none, faults) =>
    let (reply, keys) := side.keys.answer command
    (reply, { side with faults, keys })

def carryOut {α : Type} (side : BrokerSide) (dialogue : Broker.Dialogue α) : α × BrokerSide :=
  dialogue.runState (fun command side => side.reply command) side

def size (side : BrokerSide) (key : String) : Nat :=
  match side.keys.listAt key with
  | .ok items => items.length
  | .error _ => 0

end BrokerSide

/-! ## Worlds -/

inductive Backend where
  | memory (tables : Store.Tables) (channels : Queue.Channels)
  | broker (side : BrokerSide)

/-- An intervention: right after the next call of a kind the seed of that call is brought to a
state, as another process might do it. -/
structure Hook where
  /-- After an enqueueing; otherwise after the reading of a seed. -/
  onEnqueue : Bool
  state : Seed.State
  deriving DecidableEq, Repr

/-- When a listener is told to end. -/
inductive Ending where
  | never
  /-- Before a poll that will find nothing. -/
  | beforeIdlePoll
  /-- After a poll that found nothing. -/
  | afterIdlePoll
  deriving DecidableEq, Repr

def handle (n : Nat) : ShadowId :=
  ShadowId.ofNumbers ((List.range ShadowId.size).map fun place => n / Nat.pow 32 place)

def seedId (n : Nat) : ShadowId := handle (2 * n)

def groupId (n : Nat) : ShadowId := handle (2 * n + 1)

/-- All that the service can see of its surroundings. -/
structure World where
  settings : Config.Settings
  backend : Backend
  storeFaults : Plans Store.Operation Store.Error
  queueFaults : Plans Queue.Operation Queue.Error
  hooks : List Hook
  counters : Service.Counters
  /-- Whether the listener has said that it is running. -/
  listening : Bool
  /-- How many ids of seeds have been given out. -/
  seedIds : Nat
  /-- How many ids of groups have been given out. -/
  groupIds : Nat
  /-- The time in milliseconds. -/
  clock : Nat
  ending : Ending
  cancelled : Bool
  /-- When the work is to end, if that is planned. -/
  cancelAt : Option Nat
  /-- A payload on its way to the result channel, and when it arrives. -/
  arrival : Option (Nat × Bytes)
  /-- Whether a call waits for something that will never come. -/
  blocked : Bool

namespace World

def start (settings : Config.Settings) (backend : Backend) : World where
  settings := settings
  backend := backend
  storeFaults := []
  queueFaults := []
  hooks := []
  counters := .zero
  listening := false
  seedIds := 0
  groupIds := 0
  clock := 0
  ending := .never
  cancelled := false
  cancelAt := none
  arrival := none
  blocked := false

/-! ## The store

A call that is made to fail is not done. An intervention comes right behind the reading of a seed,
so that the reader does not see it.
-/

def storeAnswer (world : World) (call : Store.Call) : call.Answer × World :=
  match world.backend with
  | .memory tables channels =>
    let (answer, tables) := tables.answer call
    (answer, { world with backend := .memory tables channels })
  | .broker side =>
    let (answer, side) := side.carryOut (world.settings.store.rows.answer call)
    (answer, { world with backend := .broker side })

/-- Takes the first hook of a kind out of a list. -/
def takeHook (onEnqueue : Bool) : List Hook → Option Seed.State × List Hook
  | [] => (none, [])
  | hook :: more =>
    if hook.onEnqueue = onEnqueue then (some hook.state, more)
    else
      let (state, more) := takeHook onEnqueue more
      (state, hook :: more)

/-- The world after the interventions that follow a call for a seed. -/
def intervene (world : World) (onEnqueue : Bool) (id : ShadowId) : World :=
  match takeHook onEnqueue world.hooks with
  | (none, _) => world
  | (some state, hooks) => ({ world with hooks }.storeAnswer (.updateState id state)).2

def store (world : World) (call : Store.Call) : call.Answer × World :=
  match world.storeFaults.next call.operation with
  | (some error, storeFaults) => (call.failure error, { world with storeFaults })
  | (none, storeFaults) =>
    let (answer, world) := { world with storeFaults }.storeAnswer call
    match call with
    | .getSeed id => (answer, world.intervene false id)
    | _ => (answer, world)

/-! ## The queue

Time passes in polls and in pauses. A poll ends with a payload that is there, with one that
arrives in time, or with the timeout.
-/

/-- The time at which a span that begins now is over. -/
def after (world : World) (span : Time.Span) : Nat := world.clock + span.millisUp

/-- The world after a payload was pushed on the result channel. -/
def pushResult (world : World) (payload : Bytes) : World :=
  match world.backend with
  | .memory tables channels =>
    { world with backend := .memory tables (channels.pushResult payload) }
  | .broker side =>
    match side.keys.push world.settings.broker.resultKey payload with
    | .ok (_, keys) => { world with backend := .broker { side with keys } }
    | .error _ => world

/-- The world after what is on its way has arrived, if its time has come. -/
def settleArrival (world : World) : World :=
  match world.arrival with
  | some (time, payload) =>
    if time ≤ world.clock then { world with arrival := none }.pushResult payload else world
  | none => world

def passUntil (world : World) (time : Nat) : World :=
  { world with clock := max world.clock time }.settleArrival

/-- The world at the moment at which a poll ends that finds nothing now: the moment of an
arrival, or the end of the timeout. A poll without a timeout may never end. -/
def awaitArrival (world : World) (timeout : Time.Span) : World :=
  match world.arrival with
  | some (time, _) =>
    if timeout.isZero ∨ time < world.after timeout then world.passUntil time
    else world.passUntil (world.after timeout)
  | none =>
    if timeout.isZero then { world with blocked := true }
    else world.passUntil (world.after timeout)

def queueAnswer (world : World) (call : Queue.Call) : call.Answer × World :=
  match world.backend with
  | .broker side =>
    let (answer, side) := side.carryOut (world.settings.broker.lists.answer call)
    (answer, { world with backend := .broker side })
  | .memory _ channels =>
    let world := match call with
      | .awaitResult timeout =>
        if channels.results = [] then world.awaitArrival timeout else world
      | _ => world
    match world.backend with
    | .memory tables channels =>
      let (answer, channels) := channels.answer call
      (answer, { world with backend := .memory tables channels })
    | .broker _ => (call.failure .timeout, world)

def resultsLeft (world : World) : Nat :=
  match world.backend with
  | .memory _ channels => channels.results.length
  | .broker side => side.size world.settings.broker.resultKey

/-- How many polls it takes at most to use up the failures that are planned for them. -/
def pollFaults (world : World) : Nat :=
  world.queueFaults.calls .awaitResult +
    match world.backend with
    | .memory _ _ => 0
    | .broker side => side.faults.calls "BLPOP"

/-- Whether a listener is to end now, since its poll will find nothing. -/
def endsNow (world : World) : Bool := world.ending = .beforeIdlePoll ∧ world.resultsLeft = 0

def afterIdlePoll (world : World) : World :=
  if world.ending = .afterIdlePoll then { world with cancelled := true } else world

/-- What the queue answers to a call, unless it fails as planned. -/
def queueOrFault (world : World) (call : Queue.Call) : call.Answer × World :=
  match world.queueFaults.next call.operation with
  | (some error, queueFaults) => (call.failure error, { world with queueFaults })
  | (none, queueFaults) => { world with queueFaults }.queueAnswer call

/-- What a poll brings that is not made to fail. The last poll of a listener tells it to end; it
does not begin if it could never end. -/
def pollNow (world : World) (timeout : Time.Span) : Except Queue.Error Capture.Result × World :=
  if world.endsNow then
    let world := { world with cancelled := true }
    if timeout.isZero then (.error .timeout, world) else world.queueAnswer (.awaitResult timeout)
  else
    match world.queueAnswer (.awaitResult timeout) with
    | (.error .timeout, world) => (.error .timeout, world.afterIdlePoll)
    | other => other

def poll (world : World) (timeout : Time.Span) : Except Queue.Error Capture.Result × World :=
  match world.queueFaults.next .awaitResult with
  | (some error, queueFaults) => (.error error, { world with queueFaults })
  | (none, queueFaults) => { world with queueFaults }.pollNow timeout

def enqueue (world : World) (request : Capture.Request) : Except Queue.Error Unit × World :=
  match world.queueFaults.next .enqueue with
  | (some error, queueFaults) => (.error error, { world with queueFaults })
  | (none, queueFaults) =>
    let (answer, world) := { world with queueFaults }.queueAnswer (.enqueue request)
    (answer, world.intervene true request.id)

/-- What the queue answers to a call. -/
def queue (world : World) : (call : Queue.Call) → call.Answer × World
  | .enqueue request => world.enqueue request
  | .awaitResult timeout => world.poll timeout
  | .pendingRequests => world.queueOrFault .pendingRequests
  | .pendingResults => world.queueOrFault .pendingResults
  | .park result => world.queueOrFault (.park result)

/-! ## All calls -/

def isCancelled (world : World) : Bool :=
  world.cancelled || world.cancelAt.any fun time => time ≤ world.clock

/-- Waits for a span, or until the work is to end; tells whether it is. -/
def pause (world : World) (span : Time.Span) : Bool × World :=
  if world.isCancelled then (true, world)
  else
    match world.cancelAt with
    | some time =>
      if time ≤ world.after span then (true, world.passUntil time)
      else (false, world.passUntil (world.after span))
    | none => (false, world.passUntil (world.after span))

def answer (world : World) : (call : Service.Call) → call.Answer × World
  | .store call => world.store call
  | .queue call => world.queue call
  | .freshSeedId => (seedId world.seedIds, { world with seedIds := world.seedIds + 1 })
  | .freshGroupId => (groupId world.groupIds, { world with groupIds := world.groupIds + 1 })
  | .count event => ((), { world with counters := world.counters.count event })
  | .setListening listening => ((), { world with listening })
  | .isListening => (world.listening, world)
  | .isCancelled => (world.isCancelled, world)
  | .pause span => world.pause span

def carryOut {α : Type} (world : World) (work : Service.Work α) : α × World :=
  work.runState (fun call world => world.answer call) world

/-- Carries out the first calls of a part of the service's work, up to one that takes time. -/
def carryOutPrompt {α : Type} (world : World) : Service.Work α → Service.Work α × World
  | .done result => (.done result, world)
  | .call c next =>
    if c.takesTime then (.call c next, world)
    else
      let (answer, world) := world.answer c
      world.carryOutPrompt (next answer)

end World

end WebCapture.Simulation
