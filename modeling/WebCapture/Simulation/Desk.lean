import WebCapture.CommandLine.Application
import WebCapture.Service.Background
import WebCapture.Simulation.World

set_option autoImplicit false

/-! # A desk to try the program at

A `Desk` is a world with files, an environment, lines that were printed, and a crawler.
`Desk.carryOut` runs a task or the whole program.

The listener works beside the task: while the task waits for the store or the queue, the listener
makes one such call as well, and while the task rests, it takes all results that are there. This
is one of the orders in which the two can take turns. What holds for every order is proved in
`Proofs/CommandLine/Beside`.

The crawler answers requests by rules, of which the first that fits the address decides. It takes
note of a request before anything else happens.
-/

namespace WebCapture.Simulation

open Text.Utf8 (Bytes)
open CommandLine (FileError LogLevel)

/-! ## The crawler -/

/-- How the crawler answers requests for some addresses: with a result of these members, to
which the id is added. -/
structure CrawlRule where
  /-- What the address has to contain. -/
  contains : List Char
  members : List (String × List Char)
  deriving DecidableEq, Repr

def occursIn (part : List Char) : List Char → Bool
  | [] => part.isEmpty
  | c :: more => part.isPrefixOf (c :: more) || occursIn part more

/-- The result with which the crawler answers a request, by the first rule that fits. -/
def crawled (rules : List CrawlRule) (request : Capture.Request) : Option Bytes :=
  match rules.find? fun rule => occursIn rule.contains request.url.toList with
  | some rule =>
    let members := rule.members.filter fun (name, _) => name ≠ "SeedShadowID"
    let id := ("SeedShadowID", Json.stringText request.id)
    some (Text.Utf8.encode (Json.objectText (members ++ [id])))
  | none => none

/-! ## Desks -/

/-- A world with all that a task needs beside it. -/
structure Desk where
  world : World
  files : Table String Bytes
  environment : Table String String
  /-- Whether a broker answers. -/
  brokerAnswers : Bool
  /-- The channel whose requests the crawler takes note of. -/
  crawlerChannel : String
  crawler : List CrawlRule
  listener : Service.Listener.Status
  printed : List String
  logged : List (LogLevel × String)
  complaints : List String

namespace Desk

def start (world : World) : Desk where
  world := world
  files := []
  environment := []
  brokerAnswers := true
  crawlerChannel := "queue:requests"
  crawler := []
  listener := .absent
  printed := []
  logged := []
  complaints := []

/-! ### The listener -/

/-- What is left of the round of the listener, if it is at work. -/
def listenerRest? (desk : Desk) : Option (Service.Work Service.Listener.Next) :=
  desk.listener.rest? desk.world.settings.listener desk.world.settings.rules

/-- The desk when a world has come of the work of the listener, and what is left of its round. -/
def withListener (desk : Desk) : Service.Work Service.Listener.Next × World → Desk
  | (rest, world) => { desk with world, listener := .ofRest rest }

/-- Whether the listener could only poll for a result that is not there. -/
def isIdle (desk : Desk) : Bool :=
  match desk.listener with
  | .waiting _ => desk.world.resultsLeft = 0
  | _ => false

def startListener (desk : Desk) : Desk :=
  desk.withListener (desk.world.carryOutPrompt Service.Listener.opening)

/-- Lets the listener make one call of the store or the queue, unless it rests or is idle. -/
def keepPace (desk : Desk) : Desk :=
  match desk.listenerRest? with
  | none => desk
  | some rest =>
    if desk.isIdle then desk
    else
      match desk.world.carryOutPrompt rest with
      | (.call (.pause delay) next, world) => desk.withListener (.call (.pause delay) next, world)
      | (.call c next, world) =>
        let (answer, world) := world.answer c
        desk.withListener (world.carryOutPrompt (next answer))
      | (.done next, world) => desk.withListener (.done next, world)

/-- Lets the listener finish its round, or do a whole one. -/
def finishRound (desk : Desk) : Desk :=
  match desk.listenerRest? with
  | none => desk
  | some rest =>
    let (next, world) := desk.world.carryOut rest
    desk.withListener (.done next, world)

/-- Lets the listener work for at most `fuel` rounds, until it is idle. -/
def takeResults (desk : Desk) : Nat → Desk
  | 0 => desk
  | fuel + 1 => if desk.isIdle then desk else desk.finishRound.takeResults fuel

def settle (desk : Desk) : Desk :=
  desk.takeResults (desk.world.resultsLeft + desk.world.pollFaults + 2)

/-- Lets the listener work to its end, for at most `fuel` rounds. -/
def finishListener (desk : Desk) : Nat → Service.ListenerExit × Desk
  | 0 => (.cancelled, desk)
  | fuel + 1 =>
    match desk.listener with
    | .absent => (.cancelled, desk)
    | .ended reason => (reason, desk)
    | _ => desk.finishRound.finishListener fuel

/-! ### Calls -/

def crawl (desk : Desk) (request : Capture.Request) : Desk :=
  if desk.world.settings.broker.requestKey = desk.crawlerChannel then
    match crawled desk.crawler request with
    | some payload => { desk with world := desk.world.pushResult payload }.settle
    | none => desk
  else desk

/-- What comes back from a call of the service. The crawler takes note of a request before
anything else happens. -/
def service (desk : Desk) (call : Service.Call) : call.Answer × Desk :=
  match call, desk.world.answer call with
  | .queue (.enqueue request), (answer, world) =>
    let desk := { desk with world }
    match answer with
    | .ok () => (Except.ok (), desk.crawl request)
    | .error e => (Except.error e, desk)
  | _, (answer, world) => (answer, { desk with world })

/-- What comes back from a call of the service with the listener at work. -/
def serviceBeside (desk : Desk) (call : Service.Call) : call.Answer × Desk :=
  match call with
  | .pause delay => desk.settle.service (.pause delay)
  | call =>
    let (answer, desk) := desk.service call
    (answer, if call.takesTime then desk.keepPace else desk)

def connect (desk : Desk) (address : String) : Except Broker.ConnectionFault Unit :=
  match Broker.checkAddress address with
  | .error fault => .error fault
  | .ok () => if desk.brokerAnswers then .ok () else .error .refused

def ping (desk : Desk) : Except Broker.ErrorLine Unit × Desk :=
  match desk.world.backend with
  | .memory _ _ => (.ok (), desk)
  | .broker side =>
    let (answer, side) := side.reply .ping
    (answer, { desk with world := { desk.world with backend := .broker side } })

def answer (desk : Desk) : (call : CommandLine.Call) → call.Answer × Desk
  | .print line => ((), { desk with printed := desk.printed ++ [line] })
  | .log level text => ((), { desk with logged := desk.logged ++ [(level, text)] })
  | .complain line => ((), { desk with complaints := desk.complaints ++ [line] })
  | .environment name => (desk.environment.find? name, desk)
  | .readFile path => (CommandLine.textOfFile (desk.files.find? path), desk)
  | .now => ("<time>", desk)
  | .serveCounters _ => ((), desk)
  | .connect address => (desk.connect address, desk)
  | .ping => desk.ping
  | .setUp settings => ((), { desk with world := { desk.world with settings } })
  | .service call => desk.serviceBeside call
  | .watchHealth _ => ((), desk)
  | .startListener => ((), desk.startListener)
  | .joinListener => desk.finishListener (desk.world.resultsLeft + desk.world.pollFaults + 4)
  | .cancel => ((), { desk with world := { desk.world with cancelled := true } })

def carryOut {α : Type} (desk : Desk)
    (program : Program CommandLine.Call CommandLine.Call.Answer α) : α × Desk :=
  program.runState (fun call desk => desk.answer call) desk

end Desk

end WebCapture.Simulation
