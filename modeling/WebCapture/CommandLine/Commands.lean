import WebCapture.CommandLine.Arguments
import WebCapture.CommandLine.Task
import WebCapture.Config.Reading
import WebCapture.Json.Text
import WebCapture.Service.Health

set_option autoImplicit false

/-! # What the commands do

`Command.task` is the task of a command under given settings. Seeds and channels are kept on the
broker, so that any process can apply the results for what another one has submitted.

A task that needs the broker connects before it uses it, first for the queue and then for the
store. A task that starts the listener beside itself waits for its end before it ends itself,
unless it fails in between.
-/

namespace WebCapture.CommandLine

open Config (Settings)

namespace Task

/-! ## Connections -/

def connectQueue (settings : Settings) : Task Unit := do
  settle (fun fault => .queue (.transport fault.message))
    (← ask (.connect settings.broker.url))
  settle (fun e => .queue (Queue.ofErrorLine e)) (← ask .ping)

def connectStore (settings : Settings) : Task Unit := do
  settle (fun fault => .store (.backend fault.message))
    (← ask (.connect settings.storeUrl))

/-- Connects for both, and sets the service up. -/
def connect (settings : Settings) : Task Unit := do
  connectQueue settings
  connectStore settings
  ask (.setUp settings)

/-! ## Serving -/

/-- Makes the counters available, if that is wanted. -/
def serveCounters (settings : Settings) : Task Unit :=
  match settings.metricsAddress with
  | none => pure ()
  | some text =>
    match SocketAddress.read? text with
    | none => throw .socketAddress
    | some address => do
      ask (.serveCounters address)
      log .info ("Serving Prometheus metrics on " ++ address.text)

/-- Applies results until it is told to end, or the queue has failed too often. -/
def serve (settings : Settings) (healthInterval : Nat) : Task Unit := do
  serveCounters settings
  connect settings
  ask .startListener
  if 0 < healthInterval then ask (.watchHealth (.ofSeconds healthInterval))
  let reason ← ask .joinListener
  ask .cancel
  match reason with
  | .cancelled => pure ()
  | .queueFailed attempts error => throw (.listener attempts error)

/-! ## Submitting -/

/-- The addresses to submit: those given, and those in the file. -/
def addresses (urls : List String) (input : Option String) : Task (List String) :=
  match input with
  | none => pure urls
  | some path => do
    let found := urlsIn (← readFile path)
    log .info ("Loaded " ++ toString found.length ++ " URLs from " ++ path)
    return urls ++ found

def loadGroup (id : ShadowId) : Task SeedGroup := do
  settle .seed (← work (Service.getGroup id))

/-- How long the task rests before it looks at a group again. -/
def restBetweenLooks : Time.Span := .ofMillis 500

/-- Looks at a group until all of its seeds have ended, at most `looks` times, and no longer
than the work goes on; then takes the group as it is. -/
def awaitGroup (id : ShadowId) : Nat → Task SeedGroup
  | 0 => loadGroup id
  | looks + 1 => do
    if ← isCancelled then loadGroup id
    else
      let group ← loadGroup id
      if group.seeds.all (·.state.isTerminal) then return group
      else
        let _ ← work (Service.Work.pause restBetweenLooks)
        awaitGroup id looks

/-- How often a group can be looked at within a number of seconds. -/
def looksWithin (seconds : Nat) : Nat := seconds * 1000 / restBetweenLooks.millis

def seedLine (seed : Seed) : String :=
  "  " ++ seed.id ++ "  " ++ seed.state.name ++
    match seed.archive with
    | some archive => "  " ++ archive.url
    | none => ""

/-- Waits for the captures of a group, ends the listener, and prints what became of them. -/
def reportCaptures (id : ShadowId) (waitTimeout : Nat) : Task Unit := do
  let group ← awaitGroup id (looksWithin waitTimeout)
  ask .cancel
  match ← ask .joinListener with
  | .cancelled => pure ()
  | .queueFailed _ error => log .error ("Result listener failed: " ++ error.message)
  printAll (["", "Capture results:"] ++ group.seeds.map seedLine)

/-- Submits addresses as one group and hands them to the crawler. To wait for the captures, the
listener is started before, so that it misses no result. -/
def submit (settings : Settings) (urls : List String) (input : Option String) (wait : Bool)
    (waitTimeout : Nat) : Task Unit := do
  let urls ← addresses urls input
  connect settings
  let text := "\n".intercalate urls
  let group ← settle .seed (← work (Service.submit settings.rules text true))
  if wait then ask .startListener
  let captured ← settle .capture (← work (Service.captureGroup group))
  print ("Submitted group " ++ group.id)
  printAll (group.seeds.map fun seed => "  " ++ seed.id ++ "  " ++ seed.url)
  print ("Enqueued: " ++ toString captured.enqueued ++ ", skipped: " ++
    toString captured.skipped)
  if wait then reportCaptures group.id waitTimeout

/-! ## Telling -/

/-- Tells whether an address is admitted, and its canonical text. -/
def validateUrl (url : String) (strict : Bool) : Task Unit :=
  match Url.vet url strict with
  | .ok clean => print clean.text
  | .error refusal => do
    print ("Rejected: " ++ refusal.userMessage)
    throw (.refused refusal)

def reportLines (settings : Settings) (report : Service.Health.Report) : List String :=
  ["System Health Check", "==================", "Overall: " ++ report.overall.name,
    "Broker: " ++ report.broker.name ++ " (" ++ settings.broker.url ++ ")",
    "Backlog: " ++ report.backlog.name] ++
  match report.pending with
  | some (requests, results) =>
    ["  Pending requests: " ++ toString requests, "  Pending results: " ++ toString results]
  | none => []

def inQuotes (text : String) : String := String.ofList (Json.stringText text)

/-- The lines of a report in JSON, made at a time. -/
def reportJson (report : Service.Health.Report) (time : String) : List String :=
  let level (name : String) (level : Service.Health.Level) : String :=
    "  " ++ inQuotes name ++ ": " ++ inQuotes level.name ++ ","
  let number (name : String) (n : Option Nat) : String :=
    "  " ++ inQuotes name ++ ": " ++ (n.map fun n => toString n).getD "null" ++ ","
  ["\x7b", level "overall" report.overall, level "broker" report.broker,
    level "backlog" report.backlog, level "listener" report.listener,
    number "pending_requests" (report.pending.map (·.1)),
    number "pending_results" (report.pending.map (·.2)),
    "  " ++ inQuotes "timestamp" ++ ": " ++ inQuotes time, "\x7d"]

def health (settings : Settings) (json : Bool) : Task Unit := do
  connect settings
  let report ← work (Service.Health.check .standard false)
  if json then printAll (reportJson report (← ask .now))
  else printAll (reportLines settings report)
  if report.overall = .critical then throw .unhealthy

def settingsLines (settings : Settings) : List String := [
  "Configuration is valid:",
  "  Broker: " ++ settings.broker.url,
  "  Request list: " ++ settings.broker.requestKey,
  "  Result list: " ++ settings.broker.resultKey,
  "  Unmatched result list: " ++ settings.broker.unmatchedKey,
  "  Seed store: " ++ settings.storeUrl,
  "  Archive base URL: " ++ settings.archiveBase,
  "  Max lines per submission: " ++ toString settings.maxLines,
  "  Poll timeout: " ++ settings.listener.pollTimeout.text]

def validateConfig (path : String) : Task Unit := do
  print ("Validating configuration: " ++ path)
  let text ← readFile path
  let settings ← settle .settings (Settings.read text)
  match settings.problem? with
  | some problem => throw (.problem problem)
  | none => printAll (settingsLines settings)

end Task

def Command.task (settings : Settings) : Command → Task Unit
  | .serve healthInterval => Task.serve settings healthInterval
  | .submit urls input wait waitTimeout => Task.submit settings urls input wait waitTimeout
  | .validateUrl url strict => Task.validateUrl url (strict || settings.strictUrls)
  | .health json => Task.health settings json
  | .validateConfig path => Task.validateConfig path

end WebCapture.CommandLine
