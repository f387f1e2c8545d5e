import WebCapture.Broker.Connection
import WebCapture.CommandLine.Files
import WebCapture.CommandLine.SocketAddress
import WebCapture.Json.Fault
import WebCapture.Service.Listener

set_option autoImplicit false

/-! # Tasks

A task is what a command of the program does: a program over the calls of the service, over
printing, files and connections, and over a listener that works beside it. A task can fail, and
then ends at once; what it has begun beside itself goes on.

The work of the service is a part of a task like any other: `embed` takes each call of the service
for a call of the task. What a call does is up to the surroundings, which are a desk in
`Simulation/Desk`, the terminal in `Main`, and anything that fits the calls in the proofs.
-/

namespace WebCapture.CommandLine

/-! ## Failures -/

inductive Failure where
  | file (error : FileError)
  | socketAddress
  | refused (refusal : Url.Refusal)
  | queue (error : Queue.Error)
  | store (error : Store.Error)
  | seed (error : Service.SeedError)
  | capture (error : Service.CaptureError)
  /-- The listener ended after so many failed polls. -/
  | listener (attempts : Nat) (lastError : Queue.Error)
  | unhealthy
  | settings (fault : Json.Fault)
  /-- The settings can be read, but not used. -/
  | problem (text : String)

def Failure.message : Failure → String
  | .file error => error.message
  | .socketAddress => "invalid socket address syntax"
  | .refused refusal => refusal.message
  | .queue error => error.message
  | .store error => error.message
  | .seed error => error.message
  | .capture error => error.message
  | .listener attempts error =>
    "result listener stopped after " ++ toString attempts ++ " failed polls: " ++ error.message
  | .unhealthy => "system health is critical"
  | .settings fault => fault.message
  | .problem text => text

/-! ## Calls -/

inductive LogLevel where
  | info
  | warn
  | error
  deriving DecidableEq, Repr

def LogLevel.name : LogLevel → String
  | .info => "INFO"
  | .warn => "WARN"
  | .error => "ERROR"

/-- What a task asks of its surroundings. -/
inductive Call where
  | print (line : String)
  | log (level : LogLevel) (text : String)
  /-- Write a line to where errors are written. -/
  | complain (line : String)
  | environment (name : String)
  | readFile (path : String)
  /-- The time, in writing. -/
  | now
  /-- Make the counters available at an address. -/
  | serveCounters (address : SocketAddress)
  | connect (address : String)
  | ping
  /-- Set the service up. -/
  | setUp (settings : Config.Settings)
  | service (call : Service.Call)
  /-- Look after the health of the service at intervals, beside the task. -/
  | watchHealth (every : Time.Span)
  /-- Let the listener work beside the task. -/
  | startListener
  /-- Wait until the listener has ended. -/
  | joinListener
  /-- Tell all work to end. -/
  | cancel

def Call.Answer : Call → Type
  | print _ => Unit
  | log _ _ => Unit
  | complain _ => Unit
  | environment _ => Option String
  | readFile _ => Except FileError String
  | now => String
  | serveCounters _ => Unit
  | connect _ => Except Broker.ConnectionFault Unit
  | ping => Except Broker.ErrorLine Unit
  | setUp _ => Unit
  | service call => call.Answer
  | watchHealth _ => Unit
  | startListener => Unit
  | joinListener => Service.ListenerExit
  | cancel => Unit

/-- A task, which may fail. -/
abbrev Task (α : Type) : Type := ExceptT Failure (Program Call Call.Answer) α

namespace Task

/-! ## Parts of tasks -/

def ask (call : Call) : Task call.Answer := ExceptT.lift (.call call .done)

/-- Goes on with a result, or fails. -/
def settle {ε α : Type} (failure : ε → Failure) : Except ε α → Task α
  | .ok x => pure x
  | .error e => throw (failure e)

/-- The work of the service as a program over the calls of a task. -/
def embed {α : Type} : Service.Work α → Program Call Call.Answer α
  | .done result => .done result
  | .call c next => .call (.service c) fun answer => embed (next answer)

def work {α : Type} (work : Service.Work α) : Task α := ExceptT.lift (embed work)

def print (line : String) : Task Unit := ask (.print line)

def printAll : List String → Task Unit
  | [] => pure ()
  | line :: more => do
    print line
    printAll more

def log (level : LogLevel) (text : String) : Task Unit := ask (.log level text)

def readFile (path : String) : Task String := do settle .file (← ask (.readFile path))

def isCancelled : Task Bool := work Service.Work.isCancelled

end Task

end WebCapture.CommandLine
