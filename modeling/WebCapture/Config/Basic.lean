import WebCapture.Config.Backoff
import WebCapture.Queue.Lists
import WebCapture.Service.Submission
import WebCapture.Store.Rows

set_option autoImplicit false

/-! # Settings

The settings of the service, with the values they have where none are given. They are read from a
file (`Config/Reading`), then changed by the environment and by the command line, and then
checked.

`Settings.problem?` names the first thing that is wrong with the settings. The proofs about a
broker lean on it: settings without a problem have three lists with names, and with different
ones.
-/

namespace WebCapture.Config

structure Broker where
  url : String
  requestKey : String
  resultKey : String
  unmatchedKey : String

/-- Where seeds are kept. -/
structure Store where
  /-- The broker that keeps the seeds, if it is not that of the lists. -/
  url : Option String
  keyPrefix : String

structure Listener where
  /-- How long one poll waits; zero waits for ever. -/
  pollTimeout : Time.Span
  retry : Retry

structure Settings where
  broker : Broker
  store : Store
  archiveBase : String
  maxUrlLength : Nat
  maxLines : Nat
  strictUrls : Bool
  listener : Listener
  /-- Where counters are served, if they are. -/
  metricsAddress : Option String

def Broker.standard : Broker :=
  ⟨"redis://localhost:6379", "queue:requests", "queue:results", "queue:results:unmatched"⟩

def Broker.lists (broker : Broker) : Queue.Lists :=
  ⟨broker.requestKey, broker.resultKey, broker.unmatchedKey⟩

def Store.standard : Store := ⟨none, "capture:"⟩

def Listener.standard : Listener :=
  ⟨.ofSeconds 5, ⟨10, .ofMillis 250, .ofSeconds 30, 2.0⟩⟩

def Store.rows (store : Store) : WebCapture.Store.Rows := ⟨store.keyPrefix⟩

namespace Settings

def standard : Settings :=
  ⟨.standard, .standard, "https://wayback.webarchiv.cz/wayback/", 65536, 20, false, .standard,
    none⟩

/-- The broker that keeps the seeds. -/
def storeUrl (settings : Settings) : String := settings.store.url.getD settings.broker.url

def rules (settings : Settings) : Service.Rules :=
  ⟨settings.maxUrlLength, settings.maxLines, settings.strictUrls, settings.archiveBase⟩

/-- The settings after the environment was looked at. The address of the broker is given in
whole or by its parts. -/
def withEnvironment (settings : Settings) (lookUp : String → Option String) : Settings :=
  let url := match lookUp "BROKER_URL", lookUp "VALKEY_ADDR", lookUp "VALKEY_PORT" with
    | some url, _, _ => url
    | none, none, none => settings.broker.url
    | none, address, port =>
      "redis://" ++ address.getD "localhost" ++ ":" ++ port.getD "6379"
  { settings with
    broker := { settings.broker with url }
    archiveBase := (lookUp "ARCHIVE_BASE_URL").getD settings.archiveBase }

def problem? (settings : Settings) : Option String :=
  let broker := settings.broker
  if broker.url = "" then some "Broker URL must not be empty"
  else if broker.requestKey = "" ∨ broker.resultKey = "" then
    some "Broker list keys must not be empty"
  else if broker.unmatchedKey = "" then some "Unmatched result list key must not be empty"
  else if broker.requestKey = broker.resultKey ∨ broker.requestKey = broker.unmatchedKey ∨
      broker.resultKey = broker.unmatchedKey then
    some "Request, result and unmatched lists must be different keys"
  else if settings.store.keyPrefix = "" then some "Seed store key prefix must not be empty"
  else if settings.archiveBase.toList.getLast? ≠ some '/' then
    some "Archive base URL must end with '/'"
  else if settings.maxUrlLength = 0 then some "Max URL length must be greater than 0"
  else if settings.maxLines = 0 then some "Max lines must be greater than 0"
  else if settings.listener.retry.maxAttempts = 0 then
    some "Listener retry attempts must be greater than 0"
  else if settings.listener.retry.multiplier < 1.0 then
    some "Listener retry multiplier must be at least 1.0"
  else none

end Settings

end WebCapture.Config
