import WebCapture.Config.Basic
import WebCapture.Json.Decoder

set_option autoImplicit false

/-! # Reading settings

Settings are written as a JSON object with a member for each of them; a member that is missing
keeps its standard value, and a member that is none of the settings is ignored. Only the settings
for repeated attempts have to be given in full, and spans of time are objects of seconds and
nanoseconds, which have no other members.

Every group of settings is read by a `Record` of its own, whose draft holds what was given. The
standard values are filled in when the draft is finished, so that a setting that was given as its
standard value is not told from one that was left out.
-/

namespace WebCapture.Config

open Json (Decoder Fault Record field)

/-! ## Spans of time -/

structure SpanDraft where
  seconds : Option Nat
  nanos : Option Nat

/-- How a span of time is read. Nanoseconds beyond a second are carried over. -/
def spanRecord : Record SpanDraft Time.Span where
  title := "struct Duration"
  listTitle := "struct Duration"
  fields := [
    field "secs" Json.word (·.seconds) (fun draft x => { draft with seconds := some x }) false,
    field "nanos" Json.halfWord (·.nanos) (fun draft x => { draft with nanos := some x }) false]
  closed := true
  draft := ⟨none, none⟩
  finish := fun draft => do
    let seconds ← Json.required "secs" draft.seconds
    let nanos ← Json.required "nanos" draft.nanos
    let total := seconds + nanos / Time.nanosPerSecond
    if total ≤ Json.maxWord then return ⟨total, nanos % Time.nanosPerSecond⟩
    else throw (.overflow "Duration")

/-! ## Groups of settings -/

structure RetryDraft where
  maxAttempts : Option Nat
  initialDelay : Option Time.Span
  maxDelay : Option Time.Span
  multiplier : Option Float

def retryRecord : Record RetryDraft Retry where
  title := "struct RetryConfig"
  listTitle := "struct RetryConfig with 4 elements"
  fields := [
    field "max_attempts" Json.size (·.maxAttempts)
      (fun draft x => { draft with maxAttempts := some x }) false,
    field "initial_delay" spanRecord.decoder (·.initialDelay)
      (fun draft x => { draft with initialDelay := some x }) false,
    field "max_delay" spanRecord.decoder (·.maxDelay)
      (fun draft x => { draft with maxDelay := some x }) false,
    field "multiplier" Json.float (·.multiplier)
      (fun draft x => { draft with multiplier := some x }) false]
  closed := false
  draft := ⟨none, none, none, none⟩
  finish := fun draft => do
    let maxAttempts ← Json.required "max_attempts" draft.maxAttempts
    let initialDelay ← Json.required "initial_delay" draft.initialDelay
    let maxDelay ← Json.required "max_delay" draft.maxDelay
    let multiplier ← Json.required "multiplier" draft.multiplier
    return ⟨maxAttempts, initialDelay, maxDelay, multiplier⟩

structure BrokerDraft where
  url : Option String
  requestKey : Option String
  resultKey : Option String
  unmatchedKey : Option String

def brokerRecord : Record BrokerDraft Broker where
  title := "struct BrokerConfig"
  listTitle := "struct BrokerConfig with 4 elements"
  fields := [
    field "url" Json.string (·.url) (fun draft x => { draft with url := some x }) true,
    field "request_key" Json.string (·.requestKey)
      (fun draft x => { draft with requestKey := some x }) true,
    field "result_key" Json.string (·.resultKey)
      (fun draft x => { draft with resultKey := some x }) true,
    field "unmatched_key" Json.string (·.unmatchedKey)
      (fun draft x => { draft with unmatchedKey := some x }) true]
  closed := false
  draft := ⟨none, none, none, none⟩
  finish := fun draft =>
    let standard := Broker.standard
    .ok ⟨draft.url.getD standard.url, draft.requestKey.getD standard.requestKey,
      draft.resultKey.getD standard.resultKey, draft.unmatchedKey.getD standard.unmatchedKey⟩

structure StoreDraft where
  url : Option (Option String)
  keyPrefix : Option String

def storeRecord : Record StoreDraft Store where
  title := "struct StoreConfig"
  listTitle := "struct StoreConfig with 2 elements"
  fields := [
    field "url" (Json.nullable Json.string) (·.url)
      (fun draft x => { draft with url := some x }) true,
    field "key_prefix" Json.string (·.keyPrefix)
      (fun draft x => { draft with keyPrefix := some x }) true]
  closed := false
  draft := ⟨none, none⟩
  finish := fun draft =>
    .ok ⟨draft.url.getD Store.standard.url, draft.keyPrefix.getD Store.standard.keyPrefix⟩

structure ListenerDraft where
  pollTimeout : Option Time.Span
  retry : Option Retry

def listenerRecord : Record ListenerDraft Listener where
  title := "struct ListenerConfig"
  listTitle := "struct ListenerConfig with 2 elements"
  fields := [
    field "poll_timeout" spanRecord.decoder (·.pollTimeout)
      (fun draft x => { draft with pollTimeout := some x }) true,
    field "retry" retryRecord.decoder (·.retry)
      (fun draft x => { draft with retry := some x }) true]
  closed := false
  draft := ⟨none, none⟩
  finish := fun draft =>
    .ok ⟨draft.pollTimeout.getD Listener.standard.pollTimeout,
      draft.retry.getD Listener.standard.retry⟩

/-! ## All settings -/

structure Draft where
  broker : Option Broker
  store : Option Store
  archiveBase : Option String
  maxUrlLength : Option Nat
  maxLines : Option Nat
  strictUrls : Option Bool
  listener : Option Listener
  metricsAddress : Option (Option String)

def settingsRecord : Record Draft Settings where
  title := "struct Config"
  listTitle := "struct Config with 8 elements"
  fields := [
    field "broker" brokerRecord.decoder (·.broker)
      (fun draft x => { draft with broker := some x }) true,
    field "store" storeRecord.decoder (·.store)
      (fun draft x => { draft with store := some x }) true,
    field "archive_base_url" Json.string (·.archiveBase)
      (fun draft x => { draft with archiveBase := some x }) true,
    field "max_url_length" Json.size (·.maxUrlLength)
      (fun draft x => { draft with maxUrlLength := some x }) true,
    field "max_lines" Json.size (·.maxLines)
      (fun draft x => { draft with maxLines := some x }) true,
    field "strict_urls" Json.boolean (·.strictUrls)
      (fun draft x => { draft with strictUrls := some x }) true,
    field "listener" listenerRecord.decoder (·.listener)
      (fun draft x => { draft with listener := some x }) true,
    field "metrics_addr" (Json.nullable Json.string) (·.metricsAddress)
      (fun draft x => { draft with metricsAddress := some x }) true]
  closed := false
  draft := ⟨none, none, none, none, none, none, none, none⟩
  finish := fun draft =>
    let standard := Settings.standard
    .ok {
      broker := draft.broker.getD standard.broker
      store := draft.store.getD standard.store
      archiveBase := draft.archiveBase.getD standard.archiveBase
      maxUrlLength := draft.maxUrlLength.getD standard.maxUrlLength
      maxLines := draft.maxLines.getD standard.maxLines
      strictUrls := draft.strictUrls.getD standard.strictUrls
      listener := draft.listener.getD standard.listener
      metricsAddress := draft.metricsAddress.getD standard.metricsAddress }

def Settings.read (text : String) : Except Fault Settings :=
  Json.decode settingsRecord.decoder (Json.Source.ofString text)

end WebCapture.Config
