import WebCapture.Config.Basic
import WebCapture.Proofs.Queue.Memory
import WebCapture.Proofs.Queue.Remote

set_option autoImplicit false

/-! # The queues in memory and on the broker agree

Both queues do what a `Handover` does (`Memory.step_shows`, `Remote.step_shows`); the one on the
broker needs the keys of its three lists to be different, which the check of the settings makes
sure (`Config.Settings.hasThreeLists`). So whatever happens, both are seen to do the same, and they
hold the same payloads (`queues_agree`).
-/

namespace WebCapture

/-- The lists of a broker have names, and different ones. -/
structure Config.Broker.HasThreeLists (broker : Config.Broker) : Prop where
  requests : broker.requestKey ≠ ""
  results : broker.resultKey ≠ ""
  unmatched : broker.unmatchedKey ≠ ""
  distinct : broker.lists.AreDistinct

/-- Settings that pass the check name three lists. -/
theorem Config.Settings.hasThreeLists {settings : Config.Settings}
    (checked : settings.problem? = none) : settings.broker.HasThreeLists := by
  unfold problem? at checked
  dsimp only at checked
  -- The first check is that of the address, the next three are those of the lists.
  split at checked
  · cases checked
  split at checked
  · cases checked
  rename_i channels
  split at checked
  · cases checked
  rename_i unmatched
  split at checked
  · cases checked
  rename_i different
  simp only [not_or] at channels different
  exact ⟨channels.1, channels.2, unmatched, different.1, different.2.1, different.2.2⟩

namespace Queue

open Broker (Keyspace)

/-- What is seen of a queue in memory and of one on the broker, and where both end, when the same
happened to them. -/
structure Agree (lists : Lists) (events : List Event) (channels : Channels)
    (memory : List Sight × Memory) (remote : List Sight × Remote) : Prop where
  /-- Every event brings the same answers and leaves the consumer waiting or not. -/
  sights : memory.1 = remote.1
  /-- The lists of the broker are the channels in memory. -/
  hold : lists.Hold remote.2.keys memory.2.wakeup.channels
  waiting : memory.2.waiting = remote.2.waiting
  /-- The consumer waits only while there is no result. -/
  quiet : memory.2.waiting.isSome = true → memory.2.wakeup.channels.results = []
  /-- Every payload is handed out once, in order, or still there. -/
  accounts : Accounts events (Handover.outputs memory.1) channels memory.2.wakeup.channels

/-- **The queues agree.** -/
theorem queues_agree :
    (∀ settings : Config.Settings, settings.problem? = none → settings.broker.HasThreeLists) ∧
      ∀ (broker : Config.Broker) (keys : Keyspace) (channels : Channels),
        broker.HasThreeLists → broker.lists.Hold keys channels → ∀ events : List Event,
          Agree broker.lists events channels ((Memory.start channels).observe events)
            ((Remote.start keys).observe broker.lists events) := by
  refine ⟨fun settings => Config.Settings.hasThreeLists, ?_⟩
  intro broker keys channels three hold events
  have inMemory : (Memory.start channels).Shows ⟨channels, none⟩ := ⟨rfl, rfl, rfl⟩
  have onBroker : (Remote.start keys).Shows broker.lists ⟨channels, none⟩ :=
    ⟨hold, rfl, fun _ _ nobody => nomatch nobody⟩
  have quiet : (Handover.mk channels none).Quiet := fun nobody => nomatch nobody
  obtain ⟨seenInMemory, memory⟩ := Memory.observe_shows inMemory events
  obtain ⟨seenOnBroker, remote⟩ := Remote.observe_shows three.distinct quiet onBroker events
  refine ⟨?_, ?_, ?_, ?_, ?_⟩
  · rw [seenInMemory, seenOnBroker]
  · rw [memory.channels]
    exact remote.hold
  · rw [memory.waiting, remote.waiting]
  · rw [memory.waiting, memory.channels]
    exact Handover.observe_quiet quiet events
  · rw [seenInMemory, memory.channels]
    exact Handover.observe_accounts ⟨channels, none⟩ events

/-- On an empty broker: a consumer waits for ever until an unreadable payload comes, and then for
five seconds in which nothing comes. -/
theorem queues_agree_standard :
    Config.Broker.standard.HasThreeLists ∧ Config.Broker.standard.lists.Hold [] .empty ∧
      Agree Config.Broker.standard.lists
        [.call (.awaitResult (.ofSeconds 0)), .timeUp, .bringResult (Text.Utf8.ofString "?"),
          .call (.awaitResult (.ofSeconds 5)), .timeUp, .call .pendingResults] .empty
        ((Memory.start .empty).observe
          [.call (.awaitResult (.ofSeconds 0)), .timeUp, .bringResult (Text.Utf8.ofString "?"),
            .call (.awaitResult (.ofSeconds 5)), .timeUp, .call .pendingResults])
        ((Remote.start []).observe Config.Broker.standard.lists
          [.call (.awaitResult (.ofSeconds 0)), .timeUp, .bringResult (Text.Utf8.ofString "?"),
            .call (.awaitResult (.ofSeconds 5)), .timeUp, .call .pendingResults]) := by
  have three : Config.Broker.standard.HasThreeLists :=
    ⟨by decide, by decide, by decide, by decide, by decide, by decide⟩
  have hold : Config.Broker.standard.lists.Hold [] .empty := ⟨rfl, rfl, rfl⟩
  exact ⟨three, hold, queues_agree.2 .standard [] .empty three hold _⟩

end Queue

end WebCapture
