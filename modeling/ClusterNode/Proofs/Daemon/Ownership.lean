import ClusterNode.Proofs.Daemon.Hearing
import ClusterNode.Proofs.SortedMap

/-!
# Whose subscriptions are whose

Every subscription belongs to one actor, which alone takes events from it and ends it.
`Daemon.owned` lists the subscriptions that the record of an actor names, and
`Daemon.Apart` says that no two actors name the same one; zero stands for none.

A step gives its actor nothing but new ids, which is `Grants`, and that keeps the actors
apart.
-/

namespace ClusterNode

/-- The subscriptions of a monitor. -/
def Monitor.ids (m : Monitor) : List Nat := [m.requests, m.configs]

/-- The subscriptions of an aggregator. -/
def AggregatorSubscriptions.ids (s : AggregatorSubscriptions) : List Nat :=
  [s.status, s.monitor, s.config, s.configDeleted]

/-- The subscriptions of a watcher. -/
def WatcherSubscriptions.ids (s : WatcherSubscriptions) : List Nat :=
  [s.updated, s.removed] ++ s.cluster.toList

/-- The subscriptions of the coordinator. -/
def Coordinator.ids (c : Coordinator) : List Nat := [c.configs, c.members]

/-- The ids of the coordinator are the same if both of its subscriptions are. -/
theorem Coordinator.ids_eq_iff {c c' : Coordinator} :
    c'.ids = c.ids ↔ c'.configs = c.configs ∧ c'.members = c.members := by
  simp [ids]

namespace Daemon

/-- The subscriptions of an actor. -/
def owned (d : Daemon) : Actor → List Nat
  | .store => [d.streamEvents, d.modeEvents]
  | .coordinator => (d.coordinator.map Coordinator.ids).getD []
  | .watcher id => ((d.watchers.get? id).map fun w => w.subscriptions.ids).getD []
  | .monitor id => ((d.monitors.get? id).map Monitor.ids).getD []
  | .aggregator id => ((d.aggregators.get? id).map fun a => a.subscriptions.ids).getD []

/-- No two actors share a subscription, and none has one that was not given yet. -/
structure Apart (d : Daemon) : Prop where
  numbered : d.bus.Numbered
  given : ∀ a, ∀ i ∈ d.owned a, i < d.bus.nextId
  single : ∀ a b, ∀ i ∈ d.owned a, i ∈ d.owned b → i ≠ 0 → a = b

/-- Subscriptions that an actor had before, or that were made since. -/
def Keeps (before after : List Nat) (d e : Daemon) : Prop :=
  ∀ i ∈ after, i = 0 ∨ i ∈ before ∨ (d.bus.nextId ≤ i ∧ i < e.bus.nextId)

/-- From one state to a later one: one actor may have got new subscriptions, and every
other one has none that it did not have. -/
structure Grants (a : Actor) (d e : Daemon) : Prop where
  nextId : d.bus.nextId ≤ e.bus.nextId
  numbered : d.bus.Numbered → e.bus.Numbered
  mine : Keeps (d.owned a) (e.owned a) d e
  others : ∀ b ≠ a, ∀ i ∈ e.owned b, i = 0 ∨ i ∈ d.owned b

variable {d e f : Daemon} {own : List Nat} {a b : Actor}

/-- Who gets no subscription keeps its own. -/
theorem Keeps.refl (ids : List Nat) : Keeps ids ids d e := fun _ mine => .inr (.inl mine)

/-- Who has which subscriptions depends on the bus and on what the actors have noted alone. -/
theorem Apart.of_same (apart : d.Apart) (bus : e.bus = d.bus) (owned : e.owned = d.owned) :
    e.Apart where
  numbered := bus ▸ apart.numbered
  given := bus ▸ owned ▸ apart.given
  single := owned ▸ apart.single

/-- What is new to one actor is new to all. -/
theorem Apart.grants (apart : d.Apart) (grants : Grants a d e) : e.Apart where
  numbered := grants.numbered apart.numbered
  given b i mine := by
    have positive := (grants.numbered apart.numbered).1
    have later := grants.nextId
    by_cases same : b = a
    · subst same
      rcases grants.mine i mine with rfl | before | ⟨_, bound⟩
      · exact positive
      · exact Nat.lt_of_lt_of_le (apart.given b i before) later
      · exact bound
    · rcases grants.others b same i mine with rfl | before
      · exact positive
      · exact Nat.lt_of_lt_of_le (apart.given b i before) later
  single b b' i mine mine' nonzero := by
    -- What the actor of the step has is new, or it had it before like any other one.
    have split (c : Actor) (has : i ∈ e.owned c) :
        i ∈ d.owned c ∨ (c = a ∧ d.bus.nextId ≤ i) := by
      by_cases same : c = a
      · subst same
        rcases grants.mine i has with zero | before | ⟨new, _⟩
        · exact absurd zero nonzero
        · exact .inl before
        · exact .inr ⟨rfl, new⟩
      · rcases grants.others c same i has with zero | before
        · exact absurd zero nonzero
        · exact .inl before
    rcases split b mine with before | ⟨rfl, new⟩
    · rcases split b' mine' with before' | ⟨rfl, new'⟩
      · exact apart.single b b' i before before' nonzero
      · exact absurd (apart.given b i before) (Nat.not_lt.2 new')
    · rcases split b' mine' with before' | ⟨rfl, _⟩
      · exact absurd (apart.given b' i before') (Nat.not_lt.2 new)
      · rfl

/-- A subscription that is registered is no one else's. -/
theorem Apart.others (apart : d.Apart) {i : Nat} {s : Subscriber} (mine : i ∈ d.owned a)
    (found : d.bus.find? i = some s) (different : b ≠ a) : i ∉ d.owned b := by
  intro theirs
  have positive := (apart.numbered.2 i s found).1
  exact different (apart.single b a i theirs mine (by omega))

/-- The subscriptions of the coordinator are those that it has noted. -/
theorem owned_coordinator {c : Coordinator} (here : d.coordinator = some c) :
    d.owned .coordinator = c.ids := by
  simp [owned, here]

/-- The subscriptions of a watcher are those that it has noted. -/
theorem owned_watcher {id : WorkerId} {w : Watcher} (here : d.watchers.get? id = some w) :
    d.owned (.watcher id) = w.subscriptions.ids := by
  simp [owned, here]

/-- What the coordinator subscribed to is no one else's. -/
theorem Apart.coordinator (apart : d.Apart) {c : Coordinator} (here : d.coordinator = some c)
    (different : b ≠ .coordinator) :
    ∀ i ∈ c.ids, ∀ s, d.bus.find? i = some s → i ∉ d.owned b := by
  intro i mine s found
  rw [← owned_coordinator here] at mine
  exact apart.others mine found different

/-- What a watcher subscribed to is no one else's. -/
theorem Apart.watcher (apart : d.Apart) {id : WorkerId} {w : Watcher}
    (here : d.watchers.get? id = some w) (different : b ≠ .watcher id) :
    ∀ i ∈ w.subscriptions.ids, ∀ s, d.bus.find? i = some s → i ∉ d.owned b := by
  intro i mine s found
  rw [← owned_watcher here] at mine
  exact apart.others mine found different

/-- Talking changes no record of an actor. -/
theorem Talks.owned (talks : Talks own d e) (a : Actor) : e.owned a = d.owned a := by
  obtain ⟨_, _, _, rfl⟩ := talks.rest
  cases a <;> rfl

/-- What an actor does with its own subscriptions gives no one anything. -/
theorem Talks.grants (talks : Talks own d e) (a : Actor) : Grants a d e where
  nextId := by
    obtain ⟨_, leaves⟩ := talks.spares
    exact leaves.nextId
  numbered := by
    obtain ⟨_, leaves⟩ := talks.spares
    exact leaves.numbered
  mine := by
    rw [talks.owned]
    exact .refl _
  others b _ i mine := .inr (by rwa [talks.owned] at mine)

/-- After some talk an actor may keep its record anew, with the subscriptions that it
kept or made. -/
theorem Talks.grantsWith (talks : Talks own d e) (bus : f.bus = e.bus)
    (mine : Keeps (d.owned a) (f.owned a) d e)
    (others : ∀ b ≠ a, ∀ i ∈ f.owned b, i = 0 ∨ i ∈ e.owned b) : Grants a d f where
  nextId := by
    rw [bus]
    exact (talks.grants a).nextId
  numbered := by
    rw [bus]
    exact (talks.grants a).numbered
  mine i has := by
    rw [bus]
    exact mine i has
  others b different i has := by
    rw [← talks.owned]
    exact others b different i has

/-- A node that has just been set up has the subscriptions of its store only. -/
theorem apart_new (s : DaemonSettings) (startedAt : Timestamp) : (Daemon.new s startedAt).Apart := by
  have owned (a : Actor) (i : Nat) (mine : i ∈ (Daemon.new s startedAt).owned a) :
      a = .store ∧ (i = 1 ∨ i = 2) := by
    cases a with
    | store =>
      change i ∈ [1, 2] at mine
      simpa using mine
    | coordinator => cases mine
    | watcher id => cases mine
    | monitor id => cases mine
    | aggregator id => cases mine
  have nextId : (Daemon.new s startedAt).bus.nextId = 3 := rfl
  refine ⟨?_, ?_, ?_⟩
  · have first : Talks [] { Daemon.new s startedAt with bus := Bus.new s.busQueueSize }
        ({ Daemon.new s startedAt with bus := Bus.new s.busQueueSize }.subscribe
          .streamUpdated []).2 := talks_subscribe ..
    have second := first.trans (talks_subscribe .modeUpdated [])
    obtain ⟨_, leaves⟩ := second.spares
    exact leaves.numbered (Bus.numbered_new _)
  · intro a i mine
    rw [nextId]
    obtain ⟨_, one | two⟩ := owned a i mine <;> omega
  · intro a b i mine theirs _
    rw [(owned a i mine).1, (owned b i theirs).1]

end Daemon

end ClusterNode
