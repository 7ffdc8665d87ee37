import ClusterNode.Proofs.Daemon.Ownership

/-!
# Steps of the store, the monitors and the aggregators

Each of these actors changes its own record, talks on the bus, and takes events from its
own subscriptions only. The inversion lemmas say so, with what becomes of the
subscriptions: an actor keeps them, or has just made them.

To the coordinator, the watchers and the configuration files such a step is no more than
what `Daemon.Bystands` says; most of what the world does is no more either.
-/

namespace ClusterNode.Daemon

variable {d e f : Daemon} {own : List Nat}

/-! ## Monitors -/

/-- A step of a monitor: it talks, and keeps its record. -/
theorem stepMonitor_cases {input : MonitorInput} {id : WorkerId} {m : Monitor}
    (here : d.monitors.get? id = some m) (stepped : d.stepMonitor input id m = some e) :
    ∃ d' m', Talks m.ids d d' ∧ e = d'.putMonitor id m' ∧ Keeps m.ids m'.ids d d' := by
  unfold stepMonitor at stepped
  split at stepped
  · cases stepped
    unfold beginMonitor
    split
    · refine ⟨_, _, (talks_subscribe ..).trans (talks_subscribe ..), rfl, ?_⟩
      intro i mine
      change i ∈ [d.bus.nextId, d.bus.nextId + 1] at mine
      change _ ∨ _ ∨ (_ ∧ i < d.bus.nextId + 1 + 1)
      simp only [List.mem_cons, List.not_mem_nil, or_false] at mine
      omega
    all_goals exact ⟨d, _, .refl _ d, rfl, .refl _⟩
  · cases stepped
    exact ⟨d, _, .refl _ d, rfl, .refl _⟩
  · cases stepped
    exact ⟨_, _, talks_applyLocal _, rfl, .refl _⟩
  · split at stepped
    · have unchanged {event : Event} {i : Nat} {d' : Daemon} (mine : i ∈ m.ids)
          (received : d.receive i = some (event, d')) :
          ∃ d'' m', Talks m.ids d d'' ∧ d' = d''.putMonitor id m' ∧ Keeps m.ids m'.ids d d'' := by
        refine ⟨d', m, talks_receive mine received, ?_, .refl _⟩
        obtain ⟨_, _, _, rfl⟩ := (talks_receive mine received).rest
        simp [putMonitor, SortedMap.insert_get? here]
      cases input with
      | ending =>
        simp only [runMonitor] at stepped
        split at stepped
        · cases stepped
          exact ⟨_, _, talks_unsubscribe fun _ mine => mine, rfl, .refl _⟩
        · cases stepped
      | request =>
        simp only [runMonitor] at stepped
        split at stepped
        · rename_i received
          cases stepped
          refine ⟨_, _, talks_receive (by simp [Monitor.ids]) received, rfl, ?_⟩
          unfold requestMonitor
          split <;> exact .refl _
        · rename_i received
          cases stepped
          exact unchanged (by simp [Monitor.ids]) received
        · cases stepped
      | config =>
        simp only [runMonitor] at stepped
        split at stepped
        · rename_i received
          cases stepped
          refine ⟨_, _, talks_receive (by simp [Monitor.ids]) received, rfl, ?_⟩
          simp only [reconfigureMonitor]
          split <;> exact .refl _
        · rename_i received
          cases stepped
          exact unchanged (by simp [Monitor.ids]) received
        · cases stepped
    · split at stepped
      · cases stepped
        exact ⟨d, _, .refl _ d, rfl, .refl _⟩
      · cases stepped
  · split at stepped
    · cases stepped
      exact ⟨d, _, .refl _ d, rfl, .refl _⟩
    · cases stepped
  · cases stepped
    exact ⟨_, _, talks_applyLocal _, rfl, .refl _⟩
  · cases stepped

/-! ## Aggregators -/

/-- What an aggregator hears next comes from one of its subscriptions. -/
theorem nextForAggregator_talks {s : AggregatorSubscriptions} {event : Event}
    (received : d.nextForAggregator s = some (event, e)) : Talks s.ids d e := by
  unfold nextForAggregator at received
  simp only [Option.orElse_eq_orElse, Option.orElse_eq_or] at received
  rcases Option.or_eq_some_iff.1 received with one | ⟨_, received⟩
  · exact talks_receive (by simp [AggregatorSubscriptions.ids]) one
  · rcases Option.or_eq_some_iff.1 received with two | ⟨_, received⟩
    · exact talks_receive (by simp [AggregatorSubscriptions.ids]) two
    · rcases Option.or_eq_some_iff.1 received with three | ⟨_, four⟩
      · exact talks_receive (by simp [AggregatorSubscriptions.ids]) three
      · exact talks_receive (by simp [AggregatorSubscriptions.ids]) four

/-- An event changes no subscription of an aggregator. -/
theorem heed_subscriptions (a : Aggregator) (event : Event) :
    (a.heed event).subscriptions = a.subscriptions := by
  unfold Aggregator.heed
  split
  all_goals first | rfl | (split <;> rfl)

/-- A step of an aggregator: it talks, keeps its record, and tells when it has ended. -/
theorem stepAggregator_cases {id : WorkerId} {a : Aggregator}
    (stepped : d.stepAggregator id a = some e) :
    ∃ d' a', Talks a.subscriptions.ids d d' ∧
      (e = d'.putAggregator id a' ∨
        e = (d'.putAggregator id a').notify (.aggregatorDone a.path id)) ∧
      Keeps a.subscriptions.ids a'.subscriptions.ids d d' := by
  unfold stepAggregator at stepped
  split at stepped
  · cases stepped
    refine ⟨_, _, ((talks_subscribe ..).trans (talks_subscribe ..)).trans
      ((talks_subscribe ..).trans (talks_subscribe ..)), .inl rfl, ?_⟩
    intro i mine
    change i ∈ [d.bus.nextId, d.bus.nextId + 1, d.bus.nextId + 1 + 1,
      d.bus.nextId + 1 + 1 + 1] at mine
    change _ ∨ _ ∨ (_ ∧ i < d.bus.nextId + 1 + 1 + 1 + 1)
    simp only [List.mem_cons, List.not_mem_nil, or_false] at mine
    omega
  · cases stepped
    exact ⟨d, _, .refl _ d, .inl rfl, .refl _⟩
  · cases stepped
    exact ⟨d, _, .refl _ d, .inl rfl, .refl _⟩
  · cases stepped
    exact ⟨_, _, talks_setAggregate .., .inl rfl, .refl _⟩
  · unfold runAggregator at stepped
    split at stepped
    · cases stepped
      exact ⟨d, _, .refl _ d, .inl rfl, .refl _⟩
    · split at stepped
      · cases stepped
        exact ⟨d, _, .refl _ d, .inl rfl, .refl _⟩
      · cases stepped
        exact ⟨d, _, .refl _ d, .inl rfl, .refl _⟩
      · obtain ⟨⟨event, d'⟩, received, rfl⟩ := Option.map_eq_some_iff.1 stepped
        refine ⟨d', _, nextForAggregator_talks received, .inl rfl, ?_⟩
        rw [heed_subscriptions]
        exact .refl _
  · cases stepped
    exact ⟨d, _, .refl _ d, .inl rfl, .refl _⟩
  · cases stepped
    exact ⟨_, _, (talks_unsubscribe fun _ mine => mine).trans (talks_delAggregate _), .inl rfl,
      .refl _⟩
  · split at stepped
    · cases stepped
      exact ⟨d, _, .refl _ d, .inl rfl, .refl _⟩
    · split at stepped
      · cases stepped
        exact ⟨d, _, .refl _ d, .inr rfl, .refl _⟩
      · cases stepped
  · cases stepped

/-! ## The store -/

/-- A step of the store: it takes what the heartbeat tells, or makes a message. -/
theorem stepStore_cases (stepped : d.stepStore = some e) :
    ∃ d' nextMessage outbox, Talks [d.streamEvents, d.modeEvents] d d' ∧
      e = { d' with nextMessage, outbox } := by
  unfold stepStore at stepped
  split at stepped
  · cases stepped
  · split at stepped
    · rename_i event d' received
      cases stepped
      have taken : Talks [d.streamEvents, d.modeEvents] d d' := by
        rw [Option.orElse_eq_orElse, Option.orElse_eq_or] at received
        rcases Option.or_eq_some_iff.1 received with one | ⟨_, other⟩
        · exact talks_receive (by simp) one
        · exact talks_receive (by simp) other
      have replica (r : Replica) :
          ∃ d'' nextMessage outbox, Talks [d.streamEvents, d.modeEvents] d d'' ∧
            { d' with replica := r } = { d'' with nextMessage, outbox } :=
        ⟨{ d' with replica := r }, d'.nextMessage, d'.outbox,
          taken.trans ⟨spares_of_bus rfl rfl, d'.bus, d'.published, r, rfl⟩, rfl⟩
      unfold heedHeartbeat
      split
      · exact replica _
      · exact replica _
      · exact ⟨d', d'.nextMessage, d'.outbox, taken, rfl⟩
    · split at stepped
      · cases stepped
        simp only [tickStore]
        split
        · exact ⟨{ d with replica := (d.replica.buildMessage d.clock).1 }, _, _,
            ⟨spares_of_bus rfl rfl, d.bus, d.published, _, rfl⟩, rfl⟩
        · exact ⟨d, _, d.outbox, .refl _ d, rfl⟩
      · cases stepped

/-! ## What the others see -/

/-- What the coordinator, the watchers and the configuration files see of a step that is
not theirs: events on the bus, and aggregators that have ended. -/
structure Bystands (own : List Nat) (d e : Daemon) : Prop where
  spares : Spares own d e
  settings : e.settings = d.settings
  configDirectory : e.configDirectory = d.configDirectory
  coordinator : e.coordinator = d.coordinator
  watchers : e.watchers = d.watchers
  nextWorker : e.nextWorker = d.nextWorker
  takesNotices : e.takesNotices = d.takesNotices
  notices : ∃ ended, e.notices = d.notices ++ ended ∧
    ∀ n ∈ ended, ∃ p id, n = Notice.aggregatorDone p id

/-- No notice is new. -/
theorem no_notices (same : e.notices = d.notices) :
    ∃ ended, e.notices = d.notices ++ ended ∧
      ∀ n ∈ ended, ∃ p id, n = Notice.aggregatorDone p id :=
  ⟨[], by rw [same, List.append_nil], fun _ new => by cases new⟩

/-- Who only talks is none of the business of the bystanders. -/
theorem Talks.bystands (talks : Talks own d e) : Bystands own d e := by
  have spares := talks.spares
  obtain ⟨_, _, _, rfl⟩ := talks.rest
  exact ⟨spares, rfl, rfl, rfl, rfl, rfl, rfl, no_notices rfl⟩

variable {id : WorkerId}

/-- A step of a monitor is no more to the others, whatever the monitor takes. -/
theorem stepMonitor_bystands {input : MonitorInput} {m : Monitor}
    (here : d.monitors.get? id = some m) (stepped : d.stepMonitor input id m = some e) :
    Bystands (d.owned (.monitor id)) d e ∧ Grants (.monitor id) d e := by
  obtain ⟨d', m', talks, rfl, keeps⟩ := stepMonitor_cases here stepped
  have own : d.owned (.monitor id) = m.ids := by simp [owned, here]
  constructor
  · rw [own]
    have bystands := talks.bystands
    exact { bystands with spares := bystands.spares.andThen rfl rfl }
  · refine talks.grantsWith rfl ?_ ?_
    · rw [own]
      simpa [owned, putMonitor] using keeps
    · intro b different i mine
      right
      cases b with
      | monitor k =>
        have other : k ≠ id := fun same => different (by rw [same])
        simpa [owned, putMonitor, SortedMap.get?_insert_of_ne _ _ other] using mine
      | _ => exact mine

/-- A step of an aggregator leaves the bystanders, and no subscription of it goes to another actor.
-/
theorem stepAggregator_bystands {a : Aggregator} (here : d.aggregators.get? id = some a)
    (stepped : d.stepAggregator id a = some e) :
    Bystands (d.owned (.aggregator id)) d e ∧ Grants (.aggregator id) d e := by
  obtain ⟨d', a', talks, ends, keeps⟩ := stepAggregator_cases stepped
  have own : d.owned (.aggregator id) = a.subscriptions.ids := by simp [owned, here]
  have bystands := talks.bystands
  have put : Bystands a.subscriptions.ids d (d'.putAggregator id a') :=
    { bystands with spares := bystands.spares.andThen rfl rfl }
  have grants : Grants (.aggregator id) d (d'.putAggregator id a') := by
    refine talks.grantsWith rfl ?_ ?_
    · rw [own]
      simpa [owned, putAggregator] using keeps
    · intro b different i mine
      right
      cases b with
      | aggregator k =>
        have other : k ≠ id := fun same => different (by rw [same])
        simpa [owned, putAggregator, SortedMap.get?_insert_of_ne _ _ other] using mine
      | _ => exact mine
  rw [own]
  rcases ends with rfl | rfl
  · exact ⟨put, grants⟩
  · unfold notify
    split
    · refine ⟨?_, ⟨grants.nextId, grants.numbered, grants.mine, grants.others⟩⟩
      obtain ⟨ended, notices, kind⟩ := put.notices
      refine { put with
        spares := put.spares.andThen rfl rfl
        notices := ⟨ended ++ [.aggregatorDone a.path id], ?_, ?_⟩ }
      · change (d'.putAggregator id a').notices ++ _ = _
        rw [notices, List.append_assoc]
      · intro n new
        rcases List.mem_append.1 new with before | last
        · exact kind n before
        · exact ⟨a.path, id, List.mem_singleton.1 last⟩
    · exact ⟨put, grants⟩

/-- A step of the store leaves the bystanders, and no subscription of it goes to another actor. -/
theorem stepStore_bystands (stepped : d.stepStore = some e) :
    Bystands (d.owned .store) d e ∧ Grants .store d e := by
  obtain ⟨d', nextMessage, outbox, talks, rfl⟩ := stepStore_cases stepped
  have bystands := talks.bystands
  constructor
  · exact { bystands with spares := bystands.spares.andThen rfl rfl }
  · have grants := talks.grants .store
    exact ⟨grants.nextId, grants.numbered, grants.mine, grants.others⟩

end ClusterNode.Daemon
