import ClusterNode.Proofs.Daemon.AggregatorMoves
import ClusterNode.Proofs.Daemon.Scans

/-!
# Who leaves the own records

A node holds records of its own instances. Mutations write them: `Daemon.ownAfter` says what
the own records are after one. The store and the aggregators leave them, and so does the
coordinator, except that it sets statuses; it also starts watchers and commands them. What
the watchers and the monitors write is the matter of `ClusterNode.Proofs.Daemon.RecordKeepers`.
-/

namespace ClusterNode

/-! ## What mutations make of records -/

namespace Instance

variable (i : Instance) (name node : String) (p : ObjectPath)

/-- A configuration that is set leaves the other records, or is deleted with them. -/
theorem mutate_setConfig (v : InstanceConfig) :
    (i.mutate name node (.setConfig p v)).1 = ⟨none, none, none⟩ ∨
      ∃ config, (i.mutate name node (.setConfig p v)).1 = { i with config } := by
  simp only [mutate]
  split
  · exact .inl rfl
  · unfold setConfig
    dsimp only
    split
    · exact .inr ⟨i.config, rfl⟩
    · exact .inr ⟨_, rfl⟩

/-- The end of a configuration is the end of the status and the monitor. -/
theorem mutate_delConfig : (i.mutate name node (.delConfig p)).1 = ⟨none, none, none⟩ := rfl

/-- A status that is set is there, and the other records stay. -/
theorem mutate_setStatus (v : InstanceStatus) :
    (i.mutate name node (.setStatus p v)).1 = { i with status := some v } := by
  simp only [mutate]
  split
  · rename_i same
    rw [← same]
  · rfl

/-- A status that is deleted is gone, and the other records stay. -/
theorem mutate_delStatus : (i.mutate name node (.delStatus p)).1 = { i with status := none } := by
  obtain ⟨config, status, monitor⟩ := i
  cases status <;> rfl

/-- A monitor that is set is there, and the other records stay. -/
theorem mutate_setMonitor (v : InstanceMonitor) :
    (i.mutate name node (.setMonitor p v)).1 = { i with monitor := some v } := by
  simp only [mutate]
  split
  · rename_i same
    rw [← same]
  · rfl

/-- A monitor that is deleted is gone, and the other records stay. -/
theorem mutate_delMonitor :
    (i.mutate name node (.delMonitor p)).1 = { i with monitor := none } := by
  obtain ⟨config, status, monitor⟩ := i
  cases monitor <;> rfl

end Instance

/-- A watcher apart from its mail. -/
def Watcher.unread (w : Watcher) : Watcher := { w with mailbox := [] }

namespace Daemon

variable {d e f : Daemon} {id : WorkerId}

/-! ## The own records -/

/-- The records that a node holds of its own instance of an object. -/
def own (d : Daemon) (key : String) : Instance := d.records d.replica.localhost key

/-- The own records after an own mutation. -/
def ownAfter (d : Daemon) (m : Mutation) (key : String) : Instance :=
  if key = m.path.toString then
    ((d.own key).mutate d.replica.status.cluster.config.name d.replica.localhost m).1
  else d.own key

/-- An own mutation does to its object what it says. -/
theorem ownAfter_self (d : Daemon) (m : Mutation) :
    d.ownAfter m m.path.toString =
      ((d.own m.path.toString).mutate d.replica.status.cluster.config.name
        d.replica.localhost m).1 :=
  if_pos rfl

/-- An own mutation leaves every other object. -/
theorem ownAfter_of_ne (d : Daemon) {m : Mutation} {key : String}
    (other : m.path.toString ≠ key) : d.ownAfter m key = d.own key :=
  if_neg (Ne.symm other)

/-- While the store is open, the own records after an own mutation are those that it says. -/
theorem own_applyLocal (isOpen : d.storeOpen = true) (m : Mutation) :
    (d.applyLocal m).1.own = d.ownAfter m := by
  have replica : (d.applyLocal m).1.replica = (d.replica.applyLocal m).1 := by
    rw [applyLocal, if_pos isOpen]
    exact congrArg Daemon.replica (commit_eq d (d.replica.applyLocal m))
  funext key
  unfold own ownAfter records
  rw [replica, Replica.applyLocal_localhost, Replica.records_applyLocal,
    ClusterStatus.records_mutate]
  simp only [Records.set, true_and]
  split
  · rename_i same
    rw [same]
    rfl
  · rfl

/-- Who leaves the subtrees leaves the own records. -/
theorem own_of_nodes (nodes : e.replica.status.nodes = d.replica.status.nodes)
    (localhost : e.replica.localhost = d.replica.localhost) : e.own = d.own := by
  funext key
  unfold own records
  rw [Replica.records_of_nodes nodes, localhost]

/-! ## What is no matter of the own records -/

/-- The workers that have to do with the own records, and how they are numbered and set up. -/
structure Workforce where
  settings : DaemonSettings
  watchers : SortedMap WorkerId Watcher
  monitors : SortedMap WorkerId Monitor
  nextWorker : WorkerId

/-- The workers of a node. -/
def workforce (d : Daemon) : Workforce := ⟨d.settings, d.watchers, d.monitors, d.nextWorker⟩

/-- The own records and the workers that have to do with them are left as they were. -/
structure Unmoved (d e : Daemon) : Prop where
  own : e.own = d.own
  workforce : e.workforce = d.workforce

/-- Where nothing happens nothing is moved. -/
theorem Unmoved.refl (d : Daemon) : Unmoved d d := ⟨rfl, rfl⟩

/-- What was left unmoved twice was left so. -/
theorem Unmoved.trans (first : Unmoved d e) (second : Unmoved e f) : Unmoved d f :=
  ⟨second.own.trans first.own, second.workforce.trans first.workforce⟩

/-- The workforce is the settings, the watchers, the monitors and the next number. -/
theorem workforce_eq_iff :
    e.workforce = d.workforce ↔ e.settings = d.settings ∧ e.watchers = d.watchers ∧
      e.monitors = d.monitors ∧ e.nextWorker = d.nextWorker := by
  simp [workforce]

/-- To take an event moves no record. -/
theorem unmoved_receive {i : Nat} {event : Event} (received : d.receive i = some (event, e)) :
    Unmoved d e := by
  obtain ⟨_, _, made⟩ := Option.map_eq_some_iff.1 received
  cases made
  exact ⟨rfl, rfl⟩

/-- Talk is no matter of the workers. -/
theorem Talks.workforce {own : List Nat} (talks : Talks own d e) : e.workforce = d.workforce := by
  obtain ⟨_, _, _, rfl⟩ := talks.rest
  rfl

/-- An own mutation leaves the workers. -/
theorem workforce_applyLocal (d : Daemon) (m : Mutation) :
    (d.applyLocal m).1.workforce = d.workforce := by
  have talks : Talks [] d (d.applyLocal m).1 := talks_applyLocal m
  exact talks.workforce

/-- To notify the coordinator moves no record. -/
theorem unmoved_notify (d : Daemon) (n : Notice) : Unmoved d (d.notify n) := by
  unfold notify
  split <;> exact ⟨rfl, rfl⟩

/-! ## Steps of the store and the aggregators -/

/-- An operation of the store that leaves the nodes moves no own record. -/
theorem unmoved_commit {result : Replica × List Publication}
    (nodes : result.1.status.nodes = d.replica.status.nodes)
    (localhost : result.1.localhost = d.replica.localhost) : Unmoved d (d.commit result) := by
  rw [commit_eq]
  exact ⟨own_of_nodes nodes localhost, rfl⟩

/-- A step of an aggregator. -/
theorem stepAggregator_unmoved {a : Aggregator} (stepped : d.stepAggregator id a = some e) :
    Unmoved d e := by
  have nothing {a' : Aggregator} : Unmoved d (d.putAggregator id a') := ⟨rfl, rfl⟩
  unfold stepAggregator at stepped
  split at stepped
  · cases stepped
    exact ⟨rfl, rfl⟩
  · cases stepped
    exact nothing
  · cases stepped
    exact nothing
  · rename_i source _
    cases stepped
    have kept : Unmoved d (d.setAggregate a.path (aggregate a.status a.monitors) source) := by
      unfold setAggregate
      split
      · exact unmoved_commit rfl rfl
      · exact .refl d
    exact kept.trans ⟨rfl, rfl⟩
  · unfold runAggregator at stepped
    split at stepped
    · cases stepped
      exact nothing
    · split at stepped
      · cases stepped
        exact nothing
      · cases stepped
        exact nothing
      · obtain ⟨⟨event, d'⟩, received, rfl⟩ := Option.map_eq_some_iff.1 stepped
        unfold nextForAggregator at received
        simp only [Option.orElse_eq_orElse, Option.orElse_eq_or, Option.or_eq_some_iff] at received
        have taken : Unmoved d d' := by
          rcases received with first | ⟨_, second | ⟨_, third | ⟨_, fourth⟩⟩⟩
          · exact unmoved_receive first
          · exact unmoved_receive second
          · exact unmoved_receive third
          · exact unmoved_receive fourth
        exact taken.trans ⟨rfl, rfl⟩
  · cases stepped
    exact nothing
  · cases stepped
    have stopped : Unmoved d (d.unsubscribe a.subscriptions.ids) := ⟨rfl, rfl⟩
    have kept : Unmoved (d.unsubscribe a.subscriptions.ids)
        ((d.unsubscribe a.subscriptions.ids).delAggregate a.path) := by
      unfold delAggregate
      split
      · refine unmoved_commit (delAggregate_frame ..).2.1 ?_
        unfold Replica.delAggregate
        split <;> rfl
      · exact .refl _
    exact (stopped.trans kept).trans ⟨rfl, rfl⟩
  · split at stepped
    · cases stepped
      exact nothing
    · split at stepped
      · cases stepped
        exact nothing.trans (unmoved_notify ..)
      · cases stepped
  · cases stepped

/-- A step of the store. -/
theorem stepStore_unmoved (stepped : d.stepStore = some e) : Unmoved d e := by
  unfold stepStore at stepped
  split at stepped
  · cases stepped
  · split at stepped
    · rename_i event d' received
      cases stepped
      have taken : Unmoved d d' := by
        rw [Option.orElse_eq_orElse, Option.orElse_eq_or] at received
        rcases Option.or_eq_some_iff.1 received with one | ⟨_, other⟩
        · exact unmoved_receive one
        · exact unmoved_receive other
      refine taken.trans ?_
      unfold heedHeartbeat
      split
      · exact ⟨own_of_nodes rfl rfl, rfl⟩
      · refine ⟨own_of_nodes ?_ ?_, rfl⟩
        · exact Replica.setMode_nodes ..
        · exact Replica.setMode_localhost ..
      · exact .refl d'
    · split at stepped
      · cases stepped
        simp only [tickStore]
        split
        · exact ⟨own_of_nodes (congrArg ClusterStatus.nodes (Replica.buildMessage_status ..))
            (Replica.buildMessage_localhost ..), rfl⟩
        · exact ⟨rfl, rfl⟩
      · cases stepped

/-! ## Steps of the coordinator -/

/-- The workers go on as they are, but for commands in the mailboxes of watchers and for
watchers that are started. -/
structure Recruits (d e : Daemon) : Prop where
  settings : e.settings = d.settings
  monitors : e.monitors = d.monitors
  nextWorker : d.nextWorker ≤ e.nextWorker
  watchers : ∀ id,
    (e.watchers.get? id).map Watcher.unread = (d.watchers.get? id).map Watcher.unread ∨
      (d.nextWorker ≤ id ∧ id < e.nextWorker ∧
        ∃ w, e.watchers.get? id = some w ∧ w.point = .starting)

/-- Where the workforce is the same the workers go on. -/
theorem recruits_of_same (same : e.workforce = d.workforce) : Recruits d e := by
  obtain ⟨settings, watchers, monitors, nextWorker⟩ := workforce_eq_iff.1 same
  exact ⟨settings, monitors, Nat.le_of_eq nextWorker.symm, fun _ => .inl (by rw [watchers])⟩

/-- Where the workers go on twice they go on. -/
theorem Recruits.trans (first : Recruits d e) (second : Recruits e f) : Recruits d f where
  settings := second.settings.trans first.settings
  monitors := second.monitors.trans first.monitors
  nextWorker := Nat.le_trans first.nextWorker second.nextWorker
  watchers id := by
    rcases second.watchers id with same | ⟨later, known, started⟩
    · rcases first.watchers id with same' | ⟨later, known, w, here, starting⟩
      · exact .inl (same.trans same')
      · rw [here, Option.map_some] at same
        obtain ⟨w', here', unread⟩ := Option.map_eq_some_iff.1 same
        refine .inr ⟨later, Nat.lt_of_lt_of_le known second.nextWorker, w', here', ?_⟩
        exact (congrArg Watcher.point unread).trans starting
    · exact .inr ⟨Nat.le_trans first.nextWorker later, known, started⟩

/-- The workers go on, and the store is left. -/
def Directed (d e : Daemon) : Prop := e.replica = d.replica ∧ Recruits d e

/-- Where the store and the workforce are the same, the workers go on and the store is left. -/
theorem directed_of_same (replica : e.replica = d.replica) (same : e.workforce = d.workforce) :
    Directed d e :=
  ⟨replica, recruits_of_same same⟩

/-- Where nothing happens the workers go on and the store is left. -/
theorem Directed.refl (d : Daemon) : Directed d d := directed_of_same rfl rfl

/-- What leaves the store twice leaves it. -/
theorem Directed.trans (first : Directed d e) (second : Directed e f) : Directed d f :=
  ⟨second.1.trans first.1, first.2.trans second.2⟩

/-- What follows without a word to the workers. -/
theorem Directed.andThen (first : Directed d e) (replica : f.replica = e.replica)
    (same : f.workforce = e.workforce) : Directed d f :=
  first.trans (directed_of_same replica same)

/-- A watcher is started under a new number. -/
theorem directed_startWatcher (d : Daemon) (p : ObjectPath) (filename : String) :
    Directed d (d.startWatcher p filename).2 := by
  have inserted {e : Daemon} {w : Watcher} (replica : e.replica = d.replica)
      (settings : e.settings = d.settings)
      (watchers : e.watchers = d.watchers.insert d.nextWorker w) (starting : w.point = .starting)
      (monitors : e.monitors = d.monitors) (nextWorker : e.nextWorker = d.nextWorker + 1) :
      Directed d e := by
    refine ⟨replica, settings, monitors, by rw [nextWorker]; exact Nat.le_succ _, fun id => ?_⟩
    rw [watchers]
    by_cases new : id = d.nextWorker
    · subst new
      exact .inr ⟨Nat.le_refl _, by rw [nextWorker]; exact Nat.lt_succ_self _, w,
        SortedMap.get?_insert_self .., starting⟩
    · exact .inl (by rw [SortedMap.get?_insert_of_ne _ _ new])
  unfold startWatcher
  cases p.isCluster <;> exact inserted rfl rfl rfl rfl rfl rfl

/-- A command changes the mailbox only. -/
theorem directed_commandWatcher (d : Daemon) (id : WorkerId) (c : WorkerCommand) :
    Directed d ((d.commandWatcher id c).getD d) := by
  cases commanded : d.commandWatcher id c with
  | none => exact .refl d
  | some e =>
    obtain ⟨w, there, posted⟩ := Option.bind_eq_some_iff.1 commanded
    obtain ⟨mailbox, _, made⟩ := Option.bind_eq_some_iff.1 posted
    cases made
    have here := (Option.filter_eq_some_iff.1 there).1
    refine ⟨rfl, rfl, rfl, Nat.le_refl _, fun k => .inl ?_⟩
    change ((d.watchers.insert id { w with mailbox }).get? k).map _ = _
    by_cases same : k = id
    · subst same
      rw [SortedMap.get?_insert_self, here]
      rfl
    · rw [SortedMap.get?_insert_of_ne _ _ same]

/-- A command for an aggregator leaves the store, and the watchers and monitors go on. -/
theorem directed_commandAggregator (d : Daemon) (id : WorkerId) (c : WorkerCommand) :
    Directed d ((d.commandAggregator id c).getD d) := by
  cases commanded : d.commandAggregator id c with
  | none => exact .refl d
  | some e =>
    obtain ⟨a, _, posted⟩ := Option.bind_eq_some_iff.1 commanded
    obtain ⟨_, _, made⟩ := Option.bind_eq_some_iff.1 posted
    cases made
    exact directed_of_same rfl rfl

/-- The workers are told to end, one after the other. -/
theorem directed_dismiss (d : Daemon) (c : Coordinator) : Directed d (d.dismiss c) := by
  have fold {command : Daemon → WorkerId → Daemon} (one : ∀ d id, Directed d (command d id))
      (ids : List WorkerId) (d : Daemon) : Directed d (ids.foldl command d) := by
    induction ids generalizing d with
    | nil => exact .refl d
    | cons id ids ih => exact (one d id).trans (ih _)
  exact (fold (fun d id => directed_commandWatcher d id .exit) c.watchers.values d).trans
    (fold (fun d id => directed_commandAggregator d id .exit) c.aggregators.values _)

/-- A scan that is applied starts watchers. -/
theorem directed_applyScan (d : Daemon) (c : Coordinator)
    (found : SortedMap ObjectPath ConfigFile) : Directed d (d.applyScan c found) := by
  have gone : Directed d (d.publishAll (goneFiles c found)) := by
    rw [publishAll_eq]
    exact directed_of_same rfl rfl
  have take (d' : Daemon) (c' : Coordinator) (p : ObjectPath) (f : ConfigFile)
      (before : Directed d d') : Directed d (d'.takeFile c' p f).1 := by
    unfold takeFile
    dsimp only
    split
    · exact before.andThen rfl rfl
    · exact before.trans (directed_startWatcher d' p f.filename)
  obtain ⟨d', c', directed, made⟩ := applyScan_files (motive := fun d' _ => Directed d d') gone
    fun d' c' p f _ _ => take d' c' p f
  rw [made]
  exact directed.andThen rfl rfl

/-- To take an event leaves the store, and the workers go on. -/
theorem directed_receive {i : Nat} {event : Event} (received : d.receive i = some (event, e)) :
    Directed d e := by
  obtain ⟨_, _, made⟩ := Option.map_eq_some_iff.1 received
  cases made
  exact directed_of_same rfl rfl

/-- The start of an aggregator leaves the store, and the watchers and monitors go on. -/
theorem directed_beginAggregator (d : Daemon) (c : Coordinator) (p : ObjectPath)
    (scope : List String) : Directed d (d.beginAggregator c p scope) :=
  ⟨rfl, rfl, rfl, Nat.le_succ _, fun _ => .inl rfl⟩

/-- To take a notice leaves the store, and the workers go on. -/
theorem directed_takeNotice (d : Daemon) (c : Coordinator) (restarts : Bool) (n : Notice) :
    Directed d (d.takeNotice c restarts n) := by
  cases n <;> simp only [takeNotice] <;> split <;>
    exact directed_of_same rfl rfl

/-- A coordinator that waits for what happens next. -/
theorem directed_runCoordinator {c : Coordinator} (stepped : d.runCoordinator c = some e) :
    Directed d e := by
  unfold runCoordinator at stepped
  split at stepped
  · cases stepped
    exact directed_of_same rfl rfl
  · split at stepped
    · rename_i n rest _
      cases stepped
      have taken : Directed d { d with notices := rest } :=
        directed_of_same rfl rfl
      exact taken.trans (directed_takeNotice ..)
    · split at stepped
      · rename_i event d' received
        cases stepped
        have taken := directed_receive received
        unfold heedConfig
        split
        · split
          · exact taken
          · exact taken.trans (directed_beginAggregator ..)
        · exact taken
      · split at stepped
        · rename_i received
          cases stepped
          exact (directed_receive received).andThen rfl rfl
        · split at stepped
          · cases stepped
            exact directed_of_same rfl rfl
          · cases stepped

/-- The coordinator sets a status. -/
theorem storing_acts {c : Coordinator} (isOpen : d.storeOpen = true) {p : ObjectPath}
    {value : InstanceStatus} {rest : List ObjectPath} (point : c.point = .storing p value rest)
    (stepped : d.stepCoordinator c = some e) :
    e.own = d.ownAfter (.setStatus p value) ∧ Recruits d e := by
  simp only [stepCoordinator, point] at stepped
  cases stepped
  exact ⟨own_applyLocal isOpen _, recruits_of_same (workforce_applyLocal d (.setStatus p value))⟩

/-- A step of the coordinator that sets no status leaves the store. -/
theorem stepCoordinator_directed {c : Coordinator} (isOpen : d.storeOpen = true)
    (silent : ∀ p value rest, c.point ≠ .storing p value rest)
    (stepped : d.stepCoordinator c = some e) : Directed d e := by
  have same {c' : Coordinator} {d' : Daemon} (replica : d'.replica = d.replica)
      (same : d'.workforce = d.workforce) : Directed d (d'.putCoordinator c') :=
    directed_of_same replica same
  unfold stepCoordinator at stepped
  split at stepped
  · cases stepped
    exact same rfl rfl
  · exact directed_runCoordinator stepped
  · split at stepped <;> cases stepped <;> exact same rfl rfl
  · cases stepped
    exact directed_applyScan ..
  · cases stepped
    exact same rfl rfl
  · cases stepped
    simp only [lookAtStatus]
    split
    · exact same rfl rfl
    · split <;> exact same rfl rfl
  · cases stepped
    unfold readStatus
    split <;> exact same rfl rfl
  · rename_i p value rest point
    exact absurd point (silent p value rest)
  · dsimp only at stepped
    rw [if_pos isOpen] at stepped
    split at stepped <;> cases stepped
    · exact same rfl rfl
    · exact directed_beginAggregator ..
  · cases stepped
    have stopped : Directed d (d.unsubscribe [c.configs, c.members]) :=
      directed_of_same rfl rfl
    exact (stopped.trans (directed_dismiss _ c)).andThen rfl rfl
  · unfold awaitWorkers at stepped
    dsimp only at stepped
    split at stepped
    · cases stepped
      exact same rfl rfl
    · split at stepped
      · rename_i n rest _
        cases stepped
        have taken : Directed d { d with notices := rest } :=
          directed_of_same rfl rfl
        exact taken.trans (directed_takeNotice ..)
      · split at stepped
        · cases stepped
          exact same rfl rfl
        · cases stepped
  · cases stepped

end Daemon

end ClusterNode
