import ClusterNode.Proofs.Daemon.RecordKeepers
import ClusterNode.Proofs.Daemon.Upkeep

/-!
# What is left of an object without a watcher

The records of the own instance of an object are kept by its watcher and its monitor. When
no watcher is about to begin or to end, a configuration or a monitor is there only while a
watcher of the object runs (`Fed.own_records`).

A status is different, because the coordinator sets it: it looks at the status files of all
objects whose watchers it knows, and it knows a watcher before the first check has passed
and until the notice of the end is taken. A status that is taken while the watcher has not
published anything, or has deleted the status already, is deleted by no one. `Stray` follows
such a status through a run, and there is nothing else without a watcher;
`stray_of_unnamed` is a run that leaves one.
-/

namespace ClusterNode

/-- Whether the coordinator is about to set the status of an object. -/
def CoordinatorPoint.stores (key : String) : CoordinatorPoint → Bool
  | .storing p _ _ => p.toString == key
  | _ => false

namespace Daemon

variable {key : String} {d e : Daemon}

/-! ## Watchers of an object -/

/-- An object has a watcher that passes a test. -/
def HasWatcher (key : String) (P : Watcher → Prop) (d : Daemon) : Prop :=
  ∃ id w, d.watchers.get? id = some w ∧ w.path.toString = key ∧ P w

instance (key : String) (P : Watcher → Prop) [DecidablePred P] (d : Daemon) :
    Decidable (HasWatcher key P d) :=
  decidable_of_iff (∃ x ∈ d.watchers.entries, x.2.path.toString = key ∧ P x.2) <| by
    constructor
    · rintro ⟨⟨id, w⟩, member, passes⟩
      exact ⟨id, w, SortedMap.get?_eq_some_iff.2 member, passes⟩
    · rintro ⟨id, w, here, passes⟩
      exact ⟨(id, w), SortedMap.get?_eq_some_iff.1 here, passes⟩

/-- A watcher of the object is to delete its records. -/
def Attended (key : String) (d : Daemon) : Prop :=
  HasWatcher key (fun w => w.phase.isUp = true) d

/-- A watcher of the object runs. -/
def Watching (key : String) (d : Daemon) : Prop :=
  HasWatcher key (fun w => w.point = .running) d

instance (key : String) (d : Daemon) : Decidable (Attended key d) :=
  inferInstanceAs (Decidable (HasWatcher key (fun w => w.phase.isUp = true) d))

instance (key : String) (d : Daemon) : Decidable (Watching key d) :=
  inferInstanceAs (Decidable (HasWatcher key (fun w => w.point = .running) d))

/-- A watcher that passes a test passes a weaker one. -/
theorem HasWatcher.mono {P Q : Watcher → Prop} (weaker : ∀ w, P w → Q w)
    (there : HasWatcher key P d) : HasWatcher key Q d := by
  obtain ⟨id, w, here, path, passes⟩ := there
  exact ⟨id, w, here, path, weaker w passes⟩

variable {id : WorkerId} {w w' : Watcher}

/-- The watchers after a step of one of them. -/
theorem WatcherActs.get? (acts : WatcherActs d id w w' e) {k : WorkerId} {v : Watcher}
    (here : d.watchers.get? id = some w) (there : d.watchers.get? k = some v) :
    (v = w ∧ e.watchers.get? k = some w') ∨ e.watchers.get? k = some v := by
  rw [acts.watchers]
  by_cases same : k = id
  · subst same
    cases here.symm.trans there
    exact .inl ⟨rfl, SortedMap.get?_insert_self ..⟩
  · exact .inr (by rw [SortedMap.get?_insert_of_ne _ _ same]; exact there)

/-- What the watcher that steps keeps true is kept true of the object. -/
theorem WatcherActs.watched (acts : WatcherActs d id w w' e)
    (here : d.watchers.get? id = some w) {P : Watcher → Prop}
    (keeps : w.path.toString = key → P w → P w') (there : HasWatcher key P d) :
    HasWatcher key P e := by
  obtain ⟨k, v, there, path, passes⟩ := there
  rcases acts.get? here there with ⟨rfl, now⟩ | now
  · exact ⟨k, w', now, by rw [acts.path, path], keeps path passes⟩
  · exact ⟨k, v, now, path, passes⟩

/-- The watcher that steps is there after its step. -/
theorem WatcherActs.mine (acts : WatcherActs d id w w' e) (path : w.path.toString = key)
    {P : Watcher → Prop} (passes : P w') : HasWatcher key P e :=
  ⟨id, w', by rw [acts.watchers]; exact SortedMap.get?_insert_self .., by rw [acts.path, path],
    passes⟩

/-- Watchers whose numbers were given are kept, apart from their mail. -/
theorem Recruits.keeps (recruits : Recruits d e)
    (fresh : ∀ id, d.nextWorker ≤ id → d.watchers.get? id = none)
    (here : d.watchers.get? id = some w) :
    ∃ w', e.watchers.get? id = some w' ∧ w'.unread = w.unread := by
  rcases recruits.watchers id with same | ⟨later, _⟩
  · rw [here, Option.map_some] at same
    exact Option.map_eq_some_iff.1 same
  · rw [fresh id later] at here
    cases here

/-- Where the workers go on, a watcher that passes a test is still there, if its mail plays no
part in the test. -/
theorem Recruits.watched (recruits : Recruits d e)
    (fresh : ∀ id, d.nextWorker ≤ id → d.watchers.get? id = none) {P : Watcher → Prop}
    (unread : ∀ w, P w.unread ↔ P w) (there : HasWatcher key P d) : HasWatcher key P e := by
  obtain ⟨k, v, here, path, passes⟩ := there
  obtain ⟨v', now, same⟩ := recruits.keeps fresh here
  exact ⟨k, v', now, (congrArg (fun w => w.path.toString) same).trans path,
    (unread v').1 (same ▸ (unread v).2 passes)⟩

/-! ## Single steps -/

/-- The coordinator sets the status of an object. -/
def Takes (key : String) (d e : Daemon) : Prop :=
  d.coordinator.any (·.point.stores key) = true ∧ d.step .coordinator = some e

instance (key : String) (d e : Daemon) : Decidable (Takes key d e) :=
  inferInstanceAs (Decidable (_ ∧ _))

/-- The own records of an object change by steps of the actors only. -/
def Feeds (key : String) (d e : Daemon) : Prop :=
  (∃ input a, d.stepTaking input a = some e) ∨ e.own key = d.own key

/-- A step, from the view of the own records of an object. -/
inductive OwnStep (key : String) (d e : Daemon) : Prop where
  | watcher {id : WorkerId} {w w' : Watcher} : d.watchers.get? id = some w →
      WatcherActs d id w w' e → OwnStep key d e
  | monitor {id : WorkerId} {m m' : Monitor} : d.monitors.get? id = some m →
      MonitorActs d id m m' e → OwnStep key d e
  | take {value : InstanceStatus} : Takes key d e →
      e.own key = { d.own key with status := some value } → Recruits d e → OwnStep key d e
  | aside : e.own key = d.own key → Recruits d e → OwnStep key d e

/-- A step that moves none of the records is one from the view of every object. -/
theorem Unmoved.ownStep (unmoved : Unmoved d e) : OwnStep key d e :=
  .aside (congrFun unmoved.own key) (recruits_of_same unmoved.workforce)

/-- A step of the coordinator. -/
theorem stepCoordinator_ownStep {c : Coordinator} (isOpen : d.storeOpen = true)
    (here : d.coordinator = some c) (stepped : d.stepCoordinator c = some e) :
    OwnStep key d e := by
  by_cases stores : ∃ p value rest, c.point = .storing p value rest
  · obtain ⟨p, value, rest, point⟩ := stores
    obtain ⟨own, recruits⟩ := storing_acts isOpen point stepped
    by_cases mine : p.toString = key
    · have takes : Takes key d e :=
        ⟨by simp [here, point, CoordinatorPoint.stores, mine],
          by simp [step, stepTaking, here, stepped]⟩
      subst mine
      have made := ownAfter_self d (.setStatus p value)
      rw [Instance.mutate_setStatus, ← own] at made
      exact .take takes made recruits
    · exact .aside (by rw [own]; exact ownAfter_of_ne d mine) recruits
  · obtain ⟨replica, recruits⟩ := stepCoordinator_directed isOpen
      (fun p value rest point => stores ⟨p, value, rest, point⟩) stepped
    have own : e.own = d.own := own_of_nodes (by rw [replica]) (by rw [replica])
    exact .aside (congrFun own key) recruits

/-- A step of an actor. -/
theorem step_ownStep (isOpen : d.storeOpen = true) {input : MonitorInput} {a : Actor}
    (stepped : d.stepTaking input a = some e) : OwnStep key d e := by
  cases a with
  | store => exact (stepStore_unmoved stepped).ownStep
  | coordinator =>
    obtain ⟨c, here, stepped⟩ := Option.bind_eq_some_iff.1 stepped
    exact stepCoordinator_ownStep isOpen here stepped
  | watcher id =>
    obtain ⟨w, here, stepped⟩ := Option.bind_eq_some_iff.1 stepped
    obtain ⟨w', acts⟩ := stepWatcher_acts isOpen here stepped
    exact .watcher here acts
  | monitor id =>
    obtain ⟨m, here, stepped⟩ := Option.bind_eq_some_iff.1 stepped
    obtain ⟨m', acts⟩ := stepMonitor_acts isOpen here stepped
    exact .monitor here acts
  | aggregator id =>
    obtain ⟨a, _, stepped⟩ := Option.bind_eq_some_iff.1 stepped
    exact (stepAggregator_unmoved stepped).ownStep

/-- What the world does is no matter of the workers. -/
theorem Step.ownStep (step : Step d e) (isOpen : d.storeOpen = true) (feeds : Feeds key d e) :
    OwnStep key d e := by
  rcases feeds with ⟨_, _, stepped⟩ | own
  · exact step_ownStep isOpen stepped
  have same (same : e.workforce = d.workforce) : OwnStep key d e :=
    .aside own (recruits_of_same same)
  have talks (talks : Talks [] d e) : OwnStep key d e := same talks.workforce
  cases step with
  | act stepped => exact step_ownStep isOpen stepped
  | moveClock | serve | configDirectory | statusFiles | cancel | closeStore =>
    exact same rfl
  | applyLocal m => exact talks (talks_applyLocal m)
  | applyRemote node g ms => exact talks (talks_applyRemote node g ms)
  | applyMessage m => exact talks (talks_applyMessage m)
  | publish p => exact talks (talks_publish p)

/-! ## What every step keeps -/

/-- The monitors have watchers, and the configuration and the monitor of an object are there
only while a watcher or a monitor is to delete them. -/
structure Tended (key : String) (d : Daemon) : Prop where
  fresh : ∀ id, d.nextWorker ≤ id → d.watchers.get? id = none
  proper : ∀ id m, d.monitors.get? id = some m → m.kind = d.settings.monitor ∧ m.Proper
  overseen : ∀ id m, d.monitors.get? id = some m → m.point ≠ .ended →
    ∃ w, d.watchers.get? id = some w ∧ w.path = m.path ∧ w.phase.oversees = true
  config : (d.own key).config.isSome → HasWatcher key Watcher.HasConfig d
  monitor : (d.own key).monitor.isSome →
    ∃ id m, d.monitors.get? id = some m ∧ m.path.toString = key ∧ m.Holds

/-- Where the workers go on as they are. -/
theorem Tended.recruits (tended : Tended key d) (recruits : Recruits d e)
    (config : (e.own key).config = (d.own key).config)
    (monitor : (e.own key).monitor = (d.own key).monitor) : Tended key e where
  fresh id later := by
    have none := tended.fresh id (Nat.le_trans recruits.nextWorker later)
    rcases recruits.watchers id with same | ⟨_, known, _⟩
    · rw [none, Option.map_none] at same
      exact Option.map_eq_none_iff.1 same
    · exact absurd known (Nat.not_lt.2 later)
  proper := by
    rw [recruits.monitors, recruits.settings]
    exact tended.proper
  overseen := by
    rw [recruits.monitors]
    intro id m there lives
    obtain ⟨w, here, path, oversees⟩ := tended.overseen id m there lives
    obtain ⟨w', now, same⟩ := recruits.keeps tended.fresh here
    exact ⟨w', now, (congrArg Watcher.path same).trans path,
      (congrArg (fun w => w.phase.oversees) same).trans oversees⟩
  config there := by
    rw [config] at there
    exact recruits.watched tended.fresh (fun _ => .rfl) (tended.config there)
  monitor there := by
    rw [monitor] at there
    rw [recruits.monitors]
    exact tended.monitor there

/-- A step of a watcher. -/
theorem Tended.watcher (tended : Tended key d) (here : d.watchers.get? id = some w)
    (acts : WatcherActs d id w w' e) : Tended key e where
  fresh k later := by
    rw [acts.nextWorker] at later
    have none := tended.fresh k later
    rw [acts.watchers, SortedMap.get?_insert_of_ne _ _ ?_]
    · exact none
    · rintro rfl
      cases here.symm.trans none
  proper k m there := by
    rw [acts.settings]
    rcases acts.monitor_was there with ⟨m', before, kind', _, point'⟩ | ⟨_, _, kind, _, starting⟩
    · obtain ⟨kind, proper⟩ := tended.proper k m' before
      rw [kind'] at kind
      rw [Monitor.Proper, kind', point'] at proper
      exact ⟨kind, proper⟩
    · exact ⟨kind, by rw [Monitor.Proper, starting]; rfl⟩
  overseen k m there lives := by
    have mine (path : w.path = m.path) (oversees : w'.phase.oversees = true) (same : k = id) :
        ∃ v, e.watchers.get? k = some v ∧ v.path = m.path ∧ v.phase.oversees = true :=
      ⟨w', by rw [acts.watchers, same, SortedMap.get?_insert_self], acts.path.trans path, oversees⟩
    rcases acts.monitor_was there with ⟨m', before, _, path', point'⟩ | ⟨same, now, _, path, _⟩
    · rw [← point'] at lives
      obtain ⟨v, known, path, oversees⟩ := tended.overseen k m' before lives
      by_cases same : k = id
      · subst same
        cases here.symm.trans known
        exact mine (path.trans path') (acts.oversees oversees before lives) rfl
      · exact ⟨v, by rw [acts.watchers, SortedMap.get?_insert_of_ne _ _ same, known],
          path.trans path', oversees⟩
    · exact mine path.symm (by rw [now]; rfl) same
  config there := by
    cases acts.effect key with
    | same own has _ => exact acts.watched here has (tended.config (own ▸ there))
    | publish mine has _ => exact acts.mine mine has
    | clearConfig _ _ _ own =>
      rw [own] at there
      cases there
    | clearStatus mine was own =>
      rw [own] at there
      refine acts.watched here (fun _ has => ?_) (tended.config there)
      have none := has.2
      rw [was] at none
      cases none
  monitor there := by
    obtain ⟨k, m, known, path, holds⟩ := tended.monitor ((acts.effect key).shrinks.2 there)
    rcases acts.monitor_stays known with ⟨m', now, kind', path', point'⟩ | ⟨rfl, launching⟩
    · refine ⟨k, m', now, by rw [path', path], ?_⟩
      rw [Monitor.Holds, kind', point']
      exact holds
    · -- The watcher starts its monitor once, so that no other one is replaced.
      obtain ⟨v, watcher, _, oversees⟩ := tended.overseen k m known holds.lives
      cases here.symm.trans watcher
      rw [launching] at oversees
      cases oversees

/-- A step of a monitor. -/
theorem Tended.monitorSteps {m m' : Monitor} (tended : Tended key d)
    (here : d.monitors.get? id = some m) (acts : MonitorActs d id m m' e) : Tended key e where
  fresh := by
    rw [acts.watchers, acts.nextWorker]
    exact tended.fresh
  proper k n there := by
    rw [acts.settings]
    rw [acts.monitors, SortedMap.get?_insert] at there
    split at there
    · cases there
      obtain ⟨kind, proper⟩ := tended.proper id m here
      exact ⟨acts.kind.trans kind, acts.proper proper⟩
    · exact tended.proper k n there
  overseen k n there lives := by
    rw [acts.watchers]
    rw [acts.monitors, SortedMap.get?_insert] at there
    split at there
    · rename_i same
      cases there
      subst same
      rw [acts.path]
      exact tended.overseen _ m here acts.lives
    · exact tended.overseen k n there lives
  config there := by
    rw [(acts.effect (tended.proper id m here).2 key).leaves.1] at there
    unfold HasWatcher
    rw [acts.watchers]
    exact tended.config there
  monitor there := by
    have mine (path : m.path.toString = key) (holds : m'.Holds) :
        ∃ k n, e.monitors.get? k = some n ∧ n.path.toString = key ∧ n.Holds :=
      ⟨id, m', by rw [acts.monitors, SortedMap.get?_insert_self], by rw [acts.path, path], holds⟩
    cases acts.effect (tended.proper id m here).2 key with
    | same own keeps =>
      obtain ⟨k, n, known, path, holds⟩ := tended.monitor (own ▸ there)
      by_cases same : k = id
      · subst same
        cases here.symm.trans known
        exact mine path (keeps path holds)
      · exact ⟨k, n, by rw [acts.monitors, SortedMap.get?_insert_of_ne _ _ same, known], path,
          holds⟩
    | publish path holds _ => exact mine path holds
    | delete _ own =>
      rw [own] at there
      cases there

/-- Every step keeps the workers and the records together. -/
theorem Tended.step (tended : Tended key d) (step : OwnStep key d e) : Tended key e := by
  cases step with
  | watcher here acts => exact tended.watcher here acts
  | monitor here acts => exact tended.monitorSteps here acts
  | take _ own recruits => exact tended.recruits recruits (by rw [own]) (by rw [own])
  | aside own recruits => exact tended.recruits recruits (by rw [own]) (by rw [own])

/-! ## Statuses -/

/-- A status that is there was there, or is taken. -/
theorem OwnStep.status_of (step : OwnStep key d e) (tended : Tended key d)
    (there : (e.own key).status.isSome) : (d.own key).status.isSome ∨ Takes key d e := by
  cases step with
  | watcher _ acts => exact .inl ((acts.effect key).shrinks.1 there)
  | monitor here acts =>
    rw [(acts.effect (tended.proper _ _ here).2 key).leaves.2] at there
    exact .inl there
  | take takes _ _ => exact .inr takes
  | aside own _ => exact .inl (own ▸ there)

/-- Where a status is left, a watcher that was to delete it is still there. -/
theorem OwnStep.attended (step : OwnStep key d e) (tended : Tended key d)
    (attended : Attended key d) (there : (e.own key).status.isSome) : Attended key e := by
  cases step with
  | watcher here acts =>
    cases acts.effect key with
    | same _ _ up => exact acts.watched here up attended
    | publish mine has _ => exact acts.mine mine (WatcherPhase.isUp_of_hasConfig has.2)
    | clearConfig mine _ up _ => exact acts.mine mine up
    | clearStatus _ _ own =>
      rw [own] at there
      cases there
  | monitor _ acts =>
    unfold Attended HasWatcher
    rw [acts.watchers]
    exact attended
  | take _ _ recruits => exact recruits.watched tended.fresh (fun _ => .rfl) attended
  | aside _ recruits => exact recruits.watched tended.fresh (fun _ => .rfl) attended

/-- Where no watcher is to delete a status, none deletes it. -/
theorem OwnStep.status_stays (step : OwnStep key d e) (tended : Tended key d)
    (before : ¬ Attended key d) (after : ¬ Attended key e) (there : (d.own key).status.isSome) :
    (e.own key).status.isSome := by
  cases step with
  | @watcher id w w' here acts =>
    cases acts.effect key with
    | same own _ _ => rwa [own]
    | publish mine has _ =>
      exact absurd (acts.mine mine (WatcherPhase.isUp_of_hasConfig has.2)) after
    | clearConfig mine _ up _ => exact absurd (acts.mine mine up) after
    | clearStatus mine was _ =>
      have up : w.phase.isUp = true := by rw [was]; rfl
      exact absurd ⟨id, w, here, mine, up⟩ before
  | monitor here acts => rwa [(acts.effect (tended.proper _ _ here).2 key).leaves.2]
  | take _ own _ => rw [own]; rfl
  | aside own _ => rwa [own]

/-- A status that is taken is there. -/
theorem Takes.status (takes : Takes key d e) (isOpen : d.storeOpen = true) :
    (e.own key).status.isSome := by
  obtain ⟨stores, stepped⟩ := takes
  obtain ⟨c, here, stepped⟩ := Option.bind_eq_some_iff.1 stepped
  simp only [here, Option.any_some] at stores
  unfold CoordinatorPoint.stores at stores
  split at stores
  · rename_i p value rest point
    have mine : p.toString = key := by simpa using stores
    subst mine
    have made := ownAfter_self d (.setStatus p value)
    rw [Instance.mutate_setStatus, ← (storing_acts isOpen point stepped).1] at made
    exact congrArg (fun i => i.status.isSome) made
  · cases stores

/-! ## Runs -/

/-- A run in which the own records of an object change by steps of the actors only, and the
store stays open: the states that it passed through, latest first, and the state reached. -/
inductive Fed (key : String) (start : Daemon) : List Daemon → Daemon → Prop where
  | start : Fed key start [start] start
  | step {past : List Daemon} {d e : Daemon} : Fed key start past d → Step d e →
      e.storeOpen = true → Feeds key d e → Fed key start (e :: past) e

/-- A status is stray: it was taken, and neither then nor since was a watcher of the object
to delete it. -/
def Stray (key : String) : List Daemon → Prop
  | e :: d :: past => (Takes key d e ∨ Stray key (d :: past)) ∧ ¬ Attended key e
  | _ => False

/-- Whether a status is stray can be tested step by step. -/
def decideStray (key : String) : (past : List Daemon) → Decidable (Stray key past)
  | [] => .isFalse fun stray => stray
  | [_] => .isFalse fun stray => stray
  | _ :: d :: past =>
    have := decideStray key (d :: past)
    instDecidableAnd

instance (key : String) (past : List Daemon) : Decidable (Stray key past) :=
  decideStray key past

/-- While a status is stray no watcher attends to its object. -/
theorem Stray.unattended {past : List Daemon} (stray : Stray key (d :: past)) :
    ¬ Attended key d := by
  cases past with
  | nil => cases stray
  | cons => exact stray.2

variable {s : DaemonSettings} {startedAt : Timestamp} {past : List Daemon}

/-- A run has its state at hand first. -/
theorem Fed.head {start : Daemon} (fed : Fed key start past d) : ∃ before, past = d :: before := by
  cases fed with
  | start => exact ⟨[], rfl⟩
  | step _ _ _ _ => exact ⟨_, rfl⟩

/-- The store of a run is open. -/
theorem Fed.isOpen (fed : Fed key (Daemon.new s startedAt).startCoordinator past d) :
    d.storeOpen = true := by
  cases fed with
  | start => rfl
  | step _ _ isOpen _ => exact isOpen

/-- A node that has just been set up has no own records. -/
theorem own_start (s : DaemonSettings) (startedAt : Timestamp) (key : String) :
    (Daemon.new s startedAt).startCoordinator.own key = default :=
  records_new s startedAt _ key

/-- The records are kept by the workers in every state of a run. -/
theorem Fed.tended (fed : Fed key (Daemon.new s startedAt).startCoordinator past d) :
    Tended key d := by
  induction fed with
  | start =>
    have none (id : WorkerId) :
        (Daemon.new s startedAt).startCoordinator.watchers.get? id = none :=
      SortedMap.get?_empty id
    refine ⟨fun id _ => none id, fun _ _ there => (nomatch there), fun _ _ there => (nomatch there),
      ?_, ?_⟩
    · rw [own_start]
      exact nofun
    · rw [own_start]
      exact nofun
  | step before step _ feeds ih => exact ih.step (step.ownStep before.isOpen feeds)

/-- A stray status is there. -/
theorem Fed.stray (fed : Fed key (Daemon.new s startedAt).startCoordinator past d)
    (stray : Stray key past) : (d.own key).status.isSome := by
  induction fed with
  | start => cases stray
  | step before step _ feeds ih =>
    obtain ⟨earlier, rfl⟩ := before.head
    obtain ⟨takes | stray, unattended⟩ := stray
    · exact takes.status before.isOpen
    · exact (step.ownStep before.isOpen feeds).status_stays before.tended stray.unattended
        unattended (ih stray)

/-- A status is there only while a watcher is to delete it, unless it is stray. -/
theorem Fed.status (fed : Fed key (Daemon.new s startedAt).startCoordinator past d)
    (there : (d.own key).status.isSome) : Attended key d ∨ Stray key past := by
  induction fed with
  | start =>
    rw [own_start] at there
    cases there
  | @step past d e before step _ feeds ih =>
    have turn := step.ownStep before.isOpen feeds
    by_cases attended : Attended key e
    · exact .inl attended
    obtain ⟨earlier, rfl⟩ := before.head
    right
    refine ⟨?_, attended⟩
    rcases turn.status_of before.tended there with was | takes
    · rcases ih was with attended' | stray
      · exact absurd (turn.attended before.tended attended' there) attended
      · exact .inr stray
    · exact .inl takes

/-! ## Nodes at rest -/

/-- No watcher is about to begin or to end: each runs, or has deleted what it has to. -/
def AtRest (d : Daemon) : Prop :=
  ∀ id w, d.watchers.get? id = some w → w.point = .running ∨ w.phase = .leaving

instance (d : Daemon) : Decidable d.AtRest :=
  inferInstanceAs (Decidable (∀ id w, d.watchers.get? id = some w →
    w.point = .running ∨ w.phase = .leaving))

/-- In a node at rest a watcher that has something to delete runs. -/
theorem AtRest.watching_iff (rest : d.AtRest) : Watching key d ↔ Attended key d := by
  constructor
  · exact HasWatcher.mono fun w runs => by rw [Watcher.phase, runs]; rfl
  · rintro ⟨id, w, here, path, up⟩
    refine ⟨id, w, here, path, ?_⟩
    rcases rest id w here with runs | leaving
    · exact runs
    · rw [leaving] at up
      cases up

/-- No step changes the settings. -/
theorem OwnStep.settings (step : OwnStep key d e) : e.settings = d.settings := by
  cases step with
  | watcher _ acts => exact acts.settings
  | monitor _ acts => exact acts.settings
  | take _ _ recruits => exact recruits.settings
  | aside _ recruits => exact recruits.settings

/-- The settings of a run are those that it started with. -/
theorem Fed.settings (fed : Fed key (Daemon.new s startedAt).startCoordinator past d) :
    d.settings = s := by
  induction fed with
  | start => rfl
  | step before step _ feeds ih => exact (step.ownStep before.isOpen feeds).settings.trans ih

/-- A passive monitor that was told to end can step until it has ended. -/
theorem stepMonitor_of_cancelled {m : Monitor} (passive : m.kind = .passive) (proper : m.Proper)
    (cancelled : m.cancelled = true) (lives : m.point ≠ .ended) :
    d.stepMonitor .ending id m ≠ none := by
  cases point : m.point with
  | starting | seeding | publishing | deleting => simp [stepMonitor, point]
  | running => simp [stepMonitor, point, passive, runMonitor, endsMonitor, cancelled]
  | waiting deadline => simp [Monitor.Proper, point, passive, MonitorPoint.suits] at proper
  | ended => exact absurd point lives

/-- With passive monitors, a node in which every actor waits is at rest. -/
theorem Fed.atRest_of_quiet (fed : Fed key (Daemon.new s startedAt).startCoordinator past d)
    (passive : s.monitor = .passive) (quiet : d.Quiet) : d.AtRest := by
  intro id w here
  have waits : d.stepWatcher id w = none := by
    have waits := quiet (.watcher id)
    rwa [Daemon.step, stepTaking, here] at waits
  cases point : w.point with
  | starting | checking | launching | deletingConfig | deletingStatus | finishing =>
    simp [stepWatcher, point] at waits
  | running => exact .inl rfl
  | draining | done => exact .inr (by rw [Watcher.phase, point]; rfl)
  | stopping =>
    -- It waits for a monitor that was told to end, and that would step.
    simp only [stepWatcher, point] at waits
    split at waits
    · cases waits
    · rename_i lives
      split at waits
      · rename_i told
        cases there : d.monitors.get? id with
        | none => simp [monitorEnded, there] at lives
        | some m =>
          obtain ⟨kind, proper⟩ := fed.tended.proper id m there
          rw [fed.settings, passive] at kind
          have stuck := quiet.stepTaking .ending (.monitor id)
          rw [Daemon.stepTaking, there] at stuck
          exact absurd stuck (stepMonitor_of_cancelled kind proper (by simpa [there] using told)
            (by simpa [monitorEnded, there] using lives))
      · cases waits

/-! ## Runs that can be computed -/

/-- What is replayed without mutations from outside is fed. -/
theorem fed_of_replay {start : Daemon} (fed : Fed key start past d) {moves : List Move}
    (fair : ∀ m, .change m ∉ moves) {later : List Daemon × Daemon}
    (made : replay past d moves = some later) : Fed key start later.1 later.2 := by
  induction moves generalizing past d with
  | nil =>
    cases made
    exact fed
  | cons move moves ih =>
    obtain ⟨e, performed, made⟩ := Option.bind_eq_some_iff.1 made
    split at made
    · rename_i goes
      refine ih (fed.step (step_of_perform performed) goes.2.1 ?_)
        (fun m member => fair m (List.mem_cons_of_mem _ member)) made
      cases move with
      | act a => exact .inl ⟨_, a, performed⟩
      | pass | write =>
        cases performed
        exact .inr rfl
      | serve =>
        simp only [perform] at performed
        split at performed
        · cases performed
          exact .inr rfl
        · cases performed
      | change m => exact absurd (List.mem_cons_self ..) (fair m)
    · cases made

/-- What holds at the end of a run that is replayed with status files is reached. -/
theorem exists_fed_of_replay {start : Daemon} (isOpen : start.storeOpen = true)
    (files : SortedMap String StatusEntry) (moves : List Move) (fair : ∀ m, .change m ∉ moves)
    {P : List Daemon → Daemon → Prop}
    (reached : ∃ later, later ∈ replay [{ start with statusFiles := files }, start]
      { start with statusFiles := files } moves ∧ P later.1 later.2) :
    ∃ past d, Fed key start past d ∧ P past d := by
  obtain ⟨later, made, holds⟩ := reached
  have written : Fed key start [{ start with statusFiles := files }, start]
      { start with statusFiles := files } :=
    Fed.start.step (.statusFiles files) isOpen (.inr rfl)
  exact ⟨later.1, later.2, fed_of_replay written fair made, holds⟩

/-! ## What is left -/

/-- What a node at rest has of an object that only its actors feed: a configuration and a
monitor are there only while a watcher of the object runs, and a status is there without
such a watcher exactly if it is stray. -/
theorem Fed.own_records (fed : Fed key (Daemon.new s startedAt).startCoordinator past d)
    (rest : d.AtRest) :
    ((d.own key).config.isSome ∨ (d.own key).monitor.isSome → Watching key d) ∧
      ((d.own key).status.isSome ∧ ¬ Watching key d ↔ Stray key past) := by
  have tended := fed.tended
  rw [rest.watching_iff]
  refine ⟨?_, ?_⟩
  · rintro (config | monitor)
    · exact (tended.config config).mono fun _ has => WatcherPhase.isUp_of_hasConfig has.2
    · obtain ⟨id, m, there, path, holds⟩ := tended.monitor monitor
      obtain ⟨w, here, same, oversees⟩ := tended.overseen id m there holds.lives
      exact ⟨id, w, here, by rw [same, path], WatcherPhase.isUp_of_oversees oversees⟩
  · constructor
    · rintro ⟨there, unattended⟩
      exact (fed.status there).resolve_left unattended
    · intro stray
      obtain ⟨_, rfl⟩ := fed.head
      exact ⟨fed.stray stray, stray.unattended⟩

/-- A node of a cluster of two, whose monitors keep their records. -/
def keptNode : Daemon :=
  (Daemon.new { pairNode.settings with monitor := .passive } .epoch).startCoordinator

/-- The status file of the object of `web.conf`. -/
def webStatusFiles : SortedMap String StatusEntry :=
  (∅ : SortedMap String StatusEntry).insert "web" (.file ⟨.epoch, "\x7b\x7d".toUTF8.toList⟩)

/-- A file is written, found and watched from its first check on. -/
def watchMoves (content : Bytes) (checks : Nat) : List Move :=
  [.act .coordinator, writeWeb 1 content] ++ List.replicate 7 (.act .coordinator) ++
    List.replicate checks (.act (.watcher 1))

/-- The moves that find and watch a file change no record from outside. -/
theorem fair_watchMoves (content : Bytes) (checks : Nat) (m : Mutation) :
    .change m ∉ watchMoves content checks := by
  simp [watchMoves, writeWeb]

/-- A file that says nothing names all members, so that its watcher runs. -/
def keptMoves : List Move := watchMoves [] 7 ++ List.replicate 3 (.act (.monitor 1))

/-- The records of an object that is watched are there. -/
theorem own_records_of_named : ∃ past d, Fed "web" keptNode past d ∧ d.AtRest ∧
    (d.own "web").config.isSome ∧ (d.own "web").monitor.isSome ∧ (d.own "web").status.isSome ∧
    Watching "web" d ∧ ¬ Stray "web" past := by
  obtain ⟨past, d, fed, rest, config, monitor, status, kept⟩ :
      ∃ past d, Fed "web" keptNode past d ∧ d.AtRest ∧ (d.own "web").config.isSome ∧
        (d.own "web").monitor.isSome ∧ (d.own "web").status.isSome ∧ ¬ Stray "web" past :=
    exists_fed_of_replay rfl webStatusFiles keptMoves (by simp [keptMoves, fair_watchMoves])
      (by decide +kernel)
  exact ⟨past, d, fed, rest, config, monitor, status,
    (Fed.own_records fed rest).1 (.inl config), kept⟩

/-- A file that names the other node only: the status is taken before the first check, the
watcher gives up, and the notice of its end is taken. -/
def strayMoves : List Move :=
  watchMoves "[DEFAULT]\nnodes = n2\n".toUTF8.toList 6 ++
    [.pass 5, .serve 5, .act (.watcher 1)] ++ List.replicate 5 (.act .coordinator) ++ [.act .store]

/-- A node that has nothing left to do can have a status of an object without a watcher. -/
theorem stray_of_unnamed : ∃ past d, Fed "web" keptNode past d ∧ d.Quiet ∧ d.AtRest ∧
    d.notices = [] ∧ (d.own "web").status.isSome ∧ ¬ Watching "web" d :=
  exists_fed_of_replay rfl webStatusFiles strayMoves (by simp [strayMoves, fair_watchMoves])
    (by decide +kernel)

end Daemon

end ClusterNode
