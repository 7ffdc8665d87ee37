import ClusterNode.Proofs.Daemon.OwnRecords

/-!
# Who keeps the own records

A watcher sets and deletes the configuration of its object, and deletes the status; its
monitor keeps its own record. Each of these writes is one step, and the inversions here say
what a step writes and where its actor stands before and after.

A watcher is followed by its phase only (`WatcherPhase`): what it has published and what it
still has to delete.
-/

namespace ClusterNode

/-! ## Watchers and monitors -/

/-- How far a watcher has come: what it has published, and what it has to delete. -/
inductive WatcherPhase where
  /-- Its first check has not passed. -/
  | preparing
  | launching
  /-- Its monitor was started. -/
  | attending
  | stopping
  | clearingConfig
  | clearingStatus
  | leaving
  deriving DecidableEq

/-- The phase in which a watcher is at a point of its program. -/
def WatcherPoint.phase : WatcherPoint → WatcherPhase
  | .starting | .checking true _ => .preparing
  | .launching => .launching
  | .checking false _ | .running => .attending
  | .stopping => .stopping
  | .deletingConfig => .clearingConfig
  | .deletingStatus => .clearingStatus
  | .finishing | .draining _ | .done => .leaving

/-- The phase of a watcher. -/
def Watcher.phase (w : Watcher) : WatcherPhase := w.point.phase

namespace WatcherPhase

/-- Where a step that writes nothing and leaves the monitor can lead, if nothing is to be
deleted. -/
def leadsTo : WatcherPhase → WatcherPhase → Bool
  | .preparing, next => next == .preparing || next == .launching || next == .leaving
  | .attending, next => next == .attending || next == .stopping
  | .leaving, next => next == .leaving
  | _, _ => false

/-- Where the publication of a configuration leads. -/
def publishesTo : WatcherPhase → WatcherPhase → Bool
  | .preparing, .launching => true
  | .attending, .attending => true
  | _, _ => false

/-- Whether a watcher may have a configuration in the store. -/
def hasConfig : WatcherPhase → Bool
  | .launching | .attending | .stopping | .clearingConfig => true
  | .preparing | .clearingStatus | .leaving => false

/-- Whether a watcher has yet to delete the records of its object. -/
def isUp : WatcherPhase → Bool
  | .preparing | .leaving => false
  | .launching | .attending | .stopping | .clearingConfig | .clearingStatus => true

/-- Whether a watcher may have a monitor that has not ended. -/
def oversees : WatcherPhase → Bool
  | .attending | .stopping => true
  | .preparing | .launching | .clearingConfig | .clearingStatus | .leaving => false

variable {a b : WatcherPhase}

/-- A step that writes nothing leaves a configuration that may be there. -/
theorem hasConfig_of_leadsTo : a.leadsTo b = true → a.hasConfig = true → b.hasConfig = true := by
  cases a <;> cases b <;> decide

/-- A step that leaves the monitor leaves the watcher overseeing it. -/
theorem oversees_of_leadsTo : a.leadsTo b = true → a.oversees = true → b.oversees = true := by
  cases a <;> cases b <;> decide

/-- A step that deletes nothing leaves what is to be deleted. -/
theorem isUp_of_leadsTo : a.leadsTo b = true → a.isUp = true → b.isUp = true := by
  cases a <;> cases b <;> decide

/-- Who publishes has a configuration. -/
theorem hasConfig_of_publishesTo : a.publishesTo b = true → b.hasConfig = true := by
  cases a <;> cases b <;> decide

/-- A watcher that publishes goes on to oversee its monitor. -/
theorem oversees_of_publishesTo :
    a.publishesTo b = true → a.oversees = true → b.oversees = true := by
  cases a <;> cases b <;> decide

/-- A watcher that oversees a monitor has records to delete. -/
theorem isUp_of_oversees : a.oversees = true → a.isUp = true := by
  cases a <;> decide

/-- A watcher that may have a configuration has records to delete. -/
theorem isUp_of_hasConfig : a.hasConfig = true → a.isUp = true := by
  cases a <;> decide

end WatcherPhase

/-- Whether the configuration of a watcher may be there. -/
def Watcher.HasConfig (w : Watcher) : Prop := w.published = true ∧ w.phase.hasConfig = true

/-- A monitor apart from whether it was told to end. -/
def Monitor.untold (m : Monitor) : Monitor := { m with cancelled := false }

/-- To tell a monitor to end leaves all else of it. -/
theorem Monitor.same_of_untold {m m' : Monitor} (same : m'.untold = m.untold) :
    m'.kind = m.kind ∧ m'.path = m.path ∧ m'.point = m.point := by
  simp only [untold, Monitor.mk.injEq] at same
  exact ⟨same.1, same.2.1, same.2.2.2.1⟩

/-- Whether a monitor of a kind can come to a point. -/
def MonitorPoint.suits (kind : MonitorKind) : MonitorPoint → Bool
  | .seeding | .publishing | .deleting => kind == .passive
  | .waiting _ => kind != .passive
  | .starting | .running | .ended => true

/-- A monitor is at points of its kind only. -/
def Monitor.Proper (m : Monitor) : Prop := m.point.suits m.kind = true

/-- Whether the record of a monitor may be there. -/
def Monitor.Holds (m : Monitor) : Prop :=
  m.kind = .passive ∧ (m.point = .publishing ∨ m.point = .running ∨ m.point = .deleting)

/-- Who may have a record has not ended. -/
theorem Monitor.Holds.lives {m : Monitor} (holds : m.Holds) : m.point ≠ .ended := by
  rcases holds.2 with now | now | now <;> rw [now] <;> exact MonitorPoint.noConfusion

namespace Daemon

variable {d e : Daemon} {id : WorkerId} {w w' : Watcher} {m m' : Monitor} {key : String}

/-! ## Steps of a watcher -/

/-- What a step of a watcher does to the own records and to the monitors. -/
inductive WatcherDeed (d : Daemon) (id : WorkerId) (w w' : Watcher) (e : Daemon) : Prop where
  | nothing : w.phase.leadsTo w'.phase = true → w'.published = w.published → e.own = d.own →
      e.monitors = d.monitors → WatcherDeed d id w w' e
  | config {config : InstanceConfig} : w.phase.publishesTo w'.phase = true →
      w'.published = true → e.own = d.ownAfter (.setConfig w.path config) →
      e.monitors = d.monitors → WatcherDeed d id w w' e
  /-- Its monitor is started. -/
  | launch {m : Monitor} : w.phase = .launching → w'.phase = .attending →
      w'.published = w.published → m.kind = d.settings.monitor → m.path = w.path →
      m.point = .starting → e.own = d.own →
      e.monitors = d.monitors.insert id m → WatcherDeed d id w w' e
  /-- Its monitor is told to end. -/
  | cancel {m : Monitor} : w' = w → d.monitors.get? id = some m → e.own = d.own →
      e.monitors = d.monitors.insert id { m with cancelled := true } → WatcherDeed d id w w' e
  /-- Its monitor has ended. -/
  | stop : w.phase = .stopping → d.monitorEnded id = true →
      w'.phase = (if w.published then .clearingConfig else .clearingStatus) →
      w'.published = w.published → e.own = d.own → e.monitors = d.monitors → WatcherDeed d id w w' e
  | clearConfig : w.phase = .clearingConfig → w'.phase = .clearingStatus →
      e.own = d.ownAfter (.delConfig w.path) → e.monitors = d.monitors → WatcherDeed d id w w' e
  | clearStatus : w.phase = .clearingStatus → w'.phase = .leaving →
      e.own = d.ownAfter (.delStatus w.path) → e.monitors = d.monitors → WatcherDeed d id w w' e

/-- A step of a watcher: it keeps its object, and of the workers only itself and its monitor
change. -/
structure WatcherActs (d : Daemon) (id : WorkerId) (w w' : Watcher) (e : Daemon) : Prop where
  path : w'.path = w.path
  settings : e.settings = d.settings
  watchers : e.watchers = d.watchers.insert id w'
  nextWorker : e.nextWorker = d.nextWorker
  deed : WatcherDeed d id w w' e

/-- After something else, a watcher goes on without a word. -/
theorem Unmoved.goesOn {d' : Daemon} (unmoved : Unmoved d d') (path : w'.path = w.path)
    (leads : w.phase.leadsTo w'.phase = true) (published : w'.published = w.published) :
    WatcherActs d id w w' (d'.putWatcher id w') := by
  obtain ⟨settings, watchers, monitors, nextWorker⟩ := workforce_eq_iff.1 unmoved.workforce
  exact ⟨path, settings, by rw [putWatcher, watchers], nextWorker,
    .nothing leads published unmoved.own monitors⟩

/-- After an own mutation, a watcher goes on. -/
theorem watcherActs_applyLocal (isOpen : d.storeOpen = true) (m : Mutation)
    (path : w'.path = w.path)
    (deed : ∀ e, e.own = d.ownAfter m → e.monitors = d.monitors → WatcherDeed d id w w' e) :
    WatcherActs d id w w' ((d.applyLocal m).1.putWatcher id w') := by
  obtain ⟨settings, watchers, monitors, nextWorker⟩ :=
    workforce_eq_iff.1 (workforce_applyLocal d m)
  exact ⟨path, settings, by rw [putWatcher, watchers], nextWorker,
    deed _ (own_applyLocal isOpen m) monitors⟩

/-- A step of the evaluation of a file. -/
theorem stepCheck_acts (isOpen : d.storeOpen = true) {isFirst : Bool} {point : CheckPoint}
    (here : w.point = .checking isFirst point) :
    ∃ w', WatcherActs d id w w' (d.stepCheck id w isFirst point) := by
  have phase : w.phase = (WatcherPoint.checking isFirst point).phase := by rw [Watcher.phase, here]
  have ends {d' : Daemon} (unmoved : Unmoved d d') (w' : Watcher) (passed : Bool)
      (path : w'.path = w.path) (published : w'.published = w.published)
      (now : w'.point = afterCheck isFirst passed) :
      ∃ w'', WatcherActs d id w w'' (d'.putWatcher id w') := by
    refine ⟨w', unmoved.goesOn path ?_ published⟩
    rw [phase, Watcher.phase, now]
    cases isFirst <;> cases passed <;> rfl
  have proceeds {d' : Daemon} (unmoved : Unmoved d d') (w' : Watcher) (next : CheckPoint)
      (path : w'.path = w.path) (published : w'.published = w.published)
      (now : w'.point = .checking isFirst next) :
      ∃ w'', WatcherActs d id w w'' (d'.putWatcher id w') := by
    refine ⟨w', unmoved.goesOn path ?_ published⟩
    rw [phase, Watcher.phase, now]
    cases isFirst <;> rfl
  have nothing := Unmoved.refl d
  cases point with
  | start =>
    simp only [stepCheck]
    split
    · exact ends nothing _ false rfl rfl rfl
    · split
      · exact ends nothing _ true rfl rfl rfl
      · exact proceeds nothing _ _ rfl rfl rfl
  | reading modified =>
    simp only [stepCheck]
    split
    · exact ends nothing _ false rfl rfl rfl
    · exact proceeds nothing _ _ rfl rfl rfl
  | evaluating modified checksum =>
    simp only [stepCheck]
    split
    · exact ends nothing _ false rfl rfl rfl
    · split
      · exact ends nothing _ false rfl rfl rfl
      · exact proceeds nothing _ _ rfl rfl rfl
  | confirming modified checksum scope =>
    simp only [stepCheck]
    split
    · exact ends nothing _ false rfl rfl rfl
    · split
      · exact ends nothing _ true rfl rfl rfl
      · split
        · exact ends nothing _ false rfl rfl rfl
        · split
          · exact ends nothing _ true rfl rfl rfl
          · exact proceeds nothing _ _ rfl rfl rfl
  | publishing modified config =>
    have made : d.stepCheck id w isFirst (.publishing modified config) =
        (d.applyLocal (.setConfig w.path config)).1.putWatcher id
          { w with config, published := true, point := afterCheck isFirst true } := by
      simp [stepCheck, applyLocal, isOpen]
    rw [made]
    refine ⟨_, watcherActs_applyLocal isOpen _ rfl fun _ => .config ?_ rfl⟩
    rw [phase]
    cases isFirst <;> rfl

/-- A watcher that waits takes what comes, and looks at its file anew or gives it up. -/
theorem runWatcher_acts (here : w.point = .running) (stepped : d.runWatcher id w = some e) :
    ∃ w', WatcherActs d id w w' e := by
  have goes {d' : Daemon} (unmoved : Unmoved d d') (w' : Watcher) (path : w'.path = w.path)
      (published : w'.published = w.published)
      (now : w'.point = .stopping ∨ w'.point = .checking false .start) :
      ∃ w'', WatcherActs d id w w'' (d'.putWatcher id w') := by
    refine ⟨w', unmoved.goesOn path ?_ published⟩
    rw [Watcher.phase, Watcher.phase, here]
    rcases now with now | now <;> rw [now] <;> rfl
  unfold runWatcher at stepped
  split at stepped
  · cases stepped
    exact goes (.refl d) _ rfl rfl (.inl rfl)
  · split at stepped
    · cases stepped
      exact goes (.refl d) _ rfl rfl (.inl rfl)
    · cases stepped
      exact goes (.refl d) _ rfl rfl (.inr rfl)
    · split at stepped
      · rename_i received
        cases stepped
        exact goes (unmoved_receive received) _ rfl rfl (.inl rfl)
      · split at stepped
        · rename_i received
          cases stepped
          exact goes (unmoved_receive received) _ rfl rfl (.inr rfl)
        · obtain ⟨i, _, stepped⟩ := Option.bind_eq_some_iff.1 stepped
          obtain ⟨⟨event, d'⟩, received, stepped⟩ := Option.bind_eq_some_iff.1 stepped
          cases stepped
          exact goes (unmoved_receive received) _ rfl rfl (.inr rfl)

/-- A step of a watcher. -/
theorem stepWatcher_acts (isOpen : d.storeOpen = true) (here : d.watchers.get? id = some w)
    (stepped : d.stepWatcher id w = some e) : ∃ w', WatcherActs d id w w' e := by
  unfold stepWatcher at stepped
  split at stepped
  · rename_i point
    cases stepped
    exact ⟨_, (Unmoved.refl d).goesOn rfl (by simp only [Watcher.phase, point]; rfl) rfl⟩
  · rename_i point
    cases stepped
    exact stepCheck_acts isOpen point
  · rename_i point
    cases stepped
    exact ⟨{ w with point := .running }, rfl, rfl, rfl, rfl,
      .launch (by rw [Watcher.phase, point]; rfl) rfl rfl rfl rfl rfl rfl rfl⟩
  · rename_i point
    exact runWatcher_acts point stepped
  · rename_i point
    have phase : w.phase = .stopping := by rw [Watcher.phase, point]; rfl
    split at stepped
    · rename_i ended
      cases stepped
      refine ⟨{ w with point := if w.published then .deletingConfig else .deletingStatus },
        rfl, rfl, rfl, rfl, .stop phase ended ?_ rfl rfl rfl⟩
      cases published : w.published <;> simp [Watcher.phase, WatcherPoint.phase]
    · split at stepped
      · cases stepped
      · rename_i uncancelled
        cases stepped
        unfold cancelMonitor
        split
        · rename_i m monitor
          exact ⟨w, rfl, rfl, (SortedMap.insert_get? here).symm, rfl, .cancel rfl monitor rfl rfl⟩
        · rename_i none
          simp [none] at uncancelled
  · rename_i point
    cases stepped
    have phase : w.phase = .clearingConfig := by rw [Watcher.phase, point]; rfl
    exact ⟨_, watcherActs_applyLocal isOpen _ rfl fun _ => .clearConfig phase rfl⟩
  · rename_i point
    cases stepped
    have phase : w.phase = .clearingStatus := by rw [Watcher.phase, point]; rfl
    exact ⟨_, watcherActs_applyLocal isOpen _ rfl fun _ => .clearStatus phase rfl⟩
  · rename_i point
    cases stepped
    have silent : Unmoved d (d.unsubscribe
        ([w.subscriptions.updated, w.subscriptions.removed] ++ w.subscriptions.cluster.toList)) :=
      ⟨rfl, rfl⟩
    exact ⟨_, silent.goesOn rfl (by simp only [Watcher.phase, point]; rfl) rfl⟩
  · rename_i point
    have stays (point' : WatcherPoint) (leaves : point'.phase = .leaving) :
        w.phase.leadsTo point'.phase = true := by
      rw [Watcher.phase, point, leaves]
      rfl
    split at stepped
    · cases stepped
      exact ⟨_, (Unmoved.refl d).goesOn rfl (stays _ rfl) rfl⟩
    · split at stepped
      · cases stepped
        have swapped : (d.putWatcher id { w with point := .done }).notify
            (.watcherDone w.path w.filename id) =
            (d.notify (.watcherDone w.path w.filename id)).putWatcher id
              { w with point := .done } := by
          cases takes : d.takesNotices <;> simp [notify, putWatcher, takes]
        rw [swapped]
        exact ⟨_, (unmoved_notify d _).goesOn rfl (stays _ rfl) rfl⟩
      · cases stepped
  · cases stepped

/-- The monitors after a step of a watcher: its own one may be new, or told to end. -/
theorem WatcherActs.monitors (acts : WatcherActs d id w w' e) (k : WorkerId) :
    (e.monitors.get? k).map Monitor.untold = (d.monitors.get? k).map Monitor.untold ∨
      (k = id ∧ w.phase = .launching ∧ w'.phase = .attending ∧ ∃ m, e.monitors.get? k = some m ∧
        m.kind = d.settings.monitor ∧ m.path = w.path ∧ m.point = .starting) := by
  cases acts.deed with
  | nothing _ _ _ monitors | config _ _ _ monitors | stop _ _ _ _ _ monitors
    | clearConfig _ _ _ monitors | clearStatus _ _ _ monitors => exact .inl (by rw [monitors])
  | launch was now _ kind path starting _ monitors =>
    rw [monitors]
    by_cases same : k = id
    · subst same
      exact .inr ⟨rfl, was, now, _, SortedMap.get?_insert_self .., kind, path, starting⟩
    · exact .inl (by rw [SortedMap.get?_insert_of_ne _ _ same])
  | cancel _ known _ monitors =>
    rw [monitors]
    by_cases same : k = id
    · subst same
      rw [SortedMap.get?_insert_self, known]
      exact .inl rfl
    · exact .inl (by rw [SortedMap.get?_insert_of_ne _ _ same])

/-- A monitor that is there after a step of a watcher was there before, or was just started. -/
theorem WatcherActs.monitor_was (acts : WatcherActs d id w w' e) {k : WorkerId}
    (there : e.monitors.get? k = some m) :
    (∃ m', d.monitors.get? k = some m' ∧ m'.kind = m.kind ∧ m'.path = m.path ∧
        m'.point = m.point) ∨
      (k = id ∧ w'.phase = .attending ∧ m.kind = d.settings.monitor ∧ m.path = w.path ∧
        m.point = .starting) := by
  rcases acts.monitors k with same | ⟨mine, _, now, m', started, news⟩
  · rw [there, Option.map_some] at same
    obtain ⟨m', before, untold⟩ := Option.map_eq_some_iff.1 same.symm
    exact .inl ⟨m', before, Monitor.same_of_untold untold⟩
  · cases there.symm.trans started
    exact .inr ⟨mine, now, news⟩

/-- A monitor that is there stays, unless its watcher is to start one. -/
theorem WatcherActs.monitor_stays (acts : WatcherActs d id w w' e) {k : WorkerId}
    (there : d.monitors.get? k = some m) :
    (∃ m', e.monitors.get? k = some m' ∧ m'.kind = m.kind ∧ m'.path = m.path ∧
        m'.point = m.point) ∨ (k = id ∧ w.phase = .launching) := by
  rcases acts.monitors k with same | ⟨mine, was, _⟩
  · rw [there, Option.map_some] at same
    obtain ⟨m', now, untold⟩ := Option.map_eq_some_iff.1 same
    exact .inl ⟨m', now, Monitor.same_of_untold untold⟩
  · exact .inr ⟨mine, was⟩

/-- A watcher minds its monitor until that has ended. -/
theorem WatcherActs.oversees (acts : WatcherActs d id w w' e) (oversees : w.phase.oversees = true)
    (there : d.monitors.get? id = some m) (lives : m.point ≠ .ended) :
    w'.phase.oversees = true := by
  cases acts.deed with
  | nothing leads _ _ _ => exact WatcherPhase.oversees_of_leadsTo leads oversees
  | config publishes _ _ _ => exact WatcherPhase.oversees_of_publishesTo publishes oversees
  | launch _ now _ _ _ _ _ _ => rw [now]; rfl
  | cancel same _ _ _ => rwa [same]
  | stop _ ended _ _ _ _ =>
    rw [monitorEnded, there] at ended
    exact absurd (by simpa using ended) lives
  | clearConfig was _ _ _ => rw [was] at oversees; cases oversees
  | clearStatus was _ _ _ => rw [was] at oversees; cases oversees

/-! ## Steps of a monitor -/

/-- What a step of a monitor does to the own records. -/
inductive MonitorDeed (d : Daemon) (m m' : Monitor) (e : Daemon) : Prop where
  | nothing : (m.Holds → m'.Holds) → e.own = d.own → MonitorDeed d m m' e
  | publish : m.point = .publishing → m'.point = .running →
      e.own = d.ownAfter (.setMonitor m.path m.record) → MonitorDeed d m m' e
  | delete : m.point = .deleting → e.own = d.ownAfter (.delMonitor m.path) → MonitorDeed d m m' e

/-- A step of a monitor that has not ended: it keeps its object, and of the workers only
itself changes. -/
structure MonitorActs (d : Daemon) (id : WorkerId) (m m' : Monitor) (e : Daemon) : Prop where
  lives : m.point ≠ .ended
  kind : m'.kind = m.kind
  path : m'.path = m.path
  proper : m.Proper → m'.Proper
  settings : e.settings = d.settings
  monitors : e.monitors = d.monitors.insert id m'
  watchers : e.watchers = d.watchers
  nextWorker : e.nextWorker = d.nextWorker
  deed : MonitorDeed d m m' e

/-- After something else, a monitor that has no record goes on without a word. -/
theorem Unmoved.monitors_goesOn {d' : Daemon} (unmoved : Unmoved d d') (lives : m.point ≠ .ended)
    (kind : m'.kind = m.kind) (path : m'.path = m.path) (proper : m.Proper → m'.Proper)
    (holds : m.Holds → m'.Holds) : MonitorActs d id m m' (d'.putMonitor id m') := by
  obtain ⟨settings, watchers, monitors, nextWorker⟩ := workforce_eq_iff.1 unmoved.workforce
  exact ⟨lives, kind, path, proper, settings, by rw [putMonitor, monitors], watchers, nextWorker,
    .nothing holds unmoved.own⟩

/-- A passive monitor that waits may have a record, before and after. -/
theorem runMonitor_acts {input : MonitorInput} (here : d.monitors.get? id = some m)
    (point : m.point = .running) (passive : m.kind = .passive)
    (stepped : d.runMonitor id m input = some e) :
    ∃ m', MonitorActs d id m m' e := by
  have lives : m.point ≠ .ended := by rw [point]; exact MonitorPoint.noConfusion
  have goes {d' : Daemon} (unmoved : Unmoved d d') (m' : Monitor) (kind : m'.kind = m.kind)
      (path : m'.path = m.path)
      (now : m'.point = .publishing ∨ m'.point = .running ∨ m'.point = .deleting) :
      ∃ m'', MonitorActs d id m m'' (d'.putMonitor id m') :=
    ⟨m', unmoved.monitors_goesOn lives kind path
      (fun _ => by rcases now with now | now | now <;> simp [Monitor.Proper, now, kind, passive,
        MonitorPoint.suits])
      fun _ => ⟨kind.trans passive, now⟩⟩
  have ignores {d' : Daemon} (unmoved : Unmoved d d') : ∃ m', MonitorActs d id m m' d' := by
    have there : d'.monitors.get? id = some m := by
      rw [(workforce_eq_iff.1 unmoved.workforce).2.2.1]
      exact here
    have same : d' = d'.putMonitor id m := by rw [putMonitor, SortedMap.insert_get? there]
    rw [same]
    exact goes unmoved m rfl rfl (.inr (.inl point))
  cases input with
  | ending =>
    simp only [runMonitor] at stepped
    split at stepped
    · cases stepped
      have silent : Unmoved d (d.unsubscribe [m.requests, m.configs]) := ⟨rfl, rfl⟩
      exact goes silent _ rfl rfl (.inr (.inr rfl))
    · cases stepped
  | request =>
    simp only [runMonitor] at stepped
    split at stepped
    · rename_i received
      cases stepped
      refine goes (unmoved_receive received) _ ?_ ?_ ?_ <;> unfold requestMonitor <;> split
      · rfl
      · rfl
      · rfl
      · rfl
      · exact .inl rfl
      · exact .inr (.inl point)
    · rename_i received
      cases stepped
      exact ignores (unmoved_receive received)
    · cases stepped
  | config =>
    simp only [runMonitor] at stepped
    split at stepped
    · rename_i received
      cases stepped
      refine goes (unmoved_receive received) _ ?_ ?_ ?_ <;>
        simp only [reconfigureMonitor] <;> split
      · rfl
      · rfl
      · rfl
      · rfl
      · exact .inr (.inl point)
      · exact .inl rfl
    · rename_i received
      cases stepped
      exact ignores (unmoved_receive received)
    · cases stepped

/-- After an own mutation, a monitor goes on. -/
theorem monitorActs_applyLocal (isOpen : d.storeOpen = true) (mutation : Mutation)
    (lives : m.point ≠ .ended) (kind : m'.kind = m.kind) (path : m'.path = m.path)
    (proper : m.Proper → m'.Proper)
    (deed : ∀ e, e.own = d.ownAfter mutation → MonitorDeed d m m' e) :
    MonitorActs d id m m' ((d.applyLocal mutation).1.putMonitor id m') := by
  obtain ⟨settings, watchers, monitors, nextWorker⟩ :=
    workforce_eq_iff.1 (workforce_applyLocal d mutation)
  exact ⟨lives, kind, path, proper, settings, by rw [putMonitor, monitors], watchers, nextWorker,
    deed _ (own_applyLocal isOpen mutation)⟩

/-- A step of a monitor. -/
theorem stepMonitor_acts {input : MonitorInput} (isOpen : d.storeOpen = true)
    (here : d.monitors.get? id = some m) (stepped : d.stepMonitor input id m = some e) :
    ∃ m', MonitorActs d id m m' e := by
  -- The points at which no record is there lead to points that only the kind decides.
  have empty (none : m.point ≠ .publishing ∧ m.point ≠ .running ∧ m.point ≠ .deleting) :
      ¬ m.Holds := fun holds => by
    rcases holds.2 with now | now | now
    · exact none.1 now
    · exact none.2.1 now
    · exact none.2.2 now
  have nothing := Unmoved.refl d
  unfold stepMonitor at stepped
  split at stepped
  · rename_i point
    cases stepped
    have lives : m.point ≠ .ended := by rw [point]; exact MonitorPoint.noConfusion
    have none : ¬ m.Holds := empty (by simp [point])
    unfold beginMonitor
    split
    · rename_i passive
      have silent : Unmoved d ((d.subscribe .setInstanceMonitor
          [.path m.path, .node d.localhost]).2.subscribe .configUpdated
          [.path m.path, .node d.localhost]).2 := ⟨rfl, rfl⟩
      exact ⟨_, silent.monitors_goesOn lives rfl rfl
        (fun _ => by simp [Monitor.Proper, MonitorPoint.suits, passive]) (absurd · none)⟩
    · exact ⟨_, nothing.monitors_goesOn lives rfl rfl (fun _ => rfl) (absurd · none)⟩
    · rename_i timed
      exact ⟨_, nothing.monitors_goesOn lives rfl rfl
        (fun _ => by simp [Monitor.Proper, MonitorPoint.suits, timed]) (absurd · none)⟩
    · exact ⟨_, nothing.monitors_goesOn lives rfl rfl (fun _ => rfl) (absurd · none)⟩
  · rename_i point
    cases stepped
    have lives : m.point ≠ .ended := by rw [point]; exact MonitorPoint.noConfusion
    exact ⟨_, nothing.monitors_goesOn lives rfl rfl
      (fun proper => by simpa [Monitor.Proper, MonitorPoint.suits, point] using proper)
      (absurd · (empty (by simp [point])))⟩
  · rename_i point
    cases stepped
    have lives : m.point ≠ .ended := by rw [point]; exact MonitorPoint.noConfusion
    exact ⟨_, monitorActs_applyLocal isOpen _ lives rfl rfl (fun _ => rfl)
      fun _ => .publish point rfl⟩
  · rename_i point
    have lives : m.point ≠ .ended := by rw [point]; exact MonitorPoint.noConfusion
    split at stepped
    · rename_i passive
      exact runMonitor_acts here point passive stepped
    · rename_i other
      split at stepped
      · cases stepped
        exact ⟨_, nothing.monitors_goesOn lives rfl rfl (fun _ => rfl)
          fun holds => absurd holds.1 other⟩
      · cases stepped
  · rename_i point
    have lives : m.point ≠ .ended := by rw [point]; exact MonitorPoint.noConfusion
    split at stepped
    · cases stepped
      exact ⟨_, nothing.monitors_goesOn lives rfl rfl (fun _ => rfl)
        (absurd · (empty (by simp [point])))⟩
    · cases stepped
  · rename_i point
    cases stepped
    have lives : m.point ≠ .ended := by rw [point]; exact MonitorPoint.noConfusion
    exact ⟨_, monitorActs_applyLocal isOpen _ lives rfl rfl (fun _ => rfl)
      fun _ => .delete point⟩
  · cases stepped

/-! ## What becomes of the records of an object -/

/-- What a step of a watcher makes of the records of an object, its own or another one. -/
inductive WatcherEffect (key : String) (d : Daemon) (w w' : Watcher) (e : Daemon) : Prop where
  | same : e.own key = d.own key →
      (w.path.toString = key → w.HasConfig → w'.HasConfig) →
      (w.path.toString = key → w.phase.isUp = true → w'.phase.isUp = true) →
      WatcherEffect key d w w' e
  | publish : w.path.toString = key → w'.HasConfig →
      (e.own key = ⟨none, none, none⟩ ∨ ∃ config, e.own key = { d.own key with config }) →
      WatcherEffect key d w w' e
  | clearConfig : w.path.toString = key → w.phase.isUp = true → w'.phase.isUp = true →
      e.own key = ⟨none, none, none⟩ → WatcherEffect key d w w' e
  | clearStatus : w.path.toString = key → w.phase = .clearingStatus →
      e.own key = { d.own key with status := none } → WatcherEffect key d w w' e

/-- A step of a watcher brings no status and no monitor. -/
theorem WatcherEffect.shrinks (effect : WatcherEffect key d w w' e) :
    ((e.own key).status.isSome → (d.own key).status.isSome) ∧
      ((e.own key).monitor.isSome → (d.own key).monitor.isSome) := by
  cases effect with
  | same own _ _ => rw [own]; exact ⟨fun there => there, fun there => there⟩
  | publish _ _ own =>
    rcases own with own | ⟨_, own⟩
    · rw [own]
      exact ⟨nofun, nofun⟩
    · rw [own]
      exact ⟨fun there => there, fun there => there⟩
  | clearConfig _ _ _ own =>
    rw [own]
    exact ⟨nofun, nofun⟩
  | clearStatus _ _ own =>
    rw [own]
    exact ⟨nofun, fun there => there⟩

/-- What is written of another object leaves the records. -/
theorem WatcherEffect.elsewhere {m : Mutation} (own : e.own = d.ownAfter m)
    (other : m.path.toString ≠ key) (mine : m.path = w.path) : WatcherEffect key d w w' e := by
  rw [mine] at other
  refine .same ?_ (fun same => absurd same other) fun same => absurd same other
  rw [own, ownAfter_of_ne d (by rwa [mine])]

/-- A step of a watcher and the records of an object. -/
theorem WatcherActs.effect (acts : WatcherActs d id w w' e) (key : String) :
    WatcherEffect key d w w' e := by
  cases acts.deed with
  | nothing leads published own _ =>
    exact .same (congrFun own key)
      (fun _ has => ⟨published.trans has.1, WatcherPhase.hasConfig_of_leadsTo leads has.2⟩)
      fun _ => WatcherPhase.isUp_of_leadsTo leads
  | launch _ now published _ _ _ own _ =>
    exact .same (congrFun own key)
      (fun _ has => ⟨published.trans has.1, by rw [now]; rfl⟩) fun _ _ => by rw [now]; rfl
  | cancel same _ own _ =>
    subst same
    exact .same (congrFun own key) (fun _ has => has) fun _ up => up
  | stop _ _ now published own _ =>
    refine .same (congrFun own key) (fun _ has => ⟨published.trans has.1, ?_⟩) fun _ _ => ?_
    · rw [now, if_pos has.1]
      rfl
    · rw [now]
      split <;> rfl
  | @config config publishes published own _ =>
    by_cases mine : w.path.toString = key
    · subst mine
      have has : w'.HasConfig := ⟨published, WatcherPhase.hasConfig_of_publishesTo publishes⟩
      have made := ownAfter_self d (.setConfig w.path config)
      rw [← own] at made
      rcases Instance.mutate_setConfig (d.own w.path.toString)
        d.replica.status.cluster.config.name d.replica.localhost w.path config with
        none | ⟨config', set⟩
      · exact .publish rfl has (.inl (made.trans none))
      · exact .publish rfl has (.inr ⟨config', made.trans set⟩)
    · exact .elsewhere own mine rfl
  | clearConfig was now own _ =>
    by_cases mine : w.path.toString = key
    · subst mine
      have made := ownAfter_self d (.delConfig w.path)
      rw [Instance.mutate_delConfig, ← own] at made
      exact .clearConfig rfl (by rw [was]; rfl) (by rw [now]; rfl) made
    · exact .elsewhere own mine rfl
  | clearStatus was _ own _ =>
    by_cases mine : w.path.toString = key
    · subst mine
      have made := ownAfter_self d (.delStatus w.path)
      rw [Instance.mutate_delStatus, ← own] at made
      exact .clearStatus rfl was made
    · exact .elsewhere own mine rfl

/-- What a step of a monitor makes of the records of an object, its own or another one. -/
inductive MonitorEffect (key : String) (d : Daemon) (m m' : Monitor) (e : Daemon) : Prop where
  | same : e.own key = d.own key → (m.path.toString = key → m.Holds → m'.Holds) →
      MonitorEffect key d m m' e
  | publish {monitor : InstanceMonitor} : m.path.toString = key → m'.Holds →
      e.own key = { d.own key with monitor := some monitor } → MonitorEffect key d m m' e
  | delete : m.path.toString = key → e.own key = { d.own key with monitor := none } →
      MonitorEffect key d m m' e

/-- A step of a monitor leaves the configuration and the status. -/
theorem MonitorEffect.leaves (effect : MonitorEffect key d m m' e) :
    (e.own key).config = (d.own key).config ∧ (e.own key).status = (d.own key).status := by
  cases effect with
  | same own _ => rw [own]; exact ⟨rfl, rfl⟩
  | publish _ _ own => rw [own]; exact ⟨rfl, rfl⟩
  | delete _ own => rw [own]; exact ⟨rfl, rfl⟩

/-- A step of a monitor and the records of an object. -/
theorem MonitorActs.effect (acts : MonitorActs d id m m' e) (proper : m.Proper) (key : String) :
    MonitorEffect key d m m' e := by
  have elsewhere {mutation : Mutation} (own : e.own = d.ownAfter mutation)
      (path : mutation.path = m.path) (other : m.path.toString ≠ key) :
      MonitorEffect key d m m' e := by
    refine .same ?_ fun same => absurd same other
    rw [own, ownAfter_of_ne d (by rwa [path])]
  cases acts.deed with
  | nothing holds own => exact .same (congrFun own key) fun _ => holds
  | publish was now own =>
    by_cases mine : m.path.toString = key
    · subst mine
      have passive : m.kind = .passive := by
        simpa [Monitor.Proper, MonitorPoint.suits, was] using proper
      have made := ownAfter_self d (.setMonitor m.path m.record)
      rw [Instance.mutate_setMonitor, ← own] at made
      exact .publish rfl ⟨acts.kind.trans passive, .inr (.inl now)⟩ made
    · exact elsewhere own rfl mine
  | delete _ own =>
    by_cases mine : m.path.toString = key
    · subst mine
      have made := ownAfter_self d (.delMonitor m.path)
      rw [Instance.mutate_delMonitor, ← own] at made
      exact .delete rfl made
    · exact elsewhere own rfl mine

end Daemon

end ClusterNode
