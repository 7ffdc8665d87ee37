import ClusterNode.Proofs.Daemon.Ownership
import ClusterNode.Daemon.WatcherSteps

/-!
# Steps of a watcher

`WatcherMove` lists what a watcher can do while it attends to its file, with all that a
step can rely on: the version that it looked at, the events that it took. What it does
when it has given up is one case, `WatcherMove.leave`. `stepWatcher_cases` is the
inversion of a step; beside the move it gives the frame of the step, `Daemon.Turns`.
-/

namespace ClusterNode

/-- The members of the cluster, as far as an event tells of them. -/
def Event.members (known : List String) : Event → List String
  | .clusterConfigUpdated _ value => value.nodes
  | _ => known

/-- Whether a watcher attends to its file: it has not given up. -/
def WatcherPoint.attends : WatcherPoint → Bool
  | .starting | .checking .. | .launching | .running => true
  | _ => false

namespace Daemon

/-- What one step of the evaluation of a file makes of the record of a watcher. -/
inductive CheckMove (d : Daemon) (w : Watcher) (isFirst : Bool) : CheckPoint → Watcher → Prop where
  /-- The file is gone, cannot be read or does not name the node. -/
  | giveUp {point : CheckPoint} :
      CheckMove d w isFirst point { w with point := afterCheck isFirst false }
  | unchanged {file : FileVersion} : d.fileOf w = some file →
      w.lastModified = some file.modified → w.force = false →
      CheckMove d w isFirst .start { w with point := afterCheck isFirst true }
  | look {file : FileVersion} : d.fileOf w = some file →
      CheckMove d w isFirst .start
        { w with force := false, point := .checking isFirst (.reading file.modified) }
  | read {modified : Timestamp} {checksum : String} :
      CheckMove d w isFirst (.reading modified)
        { w with point := .checking isFirst (.evaluating modified checksum) }
  | evaluate {modified : Timestamp} {checksum : String} {scope : List String} :
      d.scopeOf w = some scope →
      CheckMove d w isFirst (.evaluating modified checksum)
        { w with point := .checking isFirst (.confirming modified checksum scope) }
  /-- The file changed in between. -/
  | doubt {modified : Timestamp} {checksum : String} {scope : List String}
      {file : FileVersion} : d.fileOf w = some file → file.modified ≠ modified →
      CheckMove d w isFirst (.confirming modified checksum scope)
        { w with point := afterCheck isFirst true }
  | confirm {modified : Timestamp} {checksum : String} {scope : List String}
      {file : FileVersion} {point : WatcherPoint} : d.fileOf w = some file →
      file.modified = modified → d.localhost ∈ scope →
      (point = afterCheck isFirst true ∨
        ∃ config, point = .checking isFirst (.publishing modified config)) →
      CheckMove d w isFirst (.confirming modified checksum scope)
        { w with lastModified := some modified, point }
  | publish {modified : Timestamp} {config known : InstanceConfig} {published : Bool} :
      CheckMove d w isFirst (.publishing modified config)
        { w with config := known, published, point := afterCheck isFirst true }

/-- What one step makes of the record of a watcher, and what it does on the bus. -/
inductive WatcherMove (d : Daemon) (w : Watcher) : Watcher → Daemon → Prop where
  /-- It gives up, or has given up before. -/
  | leave {w' : Watcher} {e : Daemon} : w'.point.attends = false → WatcherMove d w w' e
  | begin {e : Daemon} : w.point = .starting → Spares [] d e →
      WatcherMove d w
        { w with clusterNodes := d.replica.members, point := .checking true .start } e
  | check {isFirst : Bool} {point : CheckPoint} {w' : Watcher} {e : Daemon} :
      w.point = .checking isFirst point → CheckMove d w isFirst point w' → Spares [] d e →
      WatcherMove d w w' e
  | launch {e : Daemon} : w.point = .launching → Spares [] d e →
      WatcherMove d w { w with point := .running } e
  /-- It was told to look at everything anew. -/
  | refresh {mailbox : List WorkerCommand} {e : Daemon} : w.point = .running → Spares [] d e →
      WatcherMove d w (recheck { w with mailbox, force := true }) e
  | heedFile {event : Event} {d' e : Daemon} : w.point = .running →
      d.receive w.subscriptions.updated = some (event, d') → Spares [] d' e →
      WatcherMove d w (recheck w) e
  | heedMembers {event : Event} {i : Nat} {d' e : Daemon} : w.point = .running →
      w.subscriptions.cluster = some i → d.receive i = some (event, d') → Spares [] d' e →
      WatcherMove d w
        (recheck { w with clusterNodes := event.members w.clusterNodes, force := true }) e

/-- What a step of a watcher leaves as it was: all but the bus, its own record, its monitor
and the notice that it has ended. -/
structure Turns (id : WorkerId) (w w' : Watcher) (d e : Daemon) : Prop where
  path : w'.path = w.path
  filename : w'.filename = w.filename
  subscriptions : w'.subscriptions = w.subscriptions
  watchers : e.watchers = d.watchers.insert id w'
  spares : Spares w.subscriptions.ids d e
  settings : e.settings = d.settings
  configDirectory : e.configDirectory = d.configDirectory
  coordinator : e.coordinator = d.coordinator
  nextWorker : e.nextWorker = d.nextWorker
  takesNotices : e.takesNotices = d.takesNotices
  notices : (w'.point ≠ .done ∧ e.notices = d.notices) ∨
    (w'.point = .done ∧
      (d.takesNotices → e.notices = d.notices ++ [.watcherDone w.path w.filename id]))
  store : e.owned .store = d.owned .store
  aggregators : e.aggregators = d.aggregators
  monitors : ∀ k m, e.monitors.get? k = some m →
    m.ids = [0, 0] ∨ ∃ before, d.monitors.get? k = some before ∧ m.ids = before.ids

variable {d e : Daemon} {own : List Nat} {id : WorkerId} {w w' : Watcher}

/-! ## The evaluation of a file -/

/-- An evaluation leads on, neither to the beginning nor to the end. -/
theorem afterCheck_ne (isFirst passed : Bool) :
    afterCheck isFirst passed ≠ .starting ∧ afterCheck isFirst passed ≠ .done := by
  cases isFirst <;> cases passed <;> exact ⟨WatcherPoint.noConfusion, WatcherPoint.noConfusion⟩

/-- An evaluation keeps all but what it is about. -/
theorem CheckMove.keeps {isFirst : Bool} {point : CheckPoint}
    (move : CheckMove d w isFirst point w') :
    w'.path = w.path ∧ w'.filename = w.filename ∧ w'.subscriptions = w.subscriptions ∧
      w'.clusterNodes = w.clusterNodes ∧ w'.point ≠ .starting ∧ w'.point ≠ .done := by
  have checking (point : CheckPoint) : WatcherPoint.checking isFirst point ≠ .starting ∧
      WatcherPoint.checking isFirst point ≠ .done :=
    ⟨WatcherPoint.noConfusion, WatcherPoint.noConfusion⟩
  cases move with
  | confirm _ _ _ next =>
    refine ⟨rfl, rfl, rfl, rfl, ?_⟩
    rcases next with rfl | ⟨config, rfl⟩
    · exact afterCheck_ne ..
    · exact checking _
  | giveUp => exact ⟨rfl, rfl, rfl, rfl, afterCheck_ne ..⟩
  | unchanged => exact ⟨rfl, rfl, rfl, rfl, afterCheck_ne ..⟩
  | doubt => exact ⟨rfl, rfl, rfl, rfl, afterCheck_ne ..⟩
  | publish => exact ⟨rfl, rfl, rfl, rfl, afterCheck_ne ..⟩
  | look => exact ⟨rfl, rfl, rfl, rfl, checking _⟩
  | read => exact ⟨rfl, rfl, rfl, rfl, checking _⟩
  | evaluate => exact ⟨rfl, rfl, rfl, rfl, checking _⟩

/-- A step of the evaluation of a file. -/
theorem stepCheck_cases (d : Daemon) (id : WorkerId) (w : Watcher) (isFirst : Bool)
    (point : CheckPoint) :
    ∃ d' w', Talks [] d d' ∧ d.stepCheck id w isFirst point = d'.putWatcher id w' ∧
      CheckMove d w isFirst point w' := by
  have silent := Talks.refl [] d
  cases point with
  | start =>
    simp only [stepCheck]
    split
    · exact ⟨d, _, silent, rfl, .giveUp⟩
    · rename_i file found
      split
      · rename_i known
        exact ⟨d, _, silent, rfl, .unchanged found known.1 (by simpa using known.2)⟩
      · exact ⟨d, _, silent, rfl, .look found⟩
  | reading modified =>
    simp only [stepCheck]
    split
    · exact ⟨d, _, silent, rfl, .giveUp⟩
    · exact ⟨d, _, silent, rfl, .read⟩
  | evaluating modified checksum =>
    simp only [stepCheck]
    split
    · exact ⟨d, _, silent, rfl, .giveUp⟩
    · rename_i scope evaluated
      split
      · exact ⟨d, _, silent, rfl, .giveUp⟩
      · exact ⟨d, _, silent, rfl, .evaluate evaluated⟩
  | confirming modified checksum scope =>
    simp only [stepCheck]
    split
    · exact ⟨d, _, silent, rfl, .giveUp⟩
    · rename_i file found
      split
      · rename_i changed
        exact ⟨d, _, silent, rfl, .doubt found changed⟩
      · rename_i same
        rw [Decidable.not_not] at same
        split
        · exact ⟨d, _, silent, rfl, .giveUp⟩
        · rename_i named
          have mine : d.localhost ∈ scope := by simpa using named
          split
          · exact ⟨d, _, silent, rfl, .confirm found same mine (.inl rfl)⟩
          · exact ⟨d, _, silent, rfl, .confirm found same mine (.inr ⟨_, rfl⟩)⟩
  | publishing modified config =>
    simp only [stepCheck]
    refine ⟨_, _, talks_applyLocal _, rfl, ?_⟩
    split
    · exact .publish
    · exact .publish

/-! ## Frames -/

/-- After some talk a watcher keeps its record anew. -/
theorem Talks.turns {d' : Daemon} (talks : Talks own d d') (mine : own ⊆ w.subscriptions.ids)
    (path : w'.path = w.path) (filename : w'.filename = w.filename)
    (subscriptions : w'.subscriptions = w.subscriptions) (lives : w'.point ≠ .done) :
    Turns id w w' d (d'.putWatcher id w') := by
  have spares : Spares w.subscriptions.ids d d' := by
    obtain ⟨_, leaves⟩ := talks.spares
    exact ⟨_, leaves.mono mine⟩
  obtain ⟨bus, published, replica, rfl⟩ := talks.rest
  exact {
    path, filename, subscriptions
    watchers := rfl
    spares := spares.andThen rfl rfl
    settings := rfl
    configDirectory := rfl
    coordinator := rfl
    nextWorker := rfl
    takesNotices := rfl
    notices := .inl ⟨lives, rfl⟩
    store := rfl
    aggregators := rfl
    monitors := fun _ m here => .inr ⟨m, here, rfl⟩ }

/-- Its monitor is all that a watcher changes when it starts it or tells it to end. -/
theorem turns_monitor {m : Monitor} (path : w'.path = w.path) (filename : w'.filename = w.filename)
    (subscriptions : w'.subscriptions = w.subscriptions) (lives : w'.point ≠ .done)
    (ids : m.ids = [0, 0] ∨ ∃ before, d.monitors.get? id = some before ∧ m.ids = before.ids) :
    Turns id w w' d ({ d with monitors := d.monitors.insert id m }.putWatcher id w') where
  path := path
  filename := filename
  subscriptions := subscriptions
  watchers := rfl
  spares := spares_of_bus rfl rfl
  settings := rfl
  configDirectory := rfl
  coordinator := rfl
  nextWorker := rfl
  takesNotices := rfl
  notices := .inl ⟨lives, rfl⟩
  store := rfl
  aggregators := rfl
  monitors k now here := by
    change (d.monitors.insert id m).get? k = some now at here
    rw [SortedMap.get?_insert] at here
    split at here
    · rename_i same
      cases here
      rw [same]
      exact ids
    · exact .inr ⟨now, here, rfl⟩

/-- A watcher that ends tells so. -/
theorem turns_done (path : w'.path = w.path) (filename : w'.filename = w.filename)
    (subscriptions : w'.subscriptions = w.subscriptions) (ends : w'.point = .done) :
    Turns id w w' d ((d.putWatcher id w').notify (.watcherDone w.path w.filename id)) := by
  unfold notify
  split
  · exact {
      path, filename, subscriptions
      watchers := rfl
      spares := spares_of_bus rfl rfl
      settings := rfl
      configDirectory := rfl
      coordinator := rfl
      nextWorker := rfl
      takesNotices := rfl
      notices := .inr ⟨ends, fun _ => rfl⟩
      store := rfl
      aggregators := rfl
      monitors := fun _ m here => .inr ⟨m, here, rfl⟩ }
  · rename_i deaf
    exact {
      path, filename, subscriptions
      watchers := rfl
      spares := spares_of_bus rfl rfl
      settings := rfl
      configDirectory := rfl
      coordinator := rfl
      nextWorker := rfl
      takesNotices := rfl
      notices := .inr ⟨ends, fun takes => absurd takes deaf⟩
      store := rfl
      aggregators := rfl
      monitors := fun _ m here => .inr ⟨m, here, rfl⟩ }

/-- A watcher whose record stays as it is. -/
theorem putWatcher_self (here : d.watchers.get? id = some w) : d.putWatcher id w = d := by
  simp [putWatcher, SortedMap.insert_get? here]

/-- A watcher that tells its monitor to end keeps its own record. -/
theorem cancelMonitor_turns (here : d.watchers.get? id = some w) (lives : w.point ≠ .done) :
    Turns id w w d (d.cancelMonitor id) := by
  unfold cancelMonitor
  split
  · rename_i m found
    let e := { d with monitors := d.monitors.insert id { m with cancelled := true } }
    have same : e.putWatcher id w = e := putWatcher_self here
    have turns : Turns id w w d (e.putWatcher id w) :=
      turns_monitor rfl rfl rfl lives (.inr ⟨m, found, rfl⟩)
    rwa [same] at turns
  · have turns : Turns id w w d (d.putWatcher id w) :=
      (Talks.refl [] d).turns (List.nil_subset _) rfl rfl rfl lives
    rwa [putWatcher_self here] at turns

/-- A step gives a watcher no subscription, and its monitor has none before it runs. -/
theorem Turns.grants (turns : Turns id w w' d e) (here : d.watchers.get? id = some w) :
    Grants (.watcher id) d e where
  nextId := by
    obtain ⟨_, leaves⟩ := turns.spares
    exact leaves.nextId
  numbered := by
    obtain ⟨_, leaves⟩ := turns.spares
    exact leaves.numbered
  mine i has := by
    right
    left
    simpa [owned, turns.watchers, turns.subscriptions, here] using has
  others b different i has := by
    cases b with
    | store => exact .inr (turns.store ▸ has)
    | coordinator => exact .inr (by simpa [owned, turns.coordinator] using has)
    | watcher k =>
      have other : k ≠ id := fun same => different (by rw [same])
      exact .inr (by
        simpa [owned, turns.watchers, SortedMap.get?_insert_of_ne _ _ other] using has)
    | monitor k =>
      cases now : e.monitors.get? k with
      | none => simp [owned, now] at has
      | some m =>
        have mine : i ∈ m.ids := by simpa [owned, now] using has
        rcases turns.monitors k m now with none | ⟨before, found, same⟩
        · rw [none] at mine
          exact .inl (by simpa using mine)
        · exact .inr (by simpa [owned, found, ← same] using mine)
    | aggregator k => exact .inr (by simpa [owned, turns.aggregators] using has)

/-! ## Steps -/

/-- A step of a watcher that waits for what happens next. -/
theorem runWatcher_cases (runs : w.point = .running) (stepped : d.runWatcher id w = some e) :
    ∃ w', WatcherMove d w w' e ∧ Turns id w w' d e := by
  have silent := Talks.refl [] d
  have nothing : [] ⊆ w.subscriptions.ids := List.nil_subset _
  unfold runWatcher at stepped
  split at stepped
  · cases stepped
    exact ⟨_, .leave rfl, silent.turns nothing rfl rfl rfl WatcherPoint.noConfusion⟩
  · split at stepped
    · cases stepped
      exact ⟨_, .leave rfl, silent.turns nothing rfl rfl rfl WatcherPoint.noConfusion⟩
    · cases stepped
      exact ⟨_, .refresh runs (spares_of_bus rfl rfl),
        silent.turns nothing rfl rfl rfl WatcherPoint.noConfusion⟩
    · split at stepped
      · rename_i received
        cases stepped
        have mine : [w.subscriptions.removed] ⊆ w.subscriptions.ids := by
          simp [WatcherSubscriptions.ids]
        exact ⟨_, .leave rfl, (talks_receive (List.mem_singleton_self _) received).turns mine
          rfl rfl rfl WatcherPoint.noConfusion⟩
      · split at stepped
        · rename_i received
          cases stepped
          have mine : [w.subscriptions.updated] ⊆ w.subscriptions.ids := by
            simp [WatcherSubscriptions.ids]
          exact ⟨_, .heedFile runs received (spares_of_bus rfl rfl),
            (talks_receive (List.mem_singleton_self _) received).turns mine
              rfl rfl rfl WatcherPoint.noConfusion⟩
        · obtain ⟨i, cluster, stepped⟩ := Option.bind_eq_some_iff.1 stepped
          obtain ⟨⟨event, d'⟩, received, stepped⟩ := Option.bind_eq_some_iff.1 stepped
          cases stepped
          have mine : [i] ⊆ w.subscriptions.ids := by
            simp [WatcherSubscriptions.ids, cluster]
          exact ⟨_, .heedMembers runs cluster received (spares_of_bus rfl rfl),
            (talks_receive (List.mem_singleton_self _) received).turns mine
              rfl rfl rfl WatcherPoint.noConfusion⟩

/-- A step of a watcher: its point moves on, it talks, and it tells when it has ended. -/
theorem stepWatcher_cases (here : d.watchers.get? id = some w) (isOpen : d.storeOpen = true)
    (stepped : d.stepWatcher id w = some e) :
    w.point ≠ .done ∧ ∃ w', WatcherMove d w w' e ∧ Turns id w w' d e := by
  have silent := Talks.refl [] d
  have nothing : [] ⊆ w.subscriptions.ids := List.nil_subset _
  unfold stepWatcher at stepped
  split at stepped
  · rename_i point
    cases stepped
    rw [if_pos isOpen, point]
    exact ⟨WatcherPoint.noConfusion, _, .begin point (spares_of_bus rfl rfl),
      silent.turns nothing rfl rfl rfl WatcherPoint.noConfusion⟩
  · rename_i isFirst check point
    cases stepped
    obtain ⟨d', w', talks, checked, move⟩ := stepCheck_cases d id w isFirst check
    obtain ⟨path, filename, subscriptions, _, _, lives⟩ := move.keeps
    rw [checked, point]
    exact ⟨WatcherPoint.noConfusion, w', .check point move (talks.spares.andThen rfl rfl),
      talks.turns nothing path filename subscriptions lives⟩
  · rename_i point
    cases stepped
    rw [point]
    exact ⟨WatcherPoint.noConfusion, _, .launch point (spares_of_bus rfl rfl),
      turns_monitor rfl rfl rfl WatcherPoint.noConfusion (.inl rfl)⟩
  · rename_i point
    refine ⟨by rw [point]; exact WatcherPoint.noConfusion, runWatcher_cases point stepped⟩
  · rename_i point
    rw [point]
    refine ⟨WatcherPoint.noConfusion, ?_⟩
    split at stepped
    · cases stepped
      refine ⟨_, .leave ?_, silent.turns nothing rfl rfl rfl ?_⟩
      · cases w.published <;> rfl
      · cases w.published <;> exact WatcherPoint.noConfusion
    · split at stepped
      · cases stepped
      · cases stepped
        have lives : w.point ≠ .done := by rw [point]; exact WatcherPoint.noConfusion
        exact ⟨w, .leave (by rw [point]; rfl), cancelMonitor_turns here lives⟩
  · rename_i point
    cases stepped
    rw [point]
    exact ⟨WatcherPoint.noConfusion, _, .leave rfl,
      (talks_applyLocal _).turns nothing rfl rfl rfl WatcherPoint.noConfusion⟩
  · rename_i point
    cases stepped
    rw [point]
    exact ⟨WatcherPoint.noConfusion, _, .leave rfl,
      (talks_applyLocal _).turns nothing rfl rfl rfl WatcherPoint.noConfusion⟩
  · rename_i point
    cases stepped
    rw [point]
    exact ⟨WatcherPoint.noConfusion, _, .leave rfl,
      (talks_unsubscribe fun _ mine => mine).turns (fun _ mine => mine)
        rfl rfl rfl WatcherPoint.noConfusion⟩
  · rename_i deadline point
    rw [point]
    refine ⟨WatcherPoint.noConfusion, ?_⟩
    split at stepped
    · cases stepped
      exact ⟨_, .leave rfl, silent.turns nothing rfl rfl rfl WatcherPoint.noConfusion⟩
    · split at stepped
      · cases stepped
        exact ⟨_, .leave rfl, turns_done rfl rfl rfl rfl⟩
      · cases stepped
  · cases stepped

end Daemon

end ClusterNode
