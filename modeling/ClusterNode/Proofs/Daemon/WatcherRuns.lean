import ClusterNode.Proofs.Daemon.Evaluation
import ClusterNode.Proofs.Daemon.Run

/-!
# Runs of one watcher

A `Daemon.Watch` is a run of a node in which one watcher is observed from its start on: its file
never gets a time of modification that it had, the store is open, and beside all that can happen
to a node the watcher may be commanded. The steps are kept, latest first.

`Befalls.cases` is the inversion of what happens from the view of the watcher: it is a step of its
own (`Deed`), or others go on around it (`Around`).
-/

namespace ClusterNode.Daemon

/-- What can happen to a node of which one watcher is observed. -/
inductive Befalls (id : WorkerId) (d : Daemon) : Daemon → Prop where
  | step {e : Daemon} : Step d e → Befalls id d e
  | command {c : WorkerCommand} {e : Daemon} : d.commandWatcher id c = some e → Befalls id d e

/-- A file had a version in a state that was passed through, or has it. -/
def Was (file : String) (past : List (Daemon × Daemon)) (d : Daemon) (v : FileVersion) : Prop :=
  ∃ s ∈ d :: past.map (·.1), s.configDirectory.read? file = some v

/-- A run: the steps that were made, latest first, and the state reached. -/
inductive Watch (id : WorkerId) (file : String) (start : Daemon) :
    List (Daemon × Daemon) → Daemon → Prop where
  | start : Watch id file start [] start
  | next {past : List (Daemon × Daemon)} {d e : Daemon} : Watch id file start past d →
      Befalls id d e → e.cancelled = false → e.storeOpen = true →
      Renews file (Was file past d) d e → Watch id file start ((d, e) :: past) e

/-- A watcher was just started: it is subscribed, and has done nothing. -/
structure JustStarted (id : WorkerId) (w : Watcher) (d : Daemon) : Prop where
  number : id < d.nextWorker
  point : w.point = .starting
  lastModified : w.lastModified = none
  published : w.published = false
  updated : ∃ s, d.bus.find? w.subscriptions.updated = some s ∧
    s.IsFor .configFileUpdated [.path w.path]
  cluster : ∀ i, w.subscriptions.cluster = some i →
    d.bus.find? i = some ⟨i, .clusterConfigUpdated, [.node d.localhost], [], 0⟩

/-- A node goes on from the start of a watcher; every queue holds at least one event. -/
structure Begins (id : WorkerId) (w : Watcher) (d : Daemon) : Prop extends JustStarted id w d where
  steady : d.Steady
  room : 0 < d.bus.queueSize
  here : d.watchers.get? id = some w

/-- What one step makes of the record of a watcher, and what the watcher takes. -/
inductive Deed (d : Daemon) (w : Watcher) : Watcher → Daemon → Prop where
  /-- It gives up, or has given up before. -/
  | leave {w' : Watcher} {e : Daemon} : w'.point.attends = false → Deed d w w' e
  | begin {e : Daemon} : w.point = .starting → Spares [] d e →
      Deed d w { w with clusterNodes := d.replica.members, point := .checking true .start } e
  | check {isFirst : Bool} {point : CheckPoint} {w' : Watcher} {e : Daemon} :
      w.point = .checking isFirst point → Evaluation d w isFirst point w' → Spares [] d e →
      Deed d w w' e
  | launch {e : Daemon} : w.point = .launching → Spares [] d e →
      Deed d w { w with point := .running } e
  | refresh {mailbox : List WorkerCommand} {e : Daemon} : w.point = .running → e.bus = d.bus →
      e.published = d.published → Deed d w (recheck { w with mailbox, force := true }) e
  | heedFile {e : Daemon} : w.point = .running →
      e.bus = d.bus.take w.subscriptions.updated → e.published = d.published →
      Deed d w (recheck w) e
  | heedMembers {event : Event} {i : Nat} {e : Daemon} : w.point = .running →
      w.subscriptions.cluster = some i → d.bus.next? i = some event → e.bus = d.bus.take i →
      e.published = d.published → Deed d w
        (recheck { w with clusterNodes := event.members w.clusterNodes, force := true }) e

/-- What others do around a watcher: its record stays but for the mailbox, and it hears what is
published. -/
structure Around (id : WorkerId) (w : Watcher) (news : List Publication) (d e : Daemon) :
    Prop where
  here : ∃ mailbox, e.watchers.get? id = some { w with mailbox }
  leaves : ∃ own, Leaves own news d e ∧
    ∀ i ∈ w.subscriptions.ids, ∀ s, d.bus.find? i = some s → i ∉ own
  settings : e.settings = d.settings
  nextWorker : d.nextWorker ≤ e.nextWorker

variable {d e : Daemon} {id : WorkerId} {w w' : Watcher} {c c' : Coordinator}

/-! ## Own steps -/

/-- The record that a step of a watcher leaves is the one that it put. -/
theorem Turns.eq_of_put (turns : Turns id w w' d e) {u : Watcher}
    (made : e.watchers = d.watchers.insert id u) : w' = u := by
  have same := SortedMap.get?_insert_self d.watchers id w'
  rw [← turns.watchers, made, SortedMap.get?_insert_self] at same
  exact (Option.some.inj same).symm

/-- An event that is received is the next one of its subscription, and is taken. -/
theorem receive_eq {i : Nat} {event : Event} (received : d.receive i = some (event, e)) :
    d.bus.next? i = some event ∧ e = { d with bus := d.bus.take i } := by
  obtain ⟨_, next, made⟩ := Option.map_eq_some_iff.1 received
  cases made
  exact ⟨next, rfl⟩

/-- A watcher that waits takes at most one event. -/
theorem runWatcher_deed (runs : w.point = .running) (turns : Turns id w w' d e)
    (stepped : d.runWatcher id w = some e) : Deed d w w' e := by
  unfold runWatcher at stepped
  split at stepped
  · cases stepped
    rw [turns.eq_of_put rfl]
    exact .leave rfl
  · split at stepped
    · cases stepped
      rw [turns.eq_of_put rfl]
      exact .leave rfl
    · cases stepped
      rw [turns.eq_of_put rfl]
      exact .refresh runs rfl rfl
    · split at stepped
      · rename_i received
        cases stepped
        obtain ⟨_, rfl⟩ := receive_eq received
        rw [turns.eq_of_put rfl]
        exact .leave rfl
      · split at stepped
        · rename_i received
          cases stepped
          obtain ⟨_, rfl⟩ := receive_eq received
          rw [turns.eq_of_put rfl]
          exact .heedFile runs rfl rfl
        · obtain ⟨i, cluster, stepped⟩ := Option.bind_eq_some_iff.1 stepped
          obtain ⟨⟨event, d'⟩, received, stepped⟩ := Option.bind_eq_some_iff.1 stepped
          cases stepped
          obtain ⟨next, rfl⟩ := receive_eq received
          rw [turns.eq_of_put rfl]
          exact .heedMembers runs cluster next rfl rfl

/-- A step of a watcher, with what it looked at and what it took. -/
theorem stepWatcher_deed (here : d.watchers.get? id = some w) (isOpen : d.storeOpen = true)
    (stepped : d.stepWatcher id w = some e) : ∃ w', Deed d w w' e ∧ Turns id w w' d e := by
  obtain ⟨_, w', move, turns⟩ := stepWatcher_cases here isOpen stepped
  refine ⟨w', ?_, turns⟩
  cases move with
  | leave gone => exact .leave gone
  | begin starting spares => exact .begin starting spares
  | @check isFirst point w' e checking _ spares =>
    simp only [stepWatcher, checking] at stepped
    obtain ⟨u, put, evaluation⟩ := stepCheck_evaluates isOpen id w isFirst point
    rw [Option.some.inj stepped] at put
    rw [turns.eq_of_put put]
    exact .check checking evaluation spares
  | launch launching spares => exact .launch launching spares
  | refresh runs | heedFile runs | heedMembers runs =>
    simp only [stepWatcher, runs] at stepped
    exact runWatcher_deed runs turns stepped

/-! ## What others do -/

/-- What spares the subscriptions of a watcher and leaves its record happens around it. -/
theorem Spares.around {own : List Nat} (spares : Spares own d e)
    (here : d.watchers.get? id = some w) (watchers : e.watchers.get? id = d.watchers.get? id)
    (others : ∀ i ∈ w.subscriptions.ids, ∀ s, d.bus.find? i = some s → i ∉ own)
    (settings : e.settings = d.settings) (nextWorker : d.nextWorker ≤ e.nextWorker) :
    ∃ news, Around id w news d e := by
  obtain ⟨news, leaves⟩ := spares
  exact ⟨news, ⟨w.mailbox, watchers.trans here⟩, ⟨own, leaves, others⟩, settings, nextWorker⟩

/-- A step aside happens around every watcher. -/
theorem Aside.around (aside : Aside d e) (apart : d.Apart) (here : d.watchers.get? id = some w) :
    ∃ news, Around id w news d e := by
  obtain ⟨a, _, notWatcher, bystands, _⟩ := aside
  exact bystands.spares.around here (by rw [bystands.watchers])
    (apart.watcher here (notWatcher id)) bystands.settings (Nat.le_of_eq bystands.nextWorker.symm)

/-- Watchers that a scan starts have new numbers. -/
theorem applyScan_around (apart : d.Apart) (here : d.watchers.get? id = some w)
    (number : id < d.nextWorker) (c : Coordinator) (found : SortedMap ObjectPath ConfigFile) :
    ∃ news, Around id w news d (d.applyScan c found) := by
  obtain ⟨d', c', _, ⟨there, later⟩, scans, _, made⟩ := applyScan_induction apart c found
    (motive := fun d' _ => d'.watchers.get? id = d.watchers.get? id ∧
      d.nextWorker ≤ d'.nextWorker)
    (by rw [publishAll_eq]; exact ⟨rfl, Nat.le_refl _⟩)
    (by
      intro d' c' p f apart' _ _ _ ⟨there, later⟩
      by_cases watched : d'.watches c' p
      · rw [takeFile_told watched]
        exact ⟨there, later⟩
      · obtain ⟨u, _, watchers, nextWorker, _⟩ :=
          takeFile_starts (f := f) apart'.numbered watched
        have other : id ≠ d'.nextWorker := Nat.ne_of_lt (Nat.lt_of_lt_of_le number later)
        rw [watchers, nextWorker, SortedMap.get?_insert_of_ne _ _ other]
        exact ⟨there, Nat.le_succ_of_le later⟩)
  rw [made]
  exact (scans.spares.andThen (f := d'.putCoordinator _) rfl rfl).around here there
    (fun _ _ _ _ => List.not_mem_nil) scans.settings later

/-- What happens is a step of the watcher, or others go on around it. -/
theorem Step.around (step : Step d e) (steady : d.Steady) (stays : e.cancelled = false)
    (isOpen : e.storeOpen = true) (here : d.watchers.get? id = some w)
    (number : id < d.nextWorker) :
    d.step (.watcher id) = some e ∨ ∃ news, Around id w news d e := by
  have aside (aside : Aside d e) :
      d.step (.watcher id) = some e ∨ ∃ news, Around id w news d e :=
    .inr (aside.around steady.apart here)
  cases step with
  | @act a _ _ stepped =>
    cases a with
    | store =>
      obtain ⟨bystands, grants⟩ := stepStore_bystands stepped
      exact aside ⟨_, Actor.noConfusion, fun _ => Actor.noConfusion, bystands, grants⟩
    | coordinator =>
      right
      obtain ⟨c, known, works⟩ := steady.coordinator
      have stepped : d.stepCoordinator c = some e := by simpa [stepTaking, known] using stepped
      rcases stepCoordinator_cases known steady.stays works steady.apart.numbered stepped with
        ⟨c', _, directs⟩ | ⟨found, _, rfl⟩
      · exact directs.spares.around here (by rw [directs.watchers])
          (fun i mine s found => by
            rw [← owned_coordinator known]
            exact steady.apart.watcher here Actor.noConfusion i mine s found)
          directs.settings directs.nextWorker
      · exact applyScan_around steady.apart here number c found
    | watcher id' =>
      by_cases same : id' = id
      · subst same
        exact .inl stepped
      · right
        obtain ⟨u, there, stepped⟩ := Option.bind_eq_some_iff.1 stepped
        obtain ⟨_, u', _, turns⟩ := stepWatcher_cases there steady.isOpen stepped
        refine turns.spares.around here ?_ (fun i mine s found => ?_) turns.settings
          (Nat.le_of_eq turns.nextWorker.symm)
        · rw [turns.watchers, SortedMap.get?_insert_of_ne _ _ (Ne.symm same)]
        · rw [← owned_watcher there]
          exact steady.apart.watcher here (fun eq => same (Actor.watcher.inj eq)) i mine s found
    | monitor id' =>
      obtain ⟨m, there, stepped⟩ := Option.bind_eq_some_iff.1 stepped
      obtain ⟨bystands, grants⟩ := stepMonitor_bystands there stepped
      exact aside ⟨_, Actor.noConfusion, fun _ => Actor.noConfusion, bystands, grants⟩
    | aggregator id' =>
      obtain ⟨a, there, stepped⟩ := Option.bind_eq_some_iff.1 stepped
      obtain ⟨bystands, grants⟩ := stepAggregator_bystands there stepped
      exact aside ⟨_, Actor.noConfusion, fun _ => Actor.noConfusion, bystands, grants⟩
  | moveClock | serve | statusFiles => exact aside (aside_of_clock ⟨_, _, _, rfl⟩)
  | configDirectory files =>
    have spares : Spares [] d { d with configDirectory := files } := spares_of_bus rfl rfl
    exact .inr (spares.around here rfl (fun _ _ _ _ => List.not_mem_nil) rfl (Nat.le_refl _))
  | applyLocal m => exact aside (talks_applyLocal m).aside
  | applyRemote node g ms => exact aside (talks_applyRemote node g ms).aside
  | applyMessage m => exact aside (talks_applyMessage m).aside
  | publish p => exact aside (talks_publish p).aside
  | cancel => cases stays
  | closeStore => cases isOpen

/-- A command changes nothing but the mailbox. -/
theorem commandWatcher_cases {command : WorkerCommand} (here : d.watchers.get? id = some w)
    (commanded : d.commandWatcher id command = some e) :
    ∃ mailbox, e = d.putWatcher id { w with mailbox } := by
  obtain ⟨u, found, commanded⟩ := Option.bind_eq_some_iff.1 commanded
  obtain ⟨mailbox, _, made⟩ := Option.bind_eq_some_iff.1 commanded
  cases made
  cases here.symm.trans (Option.filter_eq_some_iff.1 found).1
  exact ⟨mailbox, rfl⟩

/-- A command for a watcher leaves a node steady. -/
theorem Steady.command {command : WorkerCommand} (steady : d.Steady)
    (here : d.watchers.get? id = some w) (commanded : d.commandWatcher id command = some e) :
    e.Steady := by
  obtain ⟨mailbox, rfl⟩ := commandWatcher_cases here commanded
  have grants : Grants (.watcher id) d (d.putWatcher id { w with mailbox }) := by
    refine (Talks.refl [] d).grantsWith rfl ?_ ?_
    · intro i mine
      right
      left
      simpa [owned, putWatcher, here] using mine
    · intro b different i has
      right
      cases b with
      | watcher k =>
        have other : k ≠ id := fun same => different (by rw [same])
        simpa [owned, putWatcher, SortedMap.get?_insert_of_ne _ _ other] using has
      | _ => exact has
  exact { steady with apart := steady.apart.grants grants }

/-- Whatever befalls a node that stays up leaves it steady. -/
theorem Befalls.steady (befalls : Befalls id d e) (steady : d.Steady)
    (here : d.watchers.get? id = some w) (stays : e.cancelled = false)
    (isOpen : e.storeOpen = true) : e.Steady := by
  cases befalls with
  | step step => exact steady.step step stays isOpen
  | command commanded => exact steady.command here commanded

/-- What happens, from the view of the watcher. -/
theorem Befalls.cases (befalls : Befalls id d e) (steady : d.Steady) (stays : e.cancelled = false)
    (isOpen : e.storeOpen = true) (here : d.watchers.get? id = some w)
    (number : id < d.nextWorker) :
    (d.step (.watcher id) = some e ∧ ∃ w', Deed d w w' e ∧ Turns id w w' d e) ∨
      (d.step (.watcher id) ≠ some e ∧ ∃ news, Around id w news d e) := by
  by_cases stepped : d.step (.watcher id) = some e
  · refine .inl ⟨stepped, ?_⟩
    have stepped : d.stepWatcher id w = some e := by
      simpa [Daemon.step, stepTaking, here] using stepped
    exact stepWatcher_deed here steady.isOpen stepped
  · refine .inr ⟨stepped, ?_⟩
    cases befalls with
    | step step => exact (step.around steady stays isOpen here number).resolve_left stepped
    | command commanded =>
      obtain ⟨mailbox, rfl⟩ := commandWatcher_cases here commanded
      exact ⟨[], ⟨mailbox, SortedMap.get?_insert_self ..⟩,
        ⟨[], leaves_of_bus rfl rfl, fun _ _ _ _ => List.not_mem_nil⟩, rfl, Nat.le_refl _⟩

/-! ## Watchers that are started -/

variable {p : ObjectPath} {f : ConfigFile} {i : Nat} {s : Subscriber}

/-- The start of a watcher leaves the subscribers that were there. -/
theorem startWatcher_keeps (found : d.bus.find? i = some s) (p : ObjectPath) (filename : String) :
    (d.startWatcher p filename).2.bus.find? i = some s := by
  have updated := Bus.find?_subscribe_of_some found .configFileUpdated [.path p]
  have removed := Bus.find?_subscribe_of_some updated .configFileRemoved [.path p]
  unfold startWatcher
  by_cases isCluster : p.isCluster
  · simp only [isCluster, if_true]
    exact removed
  · simp only [isCluster]
    exact Bus.find?_subscribe_of_some removed ..

/-- A subscriber of other events is left alone by a file that is taken. -/
theorem takeFile_keeps (found : d.bus.find? i = some s) (other : s.kind ≠ .configFileUpdated) :
    (d.takeFile c p f).1.bus.find? i = some s := by
  unfold takeFile
  dsimp only
  split
  · have deaf : ¬ s.accepts (Event.configFileUpdated p f.filename).kind [.path p] := by
      simp [Subscriber.accepts, Event.kind, other]
    rw [publish, Bus.find?_publish, found, Option.map_some, Publication.ofPath, Bus.offer,
      if_neg deaf]
  · exact startWatcher_keeps found p f.filename

/-- A watcher that was just started is left so by a file that is taken, and so is a watcher that
is started for the file. -/
theorem justStarted_takeFile (apart : d.Apart)
    (before : ∀ w, d.watchers.get? id = some w → JustStarted id w d)
    (here : (d.takeFile c p f).1.watchers.get? id = some w) :
    JustStarted id w (d.takeFile c p f).1 := by
  obtain ⟨scans, _⟩ := takeFile_scans (c := c) (p := p) (f := f) apart
  have localhost : (d.takeFile c p f).1.localhost = d.localhost :=
    congrArg DaemonSettings.localhost scans.settings
  have keeps (later : d.nextWorker ≤ (d.takeFile c p f).1.nextWorker)
      (there : d.watchers.get? id = some w) : JustStarted id w (d.takeFile c p f).1 := by
    have started := before w there
    refine ⟨Nat.lt_of_lt_of_le started.number later, started.point, started.lastModified,
      started.published, ?_, fun i cluster => ?_⟩
    · obtain ⟨s, found, isFor⟩ := started.updated
      obtain ⟨_, leaves⟩ := scans.spares
      obtain ⟨t, kept, hears⟩ := leaves.hears _ s found List.not_mem_nil
      exact ⟨t, kept, isFor.hears hears⟩
    · rw [localhost]
      exact takeFile_keeps (started.cluster i cluster) EventKind.noConfusion
  by_cases watched : d.watches c p
  · rw [takeFile_told watched] at here keeps ⊢
    exact keeps (Nat.le_refl _) here
  · obtain ⟨u, started, watchers, nextWorker, _⟩ := takeFile_starts (f := f) apart.numbered watched
    by_cases new : id = d.nextWorker
    · subst new
      rw [watchers, SortedMap.get?_insert_self] at here
      cases here
      refine ⟨by rw [nextWorker]; exact Nat.lt_succ_self _, started.point, started.lastModified,
        started.unpublished, ⟨_, started.updated, rfl, by rw [started.path]⟩, fun i cluster => ?_⟩
      rw [localhost]
      rcases started.cluster with ⟨none, _⟩ | ⟨j, some, found⟩
      · cases none.symm.trans cluster
      · cases some.symm.trans cluster
        exact found
    · rw [watchers, SortedMap.get?_insert_of_ne _ _ new] at here
      exact keeps (nextWorker ▸ Nat.le_succ _) here

/-- Every watcher of a node begins with the step in which it first appears. -/
theorem Step.begins (step : Step d e) (steady : d.Steady) (stays : e.cancelled = false)
    (isOpen : e.storeOpen = true) (room : 0 < d.bus.queueSize)
    (absent : d.watchers.get? id = none) (here : e.watchers.get? id = some w) :
    Begins id w e := by
  have steady' := steady.step step stays isOpen
  rcases step.cases steady stays isOpen with
    ⟨_, _, _, bystands, _⟩ | ⟨files, rfl⟩ | ⟨id', u, u', there, _, _, turns⟩ |
      ⟨c, known, ⟨c', _, directs⟩ | ⟨found, _, rfl⟩⟩
  · rw [bystands.watchers, absent] at here
    cases here
  · cases absent.symm.trans here
  · by_cases same : id = id'
    · subst same
      cases absent.symm.trans there
    · rw [turns.watchers, SortedMap.get?_insert_of_ne _ _ same, absent] at here
      cases here
  · rw [directs.watchers, absent] at here
    cases here
  · obtain ⟨d', c', _, started, scans, _, made⟩ := applyScan_induction steady.apart c found
      (motive := fun d' _ => ∀ w, d'.watchers.get? id = some w → JustStarted id w d')
      (by
        intro w there
        rw [publishAll_eq] at there
        cases absent.symm.trans there)
      (fun _ _ _ _ apart _ _ _ before _ there => justStarted_takeFile apart before there)
    rw [made] at here steady' ⊢
    obtain ⟨_, leaves⟩ := scans.spares
    have begun := started w here
    exact ⟨⟨begun.number, begun.point, begun.lastModified, begun.published, begun.updated,
      begun.cluster⟩, steady', leaves.queueSize ▸ room, here⟩

end ClusterNode.Daemon
