import ClusterNode.Proofs.Daemon.ConfigRecords
import ClusterNode.Proofs.Daemon.Discovery

/-!
# A watcher publishes what its file says

`Observed` is what every `Daemon.Watch` keeps. `Watch.config_records` follows from it: a watcher
does not publish the same content twice in a row; each configuration that it publishes is that of
one version of its file; and a watcher that rests, after it was told of the last change of its
file, has published what the file says, for the members that were announced to it last.

The flag that asks for an evaluation is cleared before the evaluation is known to be of one
version. Nothing is lost by that: where the file changed in between, the version that was evaluated
last is gone, so that the time of modification alone makes the watcher evaluate the next one.
-/

namespace ClusterNode.Daemon

/-- What holds of a watcher that has not given up. -/
structure Attentive (id : WorkerId) (start : Daemon) (past : List (Daemon × Daemon)) (d : Daemon)
    (w : Watcher) : Prop where
  subscribed : Subscribed d w
  accounts : Accounts start past d w
  goesBy : GoesBy id past w
  recalls : Recalls id past w

/-- What holds of a watcher that was the watcher `first` in the state `start`. -/
structure Observed (id : WorkerId) (first : Watcher) (start : Daemon)
    (past : List (Daemon × Daemon)) (d : Daemon) (w : Watcher) : Prop where
  steady : d.Steady
  room : 0 < d.bus.queueSize
  here : d.watchers.get? id = some w
  number : id < d.nextWorker
  settings : d.settings = start.settings
  path : w.path = first.path
  filename : w.filename = first.filename
  subscriptions : w.subscriptions = first.subscriptions
  knows : w.Knows (Was first.filename past d) d
  attentive : w.point.attends = true → Attentive id start past d w

variable {id : WorkerId} {first w w' : Watcher} {start d e : Daemon}
  {past earlier later : List (Daemon × Daemon)} {t : Daemon × Daemon} {c c' : InstanceConfig}
  {file : String} {i : Nat}

/-! ## Single steps -/

/-- A watcher that takes a step and has not given up stays attentive. -/
theorem Attentive.deed (attentive : Attentive id start past d w)
    (here : d.watchers.get? id = some w) (stepped : d.step (.watcher id) = some e)
    (deed : Deed d w w' e) (turns : Turns id w w' d e) (stays : w'.point.attends = true) :
    Attentive id start ((d, e) :: past) e w' where
  subscribed := attentive.subscribed.deed deed turns stays
  accounts := attentive.accounts.deed attentive.subscribed deed turns stays
  goesBy := attentive.goesBy.deed attentive.subscribed here stepped deed turns stays
  recalls := attentive.recalls.deed here stepped deed stays

/-- A watcher stays attentive when others act around it. -/
theorem Attentive.spoken {own : List Nat} {news : List Publication} {mailbox : List WorkerCommand}
    (attentive : Attentive id start past d w) (other : d.step (.watcher id) ≠ some e)
    (spoken : Spoken w own news d e) :
    Attentive id start ((d, e) :: past) e { w with mailbox } where
  subscribed := attentive.subscribed.spoken spoken rfl rfl
  accounts := attentive.accounts.spoken attentive.subscribed spoken rfl
  goesBy := attentive.goesBy.spoken attentive.subscribed spoken rfl rfl rfl
  recalls := attentive.recalls.silent (not_publishesConfig other) rfl rfl

/-- A version that there was is one that there was later. -/
theorem Was.next {v : FileVersion} (was : Was file past d v) : Was file ((d, e) :: past) e v := by
  obtain ⟨s, member, there⟩ := was
  exact ⟨s, List.mem_cons_of_mem _ member, there⟩

/-- The version that is there is one of those that there were. -/
theorem was_now {v : FileVersion} (there : d.configDirectory.read? file = some v) :
    Was file past d v :=
  ⟨d, List.mem_cons_self .., there⟩

/-- What happens around a watcher is something spoken around it. -/
theorem Around.spoken {news : List Publication} (around : Around id w news d e) :
    ∃ own, Spoken w own news d e := by
  obtain ⟨own, leaves, others⟩ := around.leaves
  exact ⟨own, leaves, others, around.settings⟩

/-- The room of the queues stays. -/
theorem room_of_spares {own : List Nat} (spares : Spares own d e) (room : 0 < d.bus.queueSize) :
    0 < e.bus.queueSize := by
  obtain ⟨_, leaves⟩ := spares
  exact leaves.queueSize ▸ room

namespace Observed

/-- What befalls a node while it is up is a step of the watcher, or something around it. -/
theorem cases (observed : Observed id first start past d w) (befalls : Befalls id d e)
    (stays : e.cancelled = false) (isOpen : e.storeOpen = true) :
    (d.step (.watcher id) = some e ∧ ∃ w', Deed d w w' e ∧ Turns id w w' d e) ∨
      (d.step (.watcher id) ≠ some e ∧ ∃ news, Around id w news d e) :=
  befalls.cases observed.steady stays isOpen observed.here observed.number

/-- What happens keeps what is observed. -/
theorem next (observed : Observed id first start past d w) (befalls : Befalls id d e)
    (stays : e.cancelled = false) (isOpen : e.storeOpen = true)
    (renews : Renews first.filename (Was first.filename past d) d e) :
    ∃ w', Observed id first start ((d, e) :: past) e w' := by
  have steady := befalls.steady observed.steady observed.here stays isOpen
  have grows (v : FileVersion) : Was first.filename past d v →
      Was first.filename ((d, e) :: past) e v := Was.next
  rcases observed.cases befalls stays isOpen with
    ⟨stepped, w', deed, turns⟩ | ⟨other, news, around⟩
  · have filename := turns.filename.trans observed.filename
    have knows : w'.Knows (Was first.filename past d) d :=
      deed.knows observed.knows fun v there => was_now (observed.filename ▸ there)
    exact ⟨w', {
      steady
      room := room_of_spares turns.spares observed.room
      here := by rw [turns.watchers, SortedMap.get?_insert_self]
      number := turns.nextWorker ▸ observed.number
      settings := turns.settings.trans observed.settings
      path := turns.path.trans observed.path
      filename
      subscriptions := turns.subscriptions.trans observed.subscriptions
      knows := knows.mono (congrArg DaemonSettings.localhost turns.settings)
        (filename.symm ▸ renews) grows
      attentive := fun attends => (observed.attentive (deed.attends_before attends)).deed
        observed.here stepped deed turns attends }⟩
  · obtain ⟨mailbox, here⟩ := around.here
    obtain ⟨own, spoken⟩ := around.spoken
    exact ⟨{ w with mailbox }, {
      steady
      room := room_of_spares ⟨_, spoken.leaves⟩ observed.room
      here
      number := Nat.lt_of_lt_of_le observed.number around.nextWorker
      settings := around.settings.trans observed.settings
      path := observed.path
      filename := observed.filename
      subscriptions := observed.subscriptions
      knows := observed.knows.mono (congrArg DaemonSettings.localhost around.settings)
        (observed.filename.symm ▸ renews) grows
      attentive := fun attends => (observed.attentive attends).spoken other spoken }⟩

/-- It stays pending that the file changed, until it changes again. -/
theorem pending (observed : Observed id first start past d w) (befalls : Befalls id d e)
    (stays : e.cancelled = false) (isOpen : e.storeOpen = true)
    (still : e.configDirectory.read? first.filename = d.configDirectory.read? first.filename)
    (pending : Pending d w) : ∃ w', e.watchers.get? id = some w' ∧ Pending e w' := by
  rcases observed.cases befalls stays isOpen with ⟨_, w', deed, turns⟩ | ⟨_, news, around⟩
  · exact ⟨w', by rw [turns.watchers, SortedMap.get?_insert_self], pending.deed deed turns⟩
  · obtain ⟨mailbox, here⟩ := around.here
    obtain ⟨own, spoken⟩ := around.spoken
    refine ⟨_, here, pending.spoken spoken ?_⟩
    rw [fileOf, fileOf, observed.filename]
    exact still

/-- When a watcher is told that its file changed, that is pending. -/
theorem notified (observed : Observed id first start past d w) (befalls : Befalls id d e)
    (stays : e.cancelled = false) (isOpen : e.storeOpen = true)
    (notifies : NotifiesOf first.path (d, e)) :
    ∃ w', e.watchers.get? id = some w' ∧ Pending e w' := by
  rw [← observed.path] at notifies
  have subscribed (attends : w.point.attends = true) := (observed.attentive attends).subscribed
  rcases observed.cases befalls stays isOpen with ⟨_, w', deed, turns⟩ | ⟨_, news, around⟩
  · exact ⟨w', by rw [turns.watchers, SortedMap.get?_insert_self],
      deed.rings turns observed.room subscribed notifies⟩
  · obtain ⟨mailbox, here⟩ := around.here
    obtain ⟨own, spoken⟩ := around.spoken
    refine ⟨_, here, ?_⟩
    by_cases attends : w.point.attends = true
    · exact .inl (spoken.rings observed.room (subscribed attends) notifies)
    · exact .inr (Watcher.Regards.same (regards_of_gone (eq_false_of_ne_true attends))
        (e := e) rfl)

/-- When a watcher looks at its file for the first time, it looks at the file as it is. -/
theorem looked (observed : Observed id first start past d w) (befalls : Befalls id d e)
    (stays : e.cancelled = false) (isOpen : e.storeOpen = true)
    (looks : LooksFirst id (d, e)) : ∃ w', e.watchers.get? id = some w' ∧ Pending e w' := by
  obtain ⟨stepped, u, there, point⟩ := looks
  cases observed.here.symm.trans there
  rcases observed.cases befalls stays isOpen with ⟨_, w', deed, turns⟩ | ⟨other, _⟩
  · have now : w.Regards d := by
      unfold Watcher.Regards
      rw [point]
      trivial
    exact ⟨w', by rw [turns.watchers, SortedMap.get?_insert_self],
      Pending.deed (.inr now) deed turns⟩
  · exact absurd stepped other

end Observed

/-! ## Runs -/

/-- A watcher that was just started has published nothing, and nothing was announced to it. -/
theorem Begins.observed (begins : Begins id first start) :
    Observed id first start [] start first where
  steady := begins.steady
  room := begins.room
  here := begins.here
  number := begins.number
  settings := rfl
  path := rfl
  filename := rfl
  subscriptions := rfl
  knows := by
    unfold Watcher.Knows
    rw [begins.point]
    exact begins.lastModified
  attentive _ := {
    subscribed := ⟨begins.updated, fun i cluster => ⟨_, begins.cluster i cluster, rfl, rfl⟩⟩
    accounts := by
      intro i s cluster found _
      cases (begins.cluster i cluster).symm.trans found
      simp [delivered]
    goesBy := by
      refine ⟨fun _ => ?_, fun begun => absurd begins.point begun⟩
      unfold announcedTo
      split <;> rfl
    recalls := by
      intro c
      constructor
      · intro last
        cases last
      · rintro ⟨published, _⟩
        rw [begins.published] at published
        cases published }

/-- Along a watch, what is observed of the watcher holds. -/
theorem Watch.observed (begins : Begins id first start)
    (watch : Watch id first.filename start past d) :
    ∃ w, Observed id first start past d w := by
  induction watch with
  | start => exact ⟨first, begins.observed⟩
  | next _ befalls stays isOpen renews ih =>
    obtain ⟨w, observed⟩ := ih
    exact observed.next befalls stays isOpen renews

/-- Before a step of a run there was a run to it. -/
theorem Watch.upTo (watch : Watch id file start past d) (split : past = later ++ t :: earlier) :
    Watch id file start earlier t.1 := by
  induction watch generalizing later with
  | start => cases later <;> cases split
  | next before _ _ _ _ ih =>
    cases later with
    | nil =>
      cases split
      exact before
    | cons u later =>
      cases split
      exact ih rfl

/-- After a watcher was told of the last change of its file, or looked at it for the first time,
the change is pending. -/
theorem Watch.pending (begins : Begins id first start)
    (watch : Watch id first.filename start past d) (split : past = later ++ t :: earlier)
    (still : ∀ u ∈ later,
      u.2.configDirectory.read? first.filename = u.1.configDirectory.read? first.filename)
    (heeds : NotifiesOf first.path t ∨ LooksFirst id t) :
    ∃ w, d.watchers.get? id = some w ∧ Pending d w := by
  induction watch generalizing later with
  | start => cases later <;> cases split
  | @next past d e before befalls stays isOpen renews ih =>
    obtain ⟨w, observed⟩ := before.observed begins
    cases later with
    | nil =>
      cases split
      rcases heeds with notifies | looks
      · exact observed.notified befalls stays isOpen notifies
      · exact observed.looked befalls stays isOpen looks
    | cons u later =>
      cases split
      obtain ⟨w', here, pending⟩ := ih rfl fun u member => still u (List.mem_cons_of_mem _ member)
      cases observed.here.symm.trans here
      exact observed.pending befalls stays isOpen (still _ (List.mem_cons_self ..)) pending

/-! ## Watchers that rest -/

/-- A watcher that rests has ended, waits for the time to end, or has taken everything. -/
theorem WatcherRests.cases (rests : WatcherRests id d) (here : d.watchers.get? id = some w) :
    (w.point = .done ∨ ∃ deadline, w.point = .draining deadline ∧ d.served < deadline) ∨
      (w.point = .running ∧ d.runWatcher id w = none) := by
  have waits : d.stepWatcher id w = none := by
    simpa [Daemon.step, stepTaking, here] using rests.waits
  cases point : w.point with
  | starting | checking | launching | deletingConfig | deletingStatus | finishing =>
    simp [stepWatcher, point] at waits
  | running => exact .inr ⟨rfl, by simpa [stepWatcher, point] using waits⟩
  | stopping =>
    exfalso
    simp only [stepWatcher, point] at waits
    split at waits
    · cases waits
    · rename_i running
      split at waits
      · rename_i told
        refine running ?_
        cases there : d.monitors.get? id with
        | none => simp [monitorEnded, there]
        | some m =>
          have ended : m.point = .ended := rests.monitor m there (by simpa [there] using told)
          simp [monitorEnded, there, ended]
      · cases waits
  | draining deadline =>
    simp only [stepWatcher, point] at waits
    split at waits
    · cases waits
    · split at waits
      · cases waits
      · exact .inl (.inr ⟨deadline, rfl, by omega⟩)
  | done => exact .inl (.inl rfl)

/-- A watcher that runs and rests has published what its file says, if a change was pending. -/
theorem Observed.current (observed : Observed id first start past d w)
    (runs : w.point = .running) (waits : d.runWatcher id w = none) (pending : Pending d w) :
    ∃ v c members, d.configDirectory.read? first.filename = some v ∧ LastPublished id c past ∧
      (∃ u ∈ past, ReadsMembers id members u) ∧
      c.IsOf v first.path start.localhost
        ((announcedTo first.subscriptions past).foldl Event.members members) ∧
      ∀ i s, first.subscriptions.cluster = some i → d.bus.find? i = some s → s.dropped = 0 →
        start.announcements ++ announcedTo first.subscriptions past = d.announcements := by
  obtain ⟨_, updated, cluster⟩ := receive_of_runWatcher waits
  have localhost : d.localhost = start.localhost :=
    congrArg DaemonSettings.localhost observed.settings
  have attentive := observed.attentive (by rw [runs]; rfl)
  have regards : w.Regards d := pending.resolve_left fun told => told (queue_of_receive updated)
  obtain ⟨v, there, last⟩ := regards.of_running runs
  obtain ⟨published, isOf⟩ := (observed.knows.of_running runs v.modified last).2 v there rfl
  obtain ⟨members, reads, known⟩ :=
    attentive.goesBy.2 (by rw [runs]; exact WatcherPoint.noConfusion)
  refine ⟨v, w.config, members, observed.filename ▸ there,
    (attentive.recalls w.config).2 ⟨published, rfl⟩, reads, ?_, ?_⟩
  · rw [← observed.path, ← observed.subscriptions, ← localhost, ← known]
    exact isOf
  · intro i s subscribed found missed
    rw [← observed.subscriptions] at subscribed ⊢
    have accounts := attentive.accounts i s subscribed found missed
    have taken : s.queue = [] := by
      simpa [Bus.queue, found] using queue_of_receive (cluster i subscribed)
    rw [taken, List.append_nil] at accounts
    rw [← accounts, announcedTo, subscribed]

/-- What a watcher is about to publish is of one version of its file, and differs from what it
published last. -/
theorem Observed.publishes (observed : Observed id first start past d w) (e : Daemon)
    (publishes : PublishesConfig id c' (d, e)) :
    (∃ v, Was first.filename past d v ∧
      c'.IsOf v first.path start.localhost w.clusterNodes) ∧
    ∀ c, LastPublished id c past →
      c'.checksum ≠ c.checksum ∨ c'.updated ≠ c.updated ∨ c'.scope ≠ c.scope := by
  obtain ⟨_, u, isFirst, m, there, point⟩ := publishes
  cases observed.here.symm.trans there
  have localhost : d.localhost = start.localhost :=
    congrArg DaemonSettings.localhost observed.settings
  obtain ⟨⟨v, was, isOf⟩, differs⟩ := observed.knows.of_publishing point
  refine ⟨⟨v, was, by rw [← observed.path, ← localhost]; exact isOf⟩, fun c last => ?_⟩
  have attentive := observed.attentive (by rw [point]; rfl)
  obtain ⟨published, rfl⟩ := (attentive.recalls c).1 last
  exact InstanceConfig.differs (differs published)

/-- What a watcher publishes, in every run from its start on in which its file never gets a time
of modification that it had, and the store is open.

Two configurations that it publishes one after the other differ. Each is that of one version that
the file had or has, for the members that the watcher goes by. And when the watcher rests, after
it was told of the last change of its file or looked at the file for the first time since, it has
ended or it has published last what the file says, for the members that were announced to it last;
those are all that were announced, unless it missed some. -/
theorem Watch.config_records (begins : Begins id first start)
    (watch : Watch id first.filename start past d) :
    (∀ later t earlier c c', past = later ++ t :: earlier → LastPublished id c earlier →
      PublishesConfig id c' t →
      c'.checksum ≠ c.checksum ∨ c'.updated ≠ c.updated ∨ c'.scope ≠ c.scope) ∧
    (∀ later t earlier c, past = later ++ t :: earlier → PublishesConfig id c t →
      ∃ v w, Was first.filename earlier t.1 v ∧ t.1.watchers.get? id = some w ∧
        c.IsOf v first.path start.localhost w.clusterNodes) ∧
    ∀ later t earlier, past = later ++ t :: earlier →
      NotifiesOf first.path t ∨ LooksFirst id t →
      (∀ u ∈ later,
        u.2.configDirectory.read? first.filename = u.1.configDirectory.read? first.filename) →
      WatcherRests id d → ∃ w, d.watchers.get? id = some w ∧
        ((w.point = .done ∨ ∃ deadline, w.point = .draining deadline ∧ d.served < deadline) ∨
          ∃ v c members, d.configDirectory.read? first.filename = some v ∧
            LastPublished id c past ∧ (∃ u ∈ past, ReadsMembers id members u) ∧
            c.IsOf v first.path start.localhost
              ((announcedTo first.subscriptions past).foldl Event.members members) ∧
            ∀ i s, first.subscriptions.cluster = some i → d.bus.find? i = some s →
              s.dropped = 0 →
              start.announcements ++ announcedTo first.subscriptions past = d.announcements) := by
  refine ⟨?_, ?_, ?_⟩
  · intro later t earlier c c' split last publishes
    obtain ⟨w, observed⟩ := (watch.upTo split).observed begins
    exact (observed.publishes t.2 publishes).2 c last
  · intro later t earlier c split publishes
    obtain ⟨w, observed⟩ := (watch.upTo split).observed begins
    obtain ⟨v, was, isOf⟩ := (observed.publishes t.2 publishes).1
    exact ⟨v, w, was, observed.here, isOf⟩
  · intro later t earlier split heeds still rests
    obtain ⟨w, observed⟩ := watch.observed begins
    obtain ⟨w', here, pending⟩ := watch.pending begins split still heeds
    cases observed.here.symm.trans here
    exact ⟨w, here, (rests.cases here).imp_right fun ⟨runs, waits⟩ =>
      observed.current runs waits pending⟩

/-! ## A file that changes while it is evaluated -/

instance (file : String) (past : List (Daemon × Daemon)) (d e : Daemon) :
    Decidable (Renews file (Was file past d) d e) :=
  decidable_of_iff
    (∀ v ∈ e.configDirectory.read? file, d.configDirectory.read? file = some v ∨
      ∀ s ∈ d :: past.map Prod.fst, ∀ u ∈ s.configDirectory.read? file, u.modified ≠ v.modified) <| by
    constructor
    · rintro renews v there
      exact (renews v there).imp_right fun new u ⟨s, member, stood⟩ => new s member u stood
    · intro renews v there
      exact (renews v there).imp_right fun new s member u stood => new u ⟨s, member, stood⟩

instance (id : WorkerId) (d : Daemon) : Decidable (WatcherRests id d) :=
  decidable_of_iff
    (d.step (.watcher id) = none ∧
      ∀ m ∈ d.monitors.get? id, m.cancelled = true → m.point = .ended)
    ⟨fun ⟨waits, monitor⟩ => ⟨waits, monitor⟩, fun ⟨waits, monitor⟩ => ⟨waits, monitor⟩⟩

/-- A thing that can happen to a node of which a watcher is observed. -/
inductive Affair where
  | move (m : Move)
  | tell (p : Publication)
  | command (c : WorkerCommand)

/-- The node after an affair, if it can happen. -/
def befall (id : WorkerId) (d : Daemon) : Affair → Option Daemon
  | .move m => d.perform m
  | .tell p => some (d.publish p)
  | .command c => d.commandWatcher id c

/-- What an affair makes of a node befalls it. -/
theorem befalls_of_befall {affair : Affair} (made : d.befall id affair = some e) :
    Befalls id d e := by
  cases affair with
  | move m => exact .step (step_of_perform made)
  | tell p =>
    cases made
    exact .step (.publish p)
  | command c => exact .command made

/-- The run that affairs make, unless one cannot happen, the node goes down or a time of
modification comes twice. -/
def observe (id : WorkerId) (file : String) (past : List (Daemon × Daemon)) (d : Daemon) :
    List Affair → Option (List (Daemon × Daemon) × Daemon)
  | [] => some (past, d)
  | affair :: affairs => do
    let e ← d.befall id affair
    if e.cancelled = false ∧ e.storeOpen = true ∧ Renews file (Was file past d) d e then
      observe id file ((d, e) :: past) e affairs
    else none

/-- The run that affairs make is a watch. -/
theorem watch_of_observe (watch : Watch id file start past d) {affairs : List Affair}
    {reached : List (Daemon × Daemon) × Daemon}
    (made : observe id file past d affairs = some reached) :
    Watch id file start reached.1 reached.2 := by
  induction affairs generalizing past d with
  | nil =>
    cases made
    exact watch
  | cons affair affairs ih =>
    obtain ⟨e, befell, made⟩ := Option.bind_eq_some_iff.1 made
    split at made
    · rename_i goes
      exact ih (watch.next (befalls_of_befall befell) goes.1 goes.2.1 goes.2.2) made
    · cases made

/-- A file is found; the coordinator is about to start its watcher. -/
def foundMoves : List Move :=
  [.act .coordinator, writeWeb 1 []] ++ List.replicate 2 (.act .coordinator)

/-- The coordinator tells that `web.conf` changed. -/
def webChanged : Publication := .ofPath (.configFileUpdated webPath "web.conf") webPath

/-- A watcher publishes what its file says. It is to refresh when the file was changed, and the
file changes again while it is evaluated; of that the watcher is told. -/
def tornAffairs : List Affair :=
  let acts (n : Nat) : List Affair := List.replicate n (.move (.act (.watcher 1)))
  acts 7 ++ [.move (.act (.monitor 1)),
    .move (writeWeb 2 "[DEFAULT]\nnodes = n1 n2\n".toUTF8.toList), .command .refresh] ++ acts 3 ++
    [.move (writeWeb 3 "[DEFAULT]\nnodes = n1\n".toUTF8.toList)] ++ acts 2 ++
    [.tell webChanged] ++ acts 6

set_option synthInstance.maxSize 1000 in
/-- A refresh of which the evaluation fails is not lost: the watcher has published the version
that is there when it rests. -/
theorem config_records_of_torn : ∃ first start past d, Begins 1 first start ∧
    Watch 1 "web.conf" start past d ∧ WatcherRests 1 d ∧
    (∃ later t earlier, past = later ++ t :: earlier ∧ NotifiesOf webPath t ∧
      ∀ u ∈ later,
        u.2.configDirectory.read? "web.conf" = u.1.configDirectory.read? "web.conf") ∧
    ∃ v c, d.configDirectory.read? "web.conf" = some v ∧ v.modified = .addMillis .epoch 3 ∧
      LastPublished 1 c past ∧ c.checksum = Md5.hexDigest v.content ∧ c.updated = v.modified := by
  obtain ⟨_, d₀, run, start, stepped, stays, isOpen, room, absent, first, here, filename, path,
      ⟨past, d⟩, made, rests, ⟨t, told, notified⟩, still, ⟨w, there, runs⟩, v, stands, time⟩ :
      ∃ past d₀, Run pairNode past d₀ ∧ ∃ start, start ∈ d₀.step .coordinator ∧
        start.cancelled = false ∧ start.storeOpen = true ∧ 0 < d₀.bus.queueSize ∧
        d₀.watchers.get? 1 = none ∧ ∃ first, first ∈ start.watchers.get? 1 ∧
        first.filename = "web.conf" ∧ first.path = webPath ∧
        ∃ reached, reached ∈ observe 1 "web.conf" [] start tornAffairs ∧
        WatcherRests 1 reached.2 ∧
        (∃ t, t ∈ (reached.1.drop 6).head? ∧ t.2.published = webChanged :: t.1.published) ∧
        (∀ u ∈ reached.1.take 6,
          u.2.configDirectory.read? "web.conf" = u.1.configDirectory.read? "web.conf") ∧
        (∃ w, w ∈ reached.2.watchers.get? 1 ∧ w.point = .running) ∧
        ∃ v, v ∈ reached.2.configDirectory.read? "web.conf" ∧
          v.modified = .addMillis .epoch 3 :=
    exists_run_of_replay foundMoves (by decide +kernel)
  obtain ⟨earlier, since⟩ := List.head?_eq_some_iff.1 told
  have split : past = past.take 6 ++ t :: earlier := by
    rw [← since, List.take_append_drop]
  have begins : Begins 1 first start :=
    Step.begins (.act stepped) run.steady stays isOpen room absent here
  have watch : Watch 1 "web.conf" start past d := watch_of_observe .start made
  have notifies : NotifiesOf webPath t :=
    ⟨[webChanged], notified, webChanged, List.mem_singleton_self _, rfl, List.mem_singleton_self _⟩
  obtain ⟨_, _, current⟩ := Watch.config_records begins (filename ▸ watch)
  obtain ⟨w', there', ended | ⟨v', c, _, stands', last, _, isOf, _⟩⟩ :=
    current _ t earlier split (.inl (path ▸ notifies)) (filename ▸ still) rests
  · cases there.symm.trans there'
    rcases ended with done | ⟨_, draining, _⟩
    · cases runs.symm.trans done
    · cases runs.symm.trans draining
  · rw [filename] at stands'
    cases stands.symm.trans stands'
    exact ⟨first, start, past, d, begins, watch, rests, ⟨_, t, earlier, split, notifies, still⟩,
      v, c, stands, time, last, isOf.checksum, isOf.updated⟩

end ClusterNode.Daemon
