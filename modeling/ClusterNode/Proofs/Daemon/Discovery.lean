import ClusterNode.Proofs.Daemon.Neglect

/-!
# Which configuration files are watched

A node is `Settled` on an object when nothing is left to do, and the coordinator knows of
the file of the object what a scan would find. `Run.watched_iff` says that a watcher runs
for the object then exactly if its file names the node and the object is not forsaken.

That an object is forsaken is a fault of the coordinator. A watcher that has given up stays
known until its notice is taken; a file or a membership that changes in the meantime is not
heeded by it, and the coordinator does not look at the file when it takes the notice.
`unwatched_of_overlooked` is a run in which a file stays without a watcher for that reason.
-/

namespace ClusterNode.Daemon

/-- A file had a time of modification in some state that was passed through. -/
def UsedIn (past : List Daemon) (file : String) (modified : Timestamp) : Prop :=
  ∃ s ∈ past, ∃ v, s.configDirectory.read? file = some v ∧ v.modified = modified

variable {s : DaemonSettings} {startedAt : Timestamp} {past : List Daemon} {d e : Daemon}
  {c : Coordinator} {p : ObjectPath} {file : String} {id : WorkerId} {w : Watcher}

/-! ## Runs -/

/-- The time of the version that is there was used. -/
theorem Run.used_now {start : Daemon} (run : Run start past d) (name : String) (v : FileVersion)
    (there : d.configDirectory.read? name = some v) : UsedIn past name v.modified :=
  ⟨d, run.mem, v, there, rfl⟩

/-- The invariant holds in every state of a run; the objects that are forsaken are lost. -/
theorem Run.covers (run : Run (Daemon.new s startedAt).startCoordinator past d)
    (announced : ∀ s ∈ past, s.Announced) (named : NamedIn past p file)
    (here : d.coordinator = some c) :
    Covers (UsedIn past) (Forsaken p past) p file d c := by
  induction run generalizing c with
  | start =>
    cases here
    constructor
    · intro f known
      cases known
    · intro found f applying
      cases applying
    · exact fun _ => rfl
    · intro _ f known
      cases known
    · intro id w there
      cases there
  | @step past d e before step stays isOpen newTimes ih =>
    have steady := before.steady
    have ih {c : Coordinator} (here : d.coordinator = some c) :
        Covers (UsedIn past) (Forsaken p past) p file d c :=
      ih (fun s member => announced s (List.mem_cons_of_mem _ member))
        (fun s member => named s (List.mem_cons_of_mem _ member)) here
    have was := announced d (List.mem_cons_of_mem _ before.mem)
    have is := announced e (List.mem_cons_self ..)
    have namedBefore := named d (List.mem_cons_of_mem _ before.mem)
    have more (name : String) (m : Timestamp) (used : UsedIn past name m) :
        UsedIn (e :: past) name m := by
      obtain ⟨s, member, known⟩ := used
      exact ⟨s, List.mem_cons_of_mem _ member, known⟩
    have forsakes (late : Overlooks p d e ∨ Forsaken p past ∧ Still p d e) :
        Forsaken p (e :: past) := by
      obtain ⟨earlier, rfl⟩ := before.head
      exact late
    suffices late : Covers (UsedIn past) (Overlooks p d e ∨ Forsaken p past ∧ Still p d e)
        p file e c from late.mono more forsakes
    rcases step.cases steady stays isOpen with
      ⟨a, notCoordinator, notWatcher, bystands, _⟩ | ⟨files, rfl⟩ |
        ⟨id, w, w', there, _, move, turns⟩ | ⟨c', here', moves⟩
    · have there := bystands.coordinator.symm.trans here
      exact ((ih there).aside (before.listens there) steady there notCoordinator notWatcher
        bystands was is).mono (fun _ _ used => used) .inr
    · refine ((ih here).ages (fun name v there => ?_) namedBefore
        (named _ (List.mem_cons_self ..))).mono (fun _ _ used => used) .inr
      rcases newTimes name v there with same | new
      · exact .inl same
      · refine .inr ?_
        rintro ⟨s, member, u, stood, time⟩
        exact new s member u stood time
    · have coordinator := turns.coordinator.symm.trans here
      exact ((ih coordinator).turns (before.listens coordinator) steady coordinator there move
        turns before.used_now was is).mono (fun _ _ used => used) .inr
    · rcases moves with ⟨c'', move, directs⟩ | ⟨found, applying, rfl⟩
      · cases directs.coordinator.symm.trans here
        exact (ih here').moves (before.listens here') steady (before.roster here') here' move
          directs before.used_now namedBefore was is
      · obtain ⟨c'', now, covers⟩ := (ih here').applyScan (before.listens here')
          (before.roster here') steady.apart applying was
        cases now.symm.trans here
        exact covers.mono (fun _ _ used => used) .inr

/-! ## Nodes that have nothing left to do -/

/-- A node has nothing left to do: every actor waits, and no watcher is about to begin or
to end. The coordinator knows of the file of an object what a scan would find, and no
subscriber missed an event. -/
structure Settled (p : ObjectPath) (d : Daemon) (c : Coordinator) : Prop where
  coordinator : d.coordinator = some c
  idle : c.point = .idle
  quiet : d.Quiet
  watchers : ∀ id w, d.watchers.get? id = some w → w.point = .running ∨ w.point = .done
  scanned : ∃ found, d.configDirectory.scan = some found ∧
    (c.files.get? p).map (·.modified) = (found.get? p).map (·.modified)
  missed : ∀ s ∈ d.bus.subscribers, s.dropped = 0

instance (p : ObjectPath) (d : Daemon) (c : Coordinator) : Decidable (Settled p d c) :=
  decidable_of_iff
    (d.coordinator = some c ∧ c.point = .idle ∧ d.Quiet ∧
      (∀ id w, d.watchers.get? id = some w → w.point = .running ∨ w.point = .done) ∧
      (∃ found, found ∈ d.configDirectory.scan ∧
        (c.files.get? p).map (·.modified) = (found.get? p).map (·.modified)) ∧
      ∀ s ∈ d.bus.subscribers, s.dropped = 0) <| by
    constructor
    · rintro ⟨coordinator, idle, quiet, watchers, scanned, missed⟩
      exact ⟨coordinator, idle, quiet, watchers, scanned, missed⟩
    · rintro ⟨coordinator, idle, quiet, watchers, scanned, missed⟩
      exact ⟨coordinator, idle, quiet, watchers, scanned, missed⟩

/-- A subscriber of which nothing is received has nothing to take. -/
theorem current_of_receive {i : Nat} {t : Subscriber} (found : d.bus.find? i = some t)
    (missed : ∀ s ∈ d.bus.subscribers, s.dropped = 0) (nothing : d.receive i = none) :
    t.Current := by
  refine ⟨missed t (List.mem_of_find?_eq_some found), ?_⟩
  simpa [receive, Bus.next?, Bus.queue, found] using nothing

/-- A watcher that waits has taken every event. -/
theorem receive_of_runWatcher (waits : d.runWatcher id w = none) :
    d.receive w.subscriptions.removed = none ∧ d.receive w.subscriptions.updated = none ∧
      ∀ i, w.subscriptions.cluster = some i → d.receive i = none := by
  unfold runWatcher at waits
  split at waits
  · cases waits
  · split at waits
    · cases waits
    · cases waits
    · split at waits
      · cases waits
      · rename_i removed
        split at waits
        · cases waits
        · rename_i updated
          refine ⟨removed, updated, fun i cluster => ?_⟩
          cases received : d.receive i with
          | none => rfl
          | some next => simp [heedMembers, cluster, received] at waits

/-- A coordinator that waits has taken every notice and every announcement. -/
theorem receive_of_runCoordinator (waits : d.runCoordinator c = none) :
    d.notices = [] ∧ d.receive c.members = none := by
  unfold runCoordinator at waits
  split at waits
  · cases waits
  · split at waits
    · cases waits
    · rename_i none
      split at waits
      · cases waits
      · split at waits
        · cases waits
        · rename_i members
          exact ⟨none, members⟩

/-- What a watcher knows when it has taken every event: the file is known, and its version
names the node. -/
theorem hosts_of_running {used : String → Timestamp → Prop} {known : Option ConfigFile}
    (attends : w.Attends used d known) (runs : w.point = .running)
    (waits : d.runWatcher id w = none)
    (missed : ∀ s ∈ d.bus.subscribers, s.dropped = 0) :
    ∃ f, known = some f ∧ d.OfVersion w.filename f.modified fun v =>
      v.Hosts w.path d.localhost d.replica.members := by
  obtain ⟨removed, updated, cluster⟩ := receive_of_runWatcher waits
  obtain ⟨s, found, _, there⟩ := attends.removed
  obtain ⟨f, rfl⟩ := Option.ne_none_iff_exists'.1
    (there (current_of_receive found missed removed))
  obtain ⟨t, found', _, minds⟩ := attends.updated
  refine ⟨f, rfl, fun v stands time => ?_⟩
  have last : w.lastModified = some f.modified := by
    have minds := minds (current_of_receive found' missed updated) f rfl v stands time
    unfold Watcher.Minds at minds
    rwa [runs] at minds
  have hosts := (attends.sound.of_running runs f.modified last).2 v stands time
  rcases attends.cluster with ⟨_, isCluster⟩ | ⟨i, u, here, found'', _, informs⟩
  · exact FileVersion.hosts_of_isCluster isCluster hosts
  · have current := current_of_receive found'' missed (cluster i here)
    have members := informs current.1
    unfold Watcher.assumes at members
    rw [runs, if_neg WatcherPoint.noConfusion, current.2] at members
    have same : w.clusterNodes = d.replica.members := members
    rwa [← same]

/-- Where the files of the object have one name, the coordinator knows the version that is
there, and none if there is none. -/
theorem Settled.known_iff (settled : Settled p d c) {past : List Daemon}
    (named : NamedIn past p file) (member : d ∈ past) (modified : Timestamp) :
    (∃ f, c.files.get? p = some f ∧ f.modified = modified) ↔
      ∃ v, ConfigDirectory.objectOf? file = some p ∧
        d.configDirectory.read? file = some v ∧ v.modified = modified := by
  obtain ⟨found, scanned, same⟩ := settled.scanned
  constructor
  · rintro ⟨f, known, rfl⟩
    rw [known] at same
    obtain ⟨f', found', time⟩ := Option.map_eq_some_iff.1 same.symm
    obtain ⟨v, stands, object, time'⟩ := ConfigDirectory.scan_sound scanned found'
    have name := named d member _ v stands object
    exact ⟨v, name ▸ object, name ▸ stands, time'.symm.trans time⟩
  · rintro ⟨v, object, stands, rfl⟩
    rw [ConfigDirectory.scan_time scanned (named d member) object, stands] at same
    exact Option.map_eq_some_iff.1 same

/-- Which configuration files are watched, in a run in which the store announces its
membership and the files of every object have one name: when nothing is left to do, a
watcher runs for an object exactly if its file is there and names the node among the members
that the store has, unless the object is forsaken. -/
theorem Run.watched_iff (run : Run (Daemon.new s startedAt).startCoordinator past d)
    (announced : ∀ s ∈ past, s.Announced) (named : NamedIn past p file)
    (settled : Settled p d c) :
    (∃ id w, d.watchers.get? id = some w ∧ w.path = p ∧ w.point = .running) ↔
      (∃ name v, ConfigDirectory.objectOf? name = some p ∧
        d.configDirectory.read? name = some v ∧ v.Hosts p d.localhost d.replica.members) ∧
      ¬ Forsaken p past := by
  have covers := run.covers announced named settled.coordinator
  have roster := run.roster settled.coordinator
  have known := settled.known_iff named run.mem
  constructor
  · rintro ⟨id, w, here, path, runs⟩
    constructor
    · obtain ⟨filename, attends⟩ := covers.attends id w here path (by rw [runs]; rfl)
      have waits : d.runWatcher id w = none := by
        have waits := settled.quiet (.watcher id)
        simpa [Daemon.step, stepTaking, here, stepWatcher, runs] using waits
      obtain ⟨f, there, hosts⟩ := hosts_of_running attends runs waits settled.missed
      obtain ⟨v, object, stands, time⟩ := (known _).1 ⟨f, there, rfl⟩
      rw [filename, path] at hosts
      exact ⟨file, v, object, stands, hosts v stands time⟩
    · intro forsaken
      have done := run.done_of_forsaken named forsaken settled.missed here path
      cases runs.symm.trans done
  · rintro ⟨⟨name, v, object, stands, hosts⟩, kept⟩
    cases named d run.mem name v stands object
    obtain ⟨f, there, time⟩ := (known _).2 ⟨v, object, stands, rfl⟩
    have waits : d.runCoordinator c = none := by
      have waits := settled.quiet .coordinator
      simpa [Daemon.step, stepTaking, settled.coordinator, stepCoordinator, settled.idle]
        using waits
    obtain ⟨taken, silent⟩ := receive_of_runCoordinator waits
    cases watcher : c.watchers.get? p with
    | some id =>
      obtain ⟨w, here, path, ended⟩ := roster.known p id watcher
      rcases settled.watchers id w here with runs | done
      · exact ⟨id, w, here, path, runs⟩
      · obtain ⟨_, pending⟩ := ended done
        rw [taken] at pending
        cases pending
    | none =>
      obtain ⟨_, t, found, _⟩ := run.listens settled.coordinator (covers.begun there)
      have current := current_of_receive found settled.missed silent
      rcases covers.passed watcher f there t found current with passed | forsaken
      · exact absurd hosts (passed v stands time.symm)
      · exact absurd forsaken kept

/-- A node of a cluster of two, whose monitors do nothing. -/
def pairNode : Daemon :=
  let settings : DaemonSettings :=
    { localhost := "n1", cluster := ⟨"c", ["n1", "n2"]⟩, maxPatchQueue := 8, peerTimeout := 1000,
      busQueueSize := 16, interval := 100, scanPeriod := 1, dropPending := 5, monitor := .idle }
  (Daemon.new settings .epoch).startCoordinator

/-- The object whose file is `web.conf`. -/
def webPath : ObjectPath := ⟨"root", .svc, "web"⟩

/-- Write `web.conf`, so many milliseconds after the start. -/
def writeWeb (ms : Nat) (content : Bytes) : Move :=
  .write (ConfigDirectory.write .missing "web.conf" ⟨Timestamp.epoch.addMillis ms, content⟩)

/-- The coordinator begins, or its timer is due, and it scans and looks at the status. -/
def scanMoves : List Move := List.replicate 5 (.act .coordinator)

/-- A file that says nothing names all members. It is written, found and watched. -/
def watchedMoves : List Move :=
  [.act .coordinator, writeWeb 1 []] ++ scanMoves ++ List.replicate 6 (.act (.watcher 1)) ++
    [.act .coordinator, .act (.watcher 1), .act (.monitor 1)] ++
    List.replicate 5 (.act (.aggregator 2)) ++ [.act .store]

/-- The watcher of a file that names the node runs. -/
theorem watched_of_written : ∃ past d, Run pairNode past d ∧ (∀ s ∈ past, s.Announced) ∧
    NamedIn past webPath "web.conf" ∧ (∃ c, c ∈ d.coordinator ∧ Settled webPath d c) ∧
    ∃ id w, d.watchers.get? id = some w ∧ w.path = webPath ∧ w.point = .running := by
  obtain ⟨past, d, run, announced, named, ⟨c, here, settled⟩, kept, v, stands, object, hosts⟩ :
      ∃ past d, Run pairNode past d ∧ (∀ s ∈ past, s.Announced) ∧
        NamedIn past webPath "web.conf" ∧ (∃ c, c ∈ d.coordinator ∧ Settled webPath d c) ∧
        ¬ Forsaken webPath past ∧ ∃ v, v ∈ d.configDirectory.read? "web.conf" ∧
          ConfigDirectory.objectOf? "web.conf" = some webPath ∧
          v.Hosts webPath d.localhost d.replica.members :=
    exists_run_of_replay watchedMoves (by decide +kernel)
  exact ⟨past, d, run, announced, named, ⟨c, here, settled⟩,
    (Run.watched_iff run announced named settled).2
      ⟨⟨"web.conf", v, object, stands, hosts⟩, kept⟩⟩

/-- A file that cannot be read is written and found, and its watcher gives up. While the
watcher drains its mailbox, the file is replaced by one that names the node; the scan tells
the watcher. The notice that the watcher has ended is all that is left. -/
def overlookedMoves : List Move :=
  [.act .coordinator, writeWeb 1 "[".toUTF8.toList] ++ scanMoves ++
    List.replicate 5 (.act (.watcher 1)) ++ [writeWeb 2 [], .pass 1, .serve 1] ++ scanMoves ++
    [.pass 9, .serve 10, .act (.watcher 1), .act .coordinator] ++ scanMoves.tail ++ [.act .store]

/-- A node can settle although no watcher runs for a file that names it. -/
theorem unwatched_of_overlooked : ∃ past d, Run pairNode past d ∧ (∀ s ∈ past, s.Announced) ∧
    NamedIn past webPath "web.conf" ∧ (∃ c, c ∈ d.coordinator ∧ Settled webPath d c) ∧
    Forsaken webPath past ∧
    (∃ v, v ∈ d.configDirectory.read? "web.conf" ∧
      ConfigDirectory.objectOf? "web.conf" = some webPath ∧
      v.Hosts webPath d.localhost d.replica.members) ∧
    ∀ id w, d.watchers.get? id = some w → w.point ≠ .running :=
  exists_run_of_replay overlookedMoves (by decide +kernel)

end ClusterNode.Daemon
