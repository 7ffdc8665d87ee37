import ClusterNode.Proofs.Daemon.Attention

/-!
# Watchers that attend to their files

`Watcher.Attends` says what holds of a watcher that has not given up, given what the
coordinator knows of its file: its subscriptions are registered, and unless an event is
still to be taken or was missed, the watcher minds the version that the coordinator knows,
the coordinator knows its file, and the members it knows are those of the store.

What others do keeps that, as long as they tell of what they change (`Attends.frame`), and
so does every move of the watcher itself until it gives up (`WatcherMove.attends`).
-/

namespace ClusterNode

/-- Among some publications is an event of a kind about an object. -/
def Tells (news : List Publication) (kind : EventKind) (p : ObjectPath) : Prop :=
  ∃ publication ∈ news, publication.event.kind = kind ∧ Label.path p ∈ publication.labels

/-- Who asked for the events of a kind about an object hears them. -/
theorem Subscriber.IsFor.heard_ne_nil {s : Subscriber} {news : List Publication}
    {kind : EventKind} {p : ObjectPath} (isFor : s.IsFor kind [.path p])
    (tells : Tells news kind p) : s.heard news ≠ [] := by
  obtain ⟨publication, member, same, labelled⟩ := tells
  refine List.ne_nil_of_mem (a := publication.event) ?_
  simp only [Subscriber.heard, List.mem_map, List.mem_filter]
  refine ⟨publication, ⟨member, ?_⟩, rfl⟩
  simp [Subscriber.accepts, isFor.1, isFor.2, same, labelled]

/-- Who takes an event leaves the subscribers of other kinds. -/
theorem Subscriber.IsFor.find?_take {b : Bus} {i j : Nat} {s t : Subscriber}
    {kind other : EventKind} {filter filter' : List Label} (isFor : s.IsFor kind filter)
    (found : b.find? i = some s) (isFor' : t.IsFor other filter') (there : b.find? j = some t)
    (different : other ≠ kind) : (b.take i).find? j = some t := by
  rw [Bus.find?_take_of_ne]
  · exact there
  · rintro rfl
    cases found.symm.trans there
    exact different (isFor'.1.symm.trans isFor.1)

namespace Watcher

open Daemon

/-- The members that a watcher goes by: those of the store, until it has asked for them. -/
def assumes (d : Daemon) (w : Watcher) : List String :=
  if w.point = .starting then d.replica.members else w.clusterNodes

/-- A watcher that has not given up, given what the coordinator knows of its file. -/
structure Attends (used : String → Timestamp → Prop) (d : Daemon) (known : Option ConfigFile)
    (w : Watcher) : Prop where
  updated : ∃ s, d.bus.find? w.subscriptions.updated = some s ∧
    s.IsFor .configFileUpdated [.path w.path] ∧
    (s.Current → ∀ f, known = some f →
      d.OfVersion w.filename f.modified fun _ => w.Minds f.modified)
  removed : ∃ s, d.bus.find? w.subscriptions.removed = some s ∧
    s.IsFor .configFileRemoved [.path w.path] ∧ (s.Current → known ≠ none)
  cluster : (w.subscriptions.cluster = none ∧ w.path.isCluster) ∨
    ∃ i s, w.subscriptions.cluster = some i ∧ d.bus.find? i = some s ∧
      s.IsFor .clusterConfigUpdated [.node d.localhost] ∧ d.Informs s (w.assumes d)
  sound : w.Sound used d

variable {used more : String → Timestamp → Prop} {d e : Daemon} {w w' : Watcher}
  {known known' : Option ConfigFile} {own : List Nat} {news : List Publication}

/-! ## What others do -/

/-- What a watcher knows of its file depends on the versions that there were. -/
theorem Sound.mono (sound : w.Sound used d) (localhost : e.localhost = d.localhost)
    (grows : ∀ file m, used file m → more file m)
    (keeps : ∀ file m P, used file m → d.OfVersion file m P → e.OfVersion file m P) :
    w.Sound more e := by
  have vouches (vouches : w.Vouches used d) : w.Vouches more e := by
    intro m last
    obtain ⟨past, hosts⟩ := vouches m last
    rw [localhost]
    exact ⟨grows _ _ past, keeps _ _ _ past hosts⟩
  have doubts {m : Timestamp} (doubts : w.Doubts used d m) : w.Doubts more e m := by
    refine ⟨grows _ _ doubts.1, fun m last => ?_⟩
    obtain ⟨past, same⟩ := doubts.2 m last
    exact ⟨grows _ _ past, same.imp_right (keeps _ _ _ past)⟩
  unfold Sound at sound ⊢
  generalize w.point = point at sound ⊢
  cases point with
  | starting => exact sound
  | checking isFirst check =>
    cases check with
    | start =>
      exact ⟨fun m last => grows _ _ (sound.1 m last), fun unforced => vouches (sound.2 unforced)⟩
    | reading m => exact doubts sound
    | evaluating m checksum => exact doubts sound
    | confirming m checksum scope =>
      rw [localhost]
      exact ⟨doubts sound.1, keeps _ _ _ sound.1.1 sound.2⟩
    | publishing m config => exact vouches sound
  | launching => exact vouches sound
  | running => exact vouches sound
  | _ => trivial

/-- What others do keeps a watcher attending, as long as they tell of what they change. -/
theorem Attends.frame (attends : w.Attends used d known) (leaves : Leaves own news d e)
    (others : ∀ i ∈ w.subscriptions.ids, ∀ s, d.bus.find? i = some s → i ∉ own)
    (settings : e.settings = d.settings) (directory : e.configDirectory = d.configDirectory)
    (before : d.Announced) (after : e.Announced)
    (updated : ∀ f, known' = some f → known = some f ∨ Tells news .configFileUpdated w.path)
    (removed : known' = none → known = none ∨ Tells news .configFileRemoved w.path) :
    w.Attends used e known' where
  updated := by
    obtain ⟨s, found, isFor, minds⟩ := attends.updated
    have mine : w.subscriptions.updated ∈ w.subscriptions.ids := by
      simp [WatcherSubscriptions.ids]
    obtain ⟨t, now, hears⟩ := leaves.hears _ s found (others _ mine s found)
    refine ⟨t, now, isFor.hears hears, fun current f here => ?_⟩
    obtain ⟨current', silent⟩ := hears.current current
    rcases updated f here with same | tells
    · exact (minds current' f same).same directory
    · exact absurd silent (isFor.heard_ne_nil tells)
  removed := by
    obtain ⟨s, found, isFor, there⟩ := attends.removed
    have mine : w.subscriptions.removed ∈ w.subscriptions.ids := by
      simp [WatcherSubscriptions.ids]
    obtain ⟨t, now, hears⟩ := leaves.hears _ s found (others _ mine s found)
    refine ⟨t, now, isFor.hears hears, fun current gone => ?_⟩
    obtain ⟨current', silent⟩ := hears.current current
    rcases removed gone with same | tells
    · exact there current' same
    · exact isFor.heard_ne_nil tells silent
  cluster := by
    rcases attends.cluster with none | ⟨i, s, cluster, found, isFor, informs⟩
    · exact .inl none
    · right
      have mine : i ∈ w.subscriptions.ids := by simp [WatcherSubscriptions.ids, cluster]
      obtain ⟨t, now, hears⟩ := leaves.hears _ s found (others _ mine s found)
      have localhost : e.localhost = d.localhost := congrArg DaemonSettings.localhost settings
      refine ⟨i, t, cluster, now, localhost ▸ isFor.hears hears, ?_⟩
      unfold assumes at informs ⊢
      split
      · rename_i starting
        rw [if_pos starting] at informs
        exact informs.hears_members before after settings leaves isFor hears
      · rename_i begun
        rw [if_neg begun] at informs
        exact informs.hears before after settings leaves isFor hears
  sound := attends.sound.mono (congrArg DaemonSettings.localhost settings) (fun _ _ => id)
    fun _ _ _ _ holds => holds.same directory

/-! ## What becomes of the files -/

/-- A watcher attends to its file whatever is written. -/
theorem Attends.ages {files : ConfigDirectory} (attends : w.Attends used d known)
    (ages : Ages used d { d with configDirectory := files })
    (past : ∀ f, known = some f → used w.filename f.modified) :
    w.Attends used { d with configDirectory := files } known where
  updated := by
    obtain ⟨s, found, isFor, minds⟩ := attends.updated
    exact ⟨s, found, isFor, fun current f here => (minds current f here).ages ages (past f here)⟩
  removed := attends.removed
  cluster := attends.cluster
  sound := attends.sound.mono rfl (fun _ _ => id) fun _ _ _ past holds => holds.ages ages past

/-- More times are used as the run goes on. -/
theorem Attends.mono (attends : w.Attends used d known)
    (grows : ∀ file m, used file m → more file m) : w.Attends more d known :=
  ⟨attends.updated, attends.removed, attends.cluster,
    attends.sound.mono rfl grows fun _ _ _ _ holds => holds⟩

/-! ## What the watcher does -/

/-- A watcher attends with a new record, if that is about the same file and says as much. -/
theorem Attends.record (attends : w.Attends used d known) (path : w'.path = w.path)
    (filename : w'.filename = w.filename) (subscriptions : w'.subscriptions = w.subscriptions)
    (assumes : w'.assumes d = w.assumes d)
    (minds : ∀ m, (d.OfVersion w.filename m fun _ => w.Minds m) →
      d.OfVersion w.filename m fun _ => w'.Minds m) (sound : w'.Sound used d) :
    w'.Attends used d known where
  updated := by
    rw [subscriptions, path, filename]
    obtain ⟨s, found, isFor, before⟩ := attends.updated
    exact ⟨s, found, isFor, fun current f here => minds _ (before current f here)⟩
  removed := by
    rw [subscriptions, path]
    exact attends.removed
  cluster := by
    rw [subscriptions, path, assumes]
    exact attends.cluster
  sound := sound

/-- A watcher that runs vouches for the version that it evaluated last. -/
theorem Sound.of_running (sound : w.Sound used d) (runs : w.point = .running) :
    w.Vouches used d := by
  unfold Sound at sound
  rwa [runs] at sound

/-- Who looks at the file anew minds whatever comes. -/
theorem minds_recheck (w : Watcher) (m : Timestamp) : (recheck w).Minds m := trivial

/-- A watcher takes an event of its file, and looks at it anew. -/
theorem Attends.heedFile (attends : w.Attends used d known) (runs : w.point = .running)
    {event : Event} (received : d.receive w.subscriptions.updated = some (event, e)) :
    (recheck w).Attends used e known := by
  obtain ⟨_, _, made⟩ := Option.map_eq_some_iff.1 received
  cases made
  obtain ⟨s, found, isFor, _⟩ := attends.updated
  constructor
  · refine ⟨{ s with queue := s.queue.tail }, ?_, isFor, fun _ f _ _ _ _ => minds_recheck _ _⟩
    exact Bus.find?_take_self d.bus found
  · obtain ⟨t, there, isFor', known⟩ := attends.removed
    exact ⟨t, isFor.find?_take found isFor' there EventKind.noConfusion, isFor', known⟩
  · rcases attends.cluster with none | ⟨i, t, cluster, there, isFor', informs⟩
    · exact .inl none
    · refine .inr ⟨i, t, cluster,
        isFor.find?_take found isFor' there EventKind.noConfusion, isFor', ?_⟩
      unfold assumes at informs
      rw [runs, if_neg WatcherPoint.noConfusion] at informs
      exact informs
  · have vouches := attends.sound.of_running runs
    exact ⟨fun m last => (vouches m last).1, fun _ => vouches⟩

/-- A watcher takes an event of the membership, and looks at its file anew. -/
theorem Attends.heedMembers (attends : w.Attends used d known) (runs : w.point = .running)
    {i : Nat} (cluster : w.subscriptions.cluster = some i) {event : Event}
    (received : d.receive i = some (event, e)) :
    (recheck { w with clusterNodes := event.members w.clusterNodes, force := true }).Attends
      used e known := by
  obtain ⟨_, next, made⟩ := Option.map_eq_some_iff.1 received
  cases made
  rcases attends.cluster with ⟨none, _⟩ | ⟨j, s, here, found, isFor, informs⟩
  · rw [none] at cluster
    cases cluster
  cases here.symm.trans cluster
  constructor
  · obtain ⟨t, there, isFor', _⟩ := attends.updated
    exact ⟨t, isFor.find?_take found isFor' there EventKind.noConfusion, isFor',
      fun _ f _ _ _ _ => minds_recheck _ _⟩
  · obtain ⟨t, there, isFor', known⟩ := attends.removed
    exact ⟨t, isFor.find?_take found isFor' there EventKind.noConfusion, isFor', known⟩
  · refine .inr ⟨i, { s with queue := s.queue.tail }, cluster, ?_, isFor, ?_⟩
    · exact Bus.find?_take_self d.bus found
    · -- What it knows now is what the event tells.
      intro missed
      have told := informs missed
      unfold assumes at told
      rw [runs, if_neg WatcherPoint.noConfusion] at told
      have head : s.queue.head? = some event := by
        simpa [Bus.next?, Bus.queue, found] using next
      obtain ⟨rest, queue⟩ := List.head?_eq_some_iff.1 head
      rw [queue, List.foldl_cons] at told
      rw [queue]
      exact told
  · have vouches := attends.sound.of_running runs
    exact ⟨fun m last => (vouches m last).1, nofun⟩

/-- A watcher that has given up does not attend to its file again. -/
theorem attends_before (move : WatcherMove d w w' e) (stays : w'.point.attends) :
    w.point.attends := by
  cases move with
  | leave gone =>
    rw [gone] at stays
    cases stays
  | begin here _ => rw [here]; rfl
  | check here _ _ => rw [here]; rfl
  | launch here _ => rw [here]; rfl
  | refresh here _ => rw [here]; rfl
  | heedFile here _ _ => rw [here]; rfl
  | heedMembers here _ _ _ => rw [here]; rfl

/-- A watcher attends to its file after each of its steps, unless it has given up. -/
theorem Attends.move (move : WatcherMove d w w' e) (stays : w'.point.attends)
    (attends : w.Attends used d known)
    (now : ∀ file v, d.configDirectory.read? file = some v → used file v.modified)
    (settings : e.settings = d.settings) (directory : e.configDirectory = d.configDirectory)
    (before : d.Announced) (after : e.Announced) : w'.Attends used e known := by
  -- What is left when its record is that of the new point.
  have frame {d' : Daemon} (attends : w'.Attends used d' known) (spares : Spares [] d' e)
      (settings : e.settings = d'.settings) (directory : e.configDirectory = d'.configDirectory)
      (before : d'.Announced) : w'.Attends used e known := by
    obtain ⟨_, leaves⟩ := spares
    exact attends.frame leaves (fun _ _ _ _ => List.not_mem_nil) settings directory before after
      (fun _ => .inl) .inl
  cases move with
  | leave gone =>
    rw [gone] at stays
    cases stays
  | begin starting spares =>
    refine frame (attends.record rfl rfl rfl ?_ (fun m _ _ _ _ => trivial) ?_) spares settings
      directory before
    · unfold assumes
      rw [starting, if_pos rfl, if_neg WatcherPoint.noConfusion]
    · have none : w.lastModified = none := by
        have sound := attends.sound
        unfold Sound at sound
        rwa [starting] at sound
      refine ⟨fun m last => ?_, fun _ m last => ?_⟩
      · cases none.symm.trans last
      · cases none.symm.trans last
  | check here checked spares =>
    obtain ⟨path, filename, subscriptions, nodes, begun, _⟩ := checked.keeps
    refine frame (attends.record path filename subscriptions ?_
      (fun m minds => minds_check minds here checked) (attends.sound.check now here checked))
      spares settings directory before
    unfold assumes
    rw [here, if_neg begun, if_neg WatcherPoint.noConfusion, nodes]
  | launch here spares =>
    refine frame (attends.record rfl rfl rfl ?_ ?_ ?_) spares settings directory before
    · unfold assumes
      rw [here, if_neg WatcherPoint.noConfusion, if_neg WatcherPoint.noConfusion]
    · intro m minds v found time
      have minds := minds v found time
      unfold Minds at minds
      rwa [here] at minds
    · have sound := attends.sound
      unfold Sound at sound
      rwa [here] at sound
  | refresh here spares =>
    have vouches := attends.sound.of_running here
    refine frame (attends.record rfl rfl rfl ?_ (fun m _ _ _ _ => trivial)
      ⟨fun m last => (vouches m last).1, nofun⟩) spares settings directory before
    unfold assumes
    rw [here, if_neg WatcherPoint.noConfusion, if_neg WatcherPoint.noConfusion]
    rfl
  | heedFile here received spares =>
    have heeds := attends.heedFile here received
    obtain ⟨_, _, made⟩ := Option.map_eq_some_iff.1 received
    cases made
    exact frame heeds spares settings directory before
  | heedMembers here cluster received spares =>
    have heeds := attends.heedMembers here cluster received
    obtain ⟨_, _, made⟩ := Option.map_eq_some_iff.1 received
    cases made
    exact frame heeds spares settings directory before

end Watcher

end ClusterNode
