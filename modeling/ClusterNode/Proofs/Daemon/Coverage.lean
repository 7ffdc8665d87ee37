import ClusterNode.Proofs.Daemon.Attendance
import ClusterNode.Proofs.Daemon.Listening
import ClusterNode.Proofs.Daemon.Roster

/-!
# What the coordinator knows of one object

`Covers` is the invariant of one object and its file. Every watcher of the object attends
to the file until it gives up. When no watcher of the object is known, the version of the
file that the coordinator knows does not name the node, unless an announcement of the
membership is still to be taken, or the object is lost.

An object is lost in one way: when the coordinator forgets a watcher that has ended, it
does not ask whether the file names the node by now. That is `Overlooks`. An object that
was overlooked stays lost at most until its file or the membership changes.
-/

namespace ClusterNode.Daemon

/-- From one state to the next the watcher of an object is forgotten, although its file,
as the coordinator knows it, names the node, and nothing is on its way that would make the
coordinator look again. -/
def Overlooks (p : ObjectPath) (d e : Daemon) : Prop :=
  ∃ c c' f v, d.coordinator = some c ∧ e.coordinator = some c' ∧ c'.point = .idle ∧
    c.watchers.contains p = true ∧ c'.watchers.get? p = none ∧ e.bus.queue c'.members = [] ∧
    c'.files.get? p = some f ∧ ConfigDirectory.objectOf? f.filename = some p ∧
    e.configDirectory.read? f.filename = some v ∧ v.modified = f.modified ∧
    v.Hosts p e.localhost e.replica.members

instance (p : ObjectPath) (d e : Daemon) : Decidable (Overlooks p d e) :=
  decidable_of_iff
    (∃ c, c ∈ d.coordinator ∧ ∃ c', c' ∈ e.coordinator ∧
      (c'.point = .idle ∧ c.watchers.contains p = true ∧ c'.watchers.get? p = none ∧
        e.bus.queue c'.members = []) ∧
      ∃ f, f ∈ c'.files.get? p ∧ ConfigDirectory.objectOf? f.filename = some p ∧
        ∃ v, v ∈ e.configDirectory.read? f.filename ∧ v.modified = f.modified ∧
          v.Hosts p e.localhost e.replica.members) <| by
    constructor
    · rintro ⟨c, here, c', here', ⟨idle, known, gone, told⟩, f, found, object, v, rest⟩
      exact ⟨c, c', f, v, here, here', idle, known, gone, told, found, object, rest⟩
    · rintro ⟨c, c', f, v, here, here', idle, known, gone, told, found, object, rest⟩
      exact ⟨c, here, c', here', ⟨idle, known, gone, told⟩, f, found, object, v, rest⟩

/-- What the coordinator knows is a version that the file of an object had at some time. -/
structure VersionOf (used : String → Timestamp → Prop) (p : ObjectPath) (file : String)
    (f : ConfigFile) : Prop where
  filename : f.filename = file
  object : ConfigDirectory.objectOf? file = some p
  used : used file f.modified

/-- What the coordinator knows of an object and its file, and what its watchers know. -/
structure Covers (used : String → Timestamp → Prop) (lost : Prop) (p : ObjectPath)
    (file : String) (d : Daemon) (c : Coordinator) : Prop where
  known : ∀ f, c.files.get? p = some f → VersionOf used p file f
  found : ∀ found f, c.point = .applying found → found.get? p = some f → VersionOf used p file f
  starting : c.point = .starting → c.files.get? p = none
  passed : c.watchers.get? p = none → ∀ f, c.files.get? p = some f →
    ∀ s, d.bus.find? c.members = some s → s.Current →
      (d.OfVersion file f.modified fun v => ¬ v.Hosts p d.localhost d.replica.members) ∨ lost
  attends : ∀ id w, d.watchers.get? id = some w → w.path = p → w.point.attends →
    w.filename = file ∧ w.Attends used d (c.files.get? p)

variable {used more : String → Timestamp → Prop} {lost late : Prop} {p : ObjectPath} {file : String}
  {d e : Daemon} {c c' : Coordinator} {own : List Nat} {news : List Publication}

/-- A watcher that attends to its file is not done. -/
theorem attends_ne_done {point : WatcherPoint} (attends : point.attends) : point ≠ .done := by
  rintro rfl
  cases attends

/-- A file that the coordinator knows stays one of some version, when more times are used. -/
theorem VersionOf.mono {f : ConfigFile} (version : VersionOf used p file f)
    (grows : ∀ file m, used file m → more file m) : VersionOf more p file f :=
  ⟨version.filename, version.object, grows _ _ version.used⟩

/-- The coverage of a file stays, when more times are used and more may be lost. -/
theorem Covers.mono (covers : Covers used lost p file d c)
    (grows : ∀ file m, used file m → more file m) (stays : lost → late) :
    Covers more late p file d c where
  known f here := (covers.known f here).mono grows
  found found f point here := (covers.found found f point here).mono grows
  starting := covers.starting
  passed unwatched f here s found current :=
    (covers.passed unwatched f here s found current).imp_right stays
  attends id w here path attends :=
    (covers.attends id w here path attends).imp_right fun attends => attends.mono grows

/-- A coordinator that knows a file of the object has begun. -/
theorem Covers.begun (covers : Covers used lost p file d c) {f : ConfigFile}
    (there : c.files.get? p = some f) : c.point ≠ .starting := by
  intro starting
  cases (covers.starting starting).symm.trans there

/-! ## What others do -/

/-- A version that did not name the node still does not, if no announcement came, and an
object that was lost still is. -/
theorem Covers.passed_frame (covers : Covers used lost p file d c) (listens : Listens d c)
    (leaves : Leaves own news d e) (other : c.point ≠ .starting → c.members ∉ own)
    (settings : e.settings = d.settings)
    (directory : e.configDirectory = d.configDirectory) (before : d.Announced)
    (after : e.Announced) (unwatched : c.watchers.get? p = none) {f : ConfigFile}
    (here : c.files.get? p = some f) {t : Subscriber}
    (there : e.bus.find? c.members = some t) (current : t.Current) :
    (e.OfVersion file f.modified fun v => ¬ v.Hosts p e.localhost e.replica.members) ∨
      lost ∧ Still p d e := by
  have begun := covers.begun here
  obtain ⟨s, t', found, there', hears, isFor, _⟩ :=
    listens.frame begun leaves (other begun) settings
  cases there'.symm.trans there
  have localhost : e.localhost = d.localhost := congrArg DaemonSettings.localhost settings
  have members := before.members_of_current after settings leaves isFor hears current
  have still : Still p d e := still_of_current leaves settings directory isFor hears current
  rw [localhost, members]
  rcases covers.passed unwatched f here s found (hears.current current).1 with passed | lost
  · exact .inl (passed.same directory)
  · exact .inr ⟨lost, still⟩

/-- A watcher when another actor acts: what it knows stays as it is. -/
theorem Covers.attends_frame (covers : Covers used lost p file d c) (leaves : Leaves own news d e)
    (settings : e.settings = d.settings) (directory : e.configDirectory = d.configDirectory)
    (before : d.Announced) (after : e.Announced) {id : WorkerId} {w : Watcher}
    (here : d.watchers.get? id = some w)
    (others : ∀ i ∈ w.subscriptions.ids, ∀ s, d.bus.find? i = some s → i ∉ own)
    (path : w.path = p) (attends : w.point.attends) :
    w.filename = file ∧ w.Attends used e (c.files.get? p) :=
  (covers.attends id w here path attends).imp_right fun attends =>
    attends.frame leaves others settings directory before after (fun _ => .inl) .inl

/-- A step that is aside. -/
theorem Covers.aside (covers : Covers used lost p file d c) (listens : Listens d c)
    (steady : d.Steady) (here : d.coordinator = some c) {a : Actor}
    (notCoordinator : a ≠ .coordinator) (notWatcher : ∀ id, a ≠ .watcher id)
    (bystands : Bystands (d.owned a) d e) (before : d.Announced) (after : e.Announced) :
    Covers used (lost ∧ Still p d e) p file e c := by
  obtain ⟨news, leaves⟩ := bystands.spares
  have members := listens.others steady.apart here notCoordinator
  constructor
  · exact covers.known
  · exact covers.found
  · exact covers.starting
  · intro unwatched f there s found current
    exact covers.passed_frame listens leaves members bystands.settings bystands.configDirectory
      before after unwatched there found current
  · intro id w there path attends
    rw [bystands.watchers] at there
    exact covers.attends_frame leaves bystands.settings bystands.configDirectory before after
      there (steady.apart.watcher there (notWatcher id)) path attends

/-- Files are written and removed. An object that was lost still is, unless its own file
changed; and then the version that the coordinator knows is not there any more. -/
theorem Covers.ages {files : ConfigDirectory} (covers : Covers used lost p file d c)
    (ages : Ages used d { d with configDirectory := files })
    (before : ∀ name v, d.configDirectory.read? name = some v →
      ConfigDirectory.objectOf? name = some p → name = file)
    (after : ∀ name v, files.read? name = some v →
      ConfigDirectory.objectOf? name = some p → name = file) :
    Covers used (lost ∧ Still p d { d with configDirectory := files }) p file
      { d with configDirectory := files } c where
  known := covers.known
  found := covers.found
  starting := covers.starting
  passed unwatched f here s found current := by
    have version := covers.known f here
    rcases covers.passed unwatched f here s found current with passed | lost
    · exact .inl (passed.ages ages version.used)
    · by_cases same : files.read? file = d.configDirectory.read? file
      · refine .inr ⟨lost, fun name object => ?_, rfl⟩
        by_cases mine : name = file
        · rw [mine]
          exact same
        · have absent : d.configDirectory.read? name = none := by
            rw [Option.eq_none_iff_forall_ne_some]
            exact fun v stands => mine (before name v stands object)
          change files.read? name = _
          rw [absent, Option.eq_none_iff_forall_ne_some]
          exact fun v stands => mine (after name v stands object)
      · left
        intro v stands time
        rcases ages file v stands with there | new
        · exact absurd (stands.trans there.symm) same
        · exact absurd (time ▸ version.used) new
  attends id w here path attends := by
    obtain ⟨filename, attends⟩ := covers.attends id w here path attends
    refine ⟨filename, attends.ages ages fun f known => ?_⟩
    rw [filename]
    exact (covers.known f known).used

/-- A watcher steps. -/
theorem Covers.turns (covers : Covers used lost p file d c) (listens : Listens d c)
    (steady : d.Steady) (coordinator : d.coordinator = some c) {id : WorkerId} {w w' : Watcher}
    (here : d.watchers.get? id = some w) (move : WatcherMove d w w' e)
    (turns : Turns id w w' d e)
    (now : ∀ file v, d.configDirectory.read? file = some v → used file v.modified)
    (before : d.Announced) (after : e.Announced) :
    Covers used (lost ∧ Still p d e) p file e c := by
  obtain ⟨news, leaves⟩ := turns.spares
  have own := owned_watcher here
  have members (begun : c.point ≠ .starting) : c.members ∉ w.subscriptions.ids := by
    rw [← own]
    exact listens.others steady.apart coordinator Actor.noConfusion begun
  constructor
  · exact covers.known
  · exact covers.found
  · exact covers.starting
  · intro unwatched f there s found current
    exact covers.passed_frame listens leaves members turns.settings turns.configDirectory
      before after unwatched there found current
  · intro k v there path attends
    rw [turns.watchers, SortedMap.get?_insert] at there
    split at there
    · cases there
      obtain ⟨filename, mine⟩ := covers.attends id w here (turns.path.symm.trans path)
        (Watcher.attends_before move attends)
      exact ⟨turns.filename.trans filename, .move move attends mine now turns.settings
        turns.configDirectory before after⟩
    · rename_i different
      have other : Actor.watcher id ≠ .watcher k := fun same => different (by cases same; rfl)
      exact covers.attends_frame leaves turns.settings turns.configDirectory before after there
        (own ▸ steady.apart.watcher there other) path attends

/-! ## What the coordinator does -/

/-- The watchers, when the coordinator knows of the file what it knew before. -/
theorem Covers.attends_directs (covers : Covers used lost p file d c) (steady : d.Steady)
    (coordinator : d.coordinator = some c) (directs : Directs c c' d e) (before : d.Announced)
    (after : e.Announced) (known : ∀ id w, d.watchers.get? id = some w → w.path = p →
      w.point.attends → c'.files.get? p = c.files.get? p) {id : WorkerId} {w : Watcher}
    (here : e.watchers.get? id = some w) (path : w.path = p) (attends : w.point.attends) :
    w.filename = file ∧ w.Attends used e (c'.files.get? p) := by
  rw [directs.watchers] at here
  rw [known id w here path attends]
  obtain ⟨news, leaves⟩ := directs.spares
  have others := steady.apart.watcher (b := .coordinator) here Actor.noConfusion
  rw [owned_coordinator coordinator] at others
  exact covers.attends_frame leaves directs.settings directs.configDirectory before after here
    others path attends

/-- A version that did not name the node, when the coordinator is not the one that takes an
announcement. -/
theorem Covers.passed_directs (covers : Covers used lost p file d c) (listens : Listens d c)
    (leaves : Leaves own news d e) (other : c.point ≠ .starting → c.members ∉ own)
    (directs : Directs c c' d e) (before : d.Announced) (after : e.Announced)
    (unwatched : c.watchers.get? p = none) {f : ConfigFile} (there : c.files.get? p = some f)
    {s : Subscriber} (found : e.bus.find? c.members = some s) (current : s.Current) :
    (e.OfVersion file f.modified fun v => ¬ v.Hosts p e.localhost e.replica.members) ∨
      Overlooks p d e ∨ lost ∧ Still p d e :=
  (covers.passed_frame listens leaves other directs.settings directs.configDirectory before after
    unwatched there found current).imp_right .inr

/-- A watcher is forgotten. If it was the one of this very object, and the version of the
file names the node, the object is overlooked. -/
theorem Covers.passed_forget (covers : Covers used lost p file d c) (listens : Listens d c)
    (coordinator : d.coordinator = some c) (idle : c.point = .idle) {q : ObjectPath}
    {id : WorkerId} (known : c.watchers.get? q = some id) (leaves : Leaves [] news d e)
    (directs : Directs c { c with
      watchers := c.watchers.erase q, statusTimes := c.statusTimes.erase q } d e)
    (before : d.Announced) (after : e.Announced)
    (unwatched : (c.watchers.erase q).get? p = none) {f : ConfigFile}
    (there : c.files.get? p = some f) {s : Subscriber}
    (found : e.bus.find? c.members = some s) (current : s.Current) :
    (e.OfVersion file f.modified fun v => ¬ v.Hosts p e.localhost e.replica.members) ∨
      Overlooks p d e ∨ lost ∧ Still p d e := by
  by_cases same : p = q
  · subst same
    by_cases hosts : ∃ v, e.configDirectory.read? file = some v ∧ v.modified = f.modified ∧
        v.Hosts p e.localhost e.replica.members
    · obtain ⟨v, stands, time, hosts⟩ := hosts
      have version := covers.known f there
      refine .inr (.inl ⟨c, _, f, v, coordinator, directs.coordinator, idle,
        SortedMap.contains_iff.2 ⟨id, known⟩, unwatched, ?_, there, ?_, ?_, time, hosts⟩)
      · simp [Bus.queue, found, current.2]
      · rw [version.filename]
        exact version.object
      · rw [version.filename]
        exact stands
    · exact .inl fun v stands time mine => hosts ⟨v, stands, time, mine⟩
  · rw [SortedMap.get?_erase, if_neg same] at unwatched
    exact covers.passed_directs listens leaves (fun _ => List.not_mem_nil) directs before after
      unwatched there found current

/-- The coordinator steps. -/
theorem Covers.moves (covers : Covers used lost p file d c) (listens : Listens d c)
    (steady : d.Steady) (roster : Roster d c) (coordinator : d.coordinator = some c)
    (move : CoordinatorMove d c c' e) (directs : Directs c c' d e)
    (now : ∀ file v, d.configDirectory.read? file = some v → used file v.modified)
    (named : ∀ name v, d.configDirectory.read? name = some v →
      ConfigDirectory.objectOf? name = some p → name = file)
    (before : d.Announced) (after : e.Announced) :
    Covers used (Overlooks p d e ∨ lost ∧ Still p d e) p file e c' := by
  have begun' := begun_of_works directs.works
  have attends := covers.attends_directs steady coordinator directs before after
  cases move with
  | begin starting files _ scans _ _ _ _ =>
    constructor
    · rw [files]
      exact covers.known
    · exact fun found _ applying => absurd applying (scans found)
    · exact fun starting => absurd starting begun'
    · intro _ f there
      rw [files] at there
      exact absurd starting (covers.begun there)
    · exact fun id w => attends fun _ _ _ _ _ => by rw [files]
  | forget idle _ known _ spares =>
    rename_i q filename id rest _ _
    obtain ⟨news, leaves⟩ := spares
    constructor
    · exact covers.known
    · intro found _ applying
      cases idle.symm.trans applying
    · exact fun starting => absurd starting begun'
    · exact fun unwatched f there s => covers.passed_forget listens coordinator idle known leaves
        directs before after unwatched there
    · exact fun id w => attends fun _ _ _ _ _ => rfl
  | retry idle _ _ _ =>
    -- The files without a watcher are forgotten, those with one are kept.
    have files : c.retry.files.get? p =
        (c.files.get? p).filter fun _ => c.watchers.contains p := SortedMap.get?_filter ..
    constructor
    · intro f there
      rw [files] at there
      exact covers.known f (Option.filter_eq_some_iff.1 there).1
    · intro found _ applying
      cases idle.symm.trans applying
    · exact fun starting => absurd starting begun'
    · intro unwatched f there
      rw [files] at there
      have watched := (Option.filter_eq_some_iff.1 there).2
      obtain ⟨_, known⟩ := SortedMap.contains_iff.1 watched
      cases unwatched.symm.trans known
    · refine fun id w => attends fun k v here path attends => ?_
      have known := roster.live k v here (attends_ne_done attends)
      rw [path] at known
      rw [files, SortedMap.contains_iff.2 ⟨k, known⟩]
      cases c.files.get? p <;> rfl
  | look _ scanned _ spares =>
    obtain ⟨_, leaves⟩ := spares
    rename_i found
    constructor
    · exact covers.known
    · intro _ f applying there
      cases applying
      obtain ⟨v, stands, object, time⟩ := ConfigDirectory.scan_sound scanned there
      have same := named _ v stands object
      refine ⟨same, same ▸ object, ?_⟩
      rw [time, ← same]
      exact now _ v stands
    · exact fun starting => absurd starting begun'
    · exact fun unwatched f there s => covers.passed_directs listens leaves
        (fun _ => List.not_mem_nil) directs before after unwatched there
    · exact fun id w => attends fun _ _ _ _ _ => rfl
  | proceed _ files watchers ids scans _ spares =>
    obtain ⟨_, leaves⟩ := spares
    obtain ⟨_, members⟩ := Coordinator.ids_eq_iff.1 ids
    constructor
    · rw [files]
      exact covers.known
    · exact fun found _ applying => absurd applying (scans found)
    · exact fun starting => absurd starting begun'
    · rw [files, watchers, members]
      exact fun unwatched f there s => covers.passed_directs listens leaves listens.apart directs
        before after unwatched there
    · exact fun id w => attends fun _ _ _ _ _ => by rw [files]

/-! ## Scans -/

variable {found : SortedMap ObjectPath ConfigFile} {q : ObjectPath} {f : ConfigFile}

/-- Only the point of the program changed, and no scan is to be applied. -/
theorem Covers.put (covers : Covers used lost p file d c) {point : CoordinatorPoint}
    (begun : point ≠ .starting) (scans : ∀ found, point ≠ .applying found)
    (announced : d.Announced) :
    Covers used lost p file (d.putCoordinator { c with point }) { c with point } where
  known := covers.known
  found found _ applying := absurd applying (scans found)
  starting starting := absurd starting begun
  passed := covers.passed
  attends id w here path attends := by
    have leaves : Leaves [] [] d (d.putCoordinator { c with point }) := leaves_of_bus rfl rfl
    exact covers.attends_frame leaves rfl rfl announced announced here
      (fun _ _ _ _ => List.not_mem_nil) path attends

/-- The files that are gone are told of. -/
theorem Covers.gone (covers : Covers used lost p file d c) (listens : Listens d c)
    (applying : c.point = .applying found) (announced : d.Announced) :
    Covers used (lost ∧ Still p d (d.publishAll (goneFiles c found))) p file
        (d.publishAll (goneFiles c found)) (c.forgetGone found) ∧
      (d.publishAll (goneFiles c found)).Announced := by
  have after : (d.publishAll (goneFiles c found)).Announced := by
    refine announced.publishAll fun publication member => ?_
    obtain ⟨e, _, rfl⟩ := List.mem_map.1 member
    exact EventKind.noConfusion
  have leaves : Leaves [] (goneFiles c found) d (d.publishAll (goneFiles c found)) :=
    leaves_publishAll _
  have rest := publishAll_eq d (goneFiles c found)
  have settings : (d.publishAll (goneFiles c found)).settings = d.settings := by rw [rest]
  have directory : (d.publishAll (goneFiles c found)).configDirectory = d.configDirectory := by
    rw [rest]
  have watchers : (d.publishAll (goneFiles c found)).watchers = d.watchers := by rw [rest]
  have files : (c.forgetGone found).files.get? p =
      (c.files.get? p).filter fun _ => found.contains p := SortedMap.get?_filter ..
  have begun : c.point ≠ .starting := by
    rw [applying]
    exact CoordinatorPoint.noConfusion
  refine ⟨⟨?_, covers.found, fun starting => absurd starting begun, ?_, ?_⟩, after⟩
  · intro f there
    rw [files] at there
    exact covers.known f (Option.filter_eq_some_iff.1 there).1
  · intro unwatched f there s found current
    rw [files] at there
    exact covers.passed_frame listens leaves (fun _ => List.not_mem_nil) settings directory
      announced after unwatched (Option.filter_eq_some_iff.1 there).1 found current
  · intro id w here path attends
    rw [watchers] at here
    obtain ⟨filename, attends⟩ := covers.attends id w here path attends
    refine ⟨filename, attends.frame leaves (fun _ _ _ _ => List.not_mem_nil) settings directory
      announced after ?_ ?_⟩
    · intro f there
      rw [files] at there
      exact .inl (Option.filter_eq_some_iff.1 there).1
    · intro none
      rw [files] at none
      cases there : c.files.get? p with
      | none => exact .inl rfl
      | some f =>
        right
        rw [there, Option.filter_eq_none_iff] at none
        have missing : found.contains p = false := by simpa using none f rfl
        refine ⟨.ofPath (.configFileRemoved p f.filename) p, ?_, rfl, by rw [path]; simp [Publication.ofPath]⟩
        exact List.mem_map.2 ⟨(p, f), List.mem_filter.2
          ⟨SortedMap.get?_eq_some_iff.1 there, by simp [missing]⟩, rfl⟩

/-- A watcher that has just been started attends to its file. -/
theorem Started.attends {w : Watcher} (started : Started p f.filename d e w)
    (settings : e.settings = d.settings) : w.Attends used e (some f) where
  updated := by
    rw [started.path]
    refine ⟨_, started.updated, ⟨rfl, rfl⟩, fun _ _ _ _ _ _ => ?_⟩
    unfold Watcher.Minds
    rw [started.point]
    trivial
  removed := by
    rw [started.path]
    exact ⟨_, started.removed, ⟨rfl, rfl⟩, fun _ => Option.some_ne_none f⟩
  cluster := by
    rw [started.path]
    refine started.cluster.imp_right ?_
    rintro ⟨i, cluster, found⟩
    have localhost : e.localhost = d.localhost := congrArg DaemonSettings.localhost settings
    refine ⟨i, _, cluster, found, ⟨rfl, by rw [localhost]⟩, fun _ => ?_⟩
    unfold Watcher.assumes
    rw [started.point, if_pos rfl]
    rfl
  sound := by
    unfold Watcher.Sound
    rw [started.point]
    exact started.lastModified

/-- What is known when a file that a scan found is taken. -/
theorem Covers.known_insert (covers : Covers used lost p file d c)
    (applying : c.point = .applying found) (here : found.get? q = some f) {f' : ConfigFile}
    (there : (c.files.insert q f).get? p = some f') : VersionOf used p file f' := by
  rw [SortedMap.get?_insert] at there
  split at there
  · rename_i same
    cases there
    exact covers.found found _ applying (same ▸ here)
  · exact covers.known f' there

/-- A file is taken whose watcher has not ended: it is told. -/
theorem Covers.takeFile_told (covers : Covers used lost p file d c) (listens : Listens d c)
    (applying : c.point = .applying found) (here : found.get? q = some f)
    (announced : d.Announced) (watched : d.watches c q) :
    Covers used (lost ∧ Still p d (d.takeFile c q f).1) p file (d.takeFile c q f).1
        (d.takeFile c q f).2 ∧ (d.takeFile c q f).1.Announced := by
  rw [Daemon.takeFile_told watched]
  have leaves : Leaves [] [.ofPath (.configFileUpdated q f.filename) q] d
      (d.publish (.ofPath (.configFileUpdated q f.filename) q)) := leaves_publish _
  have after : (d.publishAll [.ofPath (.configFileUpdated q f.filename) q]).Announced := by
    refine announced.publishAll fun publication member => ?_
    rw [List.mem_singleton.1 member]
    exact EventKind.noConfusion
  change (d.publish (.ofPath (.configFileUpdated q f.filename) q)).Announced at after
  refine ⟨⟨fun _ => covers.known_insert applying here, covers.found, ?_, ?_, ?_⟩, after⟩
  · intro starting
    cases applying.symm.trans starting
  · intro unwatched f' there s found current
    have other : p ≠ q := by
      rintro rfl
      obtain ⟨_, _, known, _⟩ := watches_iff.1 watched
      cases unwatched.symm.trans known
    change (c.files.insert q f).get? p = some f' at there
    rw [SortedMap.get?_insert_of_ne _ _ other] at there
    exact covers.passed_frame listens leaves (fun _ => List.not_mem_nil) rfl rfl announced
      after unwatched there found current
  · intro id w there path attends
    obtain ⟨filename, attends⟩ := covers.attends id w there path attends
    refine ⟨filename, attends.frame leaves (fun _ _ _ _ => List.not_mem_nil) rfl rfl
      announced after ?_ ?_⟩
    · intro f' known
      change (c.files.insert q f).get? p = some f' at known
      rw [SortedMap.get?_insert] at known
      split at known
      · rename_i same
        refine .inr ⟨_, List.mem_singleton_self _, rfl, ?_⟩
        rw [path, same]
        exact List.mem_singleton_self _
      · exact .inl known
    · intro missing
      change (c.files.insert q f).get? p = none at missing
      rw [SortedMap.get?_insert] at missing
      split at missing
      · cases missing
      · exact .inl missing

/-- A file is taken for which no watcher lives: a new one is started. -/
theorem Covers.takeFile_started (covers : Covers used lost p file d c) (listens : Listens d c)
    (roster : Roster d c) (apart : d.Apart) (applying : c.point = .applying found)
    (here : found.get? q = some f) (announced : d.Announced) (unwatched : ¬ d.watches c q) :
    Covers used (lost ∧ Still p d (d.takeFile c q f).1) p file (d.takeFile c q f).1
        (d.takeFile c q f).2 ∧ (d.takeFile c q f).1.Announced := by
  obtain ⟨w, started, watchers, _, made⟩ := takeFile_starts (f := f) apart.numbered unwatched
  obtain ⟨scans, _⟩ := takeFile_scans (c := c) (p := q) (f := f) apart
  obtain ⟨_, leaves⟩ := scans.spares
  generalize (d.takeFile c q f).1 = e at *
  rw [made]
  have localhost : e.localhost = d.localhost :=
    congrArg DaemonSettings.localhost scans.settings
  have after : e.Announced := by
    unfold Announced announcements
    rw [localhost, started.published, scans.settings, started.replica]
    exact announced
  refine ⟨⟨fun _ => covers.known_insert applying here, covers.found, ?_, ?_, ?_⟩, after⟩
  · intro starting
    cases applying.symm.trans starting
  · intro none f' there s found current
    change (c.watchers.insert q d.nextWorker).get? p = .none at none
    change (c.files.insert q f).get? p = some f' at there
    rw [SortedMap.get?_insert] at none there
    split at none
    · cases none
    · rename_i other
      rw [if_neg other] at there
      exact covers.passed_frame listens leaves (fun _ => List.not_mem_nil) scans.settings
        scans.configDirectory announced after none there found current
  · intro id v there path attends
    change _ ∧ v.Attends used e ((c.files.insert q f).get? p)
    rw [watchers, SortedMap.get?_insert] at there
    split at there
    · cases there
      rw [started.path] at path
      subst path
      rw [SortedMap.get?_insert_self]
      have version := covers.known_insert applying here (SortedMap.get?_insert_self ..)
      exact ⟨started.filename.trans version.filename, started.attends scans.settings⟩
    · have other : p ≠ q := by
        rintro rfl
        exact unwatched (path ▸ roster.watches_of_live there (attends_ne_done attends))
      rw [SortedMap.get?_insert_of_ne _ _ other]
      exact covers.attends_frame leaves scans.settings scans.configDirectory announced after
        there (fun _ _ _ _ => List.not_mem_nil) path attends

/-- A file that a scan found is taken. -/
theorem Covers.takeFile (covers : Covers used lost p file d c) (listens : Listens d c)
    (roster : Roster d c) (apart : d.Apart) (applying : c.point = .applying found)
    (here : found.get? q = some f) (announced : d.Announced) :
    Covers used (lost ∧ Still p d (d.takeFile c q f).1) p file (d.takeFile c q f).1
        (d.takeFile c q f).2 ∧ (d.takeFile c q f).1.Announced := by
  by_cases watched : d.watches c q
  · exact covers.takeFile_told listens applying here announced watched
  · exact covers.takeFile_started listens roster apart applying here announced watched

/-- A scan is applied. -/
theorem Covers.applyScan (covers : Covers used lost p file d c) (listens : Listens d c)
    (roster : Roster d c) (apart : d.Apart) (applying : c.point = .applying found)
    (announced : d.Announced) :
    ∃ c', (d.applyScan c found).coordinator = some c' ∧
      Covers used (lost ∧ Still p d (d.applyScan c found)) p file (d.applyScan c found) c' := by
  have begun : c.point ≠ .starting := by
    rw [applying]
    exact CoordinatorPoint.noConfusion
  obtain ⟨gone, announced'⟩ := covers.gone listens applying announced
  obtain ⟨d', c', rest, ⟨covers', _, announced', _⟩, _, _, made⟩ :=
    applyScan_induction apart c found
      (motive := fun d' c' => Covers used (lost ∧ Still p d d') p file d' c' ∧ Roster d' c' ∧
        d'.Announced ∧ c'.point = .applying found)
      ⟨gone, roster.gone, announced', applying⟩ (by
        rintro d' c' q f apart' scans here _ ⟨covers', roster', announced', applying'⟩
        obtain ⟨covers'', announced''⟩ :=
          covers'.takeFile (listens.scans scans begun) roster' apart' applying' here announced'
        refine ⟨covers''.mono (fun _ _ => id) ?_, roster'.takeFile apart', announced'',
          takeFile_point.trans applying'⟩
        rintro ⟨⟨lost, still⟩, later⟩
        exact ⟨lost, still.trans later⟩)
  rw [made]
  exact ⟨_, rfl, covers'.put CoordinatorPoint.noConfusion
    (fun _ => CoordinatorPoint.noConfusion) announced'⟩

end ClusterNode.Daemon
