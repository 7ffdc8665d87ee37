import ClusterNode.Proofs.Daemon.Coverage

/-!
# Objects that stay without a watcher

An object is `Forsaken` in a run when it was overlooked, and since then neither a file of it
nor the membership changed. Then the coordinator knows no watcher of the object, a scan finds
nothing that the coordinator does not know, and no announcement makes it try again: that is
`Neglects`, and every step keeps it as long as nothing changes and nothing was missed.
-/

namespace ClusterNode.Daemon

/-- An object was overlooked in some step of a run, and nothing that concerns it changed
since; the states of the run are given, latest first. -/
def Forsaken (p : ObjectPath) : List Daemon → Prop
  | e :: d :: past => Overlooks p d e ∨ Forsaken p (d :: past) ∧ Still p d e
  | _ => False

/-- Whether an object is forsaken can be tested step by step. -/
def decideForsaken (p : ObjectPath) : (past : List Daemon) → Decidable (Forsaken p past)
  | [] => .isFalse id
  | [_] => .isFalse id
  | _ :: d :: past =>
    have := decideForsaken p (d :: past)
    instDecidableOr

instance (p : ObjectPath) (past : List Daemon) : Decidable (Forsaken p past) :=
  decideForsaken p past

/-- All files of an object that there ever were have one name. -/
def NamedIn (past : List Daemon) (p : ObjectPath) (file : String) : Prop :=
  ∀ s ∈ past, ∀ name v, s.configDirectory.read? name = some v →
    ConfigDirectory.objectOf? name = some p → name = file

instance (past : List Daemon) (p : ObjectPath) (file : String) :
    Decidable (NamedIn past p file) :=
  inferInstanceAs (Decidable (∀ s ∈ past, ∀ name v,
    s.configDirectory.files.get? name = some v →
      ConfigDirectory.objectOf? name = some p → name = file))

/-- The time of modification of a file. -/
def timeOf (d : Daemon) (file : String) : Option Timestamp :=
  (d.configDirectory.read? file).map (·.modified)

/-- Nothing makes the coordinator look at a file that it knows no watcher for: what it knows
is there, so does a scan under way, and no announcement is to be taken. -/
structure Rests (p : ObjectPath) (file : String) (d : Daemon) (c : Coordinator)
    (s : Subscriber) : Prop where
  unwatched : c.watchers.get? p = none
  known : (c.files.get? p).map (·.modified) = d.timeOf file
  applying : ∀ found, c.point = .applying found →
    (found.get? p).map (·.modified) = d.timeOf file
  silent : s.queue = []

/-- The coordinator has begun, and it will not look at the file of an object, unless it
missed an announcement. -/
structure Neglects (p : ObjectPath) (file : String) (d : Daemon) (c : Coordinator) : Prop where
  begun : c.point ≠ .starting
  object : ConfigDirectory.objectOf? file = some p
  rests : ∀ s, d.bus.find? c.members = some s → s.dropped = 0 → Rests p file d c s

variable {d e : Daemon} {c c' : Coordinator} {p : ObjectPath} {file : String} {own : List Nat}
  {news : List Publication} {found : SortedMap ObjectPath ConfigFile}

/-- Where a file is still, its time of modification is the same. -/
theorem Still.timeOf (still : Still p d e) (object : ConfigDirectory.objectOf? file = some p) :
    e.timeOf file = d.timeOf file := by
  unfold Daemon.timeOf
  rw [still.1 file object]

/-! ## How it begins -/

/-- An object that is overlooked is neglected from then on. -/
theorem Overlooks.neglects (overlooks : Overlooks p d e) (here : e.coordinator = some c)
    (named : ∀ name v, e.configDirectory.read? name = some v →
      ConfigDirectory.objectOf? name = some p → name = file) : Neglects p file e c := by
  obtain ⟨_, c', f, v, _, here', idle, _, unwatched, silent, known, object, stands, time, _⟩ :=
    overlooks
  cases here'.symm.trans here
  cases named _ v stands object
  refine ⟨?_, object, fun s there _ => ⟨unwatched, ?_, ?_, ?_⟩⟩
  · rw [idle]
    exact CoordinatorPoint.noConfusion
  · rw [timeOf, known, stands, Option.map_some, Option.map_some, time]
  · intro found applying
    cases idle.symm.trans applying
  · simpa [Bus.queue, there] using silent

/-! ## What keeps it -/

/-- What a step leaves that announces nothing, and after which the coordinator still knows
no watcher, and of the file what is there. -/
theorem Neglects.frame (neglects : Neglects p file d c) (listens : Listens d c)
    (leaves : Leaves own news d e) (other : c.members ∉ own) (settings : e.settings = d.settings)
    (still : Still p d e) (begun : c'.point ≠ .starting) (members : c'.members = c.members)
    (keeps : ∀ s, Rests p file d c s → c'.watchers.get? p = none ∧
      (c'.files.get? p).map (·.modified) = d.timeOf file ∧
      ∀ found, c'.point = .applying found →
        (found.get? p).map (·.modified) = d.timeOf file) : Neglects p file e c' := by
  refine ⟨begun, neglects.object, fun t there missed => ?_⟩
  rw [members] at there
  obtain ⟨s, t', before, there', hears, isFor, _⟩ :=
    listens.frame neglects.begun leaves other settings
  cases there'.symm.trans there
  have rests := neglects.rests s before (Nat.le_zero.1 (missed ▸ hears.dropped))
  obtain ⟨unwatched, known, applying⟩ := keeps s rests
  have heard : s.heard news = [] := by
    have same := still.2
    rwa [leaves.announcements settings isFor, List.append_right_eq_self] at same
  rw [← still.timeOf neglects.object] at known applying
  refine ⟨unwatched, known, applying, ?_⟩
  rw [hears.queue missed, rests.silent, heard]
  rfl

/-- What a step leaves that does not concern the coordinator. -/
theorem Neglects.others (neglects : Neglects p file d c) (listens : Listens d c)
    (leaves : Leaves own news d e) (other : c.members ∉ own) (settings : e.settings = d.settings)
    (still : Still p d e) : Neglects p file e c :=
  neglects.frame listens leaves other settings still neglects.begun rfl
    fun _ rests => ⟨rests.unwatched, rests.known, rests.applying⟩

/-- What the coordinator does apart from scans. -/
theorem Neglects.moves (neglects : Neglects p file d c) (listens : Listens d c)
    (move : CoordinatorMove d c c' e) (directs : Directs c c' d e)
    (named : ∀ name v, d.configDirectory.read? name = some v →
      ConfigDirectory.objectOf? name = some p → name = file)
    (still : Still p d e) : Neglects p file e c' := by
  have begun := begun_of_works directs.works
  cases move with
  | begin starting => exact absurd starting neglects.begun
  | forget idle _ _ _ spares =>
    obtain ⟨_, leaves⟩ := spares
    refine neglects.frame listens leaves List.not_mem_nil directs.settings still begun rfl
      fun s rests => ⟨?_, rests.known, rests.applying⟩
    rw [SortedMap.get?_erase, rests.unwatched, ite_self]
  | retry _ received _ spares =>
    -- There is no announcement to be taken, unless one was missed.
    obtain ⟨_, leaves⟩ := spares
    obtain ⟨_, next, made⟩ := Option.map_eq_some_iff.1 received
    cases made
    refine ⟨begun, neglects.object, fun t there missed => ?_⟩
    obtain ⟨_, s, before, _⟩ := listens neglects.begun
    obtain ⟨t', there', hears⟩ :=
      leaves.hears _ _ (Bus.find?_take_self d.bus before) List.not_mem_nil
    cases there'.symm.trans there
    have missed' : s.dropped = 0 := Nat.le_zero.1 (missed ▸ hears.dropped)
    have silent := (neglects.rests s before missed').silent
    simp [Bus.next?, Bus.queue, before, silent] at next
  | look _ scanned _ spares =>
    obtain ⟨_, leaves⟩ := spares
    refine neglects.frame listens leaves List.not_mem_nil directs.settings still begun rfl
      fun s rests => ⟨rests.unwatched, rests.known, ?_⟩
    rintro _ ⟨⟩
    exact ConfigDirectory.scan_time scanned named neglects.object
  | proceed _ files watchers ids scans _ spares =>
    obtain ⟨_, leaves⟩ := spares
    obtain ⟨_, members⟩ := Coordinator.ids_eq_iff.1 ids
    refine neglects.frame listens leaves (listens.apart neglects.begun) directs.settings still
      begun members
      fun s rests => ⟨?_, ?_, fun found applying => absurd applying (scans found)⟩
    · rw [watchers]
      exact rests.unwatched
    · rw [files]
      exact rests.known

/-- A scan that finds what is known takes nothing for the object. -/
theorem applyScan_passes (apart : d.Apart) (c : Coordinator)
    (found : SortedMap ObjectPath ConfigFile) (p : ObjectPath) :
    ∃ d' c' rest, Scans d d' c c' ∧
      d.applyScan c found = d'.putCoordinator { c' with point := .looking rest } ∧
      (c.watchers.get? p = none →
        (c.files.get? p).map (·.modified) = (found.get? p).map (·.modified) →
        c'.watchers.get? p = none ∧
          (c'.files.get? p).map (·.modified) = (found.get? p).map (·.modified)) := by
  have files : (c.forgetGone found).files.get? p =
      (c.files.get? p).filter fun _ => found.contains p := SortedMap.get?_filter ..
  have kept (same : (c.files.get? p).map (·.modified) = (found.get? p).map (·.modified)) :
      (c.forgetGone found).files.get? p = c.files.get? p := by
    rw [files]
    cases there : found.get? p with
    | none =>
      rw [there, Option.map_none, Option.map_eq_none_iff] at same
      rw [same]
      rfl
    | some f =>
      rw [SortedMap.contains_iff.2 ⟨f, there⟩]
      cases c.files.get? p <;> rfl
  obtain ⟨d', c', rest, passes, scans, _, made⟩ := applyScan_induction apart c found
    (motive := fun _ c' => c.watchers.get? p = none →
      (c.files.get? p).map (·.modified) = (found.get? p).map (·.modified) →
      c'.watchers.get? p = none ∧
        (c'.files.get? p).map (·.modified) = (found.get? p).map (·.modified))
    (fun unwatched same => ⟨unwatched, by rw [kept same, same]⟩) (by
      intro d' c' q f apart' _ here differs passes unwatched same
      obtain ⟨unwatched', known⟩ := passes unwatched same
      -- The file of this object is not among those that are taken.
      have other : p ≠ q := by
        rintro rfl
        rw [kept same] at differs
        rw [here, Option.map_some, Option.map_eq_some_iff] at same
        obtain ⟨k, there, time⟩ := same
        exact differs k there time
      by_cases watched : d'.watches c' q
      · rw [takeFile_told watched]
        refine ⟨unwatched', ?_⟩
        rw [← known, SortedMap.get?_insert_of_ne _ _ other]
      · obtain ⟨w, _, _, _, made⟩ := takeFile_starts (f := f) apart'.numbered watched
        rw [made]
        constructor
        · rw [SortedMap.get?_insert_of_ne _ _ other]
          exact unwatched'
        · rw [← known, SortedMap.get?_insert_of_ne _ _ other])
  exact ⟨d', c', rest, scans, made, passes⟩

/-- A scan is applied. -/
theorem Neglects.applyScan (neglects : Neglects p file d c) (listens : Listens d c)
    (apart : d.Apart) (applying : c.point = .applying found)
    (here : (d.applyScan c found).coordinator = some c')
    (still : Still p d (d.applyScan c found)) : Neglects p file (d.applyScan c found) c' := by
  obtain ⟨d', c'', rest, scans, made, passes⟩ := applyScan_passes apart c found p
  rw [made] at here still ⊢
  cases here
  obtain ⟨_, leaves⟩ := scans.spares.andThen (f := d'.putCoordinator _) rfl rfl
  obtain ⟨_, members⟩ := Coordinator.ids_eq_iff.1 scans.ids
  refine neglects.frame listens leaves List.not_mem_nil scans.settings still
    CoordinatorPoint.noConfusion members fun s rests => ?_
  have same := rests.applying found applying
  obtain ⟨unwatched, known⟩ := passes rests.unwatched (rests.known.trans same.symm)
  exact ⟨unwatched, known.trans same, fun _ => CoordinatorPoint.noConfusion⟩

/-! ## Runs -/

/-- An object that is forsaken is neglected. -/
theorem Run.neglects {s : DaemonSettings} {startedAt : Timestamp} {past : List Daemon}
    (run : Run (Daemon.new s startedAt).startCoordinator past d) (named : NamedIn past p file)
    (forsaken : Forsaken p past) (here : d.coordinator = some c) : Neglects p file d c := by
  induction run generalizing c with
  | start => cases forsaken
  | @step past d e before step stays isOpen _ ih =>
    obtain ⟨earlier, rfl⟩ := before.head
    rcases forsaken with overlooks | ⟨forsaken, still⟩
    · exact overlooks.neglects here (named e (List.mem_cons_self ..))
    have steady := before.steady
    have ih {c : Coordinator} (here : d.coordinator = some c) : Neglects p file d c :=
      ih (fun s member => named s (List.mem_cons_of_mem _ member)) forsaken here
    rcases step.cases steady stays isOpen with
      ⟨a, notCoordinator, _, bystands, _⟩ | ⟨files, rfl⟩ | ⟨id, w, w', there, _, _, turns⟩ |
        ⟨c', here', moves⟩
    · have there := bystands.coordinator.symm.trans here
      have listens := before.listens there
      obtain ⟨_, leaves⟩ := bystands.spares
      exact (ih there).others listens leaves
        (listens.others steady.apart there notCoordinator (ih there).begun) bystands.settings still
    · exact (ih here).others (before.listens here) (leaves_of_bus rfl rfl) List.not_mem_nil rfl
        still
    · have coordinator := turns.coordinator.symm.trans here
      have listens := before.listens coordinator
      obtain ⟨_, leaves⟩ := turns.spares
      refine (ih coordinator).others listens leaves ?_ turns.settings still
      rw [← owned_watcher there]
      exact listens.others steady.apart coordinator Actor.noConfusion (ih coordinator).begun
    · have listens := before.listens here'
      rcases moves with ⟨c'', move, directs⟩ | ⟨found, applying, rfl⟩
      · cases directs.coordinator.symm.trans here
        exact (ih here').moves listens move directs
          (named d (List.mem_cons_of_mem _ before.mem)) still
      · exact (ih here').applyScan listens steady.apart applying here still

/-- No watcher of an object that is forsaken lives, unless the coordinator missed an
announcement. -/
theorem Run.done_of_forsaken {s : DaemonSettings} {startedAt : Timestamp} {past : List Daemon}
    (run : Run (Daemon.new s startedAt).startCoordinator past d) (named : NamedIn past p file)
    (forsaken : Forsaken p past) (missed : ∀ s ∈ d.bus.subscribers, s.dropped = 0)
    {id : WorkerId} {w : Watcher} (there : d.watchers.get? id = some w) (path : w.path = p) :
    w.point = .done := by
  obtain ⟨c, here, _⟩ := run.steady.coordinator
  have neglects := run.neglects named forsaken here
  obtain ⟨_, t, found, _⟩ := run.listens here neglects.begun
  have rests := neglects.rests t found (missed t (List.mem_of_find?_eq_some found))
  by_cases ended : w.point = .done
  · exact ended
  · have known := (run.roster here).live id w there ended
    rw [path, rests.unwatched] at known
    cases known

end ClusterNode.Daemon
