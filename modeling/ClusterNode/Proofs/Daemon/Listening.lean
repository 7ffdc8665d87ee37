import ClusterNode.Proofs.Daemon.Membership
import ClusterNode.Proofs.Daemon.Run

/-!
# What the coordinator hears of the membership

Once it has begun, the coordinator is subscribed to the announcements of the membership,
and stays so as long as the node does not go down: `Daemon.Listens`. A step that leaves
nothing to take announced nothing, `still_of_current`.
-/

namespace ClusterNode.Daemon

/-- A coordinator that has begun is subscribed to the announcements of the membership, apart
from its other subscription. -/
def Listens (d : Daemon) (c : Coordinator) : Prop :=
  c.point ≠ .starting → c.members ≠ c.configs ∧
    ∃ s, d.bus.find? c.members = some s ∧ s.IsFor .clusterConfigUpdated [.node d.localhost]

/-- From one state to the next neither a file of an object changed nor the membership, as far
as it is announced. -/
def Still (p : ObjectPath) (d e : Daemon) : Prop :=
  (∀ file, ConfigDirectory.objectOf? file = some p →
    e.configDirectory.read? file = d.configDirectory.read? file) ∧
  e.announcements = d.announcements

instance (p : ObjectPath) (d e : Daemon) : Decidable (Still p d e) :=
  decidable_of_iff
    ((∀ file ∈ d.configDirectory.files.keys ++ e.configDirectory.files.keys,
      ConfigDirectory.objectOf? file = some p →
        e.configDirectory.read? file = d.configDirectory.read? file) ∧
      e.announcements = d.announcements) <| by
    refine and_congr_left fun _ => ⟨fun all file object => ?_, fun all file _ => all file⟩
    by_cases listed : file ∈ d.configDirectory.files.keys ++ e.configDirectory.files.keys
    · exact all file listed object
    · simp only [List.mem_append, SortedMap.mem_keys_iff, not_or, not_exists] at listed
      have before : d.configDirectory.read? file = none :=
        Option.eq_none_iff_forall_ne_some.2 listed.1
      rw [before]
      exact Option.eq_none_iff_forall_ne_some.2 listed.2

variable {d e : Daemon} {c c' : Coordinator} {own : List Nat} {news : List Publication}
  {p : ObjectPath}

/-- What was still twice was still. -/
theorem Still.trans {f : Daemon} (first : Still p d e) (second : Still p e f) : Still p d f :=
  ⟨fun file object => (second.1 file object).trans (first.1 file object),
    second.2.trans first.2⟩

/-- Where a subscriber of the membership has nothing to take nothing was announced. -/
theorem still_of_current {s t : Subscriber} (leaves : Leaves own news d e)
    (settings : e.settings = d.settings) (directory : e.configDirectory = d.configDirectory)
    (isFor : s.IsFor .clusterConfigUpdated [.node d.localhost]) (hears : s.Hears t news)
    (current : t.Current) : Still p d e := by
  refine ⟨fun file _ => by rw [directory], ?_⟩
  rw [leaves.announcements settings isFor, (hears.current current).2, List.append_nil]

/-- The subscription of the coordinator when others act. -/
theorem Listens.frame (listens : Listens d c) (begun : c.point ≠ .starting)
    (leaves : Leaves own news d e) (other : c.members ∉ own) (settings : e.settings = d.settings) :
    ∃ s t, d.bus.find? c.members = some s ∧ e.bus.find? c.members = some t ∧ s.Hears t news ∧
      s.IsFor .clusterConfigUpdated [.node d.localhost] ∧
      t.IsFor .clusterConfigUpdated [.node e.localhost] := by
  obtain ⟨_, s, found, isFor⟩ := listens begun
  obtain ⟨t, now, hears⟩ := leaves.hears _ s found other
  have localhost : e.localhost = d.localhost := congrArg DaemonSettings.localhost settings
  exact ⟨s, t, found, now, hears, isFor, localhost ▸ isFor.hears hears⟩

/-- A coordinator that keeps its subscriptions listens on when others act. -/
theorem Listens.leaves (listens : Listens d c) (leaves : Leaves own news d e)
    (other : c.point ≠ .starting → c.members ∉ own) (settings : e.settings = d.settings)
    (ids : c'.ids = c.ids) (begun : c'.point ≠ .starting → c.point ≠ .starting) :
    Listens e c' := by
  intro begun'
  have begun := begun begun'
  obtain ⟨configs, members⟩ := Coordinator.ids_eq_iff.1 ids
  obtain ⟨s, t, _, now, _, _, isFor⟩ := listens.frame begun leaves (other begun) settings
  rw [configs, members]
  exact ⟨(listens begun).1, t, now, isFor⟩

/-- Configurations come to the coordinator under another number. -/
theorem Listens.apart (listens : Listens d c) (begun : c.point ≠ .starting) :
    c.members ∉ [c.configs] := by
  intro mine
  exact (listens begun).1 (List.mem_singleton.1 mine)

/-- No other actor has the subscription of the coordinator. -/
theorem Listens.others (listens : Listens d c) (apart : d.Apart) (here : d.coordinator = some c)
    {a : Actor} (different : a ≠ .coordinator) (begun : c.point ≠ .starting) :
    c.members ∉ d.owned a := by
  obtain ⟨_, s, found, _⟩ := listens begun
  exact apart.coordinator here different c.members (by simp [Coordinator.ids]) s found

/-! ## Steps -/

/-- What the coordinator does apart from scans. -/
theorem Listens.moves (listens : Listens d c) (move : CoordinatorMove d c c' e)
    (directs : Directs c c' d e) : Listens e c' := by
  have localhost : e.localhost = d.localhost :=
    congrArg DaemonSettings.localhost directs.settings
  cases move with
  | begin _ _ _ _ _ apart new _ => exact fun _ => ⟨apart, _, new, rfl, by rw [localhost]⟩
  | forget _ _ _ _ spares =>
    obtain ⟨_, leaves⟩ := spares
    exact listens.leaves leaves (fun _ => List.not_mem_nil) directs.settings rfl id
  | retry idle received _ spares =>
    obtain ⟨_, leaves⟩ := spares
    obtain ⟨_, _, made⟩ := Option.map_eq_some_iff.1 received
    cases made
    intro begun
    obtain ⟨apart, s, found, isFor⟩ := listens begun
    obtain ⟨t, there, hears⟩ :=
      leaves.hears _ _ (Bus.find?_take_self d.bus found) List.not_mem_nil
    refine ⟨apart, t, there, ?_⟩
    rw [localhost]
    exact Subscriber.IsFor.hears (s := { s with queue := s.queue.tail }) isFor hears
  | look scanning _ _ spares =>
    obtain ⟨_, leaves⟩ := spares
    refine listens.leaves leaves (fun _ => List.not_mem_nil) directs.settings rfl fun _ => ?_
    rw [scanning]
    exact CoordinatorPoint.noConfusion
  | proceed begun _ _ ids _ _ spares =>
    obtain ⟨_, leaves⟩ := spares
    exact listens.leaves leaves listens.apart directs.settings ids fun _ => begun

/-- What a part of a scan that is applied leaves. -/
theorem Listens.scans (listens : Listens d c) (scans : Scans d e c c')
    (begun : c.point ≠ .starting) : Listens e c' := by
  obtain ⟨_, leaves⟩ := scans.spares
  exact listens.leaves leaves (fun _ => List.not_mem_nil) scans.settings scans.ids fun _ => begun

/-! ## Runs -/

/-- The coordinator listens in every state of a run. -/
theorem Run.listens {s : DaemonSettings} {startedAt : Timestamp} {past : List Daemon}
    (run : Run (Daemon.new s startedAt).startCoordinator past d)
    (here : d.coordinator = some c) : Listens d c := by
  induction run generalizing c with
  | start =>
    cases here
    exact fun begun => absurd rfl begun
  | step before step stays isOpen _ ih =>
    have steady := before.steady
    rcases step.cases steady stays isOpen with
      ⟨a, notCoordinator, _, bystands, _⟩ | ⟨files, rfl⟩ | ⟨id, w, w', there, _, _, turns⟩ |
        ⟨c', here', moves⟩
    · have there := bystands.coordinator.symm.trans here
      obtain ⟨_, leaves⟩ := bystands.spares
      exact (ih there).leaves leaves ((ih there).others steady.apart there notCoordinator)
        bystands.settings rfl id
    · exact ih here
    · have coordinator := turns.coordinator.symm.trans here
      obtain ⟨_, leaves⟩ := turns.spares
      refine (ih coordinator).leaves leaves ?_ turns.settings rfl fun begun => begun
      rw [← owned_watcher there]
      exact (ih coordinator).others steady.apart coordinator Actor.noConfusion
    · rcases moves with ⟨c'', move, directs⟩ | ⟨found, applying, rfl⟩
      · cases directs.coordinator.symm.trans here
        exact (ih here').moves move directs
      · have begun : c'.point ≠ .starting := by
          rw [applying]
          exact CoordinatorPoint.noConfusion
        obtain ⟨d', c'', rest, _, scans, _, made⟩ := applyScan_induction steady.apart c' found
          (motive := fun _ _ => True) trivial fun _ _ _ _ _ _ _ _ _ => trivial
        rw [made] at here ⊢
        cases here
        obtain ⟨_, leaves⟩ := scans.spares.andThen (f := d'.putCoordinator _) rfl rfl
        exact (ih here').leaves leaves (fun _ => List.not_mem_nil) scans.settings scans.ids
          fun _ => begun

end ClusterNode.Daemon
