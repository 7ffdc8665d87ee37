import ClusterNode.Proofs.Daemon.WatcherMoves

/-!
# What a node is told of the membership

The membership is a part of the store, and the actors learn of it by events. A node is
`Announced` when the events published so far end with the membership that the store has;
then a subscriber that missed nothing knows the membership, once it has taken everything.

That a store announces every change of its membership is not claimed here.
-/

namespace ClusterNode

namespace Subscriber

/-- A subscriber of the changes of the own membership, before it heard anything. -/
def ofMembership (localhost : String) : Subscriber :=
  ⟨0, .clusterConfigUpdated, [.node localhost], [], 0⟩

/-- Whether a subscriber gets the events of a kind and a filter. -/
def IsFor (s : Subscriber) (kind : EventKind) (filter : List Label) : Prop :=
  s.kind = kind ∧ s.filter = filter

/-- A subscriber that missed nothing and has nothing to take. -/
def Current (s : Subscriber) : Prop := s.dropped = 0 ∧ s.queue = []

variable {s t : Subscriber} {news : List Publication} {kind : EventKind} {filter : List Label}

/-- A subscriber that hears something gets events of the same kind and filter as before. -/
theorem IsFor.hears (isFor : s.IsFor kind filter) (hears : s.Hears t news) :
    t.IsFor kind filter :=
  ⟨hears.kind.trans isFor.1, hears.filter.trans isFor.2⟩

/-- What a subscriber hears depends on what it is for. -/
theorem IsFor.heard (isFor : s.IsFor kind filter) (other : t.IsFor kind filter)
    (news : List Publication) : s.heard news = t.heard news := by
  simp only [Subscriber.heard, accepts, isFor.1, isFor.2, other.1, other.2]

/-- Who has nothing to take heard nothing, and had nothing to take. -/
theorem Hears.current (hears : s.Hears t news) (current : t.Current) :
    s.Current ∧ s.heard news = [] := by
  have missed : s.dropped = 0 := Nat.le_zero.1 (current.1 ▸ hears.dropped)
  have queue := hears.queue current.1
  rw [current.2, eq_comm, List.append_eq_nil_iff] at queue
  exact ⟨⟨missed, queue.1⟩, queue.2⟩

/-- What a subscriber hears is of its kind. -/
theorem IsFor.kind_of_heard (isFor : s.IsFor kind filter) {event : Event}
    (heard : event ∈ s.heard news) : event.kind = kind := by
  simp only [Subscriber.heard, List.mem_map, List.mem_filter] at heard
  obtain ⟨p, ⟨_, accepted⟩, rfl⟩ := heard
  simp only [accepts, Bool.and_eq_true, beq_iff_eq] at accepted
  rw [← accepted.1, isFor.1]

end Subscriber

/-- The last of some announcements tells the members, whatever was known before. -/
theorem foldl_members_of_announcements {l : List Event} (some : l ≠ [])
    (all : ∀ event ∈ l, event.kind = .clusterConfigUpdated) (a b : List String) :
    l.foldl Event.members a = l.foldl Event.members b := by
  cases l with
  | nil => exact absurd rfl some
  | cons event l =>
    have first : event.members a = event.members b := by
      have kind := all event (List.mem_cons_self ..)
      cases event
      case clusterConfigUpdated => rfl
      all_goals cases kind
    rw [List.foldl_cons, List.foldl_cons, first]

namespace Daemon

/-- The changes of the own membership that were announced, the earliest first. -/
def announcements (d : Daemon) : List Event :=
  (Subscriber.ofMembership d.localhost).heard d.published.reverse

/-- The announcements end with the membership that the store has. -/
def Announced (d : Daemon) : Prop :=
  d.announcements.foldl Event.members d.settings.cluster.nodes = d.replica.members

instance (d : Daemon) : Decidable d.Announced := inferInstanceAs (Decidable (_ = _))

/-- A subscriber that missed nothing will know the membership, when it has taken what it
has; it knows something already. -/
def Informs (d : Daemon) (s : Subscriber) (known : List String) : Prop :=
  s.dropped = 0 → s.queue.foldl Event.members known = d.replica.members

variable {d e : Daemon} {own : List Nat} {news : List Publication} {s t : Subscriber}

/-- What was announced is what a subscriber of the membership heard. -/
theorem Leaves.announcements (leaves : Leaves own news d e) (settings : e.settings = d.settings)
    (isFor : s.IsFor .clusterConfigUpdated [.node d.localhost]) :
    e.announcements = d.announcements ++ s.heard news := by
  have localhost : e.localhost = d.localhost := congrArg DaemonSettings.localhost settings
  have same : s.heard news = (Subscriber.ofMembership d.localhost).heard news :=
    isFor.heard ⟨rfl, rfl⟩ news
  unfold Daemon.announcements
  rw [localhost, leaves.published, List.reverse_append, List.reverse_reverse,
    Subscriber.heard_append, same]

/-- What was published since tells the membership of now to whom knows the one of then. -/
theorem Announced.heard (before : d.Announced) (after : e.Announced)
    (settings : e.settings = d.settings) (leaves : Leaves own news d e)
    (isFor : s.IsFor .clusterConfigUpdated [.node d.localhost]) :
    (s.heard news).foldl Event.members d.replica.members = e.replica.members := by
  rw [← before, ← after, settings, leaves.announcements settings isFor, List.foldl_append]

/-- Where a subscriber has nothing to take the membership did not change. -/
theorem Announced.members_of_current (before : d.Announced) (after : e.Announced)
    (settings : e.settings = d.settings) (leaves : Leaves own news d e)
    (isFor : s.IsFor .clusterConfigUpdated [.node d.localhost]) (hears : s.Hears t news)
    (current : t.Current) : e.replica.members = d.replica.members := by
  rw [← before.heard after settings leaves isFor, (hears.current current).2]
  rfl

/-- Who takes nothing stays informed. -/
theorem Informs.hears {known : List String} (informs : d.Informs s known) (before : d.Announced)
    (after : e.Announced) (settings : e.settings = d.settings) (leaves : Leaves own news d e)
    (isFor : s.IsFor .clusterConfigUpdated [.node d.localhost]) (hears : s.Hears t news) :
    e.Informs t known := by
  intro missed
  have missed' : s.dropped = 0 := Nat.le_zero.1 (missed ▸ hears.dropped)
  rw [hears.queue missed, List.foldl_append, informs missed']
  exact before.heard after settings leaves isFor

/-- Who has not asked for the membership yet, and takes nothing, will be informed. -/
theorem Informs.hears_members (informs : d.Informs s d.replica.members) (before : d.Announced)
    (after : e.Announced) (settings : e.settings = d.settings) (leaves : Leaves own news d e)
    (isFor : s.IsFor .clusterConfigUpdated [.node d.localhost]) (hears : s.Hears t news) :
    e.Informs t e.replica.members := by
  intro missed
  have missed' : s.dropped = 0 := Nat.le_zero.1 (missed ▸ hears.dropped)
  have told := before.heard after settings leaves isFor
  rw [hears.queue missed, List.foldl_append]
  by_cases silent : s.heard news = []
  · rw [silent] at told ⊢
    have same : d.replica.members = e.replica.members := told
    rw [← same]
    exact informs missed'
  · rw [← told]
    exact foldl_members_of_announcements silent (fun _ => isFor.kind_of_heard) _ _

/-- Events of other kinds leave a node announced. -/
theorem Announced.publishAll (announced : d.Announced) {ps : List Publication}
    (others : ∀ p ∈ ps, p.event.kind ≠ .clusterConfigUpdated) :
    (d.publishAll ps).Announced := by
  have silent : (Subscriber.ofMembership d.localhost).heard ps = [] := by
    rw [Subscriber.heard, List.map_eq_nil_iff, List.filter_eq_nil_iff]
    intro p member accepted
    simp only [Subscriber.accepts, Bool.and_eq_true, beq_iff_eq] at accepted
    exact others p member accepted.1.symm
  have leaves : Leaves [] ps d (d.publishAll ps) := leaves_publishAll ps
  have settings : (d.publishAll ps).settings = d.settings := by rw [publishAll_eq]
  have replica : (d.publishAll ps).replica = d.replica := by rw [publishAll_eq]
  unfold Announced
  have isFor : (Subscriber.ofMembership d.localhost).IsFor .clusterConfigUpdated
      [.node d.localhost] := ⟨rfl, rfl⟩
  rw [leaves.announcements settings isFor, silent, List.append_nil, settings, replica]
  exact announced

end Daemon

end ClusterNode
