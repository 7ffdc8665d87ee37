import ClusterNode.Proofs.Daemon.Upkeep

/-!
# Aggregates without a configuration

An aggregator takes up the nodes of a scope, and a node that it hears of, without looking
whether they configure the object; it gives a node up when it hears that its configuration was
deleted. So a node that it takes up when it has no configuration, and of which no deletion is to
be heard any more, is `Adopted`: nothing makes the aggregator give it up until a configuration
of it is deleted.

`Life.configured_or_adopted` says that, when nothing is left to do, the store has an aggregate of
an object that no node configures exactly if an aggregator has adopted some node. That such an
aggregate can stay is a fault. A node that the scope names may never configure the object, as in
`orphan_of_unconfigured`; and a configuration may be gone before the aggregator subscribes, as in
`orphan_of_late`.
-/

namespace ClusterNode

/-- Whether an event tells that the configuration of an instance was deleted. -/
def Event.Unconfigures (e : Event) (key node : String) : Prop :=
  Facet.config.now key node e = some none

instance (e : Event) (key node : String) : Decidable (e.Unconfigures key node) :=
  inferInstanceAs (Decidable (_ = _))

namespace Daemon

/-- An aggregator of an object is about to read a node that has no configuration of it, and
has not heard that one was deleted. -/
def Adopts (d : Daemon) (key : String) (id : WorkerId) (node : String) : Prop :=
  (∃ a ∈ d.aggregators.get? id, a.path.toString = key) ∧
    (d.records node key).config = none ∧
    ∀ event ∈ d.waitingFor id .configDeleted, ¬ event.Unconfigures key node

instance (d : Daemon) (key : String) (id : WorkerId) (node : String) :
    Decidable (d.Adopts key id node) :=
  inferInstanceAs (Decidable (_ ∧ _ ∧ ∀ _ ∈ _, _))

/-- An aggregator took up a node that has no configuration of its object, when it read the
node last, and none was deleted since; the states of the life are given, latest first. -/
def Adopted (key : String) (id : WorkerId) (node : String) : List Daemon → Prop
  | [] => False
  | e :: past =>
    if e.reads? id = some node then e.Adopts key id node
    else Adopted key id node past ∧ ∀ q ∈ newsSince past e, ¬ q.event.Unconfigures key node

/-- Whether a node is adopted can be tested step by step. -/
def decideAdopted (key : String) (id : WorkerId) (node : String) :
    (past : List Daemon) → Decidable (Adopted key id node past)
  | [] => .isFalse fun adopted => adopted
  | e :: past =>
    have := decideAdopted key id node past
    inferInstanceAs (Decidable (if e.reads? id = some node then _ else _ ∧ ∀ _ ∈ _, _))

instance (key : String) (id : WorkerId) (node : String) (past : List Daemon) :
    Decidable (Adopted key id node past) :=
  decideAdopted key id node past

/-- An aggregator of an object knows of nodes only that configure it, that it will give up,
or that it has adopted. -/
def Justified (key : String) (past : List Daemon) (d : Daemon) : Prop :=
  ∀ id a, d.aggregators.get? id = some a → a.path.toString = key → a.point.follows = true →
    ∀ node, a.status.contains node = true → (d.records node key).config ≠ none ∨
      (∃ event ∈ d.waiting a .configDeleted, event.Unconfigures key node) ∨
      Adopted key id node past

/-- An aggregator that has adopted a node knows of it, and will not give it up. -/
def Holds (key : String) (past : List Daemon) (d : Daemon) : Prop :=
  ∀ id node, Adopted key id node past → ∃ a, d.aggregators.get? id = some a ∧
    a.path.toString = key ∧ a.point.follows = true ∧
    (∀ event ∈ d.waiting a .configDeleted, ¬ event.Unconfigures key node) ∧
    (a.point.reads? = some node ∨ a.status.contains node = true)

variable {s : DaemonSettings} {startedAt : Timestamp} {d e : Daemon} {past before : List Daemon}
  {c : Coordinator} {id : WorkerId} {a b : Aggregator} {news : List Publication}
  {key node : String} {event : Event}

/-! ## Single steps -/

/-- An event that is no record's deletes no configuration. -/
theorem not_unconfigures_of_mute (mute : event.change? = none) : ¬ event.Unconfigures key node := by
  intro tells
  obtain ⟨c, told, _⟩ := Facet.now_eq_some_iff.1 tells
  rw [mute] at told
  cases told

/-- A node that is adopted stays so while no configuration of it is deleted. -/
theorem Adopted.carry (adopted : Adopted key id node (d :: before)) (turn : Turn news d e)
    (reads : e.reads? id ≠ some node) (kept : ∀ q ∈ news, ¬ q.event.Unconfigures key node) :
    Adopted key id node (e :: d :: before) := by
  rw [Adopted, if_neg reads, turn.newsSince]
  exact ⟨adopted, fun q new => kept q (List.mem_reverse.1 new)⟩

/-- A configuration that is gone was told of as deleted. -/
theorem exists_unconfigures (tells : d.records.Tells news e.records)
    (held : (d.records node key).config ≠ none) (gone : (e.records node key).config = none) :
    ∃ q ∈ news, q.event.Unconfigures key node := by
  have changed : Facet.config.get (e.records node key) ≠ Facet.config.get (d.records node key) := by
    change (e.records node key).config ≠ (d.records node key).config
    rw [gone]
    exact Ne.symm held
  obtain ⟨q, new, said⟩ := Facet.exists_now_of_ne tells changed
  exact ⟨q, new, said.trans (congrArg some (show Facet.config.get _ = _ from gone))⟩

/-- Who heeds an event gives up the node whose configuration it says is deleted, and takes up
no other one. -/
theorem contains_of_heed (tracked : (a.heed event).status.contains node = true) :
    a.status.contains node = true ∧ ∀ p, event ≠ .configDeleted p node := by
  unfold Aggregator.heed at tracked
  split at tracked
  · rename_i p gone
    split at tracked
    · dsimp only at tracked
      rw [SortedMap.contains_erase, Bool.and_eq_true, Bool.not_eq_true',
        decide_eq_false_iff_not] at tracked
      refine ⟨tracked.2, fun q same => tracked.1 ?_⟩
      cases same
      rfl
    · rename_i absent
      refine ⟨tracked, fun q same => absent ?_⟩
      cases same
      exact tracked
  · split at tracked <;> exact ⟨tracked, fun _ => Event.noConfusion⟩
  · rename_i p updated value
    split at tracked
    · rename_i there
      dsimp only at tracked
      rw [SortedMap.contains_insert, Bool.or_eq_true, decide_eq_true_eq] at tracked
      refine ⟨tracked.elim (fun same => ?_) id, fun _ => Event.noConfusion⟩
      rw [same]
      exact there
    · exact ⟨tracked, fun _ => Event.noConfusion⟩
  · split at tracked <;> exact ⟨tracked, fun _ => Event.noConfusion⟩
  · rename_i other _ _ _
    exact ⟨tracked, fun p same => other p node same⟩

/-- Who knows of a node that it does not give up follows its object on. -/
theorem follows_of_heed (runs : a.point = .running) (tracked : a.status.contains node = true)
    (other : ∀ p, event ≠ .configDeleted p node) :
    (a.heed event).point.follows = true ∧ (a.heed event).status.contains node = true := by
  have same : a.point.follows = true ∧ a.status.contains node = true := ⟨by rw [runs]; rfl, tracked⟩
  unfold Aggregator.heed
  split
  · rename_i p gone
    have different : node ≠ gone := fun same => other p (by rw [same])
    split
    · have left : (a.status.erase gone).contains node = true := by
        rw [SortedMap.contains_erase, tracked]
        simp [different]
      dsimp only
      rw [SortedMap.isEmpty_eq_false_iff.2 ⟨node, left⟩]
      exact ⟨rfl, left⟩
    · exact same
  · split
    · exact same
    · exact ⟨rfl, tracked⟩
  · split
    · refine ⟨rfl, ?_⟩
      dsimp only
      rw [SortedMap.contains_insert, tracked, Bool.or_true]
    · exact same
  · split
    · exact ⟨rfl, tracked⟩
    · exact same
  · exact same

/-- A node that an aggregator is about to read configures the object, or will be given up, or is
adopted. -/
theorem justified_of_reads (there : d.aggregators.get? id = some a) (path : a.path.toString = key)
    (reads : d.reads? id = some node) : (d.records node key).config ≠ none ∨
      (∃ event ∈ d.waiting a .configDeleted, event.Unconfigures key node) ∨
      Adopted key id node (d :: before) := by
  by_cases held : (d.records node key).config = none
  · by_cases pending : ∃ event ∈ d.waiting a .configDeleted, event.Unconfigures key node
    · exact .inr (.inl pending)
    · rw [Adopted, if_pos reads]
      refine .inr (.inr ⟨⟨a, there, path⟩, held, fun event waits tells => pending ⟨event, ?_, tells⟩⟩)
      rwa [waitingFor_of_get? there] at waits
  · exact .inl held

/-- Whatever happens next, an aggregator goes on to know of justified nodes only. -/
theorem Justified.turn (justified : Justified key (d :: before) d) (turn : Turn news d e)
    (tidy : d.Tidy) (complete : e.Complete) (fit : d.AllFit) : Justified key (e :: d :: before) e := by
  intro id a there path follows node tracked
  by_cases reads : e.reads? id = some node
  · exact justified_of_reads there path reads
  -- The aggregator knew of the node before, and only it stepped.
  have quietly {b : Aggregator} (mute : ∀ p ∈ news, p.event.change? = none)
      (was : (d.records node key).config ≠ none ∨
        (∃ event ∈ d.waiting b .configDeleted, event.Unconfigures key node) ∨
        Adopted key id node (d :: before))
      (waits : ∀ event ∈ d.waiting b .configDeleted, event.Unconfigures key node →
        event ∈ e.waiting a .configDeleted) :
      (e.records node key).config ≠ none ∨
        (∃ event ∈ e.waiting a .configDeleted, event.Unconfigures key node) ∨
        Adopted key id node (e :: d :: before) := by
    rcases was with held | ⟨event, pending, tells⟩ | adopted
    · rw [turn.reports.records_of_mute mute]
      exact .inl held
    · exact .inr (.inl ⟨event, waits event pending tells, tells⟩)
    · exact .inr (.inr (adopted.carry turn reads fun q new => not_unconfigures_of_mute (mute q new)))
  cases (turn.fit tidy complete fit there).2 follows with
  | subscribed _ _ status =>
    rw [status] at tracked
    cases tracked
  | @read b read here reading same waits mute =>
    have path' : b.path.toString = key := by rw [← path, same]; rfl
    have status : a.status.contains node = (decide (node = read) || b.status.contains node) := by
      rw [same]
      exact SortedMap.contains_insert ..
    by_cases this : node = read
    · subst this
      exact quietly mute (justified_of_reads here path' ((reads?_of_get? here).trans reading))
        fun event pending _ => by rw [waits]; exact pending
    · have tracked : b.status.contains node = true := by simpa [status, this] using tracked
      exact quietly mute (justified id b here path' (AggregatorPoint.follows_of_reads reading) node
        tracked) fun event pending _ => by rw [waits]; exact pending
  | @heeded b kind event here runs same followed first others mute =>
    rw [same] at tracked path
    obtain ⟨tracked, other⟩ := contains_of_heed tracked
    rw [(heed_keeps b event runs).1] at path
    refine quietly mute (justified id b here path (by rw [runs]; rfl) node tracked) ?_
    intro event' pending tells
    by_cases mine : kind = .configDeleted
    · subst mine
      rw [first] at pending
      refine (List.mem_cons.1 pending).resolve_left fun is => ?_
      obtain ⟨p, _, is'⟩ := Facet.config_now_eq_some_iff.1 tells
      exact other p (is ▸ is')
    · rw [others _ rfl (Ne.symm mine)]
      exact pending
  | @went b here followed _ same waits mute =>
    rw [same] at tracked path
    exact quietly mute (justified id b here path followed node tracked) fun event pending _ => by
      rw [waits _ rfl]
      exact pending
  | heard here waits =>
    rw [waits _ rfl]
    have told (tells : ∃ q ∈ news, q.event.Unconfigures key node) :
        ∃ event ∈ d.waiting a .configDeleted ++ eventsFor .configDeleted a.path news,
          event.Unconfigures key node := by
      obtain ⟨q, new, tells⟩ := tells
      subst path
      exact ⟨q.event, List.mem_append_right _
        (Facet.mem_eventsFor none turn.reports.tells new tells), tells⟩
    rcases justified id a here path follows node tracked with held | ⟨event, pending, tells⟩ | adopted
    · by_cases gone : (e.records node key).config = none
      · exact .inr (.inl (told (exists_unconfigures turn.reports.tells held gone)))
      · exact .inl gone
    · exact .inr (.inl ⟨event, List.mem_append_left _ pending, tells⟩)
    · by_cases kept : ∃ q ∈ news, q.event.Unconfigures key node
      · exact .inr (.inl (told kept))
      · exact .inr (.inr (adopted.carry turn reads fun q new tells => kept ⟨q, new, tells⟩))

/-- An aggregator that will not give up a node goes on to follow its object. -/
theorem AggregatorMove.follows (move : AggregatorMove d b a e) (fit : d.Fit b)
    (followed : b.point.follows = true) (kept : b.point.reads? = some node ∨
      b.status.contains node = true)
    (other : ∀ event, (∃ kind, kind.isFollowed = true ∧ event ∈ d.waiting b kind) →
      ∀ p, event ≠ .configDeleted p node) : a.point.follows = true := by
  cases move with
  | subscribe | track | begin | publish | join => rfl
  | leave point | drain point | finish point =>
    rw [point] at followed
    cases followed
  | exit _ commands | refresh _ commands =>
    rw [fit.mailbox] at commands
    cases commands
  | abandon point none =>
    rw [point] at kept
    have tracked := kept.resolve_left fun reads => nomatch reads
    rw [SortedMap.isEmpty_eq_false_iff.2 ⟨node, tracked⟩] at none
    cases none
  | heed runs mine next =>
    rw [runs] at kept
    have tracked := kept.resolve_left fun reads => nomatch reads
    obtain ⟨kind, rfl⟩ := AggregatorSubscriptions.mem_kinds_iff.1 mine
    exact (follows_of_heed runs tracked (other _ ⟨_, kind, List.mem_of_mem_head? next⟩)).1

/-- Whatever happens next, an aggregator goes on to hold the nodes that it has adopted. -/
theorem Holds.turn (holds : Holds key (d :: before) d) (turn : Turn news d e)
    (tidy : d.Tidy) (complete : e.Complete) (fit : d.AllFit) : Holds key (e :: d :: before) e := by
  intro id node adopted
  rw [Adopted] at adopted
  split at adopted
  · rename_i reads
    obtain ⟨⟨a, there, path⟩, _, none⟩ := adopted
    rw [reads?_of_get? there] at reads
    rw [waitingFor_of_get? there] at none
    exact ⟨a, there, path, AggregatorPoint.follows_of_reads reads, none, .inl reads⟩
  obtain ⟨adopted, kept⟩ := adopted
  rw [turn.newsSince] at kept
  obtain ⟨b, here, path, followed, none, known⟩ := holds id node adopted
  obtain ⟨a, there, became⟩ := turn.persists tidy here
  -- What waits as a deletion is about the object, so that none is of this node.
  have other (event : Event) (waits : ∃ kind, kind.isFollowed = true ∧ event ∈ d.waiting b kind)
      (p : ObjectPath) : event ≠ .configDeleted p node := by
    rintro rfl
    obtain ⟨kind, is, waits⟩ := waits
    obtain ⟨rfl, c, told, about⟩ := ((fit id b here).wired followed).about is _ waits
    cases told
    exact none _ waits (Facet.config_now_eq_some_iff.2 ⟨p, about.trans path, rfl⟩)
  have path' : a.path.toString = key := by
    rcases became with rfl | ⟨_, frame⟩
    · exact path
    · rw [frame.path]
      exact path
  have follows : a.point.follows = true := by
    rcases became with rfl | ⟨move, _⟩
    · exact followed
    · exact move.follows (fit id b here) followed known other
  refine ⟨a, there, path', follows, ?_⟩
  cases (turn.fit tidy complete fit there).2 follows with
  | subscribed here' starting =>
    cases here.symm.trans here'
    rw [starting] at followed
    cases followed
  | @read b' read here' reading same waits mute =>
    cases here.symm.trans here'
    refine ⟨by rw [waits]; exact none, .inr ?_⟩
    have status : a.status.contains node = (decide (node = read) || b.status.contains node) := by
      rw [same]
      exact SortedMap.contains_insert ..
    rw [status, Bool.or_eq_true, decide_eq_true_eq]
    refine known.imp_left fun reads => ?_
    rw [reading] at reads
    cases reads
    rfl
  | @heeded b' kind event here' runs same followed' first others mute =>
    cases here.symm.trans here'
    constructor
    · intro event' waits
      by_cases mine : kind = .configDeleted
      · subst mine
        exact none event' (by rw [first]; exact List.mem_cons_of_mem _ waits)
      · exact none event' (by rw [← others _ rfl (Ne.symm mine)]; exact waits)
    · rw [runs] at known
      have tracked := known.resolve_left fun reads => nomatch reads
      rw [same]
      exact .inr (follows_of_heed runs tracked (other event
        ⟨kind, followed', by rw [first]; exact List.mem_cons_self ..⟩)).2
  | @went b' here' _ reads same waits mute =>
    cases here.symm.trans here'
    rw [reads] at known
    have tracked := known.resolve_left fun reads => nomatch reads
    refine ⟨by rw [waits _ rfl]; exact none, .inr ?_⟩
    rw [same]
    exact tracked
  | heard here' waits =>
    cases here.symm.trans here'
    refine ⟨fun event pending tells => ?_, known⟩
    rw [waits _ rfl, List.mem_append] at pending
    rcases pending with before | heard
    · exact none event before tells
    · obtain ⟨q, new, rfl⟩ := List.mem_map.1 heard
      exact kept q (List.mem_reverse.2 (List.mem_filter.1 new).1) tells

/-! ## Lives -/

/-- Nothing is known of a node that is not adopted, and what is adopted is known. -/
theorem Life.adopts {start : Daemon} (life : Life start past d) (tidy : start.Tidy)
    (starting : start.AllStarting) (keyed : KeyedIn past) (complete : CompleteIn past) (key : String) :
    Justified key past d ∧ Holds key past d := by
  refine (life.induction_fit (motive := fun past d => Justified key past d ∧ Holds key past d)
    tidy starting keyed complete ⟨?_, ?_⟩ ?_).2
  · intro id a there _ follows
    rw [(starting id a there).1] at follows
    cases follows
  · intro id node adopted
    rw [Adopted] at adopted
    split at adopted
    · rename_i reads
      obtain ⟨⟨a, there, _⟩, _⟩ := adopted
      rw [reads?_of_get? there, (starting id a there).1] at reads
      cases reads
    · exact adopted.1.elim
  · rintro past d e news life complete tidy fit _ turn ⟨justified, holds⟩
    obtain ⟨before, rfl⟩ := life.head
    exact ⟨justified.turn turn tidy complete fit, holds.turn turn tidy complete fit⟩

/-- Which aggregates the store has, in a life of a node in which nobody misses an event, when
nothing is left that concerns aggregators: an aggregate is there only if some node configures
the object, or an aggregator has adopted some node; and if one has it is there, while no two
aggregators of the object lived at once. -/
theorem Life.configured_or_adopted
    (life : Life (Daemon.new s startedAt).startCoordinator past d) (keyed : KeyedIn past)
    (complete : CompleteIn past) (handled : Handled d c) :
    (d.objects.contains key = true → (∃ node, (d.records node key).config ≠ none) ∨
      ∃ id node, Adopted key id node past) ∧
    ((∀ s ∈ past, s.Sole key) → (∃ id node, Adopted key id node past) →
      d.objects.contains key = true) := by
  have tidy := tidy_start s startedAt
  have starting : (Daemon.new s startedAt).startCoordinator.AllStarting :=
    fun _ _ there => nomatch there
  obtain ⟨justified, holds⟩ := life.adopts tidy starting keyed complete key
  constructor
  · intro there
    obtain ⟨id, a, here, path, keeps⟩ := life.kept tidy keyed rfl there
    obtain ⟨runs, _, waits⟩ := (handled.aggregators id a here).resolve_left fun done => by
      rw [done] at keeps
      cases keeps
    have follows : a.point.follows = true := by rw [runs]; rfl
    obtain ⟨node, tracked⟩ := life.tracking tidy keyed starting id a here keeps follows
    have empty : d.waiting a .configDeleted = [] := waiting_of_nextForAggregator waits rfl
    rcases justified id a here path follows node tracked with held | ⟨event, pending, _⟩ | adopted
    · exact .inl ⟨node, held⟩
    · rw [empty] at pending
      cases pending
    · exact .inr ⟨id, node, adopted⟩
  · rintro sole ⟨id, node, adopted⟩
    obtain ⟨a, here, path, follows, _⟩ := holds id node adopted
    obtain ⟨runs, _⟩ := (handled.aggregators id a here).resolve_left fun done => by
      rw [done] at follows
      cases follows
    exact SortedMap.contains_iff.2 ⟨_, life.presented tidy keyed starting sole id a here path
      (by rw [runs]; rfl)⟩

/-- What no node is said to configure, none configures. -/
theorem config_eq_none {p : ObjectPath} (nobody : d.replica.configNodes p = []) :
    (d.records node p.toString).config = none := by
  refine Classical.byContradiction fun held => ?_
  have configures := mem_configNodes.2 held
  rw [nobody] at configures
  cases configures

/-- The web object is configured on a node alone and not there any more, and only then the
coordinator hears of it. The aggregator subscribes when there is nothing left to hear. -/
def lateMoves : List Move :=
  [.act .coordinator, configureWeb ["n1"], .change (.delConfig webPath), .act .coordinator] ++
    aggregatorMoves 1 4

/-- A node whose configuration is gone before the aggregator subscribes is adopted, and the
aggregate is there for it. -/
theorem orphan_of_late : ∃ past d c, Life pairNode past d ∧ KeyedIn past ∧ CompleteIn past ∧
    Handled d c ∧ (∀ s ∈ past, s.Sole webPath.toString) ∧
    (∀ node, (d.records node webPath.toString).config = none) ∧
    Adopted webPath.toString 1 "n1" past ∧ d.objects.contains webPath.toString = true := by
  obtain ⟨past, d, life, keyed, complete, ⟨c, _, handled⟩, sole, nobody, adopted⟩ :
      ∃ past d, Life pairNode past d ∧ KeyedIn past ∧ CompleteIn past ∧
        (∃ c, c ∈ d.coordinator ∧ Handled d c) ∧ (∀ s ∈ past, s.Sole webPath.toString) ∧
        d.replica.configNodes webPath = [] ∧ Adopted webPath.toString 1 "n1" past :=
    exists_life_of_pursue (lateMoves.map some) (by decide +kernel)
  exact ⟨past, d, c, life, keyed, complete, handled, sole, fun node => config_eq_none nobody,
    adopted, (Life.configured_or_adopted life keyed complete handled).2 sole ⟨1, "n1", adopted⟩⟩

/-- The web object is configured on this node for both, and its aggregator runs; the other node
never configures it. Then the configuration is deleted. -/
def unconfiguredMoves : List Move :=
  [.act .coordinator, configureWeb ["n1", "n2"], .act .coordinator] ++ aggregatorMoves 1 5 ++
    [.change (.delConfig webPath)] ++ aggregatorMoves 1 2

/-- The aggregate of an object that no node configures can stay, although nothing is left to do. -/
theorem orphan_of_unconfigured : ∃ past d c, Life pairNode past d ∧ KeyedIn past ∧
    CompleteIn past ∧ Handled d c ∧
    (∀ node, (d.records node webPath.toString).config = none) ∧
    d.objects.contains webPath.toString = true := by
  obtain ⟨past, d, life, keyed, complete, ⟨c, _, handled⟩, nobody, there⟩ :
      ∃ past d, Life pairNode past d ∧ KeyedIn past ∧ CompleteIn past ∧
        (∃ c, c ∈ d.coordinator ∧ Handled d c) ∧ d.replica.configNodes webPath = [] ∧
        d.objects.contains webPath.toString = true :=
    exists_life_of_pursue (unconfiguredMoves.map some) (by decide +kernel)
  exact ⟨past, d, c, life, keyed, complete, handled, fun node => config_eq_none nobody, there⟩

end Daemon

end ClusterNode
