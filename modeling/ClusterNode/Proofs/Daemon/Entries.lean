import ClusterNode.Proofs.Daemon.Tracking

/-!
# Whose the aggregates are

The store has an aggregate of an object only while an aggregator of it keeps it; and while no
two aggregators of one object live at once, it is the aggregate of what the aggregator knows,
whenever that waits. An aggregator that waits knows of some node.
-/

namespace ClusterNode

/-- Whether the store has what an aggregator knows. -/
def AggregatorPoint.presents : AggregatorPoint → Bool
  | .running | .joining .. => true
  | _ => false

/-- An aggregator knows of some node. -/
def Aggregator.Tracks (a : Aggregator) : Prop := ∃ node, a.status.contains node = true

variable {a : Aggregator} {event : Event}

/-- An aggregator that presents what it knew when it has heeded an event knows it still, and
one that follows its object on knows of some node still. -/
theorem Aggregator.heed_presents :
    ((a.heed event).point.presents = true →
        (a.heed event).status = a.status ∧ (a.heed event).monitors = a.monitors) ∧
      ((a.heed event).point.follows = true → a.Tracks → (a.heed event).Tracks) := by
  have same : (a.point.presents = true → a.status = a.status ∧ a.monitors = a.monitors) ∧
      (a.point.follows = true → a.Tracks → a.Tracks) := ⟨fun _ => ⟨rfl, rfl⟩, fun _ tracks => tracks⟩
  unfold heed
  split
  · split
    · dsimp only
      split
      · exact ⟨fun presents => Bool.noConfusion presents, fun follows => Bool.noConfusion follows⟩
      · rename_i left
        refine ⟨fun presents => Bool.noConfusion presents, fun _ _ => ?_⟩
        exact SortedMap.isEmpty_eq_false_iff.1 (Bool.not_eq_true _ ▸ left)
    · exact same
  · split
    · exact same
    · exact ⟨fun _ => ⟨rfl, rfl⟩, fun _ tracks => tracks⟩
  · split
    · exact ⟨fun presents => Bool.noConfusion presents,
        fun _ _ => ⟨_, SortedMap.contains_iff.2 ⟨_, SortedMap.get?_insert_self ..⟩⟩⟩
    · exact same
  · split
    · exact ⟨fun presents => Bool.noConfusion presents, fun _ tracks => tracks⟩
    · exact same
  · exact same

namespace Daemon

/-- At most one aggregator of an object lives. -/
def Sole (d : Daemon) (key : String) : Prop :=
  ∀ id a id' a', d.aggregators.get? id = some a → d.aggregators.get? id' = some a' →
    a.point ≠ .done → a'.point ≠ .done → a.path.toString = key → a'.path.toString = key → id = id'

instance (d : Daemon) (key : String) : Decidable (d.Sole key) :=
  decidable_of_iff (∀ id a, d.aggregators.get? id = some a → ∀ id' a',
      d.aggregators.get? id' = some a' → a.point ≠ .done → a'.point ≠ .done →
        a.path.toString = key → a'.path.toString = key → id = id')
    ⟨fun sole id a id' a' there there' => sole id a there id' a' there',
      fun sole id a there id' a' there' => sole id a id' a' there there'⟩

/-- What the store has of an object, one of its aggregators keeps. -/
def Kept (d : Daemon) (key : String) : Prop :=
  d.objects.contains key = true →
    ∃ id a, d.aggregators.get? id = some a ∧ a.path.toString = key ∧ a.point.keeps = true

/-- The store has the aggregate of what an aggregator of an object knows. -/
def Presented (d : Daemon) (key : String) : Prop :=
  ∀ id a, d.aggregators.get? id = some a → a.path.toString = key → a.point.presents = true →
    d.objects.get? key = some (aggregate a.status a.monitors)

/-- An aggregator that published knows of some node, until it leaves. -/
def Tracking (d : Daemon) : Prop :=
  ∀ id a, d.aggregators.get? id = some a → a.point.keeps = true → a.point.follows = true → a.Tracks

variable {d e : Daemon} {id : WorkerId} {b : Aggregator} {news : List Publication} {key : String}

/-! ## One step -/

/-- What became of an aggregator. -/
theorem Turn.persists (turn : Turn news d e) (tidy : d.Tidy) (here : d.aggregators.get? id = some b) :
    ∃ a, e.aggregators.get? id = some a ∧
      (a = b ∨ (AggregatorMove d b a e ∧ Aggregates id b a news d e)) := by
  cases turn with
  | aside _ _ bypasses => exact ⟨b, by rw [bypasses.passes.aggregators]; exact here, .inl rfl⟩
  | @aggregator id' b' a' here' _ move frame =>
    by_cases same : id = id'
    · subst same
      cases here.symm.trans here'
      exact ⟨a', by rw [frame.aggregators, SortedMap.get?_insert_self], .inr ⟨move, frame⟩⟩
    · exact ⟨b, by rw [frame.aggregators, SortedMap.get?_insert_of_ne _ _ same]; exact here, .inl rfl⟩
  | coordinator _ move _ =>
    have before (same : e.aggregators = d.aggregators) : ∃ a, e.aggregators.get? id = some a ∧
        (a = b ∨ (AggregatorMove d b a e ∧ Aggregates id b a news d e)) :=
      ⟨b, by rw [same]; exact here, .inl rfl⟩
    have hired {p : ObjectPath} {b' : Aggregator} (hires : Hires p b' d e) :
        ∃ a, e.aggregators.get? id = some a ∧
          (a = b ∨ (AggregatorMove d b a e ∧ Aggregates id b a news d e)) := by
      have old : id ≠ d.nextWorker := Nat.ne_of_lt (tidy.given id b here)
      exact ⟨b, by rw [hires.aggregators, SortedMap.get?_insert_of_ne _ _ old]; exact here, .inl rfl⟩
    cases move with
    | begin _ _ _ _ _ same | release _ _ _ _ same | ignore _ _ _ _ same | dispense _ _ _ same =>
      exact before same
    | proceed _ _ _ _ _ _ same => exact before same
    | hire _ _ _ _ hires | rehire _ _ hires => exact hired hires

/-- Only an aggregator of an object changes what the store has of it. -/
theorem Turn.entry (turn : Turn news d e) (key : String) :
    e.objects.get? key = d.objects.get? key ∨
      ∃ id b a, d.aggregators.get? id = some b ∧ e.aggregators.get? id = some a ∧
        b.point ≠ .done ∧ b.path.toString = key ∧ AggregatorMove d b a e ∧
        Aggregates id b a news d e := by
  cases turn with
  | aside _ _ bypasses => exact .inl (by rw [bypasses.passes.recounts.objects])
  | @aggregator id b a here lives move frame =>
    by_cases mine : b.path.toString = key
    · exact .inr ⟨id, b, a, here, by rw [frame.aggregators, SortedMap.get?_insert_self], lives, mine,
        move, frame⟩
    · exact .inl (frame.elsewhere key (Ne.symm mine))
  | coordinator _ _ staffs => exact .inl (by rw [staffs.recounts.objects])

/-- An aggregator goes on keeping what the store has of its object, until it has left. -/
theorem AggregatorMove.keeps (move : AggregatorMove d b a e) (keeps : b.point.keeps = true)
    (there : e.objects.contains b.path.toString = true) : a.point.keeps = true := by
  cases move with
  | publish | exit | join => rfl
  | refresh => exact keeps
  | heed runs => exact (heed_keeps _ _ runs).2.2
  | leave _ gone =>
    rw [SortedMap.contains, gone] at there
    cases there
  | subscribe point | track point | begin point | abandon point | drain point | finish point =>
    rw [point] at keeps
    cases keeps

/-- A step of an aggregator that leaves the store with an aggregate of its object it did not
have before is that it published. -/
theorem AggregatorMove.keeps_of_new (move : AggregatorMove d b a e)
    (there : e.objects.contains b.path.toString = true)
    (absent : d.objects.contains b.path.toString = false) : a.point.keeps = true := by
  have unchanged (same : e.objects = d.objects) : a.point.keeps = true := by
    rw [same, absent] at there
    cases there
  cases move with
  | publish => rfl
  | leave _ gone =>
    rw [SortedMap.contains, gone] at there
    cases there
  | subscribe _ _ same => exact unchanged same
  | track _ _ same | join _ _ same => exact unchanged same
  | begin _ _ _ same | abandon _ _ _ same | exit _ _ _ same | refresh _ _ _ same =>
    exact unchanged same
  | heed _ _ _ _ same => exact unchanged same
  | drain _ same | finish _ same => exact unchanged same

/-- Whatever happens next, what the store has of an object is kept by one of its aggregators. -/
theorem Kept.turn (kept : d.Kept key) (turn : Turn news d e) (tidy : d.Tidy) : e.Kept key := by
  intro there
  by_cases before : d.objects.contains key = true
  · obtain ⟨id, b, here, path, keeps⟩ := kept before
    obtain ⟨a, there', same | ⟨move, frame⟩⟩ := turn.persists tidy here
    · exact ⟨id, a, there', by rw [same]; exact path, by rw [same]; exact keeps⟩
    · refine ⟨id, a, there', by rw [frame.path]; exact path, move.keeps keeps ?_⟩
      rw [path]
      exact there
  · rcases turn.entry key with same | ⟨id, b, a, _, there', _, path, move, frame⟩
    · rw [SortedMap.contains, same] at there
      exact absurd there before
    · subst path
      exact ⟨id, a, there', by rw [frame.path], move.keeps_of_new there (by simpa using before)⟩

/-- The store has the aggregate of what an aggregator knows after its step, where it had it
before. -/
theorem AggregatorMove.presents (move : AggregatorMove d b a e)
    (before : b.point.presents = true →
      d.objects.get? b.path.toString = some (aggregate b.status b.monitors))
    (presents : a.point.presents = true) :
    e.objects.get? b.path.toString = some (aggregate a.status a.monitors) := by
  cases move with
  | publish _ _ objects =>
    rw [objects]
    exact SortedMap.get?_insert_self ..
  | refresh _ _ _ same =>
    rw [same]
    exact before presents
  | heed runs _ _ _ same =>
    obtain ⟨status, monitors⟩ := Aggregator.heed_presents.1 presents
    rw [same, status, monitors]
    exact before (by rw [runs]; rfl)
  | subscribe | track | begin | abandon | exit | join | leave | drain | finish => cases presents

/-- Whatever happens next, the store presents what the one aggregator of an object knows. -/
theorem Presented.turn (presented : d.Presented key) (sole : d.Sole key) (turn : Turn news d e)
    (tidy : d.Tidy) : e.Presented key := by
  intro id a there path presents
  rcases turn.origin tidy there with ⟨here, _⟩ | ⟨here, move, frame⟩ | ⟨_, point, _, _, _⟩
  · rcases turn.entry key with same | ⟨id', b, a', here', there', lives, path', move, frame⟩
    · rw [same]
      exact presented id a here path presents
    · have living : a.point ≠ .done := fun done => by
        rw [done] at presents
        cases presents
      cases sole id a id' b here here' living lives path path'
      cases here.symm.trans here'
      cases there.symm.trans there'
      exact path ▸ move.presents (fun was => path' ▸ presented id a here path was) presents
  · have path' := frame.path ▸ path
    have now := move.presents (fun was => path' ▸ presented id _ here path' was) presents
    rwa [path'] at now
  · rw [point] at presents
    cases presents

/-- Whatever happens next, an aggregator that published tracks some node until it leaves. -/
theorem Tracking.turn (tracking : d.Tracking) (turn : Turn news d e) (tidy : d.Tidy) :
    e.Tracking := by
  intro id a there keeps follows
  rcases turn.origin tidy there with ⟨here, _⟩ | @⟨b, here, move, frame⟩ | ⟨_, point, _, _, _⟩
  · exact tracking id a here keeps follows
  · have was {point : AggregatorPoint} (at_point : b.point = point) (keeps : point.keeps = true)
        (follows : point.follows = true) : b.Tracks :=
      tracking id b here (by rw [at_point]; exact keeps) (by rw [at_point]; exact follows)
    cases move with
    | begin _ some => exact SortedMap.isEmpty_eq_false_iff.1 some
    | publish point => exact was point rfl rfl
    | refresh point => exact was point rfl rfl
    | heed runs => exact Aggregator.heed_presents.2 follows (was runs rfl rfl)
    | join => exact ⟨_, SortedMap.contains_iff.2 ⟨_, SortedMap.get?_insert_self ..⟩⟩
    | subscribe | track | drain | finish => cases keeps
    | abandon | exit | leave => cases follows
  · rw [point] at keeps
    cases keeps

/-! ## Lives -/

section Lives

variable {start : Daemon} {past : List Daemon}

/-- Where the store has no aggregates at the beginning, it has those that are kept. -/
theorem Life.kept (life : Life start past d) (tidy : start.Tidy) (keyed : KeyedIn past)
    (none : start.objects.contains key = false) : d.Kept key :=
  (life.induction (motive := fun _ d => d.Kept key) tidy keyed
    (fun there => by rw [none] at there; cases there)
    (fun _ _ _ _ _ _ tidy _ turn kept => kept.turn turn tidy)).2

/-- What an aggregator knows is what the store has, while it is the only one. -/
theorem Life.presented (life : Life start past d) (tidy : start.Tidy) (keyed : KeyedIn past)
    (starting : start.AllStarting) (sole : ∀ s ∈ past, s.Sole key) : d.Presented key :=
  (life.induction (motive := fun past d => (∀ s ∈ past, s.Sole key) → d.Presented key) tidy keyed
    (fun _ id a there _ presents => by
      rw [(starting id a there).1] at presents
      cases presents)
    (fun past d e news life _ tidy _ turn presented sole =>
      (presented fun s member => sole s (List.mem_cons_of_mem _ member)).turn
        (sole d (List.mem_cons_of_mem _ life.mem)) turn tidy)).2 sole

/-- Who published knows of some node. -/
theorem Life.tracking (life : Life start past d) (tidy : start.Tidy) (keyed : KeyedIn past)
    (starting : start.AllStarting) : d.Tracking :=
  (life.induction (motive := fun _ d => d.Tracking) tidy keyed
    (fun id a there keeps => by
      rw [(starting id a there).1] at keeps
      cases keeps)
    (fun _ _ _ _ _ _ tidy _ turn tracking => tracking.turn turn tidy)).2

end Lives

end Daemon

end ClusterNode
