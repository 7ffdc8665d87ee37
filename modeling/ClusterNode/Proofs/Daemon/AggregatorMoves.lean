import ClusterNode.Proofs.Daemon.Bystanders
import ClusterNode.Proofs.Daemon.Chronicle

/-!
# Steps of an aggregator

`AggregatorMove` lists what an aggregator can do while nobody asks the node to go down, with
what a step does to its own subscriptions and to the aggregate that the store holds.
`stepAggregator_moves` is the inversion of a step; beside the move it gives the frame of the
step, `Daemon.Aggregates`.
-/

namespace ClusterNode

/-- The subscriptions of an aggregator, with the kind of events that each one is for. -/
def AggregatorSubscriptions.kinds (s : AggregatorSubscriptions) : List (Nat × EventKind) :=
  [(s.status, .instanceStatusUpdated), (s.monitor, .instanceMonitorUpdated),
    (s.config, .configUpdated), (s.configDeleted, .configDeleted)]

/-- The subscriptions of all kinds are among the ids of an aggregator. -/
theorem AggregatorSubscriptions.mem_ids {s : AggregatorSubscriptions} {i : Nat} {kind : EventKind}
    (mine : (i, kind) ∈ s.kinds) : i ∈ s.ids := by
  simp only [kinds, List.mem_cons, Prod.mk.injEq, List.not_mem_nil, or_false] at mine
  rcases mine with ⟨rfl, _⟩ | ⟨rfl, _⟩ | ⟨rfl, _⟩ | ⟨rfl, _⟩ <;> simp [ids]

/-- Whether an aggregator answers for what the store has of its object. -/
def AggregatorPoint.keeps : AggregatorPoint → Bool
  | .publishing _ | .running | .joining .. | .leaving => true
  | _ => false

namespace Daemon

/-- What one step makes of the record of an aggregator, of its subscriptions and of the
aggregates that the store holds. -/
inductive AggregatorMove (d : Daemon) (a : Aggregator) : Aggregator → Daemon → Prop where
  | subscribe {s : AggregatorSubscriptions} {e : Daemon} : a.point = .starting →
      (∀ x ∈ s.kinds, e.bus.find? x.1 = some ⟨x.1, x.2, [.path a.path], [], 0⟩) →
      e.objects = d.objects →
      AggregatorMove d a { a with subscriptions := s, point := .tracking a.scope } e
  | track {node : String} {rest : List String} {e : Daemon} : a.point = .tracking (node :: rest) →
      e.bus = d.bus → e.objects = d.objects →
      AggregatorMove d a { d.trackNode a node with point := .tracking rest } e
  | begin {e : Daemon} : a.point = .tracking [] → a.status.isEmpty = false →
      e.bus = d.bus → e.objects = d.objects →
      AggregatorMove d a { a with point := .publishing none } e
  /-- Its scope is empty. -/
  | abandon {e : Daemon} : a.point = .tracking [] → a.status.isEmpty = true →
      e.bus = d.bus → e.objects = d.objects →
      AggregatorMove d a { a with point := .leaving } e
  | publish {source : Option String} {e : Daemon} : a.point = .publishing source →
      (∀ i s, d.bus.find? i = some s → s.kind ≠ .aggregateUpdated → e.bus.find? i = some s) →
      e.objects = d.objects.insert a.path.toString (aggregate a.status a.monitors) →
      AggregatorMove d a { a with point := .running } e
  | exit {rest : List WorkerCommand} {e : Daemon} : a.point = .running →
      a.mailbox = .exit :: rest → e.bus = d.bus → e.objects = d.objects →
      AggregatorMove d a { a with mailbox := rest, point := .leaving } e
  | refresh {rest : List WorkerCommand} {e : Daemon} : a.point = .running →
      a.mailbox = .refresh :: rest → e.bus = d.bus → e.objects = d.objects →
      AggregatorMove d a { a with mailbox := rest } e
  | heed {i : Nat} {kind : EventKind} {event : Event} {e : Daemon} : a.point = .running →
      (i, kind) ∈ a.subscriptions.kinds → d.bus.next? i = some event → e.bus = d.bus.take i →
      e.objects = d.objects → AggregatorMove d a (a.heed event) e
  | join {node source : String} {e : Daemon} : a.point = .joining node source →
      e.bus = d.bus → e.objects = d.objects →
      AggregatorMove d a { d.trackNode a node with point := .publishing (some source) } e
  | leave {deadline : Nat} {e : Daemon} : a.point = .leaving →
      e.objects.get? a.path.toString = none →
      AggregatorMove d a { a with point := .draining deadline } e
  | drain {before deadline : Nat} {e : Daemon} : a.point = .draining before →
      e.objects = d.objects →
      AggregatorMove d a { a with mailbox := [], point := .draining deadline } e
  | finish {deadline : Nat} {e : Daemon} : a.point = .draining deadline →
      e.objects = d.objects → AggregatorMove d a { a with point := .done } e

/-- What a step of an aggregator leaves as it was: all but the bus, its own record, the
aggregate of its object and the notice that it has ended. -/
structure Aggregates (id : WorkerId) (a a' : Aggregator) (news : List Publication)
    (d e : Daemon) : Prop where
  reports : Reports news d e
  mute : ∀ p ∈ news, p.event.change? = none
  leaves : Leaves a.subscriptions.ids news d e
  path : a'.path = a.path
  aggregators : e.aggregators = d.aggregators.insert id a'
  coordinator : e.coordinator = d.coordinator
  nextWorker : e.nextWorker = d.nextWorker
  notices : (a'.point ≠ .done ∧ e.notices = d.notices) ∨
    (a'.point = .done ∧ e.notices = d.notices ++ [.aggregatorDone a.path id])
  elsewhere : ∀ key ≠ a.path.toString, e.objects.get? key = d.objects.get? key

variable {d e : Daemon} {id : WorkerId} {a : Aggregator}

/-- Who speaks of no record changes none. -/
theorem Reports.records_of_mute {news : List Publication} (reports : Reports news d e)
    (mute : ∀ p ∈ news, p.event.change? = none) : e.records = d.records :=
  reports.tells.replay.symm.trans (Records.tells_of_silent mute).replay

/-- What the store answers about an instance. -/
theorem instanceOf_eq (isOpen : d.storeOpen = true) (p : ObjectPath) (node : String) :
    d.instanceOf p node = d.records node p.toString := by
  rw [instanceOf, if_pos isOpen]
  simp only [records, Replica.records, ClusterStatus.records, Replica.instance?,
    ClusterStatus.instance?, ClusterStatus.nodeD, NodeData.instanceD]
  cases d.replica.status.nodes.get? node <;> rfl

/-- The event that an aggregator takes next is the first one of one of its queues. -/
theorem nextForAggregator_cases {s : AggregatorSubscriptions} {event : Event}
    (received : d.nextForAggregator s = some (event, e)) :
    ∃ i kind, (i, kind) ∈ s.kinds ∧ d.bus.next? i = some event ∧
      e = { d with bus := d.bus.take i } := by
  have taken {i : Nat} (received : d.receive i = some (event, e)) :
      d.bus.next? i = some event ∧ e = { d with bus := d.bus.take i } := by
    obtain ⟨_, next, made⟩ := Option.map_eq_some_iff.1 received
    cases made
    exact ⟨next, rfl⟩
  unfold nextForAggregator at received
  simp only [Option.orElse_eq_orElse, Option.orElse_eq_or] at received
  rcases Option.or_eq_some_iff.1 received with one | ⟨_, received⟩
  · exact ⟨_, .configDeleted, by simp [AggregatorSubscriptions.kinds], taken one⟩
  · rcases Option.or_eq_some_iff.1 received with two | ⟨_, received⟩
    · exact ⟨_, .configUpdated, by simp [AggregatorSubscriptions.kinds], taken two⟩
    · rcases Option.or_eq_some_iff.1 received with three | ⟨_, four⟩
      · exact ⟨_, .instanceStatusUpdated, by simp [AggregatorSubscriptions.kinds], taken three⟩
      · exact ⟨_, .instanceMonitorUpdated, by simp [AggregatorSubscriptions.kinds], taken four⟩

/-- An aggregator that waits has taken every event. -/
theorem receive_of_nextForAggregator {s : AggregatorSubscriptions}
    (waits : d.nextForAggregator s = none) {i : Nat} {kind : EventKind}
    (mine : (i, kind) ∈ s.kinds) : d.receive i = none := by
  unfold nextForAggregator at waits
  simp only [Option.orElse_eq_orElse, Option.orElse_eq_or, Option.or_eq_none_iff] at waits
  simp only [AggregatorSubscriptions.kinds, List.mem_cons, Prod.mk.injEq, List.not_mem_nil,
    or_false] at mine
  rcases mine with ⟨rfl, _⟩ | ⟨rfl, _⟩ | ⟨rfl, _⟩ | ⟨rfl, _⟩
  · exact waits.2.2.1
  · exact waits.2.2.2
  · exact waits.2.1
  · exact waits.1

/-- What is heeded changes neither the object nor the mailbox of an aggregator, and it goes on
to answer for its object. -/
theorem heed_keeps (a : Aggregator) (event : Event) (runs : a.point = .running) :
    (a.heed event).path = a.path ∧ (a.heed event).mailbox = a.mailbox ∧
      (a.heed event).point.keeps = true := by
  have keeps : a.point.keeps = true := by rw [runs]; rfl
  unfold Aggregator.heed
  split
  · split
    · refine ⟨rfl, rfl, ?_⟩
      dsimp only
      split <;> rfl
    · exact ⟨rfl, rfl, keeps⟩
  · split
    · exact ⟨rfl, rfl, keeps⟩
    · exact ⟨rfl, rfl, rfl⟩
  · split
    · exact ⟨rfl, rfl, rfl⟩
    · exact ⟨rfl, rfl, keeps⟩
  · split
    · exact ⟨rfl, rfl, rfl⟩
    · exact ⟨rfl, rfl, keeps⟩
  · exact ⟨rfl, rfl, keeps⟩

/-! ## Frames -/

/-- What an aggregator does without a word. -/
theorem aggregates_of_bus {d' : Daemon} {a' : Aggregator} (path : a'.path = a.path)
    (lives : a'.point ≠ .done) {own : Bus} (made : d' = { d with bus := own })
    (leaves : Leaves a.subscriptions.ids [] d d') :
    Aggregates id a a' [] d (d'.putAggregator id a') := by
  subst made
  have nothing : Recounts [] d ({ d with bus := own }.putAggregator id a') :=
    recounts_of_same rfl rfl rfl rfl
  exact {
    reports := nothing.toReports
    mute := fun _ new => by cases new
    leaves := leaves.andThen rfl rfl
    path
    aggregators := rfl
    coordinator := rfl
    nextWorker := rfl
    notices := .inl ⟨lives, rfl⟩
    elsewhere := fun _ _ => rfl }

/-- What an aggregator does for itself. -/
theorem aggregates_silently {a' : Aggregator} (path : a'.path = a.path)
    (lives : a'.point ≠ .done) : Aggregates id a a' [] d (d.putAggregator id a') :=
  aggregates_of_bus path lives rfl (leaves_of_bus rfl rfl)

/-- The store takes over what an aggregator says of its object. -/
theorem aggregates_commit {point : AggregatorPoint} (d' : Daemon) {own : Bus}
    (result : Replica × List Publication) (lives : point ≠ .done)
    (made : d' = { d with bus := own }) (leaves : Leaves a.subscriptions.ids [] d d')
    (nodes : result.1.status.nodes = d.replica.status.nodes)
    (pending : result.1.pending = d.replica.pending)
    (mute : ∀ p ∈ result.2, p.event.change? = none)
    (elsewhere : ∀ key ≠ a.path.toString,
      result.1.status.objects.get? key = d.objects.get? key) :
    Aggregates id a { a with point } result.2 d
      ((d'.commit result).putAggregator id { a with point }) := by
  have said : Leaves a.subscriptions.ids result.2 d (d'.commit result) :=
    leaves.trans (leaves_commit result)
  subst made
  rw [commit_eq] at said ⊢
  exact {
    reports := {
      published := rfl
      tells := by
        have same : result.1.records = d.records := Replica.records_of_nodes nodes
        change d.records.Tells result.2 result.1.records
        rw [same]
        exact Records.tells_of_silent mute
      silent := by
        intro silent
        change result.1.Silent
        unfold Replica.Silent
        rw [pending]
        exact silent
      cancelled := rfl
      storeOpen := rfl }
    mute
    leaves := said.andThen rfl rfl
    path := rfl
    aggregators := rfl
    coordinator := rfl
    nextWorker := rfl
    notices := .inl ⟨lives, rfl⟩
    elsewhere }

/-! ## Steps -/

/-- A step of an aggregator that waits for what happens next. -/
theorem runAggregator_moves (runs : a.point = .running) (stays : d.cancelled = false)
    (stepped : d.runAggregator id a = some e) :
    ∃ a', AggregatorMove d a a' e ∧ Aggregates id a a' [] d e := by
  have lives : a.point ≠ .done := by rw [runs]; exact AggregatorPoint.noConfusion
  unfold runAggregator at stepped
  split at stepped
  · rename_i cancelled
    rw [stays] at cancelled
    cases cancelled
  · split at stepped
    · rename_i rest mailbox
      cases stepped
      exact ⟨_, .exit runs mailbox rfl rfl, aggregates_silently rfl AggregatorPoint.noConfusion⟩
    · rename_i rest mailbox
      cases stepped
      exact ⟨_, .refresh runs mailbox rfl rfl, aggregates_silently rfl lives⟩
    · obtain ⟨⟨event, d'⟩, received, rfl⟩ := Option.map_eq_some_iff.1 stepped
      obtain ⟨i, kind, mine, next, made⟩ := nextForAggregator_cases received
      obtain ⟨path, _, keeps⟩ := heed_keeps a event runs
      have lives : (a.heed event).point ≠ .done := fun done => by
        rw [done] at keeps
        cases keeps
      have taken : d.receive i = some (event, { d with bus := d.bus.take i }) := by
        unfold receive
        rw [next]
        rfl
      have leaves : Leaves a.subscriptions.ids [] d d' := by
        rw [made]
        exact leaves_receive (AggregatorSubscriptions.mem_ids mine) taken
      refine ⟨_, .heed runs mine next ?_ ?_, aggregates_of_bus path lives made leaves⟩
      · rw [made]
        rfl
      · rw [made]
        rfl

/-- An aggregator subscribes: it gets four new subscriptions. -/
theorem subscribeAggregator_finds (numbered : d.bus.Numbered) (p : ObjectPath) :
    ∀ x ∈ (d.subscribeAggregator p).1.kinds, (d.subscribeAggregator p).2.bus.find? x.1 =
      some ⟨x.1, x.2, [.path p], [], 0⟩ := by
  let d₁ := (d.subscribe .instanceStatusUpdated [.path p]).2
  let d₂ := (d₁.subscribe .instanceMonitorUpdated [.path p]).2
  let d₃ := (d₂.subscribe .configUpdated [.path p]).2
  have numbered₁ : d₁.bus.Numbered := numbered_subscribe numbered ..
  have numbered₂ : d₂.bus.Numbered := numbered_subscribe numbered₁ ..
  have numbered₃ : d₃.bus.Numbered := numbered_subscribe numbered₂ ..
  intro x mine
  have mine : x ∈ [(d.bus.nextId, EventKind.instanceStatusUpdated),
      (d.bus.nextId + 1, .instanceMonitorUpdated), (d.bus.nextId + 2, .configUpdated),
      (d.bus.nextId + 3, .configDeleted)] := mine
  simp only [List.mem_cons, List.not_mem_nil, or_false] at mine
  rcases mine with rfl | rfl | rfl | rfl
  · exact Bus.find?_subscribe_of_some (Bus.find?_subscribe_of_some
      (Bus.find?_subscribe_of_some (Bus.find?_subscribe_new numbered ..) ..) ..) ..
  · exact Bus.find?_subscribe_of_some (Bus.find?_subscribe_of_some
      (Bus.find?_subscribe_new numbered₁ ..) ..) ..
  · exact Bus.find?_subscribe_of_some (Bus.find?_subscribe_new numbered₂ ..) ..
  · exact Bus.find?_subscribe_new numbered₃ ..

/-- An aggregator publishes what it knows. -/
theorem publishing_moves (isOpen : d.storeOpen = true) {source : Option String}
    (point : a.point = .publishing source)
    (made : e = (d.setAggregate a.path (aggregate a.status a.monitors) source).putAggregator id
      { a with point := .running }) :
    ∃ a' news, AggregatorMove d a a' e ∧ Aggregates id a a' news d e := by
  rw [made, setAggregate, if_pos isOpen]
  refine ⟨{ a with point := .running }, _, .publish point ?_ ?_,
    aggregates_commit d _ AggregatorPoint.noConfusion rfl (leaves_of_bus rfl rfl) rfl rfl ?_ ?_⟩
  · intro i s found other
    change (d.bus.publishAll [_]).find? i = some s
    rw [Bus.publishAll, List.foldl_cons, List.foldl_nil, Bus.find?_publish, found,
      Option.map_some, Bus.offer, if_neg]
    simp [Subscriber.accepts, Publication.ofPath, Event.kind, other]
  · rfl
  · intro p new
    rw [List.mem_singleton.1 new]
    rfl
  · intro key other
    exact SortedMap.get?_insert_of_ne _ _ other

/-- What the store makes of an aggregate that is taken out. -/
theorem delAggregate_frame (r : Replica) (p : ObjectPath) :
    (∀ key, (r.delAggregate p).1.status.objects.get? key =
        if key = p.toString then none else r.status.objects.get? key) ∧
      (r.delAggregate p).1.status.nodes = r.status.nodes ∧
      (r.delAggregate p).1.pending = r.pending ∧
      ∀ q ∈ (r.delAggregate p).2, q.event.change? = none := by
  unfold Replica.delAggregate
  split
  · refine ⟨fun key => SortedMap.get?_erase .., rfl, rfl, fun q new => ?_⟩
    rw [List.mem_singleton.1 new]
    rfl
  · rename_i absent
    refine ⟨fun key => ?_, rfl, rfl, fun q new => by cases new⟩
    have nothing : r.status.objects.get? p.toString = none := by
      simpa [SortedMap.contains] using absent
    split
    · rename_i same
      rw [same]
      exact nothing
    · rfl

/-- An aggregator stops its subscriptions and takes the aggregate out of the store. -/
theorem leaving_moves (isOpen : d.storeOpen = true) (point : a.point = .leaving) {deadline : Nat}
    (made : e = ((d.unsubscribe a.subscriptions.ids).delAggregate a.path).putAggregator id
      { a with point := .draining deadline }) :
    ∃ a' news, AggregatorMove d a a' e ∧ Aggregates id a a' news d e := by
  have leaves : Leaves a.subscriptions.ids [] d (d.unsubscribe a.subscriptions.ids) :=
    leaves_unsubscribe fun _ mine => mine
  obtain ⟨objects, nodes, pending, mute⟩ := delAggregate_frame d.replica a.path
  rw [made, delAggregate, if_pos (show (d.unsubscribe _).storeOpen = true from isOpen)]
  refine ⟨{ a with point := .draining deadline }, _, .leave point ?_,
    aggregates_commit (d.unsubscribe a.subscriptions.ids) (d.replica.delAggregate a.path)
      AggregatorPoint.noConfusion rfl leaves nodes pending mute fun key other => ?_⟩
  · have kept : (Daemon.commit (d.unsubscribe a.subscriptions.ids)
        (d.replica.delAggregate a.path)).objects =
          (d.replica.delAggregate a.path).1.status.objects := by
      rw [commit_eq]
      rfl
    change (Daemon.commit (d.unsubscribe a.subscriptions.ids)
      (d.replica.delAggregate a.path)).objects.get? _ = none
    rw [kept]
    exact (objects _).trans (if_pos rfl)
  · exact (objects _).trans (if_neg other)

/-- An aggregator that has drained its mailbox tells the coordinator that it has ended. -/
theorem ended_moves (takes : d.takesNotices = true) {deadline : Nat}
    (point : a.point = .draining deadline)
    (made : e = (d.putAggregator id { a with point := .done }).notify (.aggregatorDone a.path id)) :
    ∃ a' news, AggregatorMove d a a' e ∧ Aggregates id a a' news d e := by
  rw [made, notify, if_pos (show (d.putAggregator id _).takesNotices = true from takes)]
  refine ⟨{ a with point := .done }, [], .finish point rfl, ?_⟩
  have nothing : Recounts [] d { d.putAggregator id { a with point := .done } with
      notices := d.notices ++ [.aggregatorDone a.path id] } :=
    recounts_of_same rfl rfl rfl rfl
  exact {
    reports := nothing.toReports
    mute := fun _ new => by cases new
    leaves := leaves_of_bus rfl rfl
    path := rfl
    aggregators := rfl
    coordinator := rfl
    nextWorker := rfl
    notices := .inr ⟨rfl, rfl⟩
    elsewhere := fun _ _ => rfl }

/-- A step of an aggregator, while the node does not go down. -/
theorem stepAggregator_moves (numbered : d.bus.Numbered) (stays : d.cancelled = false)
    (isOpen : d.storeOpen = true) (takes : d.takesNotices = true)
    (stepped : d.stepAggregator id a = some e) :
    a.point ≠ .done ∧ ∃ a' news, AggregatorMove d a a' e ∧ Aggregates id a a' news d e := by
  unfold stepAggregator at stepped
  split at stepped
  · rename_i point
    cases stepped
    refine ⟨by rw [point]; exact AggregatorPoint.noConfusion, _, _,
      .subscribe point (subscribeAggregator_finds numbered a.path) rfl,
      aggregates_of_bus rfl AggregatorPoint.noConfusion rfl ?_⟩
    have first : Leaves a.subscriptions.ids [] d _ :=
      leaves_subscribe .instanceStatusUpdated [.path a.path]
    exact ((first.trans (leaves_subscribe ..)).trans (leaves_subscribe ..)).trans
      (leaves_subscribe ..)
  · rename_i node rest point
    cases stepped
    exact ⟨by rw [point]; exact AggregatorPoint.noConfusion, _, _, .track point rfl rfl,
      aggregates_silently rfl AggregatorPoint.noConfusion⟩
  · rename_i point
    cases stepped
    refine ⟨by rw [point]; exact AggregatorPoint.noConfusion, ?_⟩
    by_cases none : a.status.isEmpty
    · simp only [none, if_true]
      exact ⟨_, _, .abandon point none rfl rfl, aggregates_silently rfl AggregatorPoint.noConfusion⟩
    · simp only [none]
      exact ⟨_, _, .begin point (by simpa using none) rfl rfl,
        aggregates_silently rfl AggregatorPoint.noConfusion⟩
  · rename_i source point
    cases stepped
    exact ⟨by rw [point]; exact AggregatorPoint.noConfusion, publishing_moves isOpen point rfl⟩
  · rename_i point
    refine ⟨by rw [point]; exact AggregatorPoint.noConfusion, ?_⟩
    obtain ⟨a', move, frame⟩ := runAggregator_moves point stays stepped
    exact ⟨a', _, move, frame⟩
  · rename_i node source point
    cases stepped
    exact ⟨by rw [point]; exact AggregatorPoint.noConfusion, _, _, .join point rfl rfl,
      aggregates_silently rfl AggregatorPoint.noConfusion⟩
  · rename_i point
    cases stepped
    exact ⟨by rw [point]; exact AggregatorPoint.noConfusion, leaving_moves isOpen point rfl⟩
  · rename_i deadline point
    refine ⟨by rw [point]; exact AggregatorPoint.noConfusion, ?_⟩
    split at stepped
    · cases stepped
      exact ⟨_, _, .drain point rfl, aggregates_silently rfl AggregatorPoint.noConfusion⟩
    · split at stepped
      · cases stepped
        exact ended_moves takes point rfl
      · cases stepped
  · cases stepped

end Daemon

end ClusterNode
