import ClusterNode.Proofs.Daemon.Life
import ClusterNode.Proofs.Daemon.Membership
import ClusterNode.Proofs.Replication.Facet

/-!
# What the aggregators of a node follow

An aggregator follows the records of its object from when it has subscribed until it leaves.
`Daemon.Follows` says how it came to be where it is, one step of the life of a node after the
other: it subscribed, it read the records of a node, it heeded the event that waited first,
it went on, or another one stepped and it heard of that. The invariants of what an aggregator
knows are kept for each of these cases.
-/

namespace ClusterNode

/-- Whether an aggregator has subscribed and does not leave. -/
def AggregatorPoint.follows : AggregatorPoint → Bool
  | .tracking _ | .publishing _ | .running | .joining .. => true
  | _ => false

/-- The node whose records an aggregator reads with its next step. -/
def AggregatorPoint.reads? : AggregatorPoint → Option String
  | .tracking (node :: _) => some node
  | .joining node _ => some node
  | _ => none

/-- The kinds of events that an aggregator subscribes to. -/
def EventKind.isFollowed : EventKind → Bool
  | .instanceStatusUpdated | .instanceMonitorUpdated | .configUpdated | .configDeleted => true
  | _ => false

/-- The subscription of an aggregator to a kind of events. -/
def AggregatorSubscriptions.to (s : AggregatorSubscriptions) : EventKind → Nat
  | .instanceStatusUpdated => s.status
  | .instanceMonitorUpdated => s.monitor
  | .configUpdated => s.config
  | .configDeleted => s.configDeleted
  | _ => 0

/-- The subscriptions of an aggregator with their kinds are those to the kinds that it follows. -/
theorem AggregatorSubscriptions.mem_kinds_iff {s : AggregatorSubscriptions} {i : Nat}
    {kind : EventKind} : (i, kind) ∈ s.kinds ↔ kind.isFollowed = true ∧ s.to kind = i := by
  cases kind <;> simp [kinds, EventKind.isFollowed, AggregatorSubscriptions.to, eq_comm]

/-- An aggregator about to read a node follows its object. -/
theorem AggregatorPoint.follows_of_reads {point : AggregatorPoint} {node : String}
    (reads : point.reads? = some node) : point.follows = true := by
  unfold reads? at reads
  split at reads
  · rfl
  · rfl
  · cases reads

/-- What an aggregator follows tells of records. -/
theorem EventKind.tellsOfRecords_of_isFollowed {kind : EventKind} (followed : kind.isFollowed = true) :
    kind.tellsOfRecords = true := by
  cases kind <;> first | rfl | cases followed

/-- The queue of a subscriber that is found. -/
theorem Bus.queue_of_find? {b : Bus} {i : Nat} {s : Subscriber} (found : b.find? i = some s) :
    b.queue i = s.queue := by
  simp [queue, found]

namespace Daemon

/-- Nobody missed an event. -/
def Complete (d : Daemon) : Prop := ∀ s ∈ d.bus.subscribers, s.dropped = 0

instance (d : Daemon) : Decidable d.Complete := inferInstanceAs (Decidable (∀ _ ∈ _, _))

/-- Where nobody missed an event, no subscriber that is found did. -/
theorem Complete.dropped {d : Daemon} (complete : d.Complete) {i : Nat} {s : Subscriber}
    (found : d.bus.find? i = some s) : s.dropped = 0 :=
  complete s (List.mem_of_find?_eq_some found)

/-- The events of a kind that an aggregator has not taken. -/
def waiting (d : Daemon) (a : Aggregator) (kind : EventKind) : List Event :=
  d.bus.queue (a.subscriptions.to kind)

/-- An aggregator has its subscriptions, and what waits there is about its object. -/
def Wired (d : Daemon) (a : Aggregator) : Prop :=
  ∀ kind, kind.isFollowed = true → ∃ s, d.bus.find? (a.subscriptions.to kind) = some s ∧
    s.IsFor kind [.path a.path] ∧
    ∀ event ∈ s.queue, event.kind = kind ∧ event.IsAbout a.path.toString

/-- What holds of every aggregator: nobody commands it, it knows of nothing before it has
subscribed, it has the statuses and the monitors of the same nodes, and it has its
subscriptions as long as it follows its object. -/
structure Fit (d : Daemon) (a : Aggregator) : Prop where
  mailbox : a.mailbox = []
  fresh : a.point = .starting → a.status = ∅ ∧ a.monitors = ∅
  aligned : ∀ node, a.monitors.contains node = a.status.contains node
  wired : a.point.follows = true → d.Wired a

/-- Where the record of an aggregator comes from. -/
inductive Origin (news : List Publication) (d e : Daemon) (id : WorkerId) (a : Aggregator) :
    Prop where
  | kept : d.aggregators.get? id = some a →
      (∀ i ∈ a.subscriptions.ids, ∀ s, d.bus.find? i = some s →
        ∃ t, e.bus.find? i = some t ∧ s.Hears t news) → Origin news d e id a
  | moved {b : Aggregator} : d.aggregators.get? id = some b → AggregatorMove d b a e →
      Aggregates id b a news d e → Origin news d e id a
  | hired : d.aggregators.get? id = none → a.point = .starting → a.status = ∅ →
      a.monitors = ∅ → a.mailbox = [] → Origin news d e id a

/-- How an aggregator that follows its object came to be where it is. -/
inductive Follows (news : List Publication) (d e : Daemon) (id : WorkerId) (a : Aggregator) :
    Prop where
  | subscribed {b : Aggregator} : d.aggregators.get? id = some b → b.point = .starting →
      a.status = ∅ → a.monitors = ∅ → (∀ kind, kind.isFollowed = true → e.waiting a kind = []) →
      (∀ p ∈ news, p.event.change? = none) → Follows news d e id a
  | read {b : Aggregator} {node : String} : d.aggregators.get? id = some b →
      b.point.reads? = some node → a = { d.trackNode b node with point := a.point } →
      (∀ kind, e.waiting a kind = d.waiting b kind) →
      (∀ p ∈ news, p.event.change? = none) → Follows news d e id a
  | heeded {b : Aggregator} {kind : EventKind} {event : Event} : d.aggregators.get? id = some b →
      b.point = .running → a = b.heed event → kind.isFollowed = true →
      d.waiting b kind = event :: e.waiting a kind →
      (∀ k, k.isFollowed = true → k ≠ kind → e.waiting a k = d.waiting b k) →
      (∀ p ∈ news, p.event.change? = none) → Follows news d e id a
  /-- What it knows is as it was, and it did not come to read anything. -/
  | went {b : Aggregator} : d.aggregators.get? id = some b → b.point.follows = true →
      b.point.reads? = none → a = { b with point := a.point } →
      (∀ kind, kind.isFollowed = true → e.waiting a kind = d.waiting b kind) →
      (∀ p ∈ news, p.event.change? = none) → Follows news d e id a
  | heard : d.aggregators.get? id = some a →
      (∀ kind, kind.isFollowed = true →
        e.waiting a kind = d.waiting a kind ++ eventsFor kind a.path news) → Follows news d e id a

variable {d e : Daemon} {id : WorkerId} {a b : Aggregator} {news : List Publication}

/-! ## Subscriptions -/

/-- The subscription to a kind that is followed is among those of the aggregator. -/
theorem AggregatorSubscriptions.to_mem_ids {kind : EventKind} (followed : kind.isFollowed = true)
    (s : AggregatorSubscriptions) : s.to kind ∈ s.ids :=
  AggregatorSubscriptions.mem_ids (AggregatorSubscriptions.mem_kinds_iff.2 ⟨followed, rfl⟩)

/-- What waits for an aggregator is of the kind that it waits as, and about its object. -/
theorem Wired.about (wired : d.Wired a) {kind : EventKind} (followed : kind.isFollowed = true) :
    ∀ event ∈ d.waiting a kind, event.kind = kind ∧ event.IsAbout a.path.toString := by
  obtain ⟨s, found, _, about⟩ := wired kind followed
  rw [waiting, Bus.queue_of_find? found]
  exact about

/-- Subscriptions to different kinds are different ones. -/
theorem Wired.to_injective (wired : d.Wired a) {kind kind' : EventKind}
    (followed : kind.isFollowed = true) (followed' : kind'.isFollowed = true)
    (same : a.subscriptions.to kind' = a.subscriptions.to kind) : kind' = kind := by
  obtain ⟨s, found, isFor, _⟩ := wired kind followed
  obtain ⟨t, found', isFor', _⟩ := wired kind' followed'
  rw [same, found] at found'
  cases found'
  exact isFor'.1.symm.trans isFor.1

/-- Subscribers that are left as they are leave an aggregator wired. -/
theorem Wired.of_find (wired : d.Wired b) (path : a.path = b.path)
    (subscriptions : a.subscriptions = b.subscriptions)
    (finds : ∀ i s, d.bus.find? i = some s → s.kind.isFollowed = true → e.bus.find? i = some s) :
    e.Wired a ∧ ∀ kind, kind.isFollowed = true → e.waiting a kind = d.waiting b kind := by
  constructor
  · intro kind followed
    obtain ⟨s, found, isFor, about⟩ := wired kind followed
    rw [subscriptions, path]
    exact ⟨s, finds _ s found (by rw [isFor.1]; exact followed), isFor, about⟩
  · intro kind followed
    obtain ⟨s, found, isFor, _⟩ := wired kind followed
    rw [waiting, waiting, subscriptions, Bus.queue_of_find? found,
      Bus.queue_of_find? (finds _ s found (by rw [isFor.1]; exact followed))]

/-- Who takes nothing hears what is published about the object. -/
theorem Wired.hears (wired : d.Wired a) (complete : e.Complete) {t u : Records}
    (tells : t.Tells news u)
    (hears : ∀ i ∈ a.subscriptions.ids, ∀ s, d.bus.find? i = some s →
      ∃ t, e.bus.find? i = some t ∧ s.Hears t news) :
    e.Wired a ∧ ∀ kind, kind.isFollowed = true →
      e.waiting a kind = d.waiting a kind ++ eventsFor kind a.path news := by
  have each (kind : EventKind) (followed : kind.isFollowed = true) :
      ∃ s t, d.bus.find? (a.subscriptions.to kind) = some s ∧
        e.bus.find? (a.subscriptions.to kind) = some t ∧ t.IsFor kind [.path a.path] ∧
        (∀ event ∈ s.queue, event.kind = kind ∧ event.IsAbout a.path.toString) ∧
        t.queue = s.queue ++ eventsFor kind a.path news := by
    obtain ⟨s, found, isFor, about⟩ := wired kind followed
    obtain ⟨t, found', heard⟩ := hears _ (AggregatorSubscriptions.to_mem_ids followed _) s found
    have said : s.heard news = eventsFor kind a.path news := isFor.heard ⟨rfl, rfl⟩ news
    exact ⟨s, t, found, found', isFor.hears heard, about,
      by rw [heard.queue (complete.dropped found'), said]⟩
  constructor
  · intro kind followed
    obtain ⟨s, t, _, found', isFor, about, queue⟩ := each kind followed
    refine ⟨t, found', isFor, fun event waits => ?_⟩
    rw [queue] at waits
    rcases List.mem_append.1 waits with before | heard
    · exact about event before
    · exact tells.about (EventKind.tellsOfRecords_of_isFollowed followed) heard
  · intro kind followed
    obtain ⟨s, t, found, found', _, _, queue⟩ := each kind followed
    rw [waiting, waiting, Bus.queue_of_find? found, Bus.queue_of_find? found', queue]

/-- Who takes an event is left with the others. -/
theorem Wired.take (wired : d.Wired b) (path : a.path = b.path)
    (subscriptions : a.subscriptions = b.subscriptions) {kind : EventKind} {event : Event}
    (followed : kind.isFollowed = true) (next : d.bus.next? (b.subscriptions.to kind) = some event)
    (bus : e.bus = d.bus.take (b.subscriptions.to kind)) :
    e.Wired a ∧ d.waiting b kind = event :: e.waiting a kind ∧
      ∀ k, k.isFollowed = true → k ≠ kind → e.waiting a k = d.waiting b k := by
  have other (k : EventKind) (followed' : k.isFollowed = true) (different : k ≠ kind) :
      e.bus.find? (b.subscriptions.to k) = d.bus.find? (b.subscriptions.to k) := by
    rw [bus]
    exact Bus.find?_take_of_ne _ fun same =>
      different (wired.to_injective followed followed' same)
  obtain ⟨s, found, isFor, about⟩ := wired kind followed
  have taken : e.bus.find? (b.subscriptions.to kind) = some { s with queue := s.queue.tail } := by
    rw [bus]
    exact Bus.find?_take_self _ found
  refine ⟨?_, ?_, ?_⟩
  · intro k followed'
    rw [subscriptions, path]
    by_cases same : k = kind
    · subst same
      exact ⟨_, taken, isFor, fun event waits => about event (List.mem_of_mem_tail waits)⟩
    · rw [other k followed' same]
      exact wired k followed'
  · rw [waiting, waiting, subscriptions, Bus.queue_of_find? found, Bus.queue_of_find? taken]
    rw [Bus.next?, Bus.queue_of_find? found] at next
    obtain ⟨rest, queue⟩ := List.head?_eq_some_iff.1 next
    rw [queue]
    rfl
  · intro k followed' different
    rw [waiting, waiting, subscriptions, Bus.queue, other k followed' different, Bus.queue]

/-- What has nothing to take is empty. -/
theorem queue_of_receive {i : Nat} (nothing : d.receive i = none) : d.bus.queue i = [] :=
  List.head?_eq_none_iff.1 (Option.map_eq_none_iff.1 nothing)

/-- For an aggregator that has taken every event, none waits. -/
theorem waiting_of_nextForAggregator (waits : d.nextForAggregator a.subscriptions = none)
    {kind : EventKind} (followed : kind.isFollowed = true) : d.waiting a kind = [] :=
  queue_of_receive
    (receive_of_nextForAggregator waits (AggregatorSubscriptions.mem_kinds_iff.2 ⟨followed, rfl⟩))

/-! ## One step -/

/-- Every aggregator was there before, or was started. -/
theorem Turn.origin (turn : Turn news d e) (tidy : d.Tidy) (there : e.aggregators.get? id = some a) :
    Origin news d e id a := by
  -- An actor that is not this aggregator leaves it its subscriptions.
  have kept {b : Actor} {own : List Nat} (here : d.aggregators.get? id = some a)
      (different : b ≠ .aggregator id) (mine : own = d.owned b)
      (leaves : Leaves own news d e) : Origin news d e id a := by
    refine .kept here fun i member s found => leaves.hears i s found ?_
    have owns : i ∈ d.owned (.aggregator id) := by simpa [owned, here] using member
    rw [mine]
    exact tidy.apart.others owns found different
  cases turn with
  | aside _ notAggregator bypasses =>
    rw [bypasses.passes.aggregators] at there
    exact kept there (notAggregator id) rfl bypasses.passes.leaves
  | @aggregator id' b b' here _ move frame =>
    rw [frame.aggregators, SortedMap.get?_insert] at there
    split at there
    · rename_i same
      subst same
      cases there
      exact .moved here move frame
    · rename_i different
      refine kept (b := .aggregator id') there (fun same => different ?_) ?_ frame.leaves
      · cases same
        rfl
      · simp [owned, here]
  | @coordinator c c' here move staffs =>
    have before (there : d.aggregators.get? id = some a) : Origin news d e id a :=
      kept there Actor.noConfusion (owned_coordinator here).symm staffs.leaves
    have hired {p : ObjectPath} {b : Aggregator} (hires : Hires p b d e) : Origin news d e id a := by
      rw [hires.aggregators, SortedMap.get?_insert] at there
      split at there
      · rename_i same
        cases there
        refine .hired ?_ hires.point hires.status hires.monitors hires.mailbox
        rw [same, Option.eq_none_iff_forall_not_mem]
        exact fun b taken => Nat.lt_irrefl _ (tidy.given _ b taken)
      · exact before there
    cases move with
    | begin _ _ _ _ _ same | release _ _ _ _ same | ignore _ _ _ _ same | dispense _ _ _ same =>
      exact before (same ▸ there)
    | proceed _ _ _ _ _ _ same => exact before (same ▸ there)
    | hire _ _ _ _ hires | rehire _ _ hires => exact hired hires

/-- An aggregator has the statuses and the monitors of the same nodes after it heeded an
event. -/
theorem heed_aligned (aligned : ∀ node, a.monitors.contains node = a.status.contains node)
    (event : Event) (node : String) :
    (a.heed event).monitors.contains node = (a.heed event).status.contains node := by
  have inserted {α β : Type} {m : SortedMap String α} {m' : SortedMap String β} {node' : String}
      {v : α} (there : m.contains node' = true) (same : m'.contains node = m.contains node) :
      m'.contains node = (m.insert node' v).contains node := by
    rw [SortedMap.contains_insert, same]
    by_cases here : node = node'
    · rw [here, there, Bool.or_true]
    · simp [here]
  unfold Aggregator.heed
  split
  · split
    · dsimp only
      rw [SortedMap.contains_erase, SortedMap.contains_erase, aligned]
    · exact aligned node
  · split <;> exact aligned node
  · rename_i node' value
    split
    · rename_i tracked
      exact inserted tracked (aligned node)
    · exact aligned node
  · rename_i node' value
    split
    · rename_i tracked
      exact (inserted ((aligned node').trans tracked) (aligned node).symm).symm
    · exact aligned node
  · exact aligned node

/-- An aggregator that has read the records of a node. -/
theorem Fit.reads (fit : d.Fit b) (here : d.aggregators.get? id = some b)
    (mute : ∀ p ∈ news, p.event.change? = none) {node : String}
    (reads : b.point.reads? = some node) {point : AggregatorPoint} (begun : point ≠ .starting)
    (bus : e.bus = d.bus) : e.Fit { d.trackNode b node with point } ∧
      (point.follows = true → Follows news d e id { d.trackNode b node with point }) := by
  obtain ⟨is, _⟩ := (fit.wired (AggregatorPoint.follows_of_reads reads)).of_find
    (a := { d.trackNode b node with point }) rfl rfl
    fun i s found _ => by rw [bus]; exact found
  refine ⟨⟨fit.mailbox, fun starting => absurd starting begun, fun node' => ?_, fun _ => is⟩,
    fun _ => .read here reads rfl (fun kind => ?_) mute⟩
  · simp only [trackNode, SortedMap.contains_insert, fit.aligned]
  · rw [waiting, waiting, bus]
    rfl

/-- An aggregator that has gone on, with what it knew. -/
theorem Fit.goes (fit : d.Fit b) (here : d.aggregators.get? id = some b)
    (mute : ∀ p ∈ news, p.event.change? = none) (follows : b.point.follows = true)
    (reads : b.point.reads? = none) {point : AggregatorPoint} (begun : point ≠ .starting)
    (finds : ∀ i s, d.bus.find? i = some s → s.kind.isFollowed = true → e.bus.find? i = some s) :
    e.Fit { b with point } ∧ (point.follows = true → Follows news d e id { b with point }) := by
  obtain ⟨is, waits⟩ := (fit.wired follows).of_find (a := { b with point }) rfl rfl finds
  exact ⟨⟨fit.mailbox, fun starting => absurd starting begun, fit.aligned, fun _ => is⟩,
    fun _ => .went here follows reads rfl waits mute⟩

/-- An aggregator that follows its object no more. -/
theorem Fit.leaves (fit : d.Fit b) (point : AggregatorPoint) (begun : point ≠ .starting)
    (leaves : point.follows = false) : e.Fit { b with point } ∧
      (point.follows = true → Follows news d e id { b with point }) := by
  refine ⟨⟨fit.mailbox, fun starting => absurd starting begun, fit.aligned, fun follows => ?_⟩,
    fun follows => ?_⟩
  · exact absurd follows (Bool.eq_false_iff.1 leaves)
  · exact absurd follows (Bool.eq_false_iff.1 leaves)

/-- An aggregator that has subscribed. -/
theorem Fit.subscribes (fit : d.Fit b) (here : d.aggregators.get? id = some b)
    (mute : ∀ p ∈ news, p.event.change? = none) (starting : b.point = .starting)
    {s : AggregatorSubscriptions} (point : AggregatorPoint) (begun : point ≠ .starting)
    (finds : ∀ x ∈ s.kinds, e.bus.find? x.1 = some ⟨x.1, x.2, [.path b.path], [], 0⟩) :
    e.Fit { b with subscriptions := s, point } ∧
      Follows news d e id { b with subscriptions := s, point } := by
  obtain ⟨status, monitors⟩ := fit.fresh starting
  have each (kind : EventKind) (followed : kind.isFollowed = true) :=
    finds _ (AggregatorSubscriptions.mem_kinds_iff.2 ⟨followed, rfl⟩)
  refine ⟨⟨fit.mailbox, fun is => absurd is begun, fit.aligned, fun _ kind followed => ?_⟩,
    .subscribed here starting status monitors (fun kind followed => ?_) mute⟩
  · exact ⟨_, each kind followed, ⟨rfl, rfl⟩, fun _ waits => by cases waits⟩
  · exact Bus.queue_of_find? (each kind followed)

/-- An aggregator that has heeded an event. -/
theorem Fit.heeds (fit : d.Fit b) (here : d.aggregators.get? id = some b)
    (mute : ∀ p ∈ news, p.event.change? = none) (runs : b.point = .running) {kind : EventKind}
    {event : Event} (followed : kind.isFollowed = true)
    (next : d.bus.next? (b.subscriptions.to kind) = some event)
    (bus : e.bus = d.bus.take (b.subscriptions.to kind)) :
    e.Fit (b.heed event) ∧ Follows news d e id (b.heed event) := by
  obtain ⟨path, mailbox, keeps⟩ := heed_keeps b event runs
  obtain ⟨is, first, others⟩ := (fit.wired (by rw [runs]; rfl)).take path
    (heed_subscriptions b event) followed next bus
  refine ⟨⟨mailbox.trans fit.mailbox, fun starting => ?_, heed_aligned fit.aligned event,
    fun _ => is⟩, .heeded here runs rfl followed first others mute⟩
  rw [starting] at keeps
  cases keeps

/-- An aggregator that has stepped. -/
theorem Fit.moved (fit : d.Fit b) (here : d.aggregators.get? id = some b)
    (move : AggregatorMove d b a e) (mute : ∀ p ∈ news, p.event.change? = none) :
    e.Fit a ∧ (a.point.follows = true → Follows news d e id a) := by
  have same (bus : e.bus = d.bus) (i : Nat) (s : Subscriber) (found : d.bus.find? i = some s)
      (_ : s.kind.isFollowed = true) : e.bus.find? i = some s := by rw [bus]; exact found
  cases move with
  | exit _ commands | refresh _ commands =>
    rw [fit.mailbox] at commands
    cases commands
  | track point bus =>
    exact fit.reads here mute (by rw [point]; rfl) AggregatorPoint.noConfusion bus
  | join point bus =>
    exact fit.reads here mute (by rw [point]; rfl) AggregatorPoint.noConfusion bus
  | begin point _ bus =>
    exact fit.goes here mute (by rw [point]; rfl) (by rw [point]; rfl) AggregatorPoint.noConfusion
      (same bus)
  | publish point finds =>
    refine fit.goes here mute (by rw [point]; rfl) (by rw [point]; rfl) AggregatorPoint.noConfusion ?_
    intro i s found followed
    refine finds i s found fun other => ?_
    rw [other] at followed
    cases followed
  | abandon | leave | finish => exact fit.leaves _ AggregatorPoint.noConfusion rfl
  | drain =>
    have empty := fit.mailbox
    cases b
    cases empty
    exact fit.leaves _ AggregatorPoint.noConfusion rfl
  | subscribe point finds =>
    obtain ⟨is, follows⟩ := fit.subscribes here mute point (.tracking b.scope)
      AggregatorPoint.noConfusion finds
    exact ⟨is, fun _ => follows⟩
  | heed runs mine next bus =>
    obtain ⟨followed, rfl⟩ := AggregatorSubscriptions.mem_kinds_iff.1 mine
    obtain ⟨is, follows⟩ := fit.heeds here mute runs followed next bus
    exact ⟨is, fun _ => follows⟩

/-- What an aggregator came from, and that it is fit. -/
theorem Origin.fit (origin : Origin news d e id a) (tells : d.records.Tells news e.records)
    (complete : e.Complete) (fit : ∀ b, d.aggregators.get? id = some b → d.Fit b) :
    e.Fit a ∧ (a.point.follows = true → Follows news d e id a) := by
  cases origin with
  | hired _ point status monitors mailbox =>
    refine ⟨⟨mailbox, fun _ => ⟨status, monitors⟩, fun node => ?_, fun follows => ?_⟩,
      fun follows => ?_⟩
    · rw [status, monitors]
      rfl
    · rw [point] at follows
      cases follows
    · rw [point] at follows
      cases follows
  | kept here hears =>
    obtain ⟨mailbox, fresh, aligned, wired⟩ := fit a here
    exact ⟨⟨mailbox, fresh, aligned, fun follows =>
        ((wired follows).hears complete tells hears).1⟩,
      fun follows => .heard here ((wired follows).hears complete tells hears).2⟩
  | moved here move frame => exact (fit _ here).moved here move frame.mute

/-! ## Lives -/

/-- Nobody missed an event in any state that was passed through. -/
def CompleteIn (past : List Daemon) : Prop := ∀ s ∈ past, s.Complete

instance (past : List Daemon) : Decidable (CompleteIn past) :=
  inferInstanceAs (Decidable (∀ _ ∈ _, _))

/-- Every aggregator is fit. -/
def AllFit (d : Daemon) : Prop := ∀ id a, d.aggregators.get? id = some a → d.Fit a

/-- In a step of a life in which nobody misses anything. -/
theorem Turn.fit (turn : Turn news d e) (tidy : d.Tidy) (complete : e.Complete) (fit : d.AllFit)
    (there : e.aggregators.get? id = some a) :
    e.Fit a ∧ (a.point.follows = true → Follows news d e id a) :=
  (turn.origin tidy there).fit turn.reports.tells complete fun b => fit id b

/-- No aggregator has subscribed yet. -/
def AllStarting (d : Daemon) : Prop :=
  ∀ id a, d.aggregators.get? id = some a → a.point = .starting ∧ a.status = ∅ ∧ a.monitors = ∅ ∧
    a.mailbox = []

/-- Aggregators that have not subscribed are fit. -/
theorem AllStarting.allFit (starting : d.AllStarting) : d.AllFit := by
  intro id a there
  obtain ⟨point, status, monitors, mailbox⟩ := starting id a there
  refine ⟨mailbox, fun _ => ⟨status, monitors⟩, fun node => ?_, fun follows => ?_⟩
  · rw [status, monitors]
    rfl
  · rw [point] at follows
    cases follows

/-- What was published since the state before the last one of a life, the latest first. -/
def newsSince : List Daemon → Daemon → List Publication
  | [], _ => []
  | d :: _, e => e.published.take (e.published.length - d.published.length)

/-- What a turn publishes is what was published since. -/
theorem Turn.newsSince (turn : Turn news d e) (before : List Daemon) :
    newsSince (d :: before) e = news.reverse := by
  rw [Daemon.newsSince, turn.reports.published]
  simp

/-- The node whose records an aggregator reads with its next step. -/
def reads? (d : Daemon) (id : WorkerId) : Option String :=
  (d.aggregators.get? id).bind fun a => a.point.reads?

/-- The events of a kind that an aggregator has not taken, if it has subscribed. -/
def waitingFor (d : Daemon) (id : WorkerId) (kind : EventKind) : List Event :=
  ((d.aggregators.get? id).map fun a => d.waiting a kind).getD []

/-- The node that an aggregator reads next is what its record says. -/
theorem reads?_of_get? (there : d.aggregators.get? id = some a) : d.reads? id = a.point.reads? := by
  rw [reads?, there, Option.bind_some]

/-- What waits for an aggregator is what its record says. -/
theorem waitingFor_of_get? (there : d.aggregators.get? id = some a) (kind : EventKind) :
    d.waitingFor id kind = d.waiting a kind := by
  rw [waitingFor, there]
  rfl

/-- What holds at the beginning of a life in which nobody misses an event, and is kept by
every turn, holds throughout it; a turn may rely on all that was passed through and on
the aggregators being fit. -/
theorem Life.induction_fit {start : Daemon} {past : List Daemon}
    {motive : List Daemon → Daemon → Prop} (life : Life start past d) (tidy : start.Tidy)
    (starting : start.AllStarting) (keyed : KeyedIn past) (complete : CompleteIn past)
    (begins : motive [start] start)
    (goes : ∀ past d e news, Life start past d → e.Complete → d.Tidy → d.AllFit → e.AllFit →
      Turn news d e → motive past d → motive (e :: past) e) : d.AllFit ∧ motive past d := by
  have whole := life.induction tidy keyed
    (motive := fun past d => CompleteIn past → d.AllFit ∧ motive past d)
    (fun _ => ⟨starting.allFit, begins⟩)
    (fun past d e news life _ was is turn before complete => by
      obtain ⟨fit, holds⟩ := before fun s member => complete s (List.mem_cons_of_mem _ member)
      have complete := complete e (List.mem_cons_self ..)
      have fit' : e.AllFit := fun id a there => (turn.fit was complete fit there).1
      exact ⟨fit', goes past d e news life complete was fit fit' turn holds⟩)
  exact whole.2 complete

end Daemon

end ClusterNode
