import ClusterNode.Proofs.Daemon.Upkeep

/-!
# How fresh the aggregates are

An aggregator has copies of the statuses and of the monitors of the nodes that it tracks. It
reads them from the store when it takes a node up, and hears of updates. It does not hear of a
status or a monitor that is deleted while the configuration stays, nor takes back an update
that waits when the node leaves and joins again. So a copy is the record of the node as long
as the node has one, and then stays what the record was last: `latest`.

`Life.presents_latest` says that the store has the aggregate of those, whenever the aggregator
waits. It is not the aggregate of what the store has of the nodes: `stale_of_deleted` and
`stale_of_rejoined` are lives in which a status that is deleted stays in the aggregate. That is
a fault.
-/

namespace ClusterNode

/-- The value told last of an instance, among events in their order. -/
def Facet.lastIn {α : Type} (f : Facet α) (key node : String) (events : List Event) : Option α :=
  events.reverse.findSome? (f.told key node)

namespace Facet

variable {α : Type} {f : Facet α} {key node : String} {event : Event}

/-- What was told last in two lists is what the second one tells, or else the first. -/
theorem lastIn_append (first later : List Event) : f.lastIn key node (first ++ later) =
    (f.lastIn key node later).or (f.lastIn key node first) := by
  rw [lastIn, List.reverse_append, List.findSome?_append]
  rfl

/-- What was told last is what the later events tell, or else the first one. -/
theorem lastIn_cons (event : Event) (later : List Event) : f.lastIn key node (event :: later) =
    (f.lastIn key node later).or (f.told key node event) := by
  rw [← List.singleton_append, lastIn_append]
  simp [lastIn]

/-- Only updates tell of a value. -/
theorem told_eq_none (other : event.kind ≠ f.updated) : f.told key node event = none := by
  cases told : f.told key node event with
  | none => rfl
  | some v => exact absurd (kind_of_now (told_eq_some_iff.1 told)) other

/-- Who speaks of no record tells of no value. -/
theorem lastTold_of_mute {latestFirst : List Publication}
    (mute : ∀ p ∈ latestFirst, p.event.change? = none) : f.lastTold key node latestFirst = none := by
  rw [lastTold, List.findSome?_eq_none_iff]
  intro p said
  rw [Facet.told, now, mute p said]
  rfl

/-- What an event about an object tells of a node. -/
theorem told_of_change {c : RecordChange} (told : event.change? = some c)
    (path : c.path.toString = key) :
    f.told key node event = if c.node = node then (f.now? c.news).join else none := by
  rw [Facet.told, now, told, Option.bind_some]
  by_cases here : c.node = node <;> simp [path, here]

end Facet

/-- What is looked up in a map where the value of a key that it has was set is that value, or
what was there before. -/
private theorem get?_update {α : Type} {m : SortedMap String α} {n node : String} {value v : α}
    (found : (if m.contains n then m.insert n value else m).get? node = some v) :
    (if n = node then some value else none) = some v ∨
      (if n = node then some value else none) = none ∧ m.get? node = some v := by
  by_cases same : n = node
  · subst same
    split at found
    · rw [SortedMap.get?_insert_self] at found
      exact .inl ((if_pos rfl).trans found)
    · rename_i absent
      exact absurd (SortedMap.contains_iff.2 ⟨v, found⟩) absent
  · refine .inr ⟨if_neg same, ?_⟩
    split at found
    · rwa [SortedMap.get?_insert_of_ne _ _ (Ne.symm same)] at found
    · exact found

namespace Aggregator

variable (a : Aggregator) (path : ObjectPath) (n : String)

/-- What an aggregator has copied, when it has heeded an update of a status. -/
theorem heed_statusUpdated (value : InstanceStatus) :
    (a.heed (.instanceStatusUpdated path n value)).status =
        (if a.status.contains n then a.status.insert n value else a.status) ∧
      (a.heed (.instanceStatusUpdated path n value)).monitors = a.monitors := by
  dsimp only [heed]
  split <;> exact ⟨rfl, rfl⟩

/-- What an aggregator has copied, when it has heeded an update of a monitor. -/
theorem heed_monitorUpdated (value : InstanceMonitor) :
    (a.heed (.instanceMonitorUpdated path n value)).status = a.status ∧
      (a.heed (.instanceMonitorUpdated path n value)).monitors =
        (if a.status.contains n then a.monitors.insert n value else a.monitors) := by
  dsimp only [heed]
  split <;> exact ⟨rfl, rfl⟩

/-- Who hears of a configuration copies nothing. -/
theorem heed_configUpdated (value : InstanceConfig) :
    (a.heed (.configUpdated path n value)).status = a.status ∧
      (a.heed (.configUpdated path n value)).monitors = a.monitors := by
  dsimp only [heed]
  split <;> exact ⟨rfl, rfl⟩

/-- What an aggregator has copied, when it has given up a node. -/
theorem heed_configDeleted {node : String} :
    (∀ v, (a.heed (.configDeleted path n)).status.get? node = some v →
        a.status.get? node = some v) ∧
      ∀ v, (a.heed (.configDeleted path n)).monitors.get? node = some v →
        a.monitors.get? node = some v := by
  dsimp only [heed]
  split
  · simp only [SortedMap.get?_erase, Option.ite_none_left_eq_some]
    exact ⟨fun _ => And.right, fun _ => And.right⟩
  · exact ⟨fun _ => id, fun _ => id⟩

end Aggregator

/-- One of the copies that an aggregator has of the records of nodes. -/
structure Copying (α : Type) [Inhabited α] where
  facet : Facet α
  copy : Aggregator → SortedMap String α
  followed : facet.updated.isFollowed = true
  copy_congr : ∀ {a b : Aggregator}, a.status = b.status → a.monitors = b.monitors →
    copy a = copy b
  copy_empty : ∀ {a : Aggregator}, a.status = ∅ → a.monitors = ∅ → copy a = ∅
  copy_track : ∀ (d : Daemon) (a : Aggregator) (node : String), copy (d.trackNode a node) =
    (copy a).insert node ((facet.get (d.instanceOf a.path node)).getD default)
  contains_copy : ∀ {a : Aggregator}, (∀ node, a.monitors.contains node = a.status.contains node) →
    ∀ node, (copy a).contains node = a.status.contains node
  /-- What is heeded is copied, if it tells of the record, and no other copy is made. -/
  copy_heed : ∀ {a : Aggregator} {event : Event} {key node : String} {v : α},
    (∀ node, a.monitors.contains node = a.status.contains node) → event.IsAbout key →
    (copy (a.heed event)).get? node = some v → facet.told key node event = some v ∨
      facet.told key node event = none ∧ (copy a).get? node = some v

namespace Copying

/-- The statuses that an aggregator has. -/
def status : Copying InstanceStatus where
  facet := .status
  copy a := a.status
  followed := rfl
  copy_congr same _ := same
  copy_empty none _ := none
  copy_track _ _ _ := rfl
  contains_copy _ _ := rfl
  copy_heed := by
    rintro a event key node v _ ⟨c, told, path⟩ copied
    cases event with
    | instanceStatusUpdated p n value =>
      cases told
      rw [Facet.told_of_change rfl path]
      rw [(a.heed_statusUpdated p n value).1] at copied
      exact get?_update copied
    | instanceMonitorUpdated p n value =>
      rw [(a.heed_monitorUpdated p n value).1] at copied
      exact .inr ⟨Facet.told_eq_none EventKind.noConfusion, copied⟩
    | configUpdated p n value =>
      rw [(a.heed_configUpdated p n value).1] at copied
      exact .inr ⟨Facet.told_eq_none EventKind.noConfusion, copied⟩
    | configDeleted p n =>
      exact .inr ⟨Facet.told_eq_none EventKind.noConfusion, (a.heed_configDeleted p n).1 v copied⟩
    | _ => exact .inr ⟨Facet.told_eq_none EventKind.noConfusion, copied⟩

/-- The monitors that an aggregator has. -/
def monitor : Copying InstanceMonitor where
  facet := .monitor
  copy a := a.monitors
  followed := rfl
  copy_congr _ same := same
  copy_empty _ none := none
  copy_track _ _ _ := rfl
  contains_copy aligned := aligned
  copy_heed := by
    rintro a event key node v aligned ⟨c, told, path⟩ copied
    cases event with
    | instanceStatusUpdated p n value =>
      rw [(a.heed_statusUpdated p n value).2] at copied
      exact .inr ⟨Facet.told_eq_none EventKind.noConfusion, copied⟩
    | instanceMonitorUpdated p n value =>
      cases told
      rw [Facet.told_of_change rfl path]
      rw [(a.heed_monitorUpdated p n value).2, ← aligned] at copied
      exact get?_update copied
    | configUpdated p n value =>
      rw [(a.heed_configUpdated p n value).2] at copied
      exact .inr ⟨Facet.told_eq_none EventKind.noConfusion, copied⟩
    | configDeleted p n =>
      exact .inr ⟨Facet.told_eq_none EventKind.noConfusion, (a.heed_configDeleted p n).2 v copied⟩
    | _ => exact .inr ⟨Facet.told_eq_none EventKind.noConfusion, copied⟩

end Copying

namespace Daemon

/-- The value that a record of a node had last, since the aggregator read it when no update of it
waited; the states of the life are given, latest first. -/
def latest {α : Type} (f : Facet α) (id : WorkerId) (key node : String) : List Daemon → Option α
  | [] => none
  | e :: past =>
    if e.reads? id = some node ∧ (f.lastIn key node (e.waitingFor id f.updated)).isNone then
      f.get (e.records node key)
    else (f.get (e.records node key)).or
      ((f.lastTold key node (newsSince past e)).or (latest f id key node past))

/-- An update that waits for an aggregator of an object says what the record was last. -/
def Awaited {α : Type} (f : Facet α) (key : String) (past : List Daemon) (d : Daemon) : Prop :=
  ∀ id a, d.aggregators.get? id = some a → a.path.toString = key → a.point.follows = true →
    ∀ node v, f.lastIn key node (d.waiting a f.updated) = some v →
      latest f id key node past = some v

/-- What an aggregator of an object has copied is what the record was last, unless it is about to
read the record or an update waits. -/
def Fresh {α : Type} [Inhabited α] (c : Copying α) (key : String) (past : List Daemon)
    (d : Daemon) : Prop :=
  ∀ id a, d.aggregators.get? id = some a → a.path.toString = key → a.point.follows = true →
    ∀ node, a.point.reads? ≠ some node →
      c.facet.lastIn key node (d.waiting a c.facet.updated) = none →
      ∀ v, (c.copy a).get? node = some v → v = (latest c.facet id key node past).getD default

/-- For every node that an aggregator tracks, the record that the store has of it. -/
def current {α : Type} [Inhabited α] (f : Facet α) (a : Aggregator) (d : Daemon) :
    SortedMap String α :=
  a.status.tabulate fun node => (f.get (d.records node a.path.toString)).getD default

/-- For every node that an aggregator tracks, the record that the store has of it, or what it
was last. -/
def lastKnown {α : Type} [Inhabited α] (f : Facet α) (id : WorkerId) (a : Aggregator)
    (past : List Daemon) (d : Daemon) : SortedMap String α :=
  a.status.tabulate fun node => ((f.get (d.records node a.path.toString)).or
    (latest f id a.path.toString node past)).getD default

/-- What an aggregator knows of a node was the record last, but the record is gone. -/
def Outlived {α : Type} (f : Facet α) (id : WorkerId) (a : Aggregator) (past : List Daemon)
    (d : Daemon) (node : String) : Prop :=
  f.get (d.records node a.path.toString) = none ∧ latest f id a.path.toString node past ≠ none

instance {α : Type} [DecidableEq α] (f : Facet α) (id : WorkerId) (a : Aggregator)
    (past : List Daemon) (d : Daemon) (node : String) : Decidable (Outlived f id a past d node) :=
  inferInstanceAs (Decidable (_ ∧ _))

variable {s : DaemonSettings} {startedAt : Timestamp} {d e start : Daemon} {id : WorkerId}
  {a b : Aggregator} {past before : List Daemon} {news : List Publication} {key node : String}

section Latest

variable {α : Type} {f : Facet α}

/-- The record that a node has is what it was last. -/
theorem get_or_latest : (f.get (d.records node key)).or (latest f id key node (d :: before)) =
    latest f id key node (d :: before) := by
  rw [latest]
  split
  · exact Option.or_self
  · rw [← Option.or_assoc, Option.or_self]

/-- What a record was last is what is told of it, and what it was last before. -/
theorem latest_cons (turn : Turn news d e)
    (other : e.reads? id ≠ some node ∨ ∃ v, f.lastIn key node (e.waitingFor id f.updated) = some v) :
    latest f id key node (e :: d :: before) =
      (f.lastTold key node news.reverse).or (latest f id key node (d :: before)) := by
  rw [latest, if_neg, turn.newsSince]
  · cases there : f.get (e.records node key) with
    | none => rfl
    | some w =>
      have said := Facet.lastTold_or_get turn.reports.tells there
      calc
        _ = some w := rfl
        _ = ((f.lastTold key node news.reverse).or (f.get (d.records node key))).or
            (latest f id key node (d :: before)) := by rw [said]; rfl
        _ = _ := by rw [Option.or_assoc, get_or_latest]
  · rintro ⟨reads, none⟩
    rcases other with other | ⟨v, waits⟩
    · exact other reads
    · rw [waits] at none
      cases none

/-- A step that tells of no record leaves what the record was last, unless the aggregator is
about to read the node then and no update of it waits. -/
theorem latest_cons_of_mute (turn : Turn news d e) (mute : ∀ p ∈ news, p.event.change? = none)
    (other : e.reads? id ≠ some node ∨ ∃ v, f.lastIn key node (e.waitingFor id f.updated) = some v) :
    latest f id key node (e :: d :: before) = latest f id key node (d :: before) := by
  rw [latest_cons turn other, Facet.lastTold_of_mute fun p new => mute p (List.mem_reverse.1 new)]
  rfl

/-- What was told last of those that waited for an aggregator is told last of those that wait still,
or by the event that it heeded. -/
theorem lastIn_of_heeded (wired : d.Wired b) {kind : EventKind} {event : Event}
    (is : kind.isFollowed = true) (first : d.waiting b kind = event :: e.waiting a kind)
    (others : ∀ k, k.isFollowed = true → k ≠ kind → e.waiting a k = d.waiting b k)
    (followed : f.updated.isFollowed = true) :
    f.lastIn key node (d.waiting b f.updated) =
      (f.lastIn key node (e.waiting a f.updated)).or (f.told key node event) := by
  by_cases mine : kind = f.updated
  · rw [← mine, first, Facet.lastIn_cons]
  · have ofKind := (wired.about is event (by rw [first]; exact List.mem_cons_self ..)).1
    rw [← others _ followed (Ne.symm mine), Facet.told_eq_none (by rw [ofKind]; exact mine),
      Option.or_none]

/-- Whatever happens next, an update that waits says what the record was last. -/
theorem Awaited.turn (awaited : Awaited f key (d :: before) d) (followed : f.updated.isFollowed = true)
    (turn : Turn news d e) (tidy : d.Tidy) (complete : e.Complete) (fit : d.AllFit) :
    Awaited f key (e :: d :: before) e := by
  intro id a there path follows node v waits
  have other : e.reads? id ≠ some node ∨ ∃ v, f.lastIn key node (e.waitingFor id f.updated) = some v :=
    .inr ⟨v, by rw [waitingFor_of_get? there]; exact waits⟩
  have quietly {b : Aggregator} (here : d.aggregators.get? id = some b) (path : b.path.toString = key)
      (follows : b.point.follows = true) (mute : ∀ p ∈ news, p.event.change? = none)
      (waited : f.lastIn key node (d.waiting b f.updated) = some v) :
      latest f id key node (e :: d :: before) = some v := by
    rw [latest_cons_of_mute turn mute other]
    exact awaited id b here path follows node v waited
  cases (turn.fit tidy complete fit there).2 follows with
  | subscribed _ _ _ _ nothing =>
    rw [nothing _ followed] at waits
    cases waits
  | read here reading same stays mute =>
    refine quietly here ?_ (AggregatorPoint.follows_of_reads reading) mute (stays _ ▸ waits)
    rw [← path, same]
    rfl
  | @heeded b kind event here runs same is first others mute =>
    have follows' : b.point.follows = true := by rw [runs]; rfl
    refine quietly here ?_ follows' mute ?_
    · rw [← path, same, (heed_keeps b event runs).1]
    · rw [lastIn_of_heeded ((fit id b here).wired follows') is first others followed, waits]
      rfl
  | went here following _ same stays mute =>
    refine quietly here ?_ following mute (stays _ followed ▸ waits)
    rw [← path, same]
  | heard here hears =>
    subst path
    rw [hears _ followed, Facet.lastIn_append, Facet.lastIn,
      Facet.findSome?_eventsFor turn.reports.tells] at waits
    rw [latest_cons turn other]
    cases told : f.lastTold a.path.toString node news.reverse with
    | some w =>
      rw [told] at waits
      exact waits
    | none =>
      rw [told] at waits
      exact awaited id a here rfl follows node v waits

end Latest

section Copies

variable {α : Type} [Inhabited α] {c : Copying α}

/-- Whatever happens next, what an aggregator has copied stays fresh. -/
theorem Fresh.turn (fresh : Fresh c key (d :: before) d)
    (awaited : Awaited c.facet key (d :: before) d) (turn : Turn news d e) (tidy : d.Tidy)
    (complete : e.Complete) (fit : d.AllFit) : Fresh c key (e :: d :: before) e := by
  intro id a there path follows node reads nothing v copied
  have followed := c.followed
  have other : e.reads? id ≠ some node ∨
      ∃ v, c.facet.lastIn key node (e.waitingFor id c.facet.updated) = some v :=
    .inl (by rw [reads?_of_get? there]; exact reads)
  cases (turn.fit tidy complete fit there).2 follows with
  | subscribed _ _ status monitors =>
    rw [c.copy_empty status monitors] at copied
    cases copied
  | @read b read here reading same stays mute =>
    rw [latest_cons_of_mute turn mute other]
    have path' : b.path.toString = key := by rw [← path, same]; rfl
    rw [stays] at nothing
    have copies : c.copy a = c.copy (d.trackNode b read) := by
      rw [same]
      exact c.copy_congr rfl rfl
    rw [copies, c.copy_track, SortedMap.get?_insert] at copied
    split at copied
    · rename_i mine
      subst mine
      have clean : d.reads? id = some node ∧
          (c.facet.lastIn key node (d.waitingFor id c.facet.updated)).isNone :=
        ⟨(reads?_of_get? here).trans reading, by rw [waitingFor_of_get? here, nothing]; rfl⟩
      rw [instanceOf_eq tidy.isOpen, path'] at copied
      rw [latest, if_pos clean]
      exact (Option.some.inj copied).symm
    · rename_i different
      refine fresh id b here path' (AggregatorPoint.follows_of_reads reading) node ?_ nothing v copied
      rw [reading]
      exact fun same => different (Option.some.inj same).symm
  | @heeded b kind event here runs same is first others mute =>
    rw [latest_cons_of_mute turn mute other]
    have path' : b.path.toString = key := by rw [← path, same, (heed_keeps b event runs).1]
    have follows' : b.point.follows = true := by rw [runs]; rfl
    have fits := fit id b here
    have about : event.IsAbout key := by
      rw [← path']
      exact ((fits.wired follows').about is event (by rw [first]; exact List.mem_cons_self ..)).2
    have waited : c.facet.lastIn key node (d.waiting b c.facet.updated) =
        c.facet.told key node event := by
      rw [lastIn_of_heeded (fits.wired follows') is first others followed, nothing]
      rfl
    rw [same] at copied
    rcases c.copy_heed fits.aligned about copied with told | ⟨silent, copied⟩
    · rw [awaited id b here path' follows' node v (waited.trans told)]
      rfl
    · refine fresh id b here path' follows' node ?_ (waited.trans silent) v copied
      rw [runs]
      exact fun reads => nomatch reads
  | @went b here following at_rest same stays mute =>
    rw [latest_cons_of_mute turn mute other]
    rw [stays _ followed] at nothing
    have copies : c.copy a = c.copy b := by
      rw [same]
      exact c.copy_congr rfl rfl
    refine fresh id b here ?_ following node (fun reads => ?_) nothing v (copies ▸ copied)
    · rw [← path, same]
    · rw [at_rest] at reads
      cases reads
  | heard here hears =>
    subst path
    rw [hears _ followed, Facet.lastIn_append, Facet.lastIn,
      Facet.findSome?_eventsFor turn.reports.tells, Option.or_eq_none_iff] at nothing
    rw [latest_cons turn other, nothing.1]
    exact fresh id a here rfl follows node reads nothing.2 v copied

/-- What no copy outlives is known as it is. -/
theorem lastKnown_eq_current {f : Facet α} (kept : ∀ node, a.status.contains node = true →
    ¬ Outlived f id a past d node) : lastKnown f id a past d = current f a d := by
  refine SortedMap.tabulate_congr fun node tracked => ?_
  cases held : f.get (d.records node a.path.toString) with
  | some v => rfl
  | none =>
    have nothing : latest f id a.path.toString node past = none :=
      Classical.byContradiction fun known => kept node tracked ⟨held, known⟩
    rw [nothing]
    rfl

/-- Along a life, what an aggregator has copied is fresh. -/
theorem Life.fresh (life : Life start past d) (tidy : start.Tidy) (starting : start.AllStarting)
    (keyed : KeyedIn past) (complete : CompleteIn past) (c : Copying α) (key : String) :
    d.AllFit ∧ Fresh c key past d := by
  have whole := life.induction_fit
    (motive := fun past d => Awaited c.facet key past d ∧ Fresh c key past d)
    tidy starting keyed complete ⟨?_, ?_⟩ ?_
  · exact ⟨whole.1, whole.2.2⟩
  · intro id a there _ follows
    rw [(starting id a there).1] at follows
    cases follows
  · intro id a there _ follows
    rw [(starting id a there).1] at follows
    cases follows
  · rintro past d e news life complete tidy fit _ turn ⟨awaited, fresh⟩
    obtain ⟨before, rfl⟩ := life.head
    exact ⟨awaited.turn c.followed turn tidy complete fit,
      fresh.turn awaited turn tidy complete fit⟩

/-- What an aggregator has copied when it waits. -/
theorem Life.copy_eq (life : Life start past d) (tidy : start.Tidy) (starting : start.AllStarting)
    (keyed : KeyedIn past) (complete : CompleteIn past) (c : Copying α)
    (there : d.aggregators.get? id = some a) (runs : a.point = .running)
    (waits : d.nextForAggregator a.subscriptions = none) :
    c.copy a = lastKnown c.facet id a past d := by
  obtain ⟨fit, fresh⟩ := life.fresh tidy starting keyed complete c a.path.toString
  obtain ⟨before, rfl⟩ := life.head
  refine SortedMap.eq_tabulate (c.contains_copy (fit id a there).aligned) fun node v copied => ?_
  rw [get_or_latest]
  refine fresh id a there rfl (by rw [runs]; rfl) node ?_ ?_ v copied
  · rw [runs]
    exact fun reads => nomatch reads
  · rw [waiting_of_nextForAggregator waits c.followed]
    rfl

end Copies

/-- The store has the aggregate of what the records of the nodes were last, whenever the only
aggregator of an object waits. -/
theorem Life.presents_lastKnown (life : Life start past d) (tidy : start.Tidy)
    (starting : start.AllStarting) (keyed : KeyedIn past) (complete : CompleteIn past)
    (there : d.aggregators.get? id = some a) (sole : ∀ s ∈ past, s.Sole a.path.toString)
    (runs : a.point = .running) (waits : d.nextForAggregator a.subscriptions = none) :
    d.objects.get? a.path.toString =
      some (aggregate (lastKnown .status id a past d) (lastKnown .monitor id a past d)) := by
  have status : a.status = lastKnown .status id a past d :=
    life.copy_eq tidy starting keyed complete .status there runs waits
  have monitors : a.monitors = lastKnown .monitor id a past d :=
    life.copy_eq tidy starting keyed complete .monitor there runs waits
  rw [life.presented tidy keyed starting sole id a there rfl (by rw [runs]; rfl)]
  rw [← status, ← monitors]

/-! ## A node with one aggregator -/

/-- Nobody starts aggregators, and those that there are were foreseen. -/
structure Only (d : Daemon) (workers : WorkerId → ObjectPath → Prop) : Prop where
  coordinator : d.coordinator = none
  aggregators : ∀ id a, d.aggregators.get? id = some a → workers id a.path

variable {workers : WorkerId → ObjectPath → Prop} {p : ObjectPath} {scope : List String}

/-- Whatever happens next, no aggregators are there but those foreseen. -/
theorem Only.turn (only : d.Only workers) (turn : Turn news d e) : e.Only workers := by
  cases turn with
  | aside _ _ bypasses =>
    exact ⟨bypasses.coordinator.trans only.coordinator,
      by rw [bypasses.passes.aggregators]; exact only.aggregators⟩
  | @aggregator id b a here _ _ frame =>
    refine ⟨frame.coordinator.trans only.coordinator, fun id' a' there => ?_⟩
    rw [frame.aggregators, SortedMap.get?_insert] at there
    split at there
    · rename_i same
      cases there
      rw [same, frame.path]
      exact only.aggregators id b here
    · exact only.aggregators id' a' there
  | coordinator here _ _ =>
    rw [only.coordinator] at here
    cases here

/-- Along a life, no aggregators are there but those foreseen. -/
theorem Life.only (workers : WorkerId → ObjectPath → Prop) (life : Life start past d)
    (tidy : start.Tidy) (keyed : KeyedIn past) (only : start.Only workers) : d.Tidy ∧ d.Only workers :=
  life.induction (motive := fun _ d => d.Only workers) tidy keyed only
    fun _ _ _ _ _ _ _ _ turn only => only.turn turn

/-- Who is the only one is the only one of its object. -/
theorem Only.sole (only : d.Only fun id' q => id' = id ∧ q = p) (key : String) : d.Sole key := by
  intro i a i' a' there there' _ _ _ _
  exact (only.aggregators i a there).1.trans (only.aggregators i' a' there').1.symm

/-- A node with nothing but its store, when an aggregator was started. -/
theorem only_of_started (p : ObjectPath) (scope : List String) (only : d.Only fun _ _ => False) :
    (d.startAggregator p scope).2.AllStarting ∧
      (d.startAggregator p scope).2.Only fun id' q => id' = d.nextWorker ∧ q = p := by
  have each (i : WorkerId) (a : Aggregator)
      (there : (d.startAggregator p scope).2.aggregators.get? i = some a) :
      i = d.nextWorker ∧ a = ⟨p, scope, .starting, ∅, ∅, [], ⟨0, 0, 0, 0⟩⟩ := by
    change (d.aggregators.insert d.nextWorker _).get? i = some a at there
    rw [SortedMap.get?_insert] at there
    split at there
    · rename_i same
      exact ⟨same, (Option.some.inj there).symm⟩
    · exact (only.aggregators i a there).elim
  constructor
  · intro i a there
    obtain ⟨_, rfl⟩ := each i a there
    exact ⟨rfl, rfl, rfl, rfl⟩
  · refine ⟨only.coordinator, fun i a there => ?_⟩
    obtain ⟨same, rfl⟩ := each i a there
    exact ⟨same, rfl⟩

/-- What the store has of an object, in a life of a node with a store and one aggregator, in
which the aggregator misses no event: whenever it waits, the store has the aggregate of what
the records of the nodes were last; and if none of those outlived the record, it is the
aggregate of the records. -/
theorem Life.presents_latest {d₀ : Daemon} (earlier : Life (Daemon.new s startedAt) before d₀)
    (life : Life (d₀.startAggregator p scope).2 past d) (keyed : KeyedIn (before ++ past))
    (complete : CompleteIn past) (there : d.aggregators.get? id = some a)
    (runs : a.point = .running) (waits : d.nextForAggregator a.subscriptions = none) :
    d.objects.get? p.toString =
        some (aggregate (lastKnown .status id a past d) (lastKnown .monitor id a past d)) ∧
      ((∀ node, a.status.contains node = true → ¬ Outlived .status id a past d node ∧
          ¬ Outlived .monitor id a past d node) →
        d.objects.get? p.toString =
          some (aggregate (current .status a d) (current .monitor a d))) := by
  obtain ⟨tidy₀, only₀⟩ := earlier.only (fun _ _ => False) (tidy_new s startedAt)
    (fun s member => keyed s (List.mem_append_left _ member))
    ⟨rfl, fun _ _ there => (nomatch there)⟩
  obtain ⟨starting, only⟩ := only_of_started p scope only₀
  have tidy := tidy₀.startAggregator p scope
  have keyed : KeyedIn past := fun s member => keyed s (List.mem_append_right _ member)
  have alone (s : Daemon) (member : s ∈ past) : s.Only fun id' q => id' = d₀.nextWorker ∧ q = p := by
    obtain ⟨passed, reached, sub⟩ := life.upTo member
    exact (reached.only _ tidy (fun s member => keyed s (sub s member)) only).2
  obtain ⟨_, path⟩ := (alone d life.mem).aggregators id a there
  have presents := life.presents_lastKnown tidy starting keyed complete there
    (fun s member => (alone s member).sole _) runs waits
  rw [path] at presents
  refine ⟨presents, fun kept => ?_⟩
  rw [presents, lastKnown_eq_current fun node tracked => (kept node tracked).1,
    lastKnown_eq_current fun node tracked => (kept node tracked).2]

/-- A node with nothing but its store. -/
def storeNode : Daemon := Daemon.new pairNode.settings .epoch

/-- A node with a store and an aggregator of the web object, which is to track some nodes. -/
def workerNode (scope : List String) : Daemon := (storeNode.startAggregator webPath scope).2

/-- The status of the web object on the node. -/
def webStatus : InstanceStatus := { (default : InstanceStatus) with avail := .up, overall := .up }

/-- Its aggregator runs, and the web object comes up. In one go its configuration is deleted and
comes back; the aggregator hears of the deletion first, then of the new configuration, and
then of the status that was deleted in between. -/
def rejoinedMoves : List Move :=
  [configureWeb ["n1", "n2"]] ++ aggregatorMoves 1 5 ++
    [.change (.setStatus webPath webStatus), .change (.delConfig webPath),
      configureWeb ["n1", "n2"]] ++ aggregatorMoves 1 7

/-- A status that is deleted stays in the aggregate when the node leaves and joins again before
the aggregator has heard of the status. -/
theorem stale_of_rejoined : ∃ past d a, Life storeNode [storeNode] storeNode ∧
    Life (workerNode ["n1", "n2"]) past d ∧ KeyedIn past ∧ CompleteIn past ∧
    d.aggregators.get? 1 = some a ∧ a.point = .running ∧
    d.nextForAggregator a.subscriptions = none ∧
    (d.records "n1" webPath.toString).config ≠ none ∧ Outlived .status 1 a past d "n1" ∧
    d.objects.get? webPath.toString =
      some (aggregate (lastKnown .status 1 a past d) (lastKnown .monitor 1 a past d)) ∧
    (lastKnown .status 1 a past d).get? "n1" = some webStatus := by
  obtain ⟨past, d, life, keyed, complete, a, there, runs, waits, held, outlived, known⟩ :
      ∃ past d, Life (workerNode ["n1", "n2"]) past d ∧ KeyedIn (storeNode :: past) ∧
        CompleteIn past ∧ ∃ a, a ∈ d.aggregators.get? 1 ∧ a.point = .running ∧
        d.nextForAggregator a.subscriptions = none ∧
        (d.records "n1" webPath.toString).config ≠ none ∧ Outlived .status 1 a past d "n1" ∧
        (lastKnown .status 1 a past d).get? "n1" = some webStatus :=
    exists_life_of_pursue (rejoinedMoves.map some) (by decide +kernel)
  exact ⟨past, d, a, .start, life, fun s member => keyed s (List.mem_cons_of_mem _ member), complete,
    there, runs, waits, held, outlived,
    (Life.presents_latest (.start : Life storeNode [storeNode] storeNode) life keyed complete there runs waits).1,
    known⟩

/-- The web object is up and its aggregator runs; then its status is deleted, and its
configuration stays. -/
def deletedMoves : List Move :=
  [configureWeb ["n1"], .change (.setStatus webPath webStatus)] ++ aggregatorMoves 1 4 ++
    [.change (.delStatus webPath)]

/-- What the store has of an object need not be the aggregate of the records, although the
aggregator runs and nothing waits for it: it does not hear that a status is deleted. -/
theorem stale_of_deleted : ∃ past d, Life (workerNode ["n1"]) past d ∧ KeyedIn past ∧
    CompleteIn past ∧ ∃ a, a ∈ d.aggregators.get? 1 ∧ a.point = .running ∧
    d.nextForAggregator a.subscriptions = none ∧
    d.objects.get? webPath.toString ≠ some (aggregate (current .status a d) (current .monitor a d)) :=
  exists_life_of_pursue (deletedMoves.map some) (by decide +kernel)

end Daemon

end ClusterNode
