import ClusterNode.Proofs.Daemon.Entries

/-!
# Every configured object has an aggregator

`Daemon.Staff` says that what the coordinator knows of aggregators is so: those that live are
known, and of one that has ended a notice is left. `Daemon.Remembers` says where a configuration
that a node holds is not forgotten: the aggregator of its object is known, or is about to be
started again, or the event that told of the configuration is not taken yet.

Once all notices and events are taken the aggregator of every configured object runs, and the
store has the aggregate of what it knows.
-/

namespace ClusterNode.Daemon

/-- What the coordinator knows of aggregators is so. -/
structure Staff (d : Daemon) (c : Coordinator) : Prop where
  known : ∀ p id, c.aggregators.get? p = some id → ∃ a, d.aggregators.get? id = some a ∧
    a.path = p ∧ (a.point = .done → .aggregatorDone p id ∈ d.notices)
  living : ∀ id a, d.aggregators.get? id = some a → a.point ≠ .done →
    c.aggregators.get? a.path = some id
  notices : ∀ p id, .aggregatorDone p id ∈ d.notices →
    ∃ a, d.aggregators.get? id = some a ∧ a.path = p ∧ a.point = .done
  restarting : ∀ p, c.point = .restarting p → c.aggregators.get? p = none

/-- Every publication about an instance names its object by a path that prints back. -/
def Named (d : Daemon) : Prop := ∀ q ∈ d.published, ∀ c ∈ q.event.change?, c.path.PrintsBack

instance (d : Daemon) : Decidable d.Named :=
  inferInstanceAs (Decidable (∀ _ ∈ _, ∀ _ ∈ _, _))

/-- The coordinator is subscribed to the configurations, and the objects of those that it has
not taken have paths that print back. -/
def Discovers (d : Daemon) (c : Coordinator) : Prop :=
  c.members ≠ c.configs ∧ ∃ s, d.bus.find? c.configs = some s ∧ s.IsFor .configUpdated [] ∧
    ∀ p node value, Event.configUpdated p node value ∈ s.queue → p.PrintsBack

/-- The coordinator, once it has begun, is subscribed to the configurations, and knows the
objects by paths that print back. -/
structure Names (d : Daemon) (c : Coordinator) : Prop where
  known : ∀ p id, c.aggregators.get? p = some id → p.PrintsBack
  restarting : ∀ p, c.point = .restarting p → p.PrintsBack
  discovers : c.point ≠ .starting → d.Discovers c

/-- Some node holds a configuration of an object. -/
def Configured (d : Daemon) (p : ObjectPath) : Prop :=
  ∃ node, (d.records node p.toString).config ≠ none

/-- A configured object has an aggregator, or will get one. -/
def Remembers (d : Daemon) (c : Coordinator) (p : ObjectPath) : Prop :=
  d.Configured p → (∃ id, c.aggregators.get? p = some id) ∨ c.point = .restarting p ∨
    ∃ node value, Event.configUpdated p node value ∈ d.bus.queue c.configs

variable {d e : Daemon} {c c' : Coordinator} {news : List Publication} {p : ObjectPath}

/-! ## What the coordinator knows -/

/-- What neither starts an aggregator nor ends one leaves the knowledge of the coordinator. -/
theorem Staff.keep (staff : d.Staff c) (same : e.aggregators = d.aggregators)
    (known : c'.aggregators = c.aggregators) (other : ∀ p, c'.point = .restarting p → c.point = .restarting p)
    (left : ∀ p id, .aggregatorDone p id ∈ d.notices → c.aggregators.get? p = some id →
      .aggregatorDone p id ∈ e.notices)
    (came : ∀ p id, .aggregatorDone p id ∈ e.notices → .aggregatorDone p id ∈ d.notices) :
    e.Staff c' where
  known p id here := by
    rw [known] at here
    obtain ⟨a, there, path, ended⟩ := staff.known p id here
    exact ⟨a, by rw [same]; exact there, path, fun done => left p id (ended done) here⟩
  living id a there := by
    rw [known]
    exact staff.living id a (same ▸ there)
  notices p id waits := by
    rw [same]
    exact staff.notices p id (came p id waits)
  restarting p point := by
    rw [known]
    exact staff.restarting p (other p point)

/-- The object of an aggregator that is started had none that lives. -/
theorem Staff.hire (staff : d.Staff c) (given : ∀ id a, d.aggregators.get? id = some a → id < d.nextWorker)
    {a : Aggregator} (hires : Hires p a d e) (notices : e.notices = d.notices)
    (known : c'.aggregators = c.aggregators.insert p d.nextWorker) (idle : c'.point = .idle)
    (vacant : ∀ id b, c.aggregators.get? p = some id → d.aggregators.get? id = some b → b.point = .done) :
    e.Staff c' := by
  have old {id : WorkerId} {b : Aggregator} (here : d.aggregators.get? id = some b) :
      e.aggregators.get? id = some b := by
    rw [hires.aggregators, SortedMap.get?_insert_of_ne _ _ (Nat.ne_of_lt (given id b here))]
    exact here
  refine ⟨?_, ?_, ?_, ?_⟩
  · intro p' id here
    rw [known, SortedMap.get?_insert] at here
    split at here
    · rename_i same
      cases here
      refine ⟨a, ?_, by rw [hires.path, same], fun done => ?_⟩
      · rw [hires.aggregators, SortedMap.get?_insert_self]
      · rw [hires.point] at done
        cases done
    · obtain ⟨b, there, path, ended⟩ := staff.known p' id here
      exact ⟨b, old there, path, by rw [notices]; exact ended⟩
  · intro id b there lives
    rw [known, SortedMap.get?_insert]
    rw [hires.aggregators, SortedMap.get?_insert] at there
    split at there
    · rename_i same
      cases there
      rw [if_pos hires.path, same]
    · have before := staff.living id b there lives
      rw [if_neg]
      · exact before
      · intro same
        rw [same] at before
        exact lives (vacant id b before there)
  · intro p' id waits
    rw [notices] at waits
    obtain ⟨b, there, path, done⟩ := staff.notices p' id waits
    exact ⟨b, old there, path, done⟩
  · intro p' point
    rw [idle] at point
    cases point

/-- The notice of an aggregator that is known is taken. -/
theorem Staff.release (staff : d.Staff c) {id : WorkerId} {rest : List Notice}
    (first : d.notices = .aggregatorDone p id :: rest) (here : c.aggregators.get? p = some id)
    (same : e.aggregators = d.aggregators) (notices : e.notices = rest) :
    e.Staff { c with aggregators := c.aggregators.erase p, point := .restarting p } := by
  obtain ⟨b, there, path, done⟩ := staff.notices p id (by rw [first]; exact List.mem_cons_self ..)
  refine ⟨?_, ?_, ?_, ?_⟩
  · intro p' id' here'
    change (c.aggregators.erase p).get? p' = some id' at here'
    rw [SortedMap.get?_erase] at here'
    split at here'
    · cases here'
    · rename_i different
      obtain ⟨a, there, path, ended⟩ := staff.known p' id' here'
      refine ⟨a, by rw [same]; exact there, path, fun done => ?_⟩
      have waits := ended done
      rw [first, List.mem_cons] at waits
      rw [notices]
      refine waits.resolve_left fun is => different ?_
      cases is
      rfl
  · intro id' a there' lives
    rw [same] at there'
    have before := staff.living id' a there' lives
    change (c.aggregators.erase p).get? a.path = some id'
    rw [SortedMap.get?_erase, if_neg]
    · exact before
    · intro mine
      rw [mine, here] at before
      cases before
      cases there.symm.trans there'
      exact lives done
  · intro p' id' waits
    rw [same]
    exact staff.notices p' id' (by rw [first, ← notices]; exact List.mem_cons_of_mem _ waits)
  · intro p' point
    cases point
    exact (SortedMap.get?_erase ..).trans (if_pos rfl)

/-- A step of an aggregator: if it ends, it leaves a notice. -/
theorem Staff.aggregator (staff : d.Staff c) {id : WorkerId} {b a : Aggregator}
    (here : d.aggregators.get? id = some b) (lives : b.point ≠ .done)
    (frame : Aggregates id b a news d e) : e.Staff c := by
  have mono {n : Notice} (waits : n ∈ d.notices) : n ∈ e.notices := by
    rcases frame.notices with ⟨_, same⟩ | ⟨_, more⟩
    · rw [same]
      exact waits
    · rw [more]
      exact List.mem_append_left _ waits
  refine ⟨?_, ?_, ?_, staff.restarting⟩
  · intro p id' known
    obtain ⟨a', there, path, ended⟩ := staff.known p id' known
    rw [frame.aggregators]
    by_cases same : id' = id
    · subst same
      cases here.symm.trans there
      refine ⟨a, SortedMap.get?_insert_self .., frame.path.trans path, fun done => ?_⟩
      rcases frame.notices with ⟨going, _⟩ | ⟨_, more⟩
      · exact absurd done going
      · rw [more, path]
        exact List.mem_append_right _ (List.mem_singleton_self _)
    · exact ⟨a', by rw [SortedMap.get?_insert_of_ne _ _ same]; exact there, path,
        fun done => mono (ended done)⟩
  · intro id' a' there living
    rw [frame.aggregators, SortedMap.get?_insert] at there
    split at there
    · rename_i same
      cases there
      rw [frame.path, same]
      exact staff.living id b here lives
    · exact staff.living id' a' there living
  · intro p id' waits
    have before (waits : .aggregatorDone p id' ∈ d.notices) :
        ∃ a', e.aggregators.get? id' = some a' ∧ a'.path = p ∧ a'.point = .done := by
      obtain ⟨a', there, path, done⟩ := staff.notices p id' waits
      have different : id' ≠ id := fun same => by
        subst same
        cases here.symm.trans there
        exact lives done
      exact ⟨a', by rw [frame.aggregators, SortedMap.get?_insert_of_ne _ _ different]; exact there,
        path, done⟩
    rcases frame.notices with ⟨_, same⟩ | ⟨done, more⟩
    · exact before (same ▸ waits)
    · rw [more, List.mem_append, List.mem_singleton] at waits
      rcases waits with waits | new
      · exact before waits
      · cases new
        exact ⟨a, by rw [frame.aggregators, SortedMap.get?_insert_self], frame.path, done⟩

/-- Where no aggregator is known that lives, one that is known has ended. -/
theorem done_of_not_aggregates {id : WorkerId} {b : Aggregator} (idle : d.aggregates c p = false)
    (known : c.aggregators.get? p = some id) (here : d.aggregators.get? id = some b) :
    b.point = .done := by
  rw [aggregates, known, Option.bind_some, aggregator?, here] at idle
  simpa using idle

/-- Whatever happens next, what the coordinator knows of aggregators stays so. -/
theorem Staff.turn (staff : d.Staff c) (here : d.coordinator = some c) (turn : Turn news d e)
    (tidy : d.Tidy) (there : e.coordinator = some c') : e.Staff c' := by
  cases turn with
  | aside _ _ bypasses =>
    cases here.symm.trans (bypasses.coordinator.symm.trans there)
    obtain ⟨ended, notices, others⟩ := bypasses.notices
    refine staff.keep bypasses.passes.aggregators rfl (fun _ point => point) ?_ ?_
    · intro p id waits _
      rw [notices]
      exact List.mem_append_left _ waits
    · intro p id waits
      rw [notices] at waits
      exact (List.mem_append.1 waits).resolve_right fun new => others _ new p id rfl
  | aggregator here' lives _ frame =>
    cases here.symm.trans (frame.coordinator.symm.trans there)
    exact staff.aggregator here' lives frame
  | coordinator here' move staffs =>
    cases here.symm.trans here'
    cases there.symm.trans staffs.coordinator
    have idle {point : CoordinatorPoint} (is : point = .idle) (p : ObjectPath)
        (other : point = .restarting p) : c.point = .restarting p := by
      rw [is] at other
      cases other
    cases move with
    | begin _ known point _ _ same notices =>
      exact staff.keep same known (idle point) (fun _ _ waits _ => by rw [notices]; exact waits)
        (fun _ _ waits => notices ▸ waits)
    | release _ first known _ same notices => exact staff.release first known same notices
    | ignore _ _ _ _ same notices =>
      exact staff.keep same rfl (fun _ point => point)
        (fun _ _ waits _ => by rw [notices]; exact waits) (fun _ _ waits => notices ▸ waits)
    | hire _ _ _ absent hires notices =>
      exact staff.hire tidy.given hires notices rfl rfl fun id b known here =>
        done_of_not_aggregates absent known here
    | rehire point _ hires notices =>
      refine staff.hire tidy.given hires notices rfl rfl fun id b known _ => ?_
      rw [staff.restarting _ point] at known
      cases known
    | dispense _ _ _ same notices =>
      exact staff.keep same rfl (idle rfl) (fun _ _ waits _ => by rw [notices]; exact waits)
        (fun _ _ waits => notices ▸ waits)
    | proceed _ _ other known _ _ same notices =>
      refine staff.keep same known (fun p point => absurd point (other p)) ?_ ?_
      · intro p id waits mine
        rcases notices with notices | ⟨n, first, foreign⟩
        · rw [notices]
          exact waits
        · rw [first, List.mem_cons] at waits
          exact waits.resolve_left fun is => foreign p id is.symm mine
      · intro p id waits
        rcases notices with notices | ⟨n, first, _⟩
        · rw [← notices]
          exact waits
        · rw [first]
          exact List.mem_cons_of_mem _ waits

/-- While all paths that are known print back, an object has at most one aggregator that
lives. -/
theorem Staff.sole (staff : d.Staff c) (names : d.Names c) (key : String) : d.Sole key := by
  intro id a id' a' here here' lives lives' path path'
  have known := staff.living id a here lives
  have known' := staff.living id' a' here' lives'
  have same : a.path = a'.path := (names.known _ _ known).inj (names.known _ _ known')
    (path.trans path'.symm)
  rw [same, known'] at known
  cases known
  rfl

/-! ## What the coordinator hears -/

/-- The configurations that publications tell of. -/
def configsIn (news : List Publication) : List Event :=
  (⟨0, .configUpdated, [], [], 0⟩ : Subscriber).heard news

/-- The configurations that publications tell of are the events of that kind among them. -/
theorem mem_configsIn {event : Event} :
    event ∈ configsIn news ↔ event.kind = .configUpdated ∧ ∃ q ∈ news, q.event = event := by
  simp only [configsIn, Subscriber.heard, List.mem_map, List.mem_filter, Subscriber.accepts,
    List.all_nil, Bool.and_true, beq_iff_eq]
  constructor
  · rintro ⟨q, ⟨new, kind⟩, rfl⟩
    exact ⟨kind.symm, q, new, rfl⟩
  · rintro ⟨kind, q, new, rfl⟩
    exact ⟨q, ⟨new, kind.symm⟩, rfl⟩

/-- What is told between two states where all paths print back names an object so. -/
theorem Named.configsIn (named : e.Named) (reports : Reports news d e) {node : String}
    {value : InstanceConfig} (told : .configUpdated p node value ∈ configsIn news) : p.PrintsBack := by
  obtain ⟨_, q, new, is⟩ := mem_configsIn.1 told
  have late : q ∈ e.published := by
    rw [reports.published]
    exact List.mem_append_left _ (List.mem_reverse.2 new)
  exact named q late ⟨p, node, .config (some value)⟩ (by rw [is]; rfl)

/-- While others act the coordinator hears of the configurations. -/
theorem Discovers.hears (discovers : d.Discovers c) (named : e.Named) (reports : Reports news d e)
    (complete : e.Complete) {own : List Nat} (leaves : Leaves own news d e)
    (other : c.configs ∉ own) (ids : c'.ids = c.ids) :
    e.Discovers c' ∧ e.bus.queue c'.configs = d.bus.queue c.configs ++ configsIn news := by
  obtain ⟨apart, s, found, isFor, back⟩ := discovers
  obtain ⟨t, found', heard⟩ := leaves.hears _ s found other
  obtain ⟨configs, members⟩ := Coordinator.ids_eq_iff.1 ids
  have said : s.heard news = configsIn news := isFor.heard ⟨rfl, rfl⟩ news
  have queue : t.queue = s.queue ++ configsIn news := by
    rw [heard.queue (complete.dropped found'), said]
  rw [Discovers, configs, members, Bus.queue_of_find? found, Bus.queue_of_find? found', queue]
  refine ⟨⟨apart, t, found', isFor.hears heard, fun p node value waits => ?_⟩, rfl⟩
  rw [queue] at waits
  rcases List.mem_append.1 waits with before | told
  · exact back p node value before
  · exact named.configsIn reports told

/-- A coordinator that takes nothing has what it had. -/
theorem Discovers.same (discovers : d.Discovers c) (bus : e.bus = d.bus) (ids : c'.ids = c.ids) :
    e.Discovers c' := by
  obtain ⟨configs, members⟩ := Coordinator.ids_eq_iff.1 ids
  rw [Discovers, configs, members, bus]
  exact discovers

/-- A coordinator that takes an event is left with the others. -/
theorem Discovers.take (discovers : d.Discovers c) {event : Event}
    (next : d.bus.next? c.configs = some event) (bus : e.bus = d.bus.take c.configs)
    (ids : c'.ids = c.ids) :
    e.Discovers c' ∧ d.bus.queue c.configs = event :: e.bus.queue c'.configs ∧
      ∀ p node value, event = .configUpdated p node value → p.PrintsBack := by
  obtain ⟨apart, s, found, isFor, back⟩ := discovers
  obtain ⟨configs, members⟩ := Coordinator.ids_eq_iff.1 ids
  have taken : e.bus.find? c.configs = some { s with queue := s.queue.tail } := by
    rw [bus]
    exact Bus.find?_take_self _ found
  rw [Bus.next?, Bus.queue_of_find? found] at next
  obtain ⟨rest, queue⟩ := List.head?_eq_some_iff.1 next
  rw [Discovers, configs, members, Bus.queue_of_find? found, Bus.queue_of_find? taken]
  refine ⟨⟨apart, _, taken, isFor, fun p node value waits => ?_⟩, ?_, ?_⟩
  · exact back p node value (List.mem_of_mem_tail waits)
  · rw [queue]
    rfl
  · rintro p node value rfl
    exact back p node value (by rw [queue]; exact List.mem_cons_self ..)

/-- The subscription of the coordinator is no one else's. -/
theorem Discovers.others (discovers : d.Discovers c) (apart : d.Apart) (here : d.coordinator = some c)
    {a : Actor} (different : a ≠ .coordinator) : c.configs ∉ d.owned a := by
  obtain ⟨_, s, found, _⟩ := discovers
  exact apart.coordinator here different c.configs (by simp [Coordinator.ids]) s found

/-- The coordinator steps, or goes on to hear of the configurations. -/
theorem Turn.coordinates (turn : Turn news d e) (tidy : d.Tidy) (complete : e.Complete)
    (named : e.Named) (here : d.coordinator = some c) (there : e.coordinator = some c') :
    StaffMove d c news c' e ∨ (c' = c ∧ (d.Discovers c → e.Discovers c ∧
      e.bus.queue c.configs = d.bus.queue c.configs ++ configsIn news)) := by
  have reports := turn.reports
  cases turn with
  | aside different _ bypasses =>
    cases here.symm.trans (bypasses.coordinator.symm.trans there)
    exact .inr ⟨rfl, fun discovers => discovers.hears named reports complete bypasses.passes.leaves
      (discovers.others tidy.apart here different) rfl⟩
  | @aggregator id b a here' _ _ frame =>
    cases here.symm.trans (frame.coordinator.symm.trans there)
    have owned : d.owned (.aggregator id) = b.subscriptions.ids := by simp [Daemon.owned, here']
    exact .inr ⟨rfl, fun discovers => discovers.hears named reports complete frame.leaves
      (owned ▸ discovers.others tidy.apart here Actor.noConfusion) rfl⟩
  | coordinator here' move staffs =>
    cases here.symm.trans here'
    cases there.symm.trans staffs.coordinator
    exact .inl move

/-- A coordinator that steps knows objects by paths that print back, if what it takes does. -/
theorem Names.move (names : d.Names c) (move : StaffMove d c news c' e) (reports : Reports news d e)
    (complete : e.Complete) (named : e.Named) : e.Names c' := by
  have at_point {point : CoordinatorPoint} (is : c.point = point) (begun : point ≠ .starting) :
      d.Discovers c := names.discovers (by rw [is]; exact begun)
  have none (p : ObjectPath) (is : CoordinatorPoint.idle = .restarting p) : p.PrintsBack := by
    cases is
  have hired {p' : ObjectPath} (back : p'.PrintsBack) (q : ObjectPath) (id : WorkerId)
      (known : (c.aggregators.insert p' d.nextWorker).get? q = some id) : q.PrintsBack := by
    rw [SortedMap.get?_insert] at known
    split at known
    · rename_i same
      rw [same]
      exact back
    · exact names.known q id known
  cases move with
  | begin _ known point apart new =>
    refine ⟨fun p id here => names.known p id (known ▸ here), fun p is => ?_, fun _ => ?_⟩
    · rw [point] at is
      exact none p is
    · exact ⟨apart, _, new, ⟨rfl, rfl⟩, fun _ _ _ waits => by cases waits⟩
  | @release p' id _ _ idle _ known bus =>
    refine ⟨fun q id' here => ?_, fun q is => ?_,
      fun _ => (at_point idle CoordinatorPoint.noConfusion).same bus rfl⟩
    · change (c.aggregators.erase p').get? q = some id' at here
      rw [SortedMap.get?_erase] at here
      split at here
      · cases here
      · exact names.known q id' here
    · cases is
      exact names.known _ _ known
  | ignore idle next bus =>
    exact ⟨names.known, names.restarting,
      fun begun => ((names.discovers begun).take next bus rfl).1⟩
  | hire idle next bus =>
    have took := (at_point idle CoordinatorPoint.noConfusion).take next bus (rfl : c.ids = c.ids)
    exact ⟨hired (took.2.2 _ _ _ rfl), none, fun _ => took.1⟩
  | rehire point bus =>
    exact ⟨hired (names.restarting _ point), none,
      fun _ => (at_point point CoordinatorPoint.noConfusion).same bus rfl⟩
  | dispense point _ bus =>
    exact ⟨names.known, none,
      fun _ => (at_point point CoordinatorPoint.noConfusion).same bus rfl⟩
  | proceed begun _ other known ids leaves =>
    have discovers := names.discovers begun
    refine ⟨fun p id here => names.known p id (known ▸ here), fun p is => absurd is (other p),
      fun _ => (discovers.hears named reports complete leaves ?_ ids).1⟩
    exact fun mine => discovers.1 (List.mem_singleton.1 mine).symm

/-- Whatever happens next, the coordinator knows objects by paths that print back only. -/
theorem Names.turn (names : d.Names c) (here : d.coordinator = some c) (turn : Turn news d e)
    (tidy : d.Tidy) (complete : e.Complete) (named : e.Named) (there : e.coordinator = some c') :
    e.Names c' := by
  rcases turn.coordinates tidy complete named here there with move | ⟨rfl, hears⟩
  · exact names.move move turn.reports complete named
  · exact ⟨names.known, names.restarting, fun begun => (hears (names.discovers begun)).1⟩

/-! ## Where configurations are not forgotten -/

/-- The nodes that configure an object. -/
theorem mem_configNodes {node : String} :
    node ∈ d.replica.configNodes p ↔ (d.records node p.toString).config ≠ none := by
  have held : (d.records node p.toString).config =
      (d.replica.status.nodes.get? node).bind fun data =>
        (data.instances.get? p.toString).bind (·.config) := by
    simp only [records, Replica.records, ClusterStatus.records, ClusterStatus.nodeD,
      NodeData.instanceD]
    cases d.replica.status.nodes.get? node with
    | none => rfl
    | some data =>
      rw [Option.getD_some, Option.bind_some]
      cases data.instances.get? p.toString <;> rfl
  rw [held]
  simp only [Replica.configNodes, List.mem_map, List.mem_filter, Prod.exists, exists_and_right,
    exists_eq_right, ← SortedMap.get?_eq_some_iff, ← Option.isSome_iff_ne_none, Option.isSome_bind,
    Option.any_eq_true]

/-- A configuration was held before, and is not forgotten, or publications tell of it. -/
theorem Remembers.known_or_told (remembers : d.Remembers c p) (tells : d.records.Tells news e.records)
    (named : e.Named) (reports : Reports news d e) (back : p.PrintsBack)
    (configured : e.Configured p) :
    (∃ id, c.aggregators.get? p = some id) ∨ c.point = .restarting p ∨
      ∃ node value, Event.configUpdated p node value ∈ d.bus.queue c.configs ++ configsIn news := by
  obtain ⟨node, held⟩ := configured
  by_cases before : (d.records node p.toString).config = none
  · obtain ⟨value, held⟩ := Option.ne_none_iff_exists'.1 held
    have changed : Facet.config.get (e.records node p.toString) ≠
        Facet.config.get (d.records node p.toString) := by
      change (e.records node p.toString).config ≠ (d.records node p.toString).config
      rw [held, before]
      exact Option.some_ne_none _
    obtain ⟨q, new, said⟩ := Facet.exists_now_of_ne tells changed
    obtain ⟨p', path, is⟩ := Facet.config_now_eq_some_iff.1
      (said.trans (congrArg some (show Facet.config.get _ = _ from held)))
    have told : .configUpdated p' node value ∈ configsIn news :=
      mem_configsIn.2 ⟨rfl, q, new, is⟩
    cases (named.configsIn reports told).inj back path
    exact .inr (.inr ⟨node, value, List.mem_append_right _ told⟩)
  · rcases remembers ⟨node, before⟩ with known | restarting | ⟨node', value, waits⟩
    · exact .inl known
    · exact .inr (.inl restarting)
    · exact .inr (.inr ⟨node', value, List.mem_append_left _ waits⟩)

/-- Who starts an aggregator knows that one beside the others. -/
theorem known_insert {p' : ObjectPath} {id : WorkerId}
    (known : p = p' ∨ ∃ id, c.aggregators.get? p = some id) :
    ∃ id', (c.aggregators.insert p' id).get? p = some id' := by
  by_cases same : p = p'
  · exact ⟨id, by rw [same, SortedMap.get?_insert_self]⟩
  · obtain ⟨id', known⟩ := known.resolve_left same
    exact ⟨id', by rw [SortedMap.get?_insert_of_ne _ _ same]; exact known⟩

/-- A coordinator that steps forgets no configuration. -/
theorem Remembers.move (discovers : d.Discovers c) (move : StaffMove d c news c' e)
    (reports : Reports news d e) (complete : e.Complete) (named : e.Named)
    (begun : c.point ≠ .starting) (configured : e.Configured p)
    (before : (∃ id, c.aggregators.get? p = some id) ∨ c.point = .restarting p ∨
      ∃ node value, Event.configUpdated p node value ∈ d.bus.queue c.configs ++ configsIn news) :
    (∃ id, c'.aggregators.get? p = some id) ∨ c'.point = .restarting p ∨
      ∃ node value, Event.configUpdated p node value ∈ e.bus.queue c'.configs := by
  -- A coordinator that does not apply a scan tells of nothing.
  have quiet {queue : List Event} (waits : ∃ node value,
      Event.configUpdated p node value ∈ queue ++ configsIn []) :
      ∃ node value, Event.configUpdated p node value ∈ queue := by
    simpa [configsIn, Subscriber.heard] using waits
  have stands (bus : e.bus = d.bus) (waits : ∃ node value,
      Event.configUpdated p node value ∈ d.bus.queue c.configs ++ configsIn []) :
      ∃ node value, Event.configUpdated p node value ∈ e.bus.queue c.configs := by
    rw [bus]
    exact quiet waits
  cases move with
  | begin starting => exact absurd starting begun
  | @release p' id _ _ idle _ known bus =>
    rcases before with ⟨id', known'⟩ | restarting | waits
    · by_cases same : p = p'
      · exact .inr (.inl (by rw [same]))
      · exact .inl ⟨id', by rw [SortedMap.get?_erase, if_neg same]; exact known'⟩
    · rw [idle] at restarting
      cases restarting
    · exact .inr (.inr (stands bus waits))
  | ignore idle next bus heeds =>
    obtain ⟨_, queue, _⟩ := discovers.take next bus (rfl : c.ids = c.ids)
    rw [queue] at before
    rcases before with known | restarting | waits
    · exact .inl known
    · exact .inr (.inl restarting)
    · obtain ⟨node, value, waits⟩ := quiet waits
      rcases List.mem_cons.1 waits with first | rest
      · have runs := heeds p node value first.symm
        rw [aggregates, Option.isSome_bind, Option.any_eq_true] at runs
        obtain ⟨id, known, _⟩ := runs
        exact .inl ⟨id, known⟩
      · exact .inr (.inr ⟨node, value, rest⟩)
  | hire idle next bus =>
    obtain ⟨_, queue, _⟩ := discovers.take next bus (rfl : c.ids = c.ids)
    rw [queue] at before
    rcases before with known | restarting | waits
    · exact .inl (known_insert (.inr known))
    · rw [idle] at restarting
      cases restarting
    · obtain ⟨node, value, waits⟩ := quiet waits
      rcases List.mem_cons.1 waits with first | rest
      · cases first
        exact .inl (known_insert (.inl rfl))
      · exact .inr (.inr ⟨node, value, rest⟩)
  | rehire point bus =>
    rcases before with known | restarting | waits
    · exact .inl (known_insert (.inr known))
    · rw [point] at restarting
      cases restarting
      exact .inl (known_insert (.inl rfl))
    · exact .inr (.inr (stands bus waits))
  | dispense point nobody bus =>
    rcases before with known | restarting | waits
    · exact .inl known
    · rw [point] at restarting
      cases restarting
      obtain ⟨node, held⟩ := configured
      have same : e.records = d.records := reports.records_of_mute fun _ new => by cases new
      rw [same, ← mem_configNodes, nobody] at held
      cases held
    · exact .inr (.inr (stands bus waits))
  | proceed _ busy _ known ids leaves =>
    rw [(discovers.hears named reports complete leaves
      (fun mine => discovers.1 (List.mem_singleton.1 mine).symm) ids).2, known]
    rcases before with known | restarting | waits
    · exact .inl known
    · exact absurd restarting (busy p)
    · exact .inr (.inr waits)

/-- Whatever happens next, a configured object has an aggregator or will get one. -/
theorem Remembers.turn (remembers : d.Remembers c p) (names : d.Names c) (begun : c.point ≠ .starting)
    (here : d.coordinator = some c) (turn : Turn news d e) (tidy : d.Tidy) (complete : e.Complete)
    (named : e.Named) (back : p.PrintsBack) (there : e.coordinator = some c') : e.Remembers c' p := by
  intro configured
  have reports := turn.reports
  have before := remembers.known_or_told reports.tells named reports back configured
  have discovers := names.discovers begun
  rcases turn.coordinates tidy complete named here there with move | ⟨rfl, hears⟩
  · exact Remembers.move discovers move reports complete named begun configured before
  · rw [(hears discovers).2]
    exact before

end ClusterNode.Daemon
