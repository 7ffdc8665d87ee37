import ClusterNode.Proofs.Daemon.Chronicle
import ClusterNode.Proofs.Daemon.Scans

/-!
# How the coordinator staffs its objects

`StaffMove` lists what a step makes of what the coordinator knows of aggregators, while
nobody asks the node to go down. `stepCoordinator_staffs` is the inversion of a step; beside
the move it gives the frame of the step, `Daemon.Staffs`.

`Daemon.Passes` is the frame of all that starts, ends and changes no aggregator.
-/

namespace ClusterNode.Daemon

/-- From one state to a later one: no aggregator and no aggregate changed, the publications
tell of what became of the records, and every subscriber heard them, except for some. -/
structure Passes (own : List Nat) (news : List Publication) (d e : Daemon) : Prop where
  recounts : Recounts news d e
  leaves : Leaves own news d e
  aggregators : e.aggregators = d.aggregators
  nextWorker : d.nextWorker ≤ e.nextWorker

/-- An aggregator was started. -/
structure Hires (p : ObjectPath) (a : Aggregator) (d e : Daemon) : Prop where
  path : a.path = p
  point : a.point = .starting
  mailbox : a.mailbox = []
  status : a.status = ∅
  monitors : a.monitors = ∅
  aggregators : e.aggregators = d.aggregators.insert d.nextWorker a
  nextWorker : e.nextWorker = d.nextWorker + 1

/-- What one step makes of what the coordinator knows of aggregators, and what it does with
the events and notices that tell of them. -/
inductive StaffMove (d : Daemon) (c : Coordinator) :
    List Publication → Coordinator → Daemon → Prop where
  | begin {c' : Coordinator} {e : Daemon} : c.point = .starting →
      c'.aggregators = c.aggregators → c'.point = .idle → c'.members ≠ c'.configs →
      e.bus.find? c'.configs = some ⟨c'.configs, .configUpdated, [], [], 0⟩ →
      e.aggregators = d.aggregators → e.notices = d.notices → StaffMove d c [] c' e
  /-- The aggregator of an object has ended. -/
  | release {p : ObjectPath} {id : WorkerId} {rest : List Notice} {e : Daemon} :
      c.point = .idle → d.notices = .aggregatorDone p id :: rest →
      c.aggregators.get? p = some id → e.bus = d.bus → e.aggregators = d.aggregators →
      e.notices = rest →
      StaffMove d c [] { c with
        aggregators := c.aggregators.erase p, point := .restarting p } e
  /-- A configuration of an object that has an aggregator. -/
  | ignore {event : Event} {e : Daemon} : c.point = .idle → d.bus.next? c.configs = some event →
      e.bus = d.bus.take c.configs →
      (∀ p node value, event = .configUpdated p node value → d.aggregates c p = true) →
      e.aggregators = d.aggregators → e.notices = d.notices → StaffMove d c [] c e
  /-- A configuration of an object that has none. -/
  | hire {p : ObjectPath} {node : String} {value : InstanceConfig} {a : Aggregator} {e : Daemon} :
      c.point = .idle → d.bus.next? c.configs = some (.configUpdated p node value) →
      e.bus = d.bus.take c.configs → d.aggregates c p = false → Hires p a d e →
      e.notices = d.notices →
      StaffMove d c [] { c with
        aggregators := c.aggregators.insert p d.nextWorker, point := .idle } e
  /-- An object whose aggregator has ended is configured again. -/
  | rehire {p : ObjectPath} {a : Aggregator} {e : Daemon} : c.point = .restarting p →
      e.bus = d.bus → Hires p a d e → e.notices = d.notices →
      StaffMove d c [] { c with
        aggregators := c.aggregators.insert p d.nextWorker, point := .idle } e
  /-- An object whose aggregator has ended is configured no more. -/
  | dispense {p : ObjectPath} {e : Daemon} : c.point = .restarting p →
      d.replica.configNodes p = [] → e.bus = d.bus → e.aggregators = d.aggregators →
      e.notices = d.notices → StaffMove d c [] { c with point := .idle } e
  /-- The aggregators are not concerned. -/
  | proceed {news : List Publication} {c' : Coordinator} {e : Daemon} : c.point ≠ .starting →
      (∀ p, c.point ≠ .restarting p) → (∀ p, c'.point ≠ .restarting p) →
      c'.aggregators = c.aggregators → c'.ids = c.ids → Leaves [c.members] news d e →
      e.aggregators = d.aggregators →
      (e.notices = d.notices ∨ ∃ n, d.notices = n :: e.notices ∧
        ∀ p id, n = .aggregatorDone p id → c.aggregators.get? p ≠ some id) →
      StaffMove d c news c' e

/-- What a step of the coordinator leaves as it was. -/
structure Staffs (c c' : Coordinator) (news : List Publication) (d e : Daemon) : Prop where
  coordinator : e.coordinator = some c'
  works : c'.point.works
  recounts : Recounts news d e
  leaves : Leaves c.ids news d e
  nextWorker : d.nextWorker ≤ e.nextWorker

variable {d e f : Daemon} {own : List Nat} {news later : List Publication} {c c' : Coordinator}

/-! ## Frames -/

/-- Where nothing happens nothing changes. -/
theorem Passes.refl (own : List Nat) (d : Daemon) : Passes own [] d d :=
  ⟨recounts_of_same rfl rfl rfl rfl, leaves_of_bus rfl rfl, rfl, Nat.le_refl _⟩

/-- What passes by the aggregators twice passes by them. -/
theorem Passes.trans (first : Passes own news d e) (second : Passes own later e f) :
    Passes own (news ++ later) d f where
  recounts := first.recounts.trans second.recounts
  leaves := first.leaves.trans second.leaves
  aggregators := second.aggregators.trans first.aggregators
  nextWorker := Nat.le_trans first.nextWorker second.nextWorker

/-- What is published is known from what was published in the end. -/
theorem Leaves.news_eq (leaves : Leaves own news d e) (reports : Reports later d e) :
    news = later := by
  have same := leaves.published.symm.trans reports.published
  exact List.reverse_inj.1 (List.append_cancel_right same)

/-- What talks and tells of the records concerns no aggregator. -/
theorem Talks.passes (talks : Talks own d e) (told : ∃ news, Recounts news d e) :
    ∃ news, Passes own news d e := by
  obtain ⟨news, recounts⟩ := told
  obtain ⟨news', leaves⟩ := talks.spares
  cases leaves.news_eq recounts.toReports
  obtain ⟨_, _, _, rfl⟩ := talks.rest
  exact ⟨news, recounts, leaves, rfl, Nat.le_refl _⟩

/-- The coordinator keeps its record anew. -/
theorem Passes.staffs {d' : Daemon} (passes : Passes own news d d') (mine : own ⊆ c.ids)
    (works : c'.point.works) (made : e = { d'.putCoordinator c' with notices := e.notices }) :
    Staffs c c' news d e := by
  have recounts : Recounts news d { d'.putCoordinator c' with notices := e.notices } :=
    passes.recounts.andThen rfl rfl rfl rfl
  rw [made]
  exact ⟨rfl, works, recounts, (passes.leaves.mono mine).andThen rfl rfl, passes.nextWorker⟩

/-- The coordinator starts an aggregator. -/
theorem Passes.hires {d' : Daemon} (passes : Passes own news d d') (mine : own ⊆ c.ids)
    (nextWorker : d'.nextWorker = d.nextWorker) (p : ObjectPath) (scope : List String) :
    (∃ a, Hires p a d (d'.beginAggregator c p scope)) ∧
      Staffs c { c with aggregators := c.aggregators.insert p d.nextWorker, point := .idle } news d
        (d'.beginAggregator c p scope) := by
  constructor
  · refine ⟨⟨p, scope, .starting, ∅, ∅, [], ⟨0, 0, 0, 0⟩⟩, rfl, rfl, rfl, rfl, rfl, ?_, ?_⟩
    · rw [← passes.aggregators, ← nextWorker]
      rfl
    · rw [← nextWorker]
      rfl
  · rw [← nextWorker]
    have recounts : Recounts news d (d'.beginAggregator c p scope) :=
      passes.recounts.andThen rfl rfl rfl rfl
    exact ⟨rfl, rfl, recounts, (passes.leaves.mono mine).andThen rfl rfl,
      Nat.le_trans passes.nextWorker (Nat.le_succ _)⟩

/-- To take an event passes by the aggregators. -/
theorem passes_receive {i : Nat} {event : Event} (received : d.receive i = some (event, e)) :
    Passes [i] [] d e ∧ d.bus.next? i = some event ∧ e = { d with bus := d.bus.take i } := by
  refine ⟨⟨recounts_receive received, leaves_receive (List.mem_singleton_self i) received, ?_, ?_⟩,
    ?_⟩
  all_goals
    obtain ⟨_, next, made⟩ := Option.map_eq_some_iff.1 received
    cases made
  · rfl
  · exact Nat.le_refl _
  · exact ⟨next, rfl⟩

/-! ## Late notices -/

/-- What the coordinator does with the notices that it sees, it does while others are late. -/
theorem StaffMove.late {seen late : List Notice}
    (move : StaffMove { d with notices := seen } c news c' e)
    (waits : d.notices = seen ++ late) :
    StaffMove d c news c' { e with notices := e.notices ++ late } := by
  have same (kept : e.notices = seen) : e.notices ++ late = d.notices := by rw [kept, waits]
  have hired {p : ObjectPath} {a : Aggregator} (hires : Hires p a { d with notices := seen } e) :
      Hires p a d { e with notices := e.notices ++ late } :=
    { hires with }
  cases move with
  | begin starting known idle apart subscribed aggregators notices =>
    exact .begin starting known idle apart subscribed aggregators (same notices)
  | release idle first known bus aggregators notices =>
    change seen = _ at first
    refine .release idle ?_ known bus aggregators (congrArg (· ++ late) notices)
    rw [waits, first, List.cons_append]
  | ignore idle next bus there aggregators notices =>
    exact .ignore idle next bus there aggregators (same notices)
  | hire idle next bus absent hires notices =>
    exact .hire idle next bus absent (hired hires) (same notices)
  | rehire restarting bus hires notices =>
    exact .rehire restarting bus (hired hires) (same notices)
  | dispense restarting none bus aggregators notices =>
    exact .dispense restarting none bus aggregators (same notices)
  | proceed begun busy other known ids leaves aggregators notices =>
    refine .proceed begun busy other known ids { leaves with } aggregators ?_
    refine notices.imp same ?_
    rintro ⟨n, first, unknown⟩
    change seen = _ at first
    exact ⟨n, by rw [waits, first, List.cons_append], unknown⟩

/-- A step leaves the same, whether notices are late or not. -/
theorem Staffs.late {seen late : List Notice}
    (staffs : Staffs c c' news { d with notices := seen } e) :
    Staffs c c' news d { e with notices := e.notices ++ late } where
  coordinator := staffs.coordinator
  works := staffs.works
  recounts := { staffs.recounts with }
  leaves := { staffs.leaves with }
  nextWorker := staffs.nextWorker

/-! ## Scans -/

/-- Files that are told of are no records. -/
theorem passes_publishAll {ps : List Publication} (mute : ∀ p ∈ ps, p.event.change? = none) :
    Passes [] ps d (d.publishAll ps) := by
  have leaves : Leaves [] ps d (d.publishAll ps) := leaves_publishAll ps
  rw [publishAll_eq] at leaves ⊢
  exact ⟨⟨⟨rfl, Records.tells_of_silent mute, id, rfl, rfl⟩, rfl⟩, leaves, rfl, Nat.le_refl _⟩

/-- A file that is taken starts no aggregator. -/
theorem passes_takeFile (numbered : d.bus.Numbered) (c : Coordinator) (p : ObjectPath)
    (f : ConfigFile) : ∃ news, Passes [] news d (d.takeFile c p f).1 := by
  by_cases watched : d.watches c p
  · rw [takeFile_told watched]
    exact ⟨_, recounts_publish rfl, leaves_publish _, rfl, Nat.le_refl _⟩
  · obtain ⟨d', w, talks, started, made⟩ := takeFile_started (f := f) numbered watched
    rw [made]
    obtain ⟨news, leaves⟩ := talks.spares
    have published := started.published
    have replica := started.replica
    obtain ⟨_, _, _, rfl⟩ := talks.rest
    have recounts : Recounts [] d _ := recounts_of_same published replica rfl rfl
    cases leaves.news_eq recounts.toReports
    exact ⟨[], recounts.andThen rfl rfl rfl rfl, leaves.andThen rfl rfl, rfl, Nat.le_succ _⟩

/-- A file that is found is no news of aggregators. -/
theorem takeFile_aggregators (c : Coordinator) (p : ObjectPath) (f : ConfigFile) :
    (d.takeFile c p f).2.aggregators = c.aggregators := by
  unfold takeFile
  dsimp only
  split <;> rfl

/-- A scan that is applied starts no aggregator. -/
theorem passes_applyScan (apart : d.Apart) (c : Coordinator)
    (found : SortedMap ObjectPath ConfigFile) :
    ∃ d' c' rest news, Passes [] news d d' ∧ c'.aggregators = c.aggregators ∧ Scans d d' c c' ∧
      d.applyScan c found = d'.putCoordinator { c' with point := .looking rest } := by
  obtain ⟨d', c', rest, ⟨⟨news, passes⟩, same⟩, scans, _, made⟩ :=
    applyScan_induction apart c found
      (motive := fun d' c' => (∃ news, Passes [] news d d') ∧ c'.aggregators = c.aggregators)
      ⟨⟨_, passes_publishAll (by
        intro p new
        obtain ⟨_, _, rfl⟩ := List.mem_map.1 new
        rfl)⟩, rfl⟩
      (by
        rintro d' c' p f apart' _ _ _ ⟨⟨news, passes⟩, same⟩
        obtain ⟨later, more⟩ := passes_takeFile apart'.numbered c' p f
        exact ⟨⟨_, passes.trans more⟩, (takeFile_aggregators ..).trans same⟩)
  exact ⟨d', c', rest, news, passes, same, scans, made⟩

/-! ## Steps -/

/-- Whatever happens to a coordinator that is not concerned with aggregators. -/
theorem Passes.proceeds {d' : Daemon} (passes : Passes [c.members] news d d')
    (works : c.point.works) (busy : ∀ p, c.point ≠ .restarting p) (working : c'.point.works)
    (other : ∀ p, c'.point ≠ .restarting p) (same : c'.aggregators = c.aggregators)
    (ids : c'.ids = c.ids)
    (taken : e.notices = d.notices ∨ ∃ n, d.notices = n :: e.notices ∧
      ∀ p id, n = .aggregatorDone p id → c.aggregators.get? p ≠ some id)
    (made : e = { d'.putCoordinator c' with notices := e.notices }) :
    StaffMove d c news c' e ∧ Staffs c c' news d e := by
  refine ⟨.proceed (begun_of_works works) busy other same ids ?_ ?_ taken,
    passes.staffs (by simp [Coordinator.ids]) working made⟩
  · rw [made]
    exact passes.leaves.andThen rfl rfl
  · rw [made]
    exact passes.aggregators

/-- The coordinator goes on to something that is not concerned with aggregators. -/
theorem Passes.goesOn {d' : Daemon} (passes : Passes [c.members] news d d')
    (works : c.point.works) (busy : ∀ p, c.point ≠ .restarting p) (working : c'.point.works)
    (other : ∀ p, c'.point ≠ .restarting p) (same : c'.aggregators = c.aggregators)
    (ids : c'.ids = c.ids) (notices : d'.notices = d.notices) :
    ∃ c'' news, StaffMove d c news c'' (d'.putCoordinator c') ∧
      Staffs c c'' news d (d'.putCoordinator c') :=
  ⟨c', news, passes.proceeds works busy working other same ids (.inl notices) rfl⟩

/-- The coordinator takes a notice. -/
theorem takeNotice_staffs (here : d.coordinator = some c) (idle : c.point = .idle) {n : Notice}
    {rest : List Notice} (first : d.notices = n :: rest) :
    ∃ c', StaffMove d c [] c' ({ d with notices := rest }.takeNotice c true n) ∧
      Staffs c c' [] d ({ d with notices := rest }.takeNotice c true n) := by
  have works : c.point.works := by rw [idle]; rfl
  have busy (p : ObjectPath) : c.point ≠ .restarting p := by
    rw [idle]
    exact CoordinatorPoint.noConfusion
  have nothing := Passes.refl [c.members] d
  -- A notice that is not of a known worker changes nothing.
  have same : { d with notices := rest } = { d.putCoordinator c with notices := rest } := by
    simp [putCoordinator, ← here]
  cases n with
  | watcherDone p filename id =>
    have other (p' : ObjectPath) (id' : WorkerId)
        (aggregator : Notice.watcherDone p filename id = .aggregatorDone p' id') :
        c.aggregators.get? p' ≠ some id' := by
      cases aggregator
    simp only [takeNotice]
    split
    · exact ⟨{ c with watchers := c.watchers.erase p, statusTimes := c.statusTimes.erase p },
        nothing.proceeds works busy works busy rfl rfl (.inr ⟨_, first, other⟩) rfl⟩
    · exact ⟨c, nothing.proceeds works busy works busy rfl rfl (.inr ⟨_, first, other⟩) same⟩
  | aggregatorDone p id =>
    simp only [takeNotice]
    split
    · rename_i known
      exact ⟨_, .release idle first known rfl rfl rfl,
        (Passes.refl [] d).staffs (List.nil_subset _) rfl rfl⟩
    · rename_i replaced
      refine ⟨c, nothing.proceeds works busy works busy rfl rfl (.inr ⟨_, first, ?_⟩) same⟩
      rintro _ _ ⟨⟩
      exact replaced

/-- The coordinator takes an event of a configuration. -/
theorem heedConfig_staffs {d' : Daemon} (here : d.coordinator = some c) (idle : c.point = .idle)
    {event : Event} (received : d.receive c.configs = some (event, d')) :
    ∃ c', StaffMove d c [] c' (d'.heedConfig c event) ∧
      Staffs c c' [] d (d'.heedConfig c event) := by
  obtain ⟨passes, next, made⟩ := passes_receive received
  have works : c.point.works := by rw [idle]; rfl
  have mine : [c.configs] ⊆ c.ids := by simp [Coordinator.ids]
  have ignored (none : ∀ p node value, event = .configUpdated p node value →
      d.aggregates c p = true) : StaffMove d c [] c d' ∧ Staffs c c [] d d' := by
    have same : d' = { d'.putCoordinator c with notices := d'.notices } := by
      rw [made]
      simp [putCoordinator, ← here]
    exact ⟨.ignore idle next (by rw [made]) none passes.aggregators (by rw [made]),
      passes.staffs mine works same⟩
  unfold heedConfig
  split
  · rename_i p node value
    have same : d'.aggregates c p = d.aggregates c p := by rw [made]; rfl
    split
    · rename_i there
      refine ⟨c, ignored ?_⟩
      rintro _ _ _ ⟨⟩
      exact same ▸ there
    · rename_i absent
      obtain ⟨⟨a, hires⟩, staffs⟩ := passes.hires mine (by rw [made]) p
        (if value.scope.contains node then value.scope else value.scope ++ [node])
      refine ⟨_, .hire idle next ?_ (by simpa [← same] using absent) hires ?_, staffs⟩
      · rw [made]
        rfl
      · rw [made]
        rfl
  · rename_i other
    exact ⟨c, ignored fun p node value is => absurd is (other p node value)⟩

/-- The coordinator waits for what happens next. -/
theorem runCoordinator_staffs (here : d.coordinator = some c) (idle : c.point = .idle)
    (stays : d.cancelled = false) (stepped : d.runCoordinator c = some e) :
    ∃ c' news, StaffMove d c news c' e ∧ Staffs c c' news d e := by
  have works : c.point.works := by rw [idle]; rfl
  have busy (p : ObjectPath) : c.point ≠ .restarting p := by
    rw [idle]
    exact CoordinatorPoint.noConfusion
  unfold runCoordinator at stepped
  split at stepped
  · rename_i cancelled
    rw [stays] at cancelled
    cases cancelled
  · split at stepped
    · rename_i n rest first
      cases stepped
      obtain ⟨c', moves⟩ := takeNotice_staffs here idle first
      exact ⟨c', _, moves⟩
    · split at stepped
      · rename_i received
        cases stepped
        obtain ⟨c', moves⟩ := heedConfig_staffs here idle received
        exact ⟨c', _, moves⟩
      · split at stepped
        · rename_i event d' received
          cases stepped
          obtain ⟨passes, _, made⟩ := passes_receive received
          exact passes.goesOn works busy works busy rfl rfl (by rw [made])
        · split at stepped
          · cases stepped
            exact (Passes.refl [c.members] d).goesOn works busy rfl
              (fun _ => CoordinatorPoint.noConfusion) rfl rfl rfl
          · cases stepped

/-- A step of a coordinator that does not go down. -/
theorem stepCoordinator_staffs (apart : d.Apart) (here : d.coordinator = some c)
    (stays : d.cancelled = false) (isOpen : d.storeOpen = true)
    (works : c.point = .starting ∨ c.point.works) (stepped : d.stepCoordinator c = some e) :
    ∃ c' news, StaffMove d c news c' e ∧ Staffs c c' news d e := by
  have numbered := apart.numbered
  rcases works with starting | works
  · simp only [stepCoordinator, starting] at stepped
    cases stepped
    let d' := ((d.subscribe .configUpdated []).2.subscribe
      .clusterConfigUpdated [.node d.localhost]).2
    let c' := { c with configs := d.bus.nextId, members := d.bus.nextId + 1, point := .idle }
    have passes : Passes [] [] d d' := by
      refine ⟨recounts_of_same rfl rfl rfl rfl, ?_, rfl, Nat.le_refl _⟩
      exact (leaves_subscribe .configUpdated []).trans (leaves_subscribe ..)
    refine ⟨c', [], .begin starting rfl rfl (Nat.succ_ne_self _) ?_ rfl rfl,
      passes.staffs (List.nil_subset _) rfl rfl⟩
    exact Bus.find?_subscribe_of_some (Bus.find?_subscribe_new numbered ..) ..
  have nothing := Passes.refl [c.members] d
  unfold stepCoordinator at stepped
  cases point : c.point with
  | starting | leaving | waiting | done => rw [point] at works; cases works
  | idle =>
    rw [point] at stepped
    exact runCoordinator_staffs here point stays stepped
  | restarting p =>
    simp only [point] at stepped
    rw [if_pos isOpen] at stepped
    by_cases none : (d.replica.configNodes p).isEmpty
    · rw [if_pos none] at stepped
      cases stepped
      exact ⟨_, _, .dispense point (List.isEmpty_iff.1 none) rfl rfl rfl,
        (Passes.refl [] d).staffs (List.nil_subset _) rfl rfl⟩
    · rw [if_neg none] at stepped
      cases stepped
      obtain ⟨⟨a, hires⟩, staffs⟩ := (Passes.refl [] d).hires (c := c) (List.nil_subset _) rfl p
        (d.replica.configNodes p)
      exact ⟨_, _, .rehire point rfl hires rfl, staffs⟩
  | scanning =>
    have busy (p : ObjectPath) : c.point ≠ .restarting p := by simp [point]
    rw [point] at stepped
    dsimp only at stepped
    split at stepped
    · cases stepped
      exact nothing.goesOn works busy rfl (fun _ => CoordinatorPoint.noConfusion) rfl rfl rfl
    · cases stepped
      exact nothing.goesOn works busy rfl (fun _ => CoordinatorPoint.noConfusion) rfl rfl rfl
  | applying found =>
    have busy (p : ObjectPath) : c.point ≠ .restarting p := by simp [point]
    simp only [point] at stepped
    cases stepped
    obtain ⟨d', c', rest, news, passes, same, scans, made⟩ := passes_applyScan apart c found
    have more : Passes [c.members] news d d' :=
      ⟨passes.recounts, passes.leaves.mono (List.nil_subset _), passes.aggregators,
        passes.nextWorker⟩
    rw [made]
    exact more.goesOn works busy rfl (fun _ => CoordinatorPoint.noConfusion) same
      scans.ids scans.notices
  | looking rest =>
    have busy (p : ObjectPath) : c.point ≠ .restarting p := by simp [point]
    rw [point] at stepped
    cases rest with
    | nil =>
      cases stepped
      exact nothing.goesOn works busy rfl (fun _ => CoordinatorPoint.noConfusion) rfl rfl rfl
    | cons p rest =>
      cases stepped
      simp only [lookAtStatus]
      split
      · exact nothing.goesOn works busy rfl (fun _ => CoordinatorPoint.noConfusion) rfl rfl rfl
      · split
        · exact nothing.goesOn works busy rfl (fun _ => CoordinatorPoint.noConfusion) rfl rfl rfl
        · exact nothing.goesOn works busy rfl (fun _ => CoordinatorPoint.noConfusion) rfl rfl rfl
  | reading p rest =>
    have busy (p : ObjectPath) : c.point ≠ .restarting p := by simp [point]
    simp only [point] at stepped
    cases stepped
    unfold readStatus
    split
    · exact nothing.goesOn works busy rfl (fun _ => CoordinatorPoint.noConfusion) rfl rfl rfl
    · exact nothing.goesOn works busy rfl (fun _ => CoordinatorPoint.noConfusion) rfl rfl rfl
  | storing p value rest =>
    have busy (p : ObjectPath) : c.point ≠ .restarting p := by simp [point]
    simp only [point] at stepped
    cases stepped
    have talks : Talks [c.members] d (d.applyLocal (.setStatus p value)).1 := talks_applyLocal _
    obtain ⟨news, passes⟩ := talks.passes (applyLocal_recounts d _)
    refine passes.goesOn works busy rfl (fun _ => CoordinatorPoint.noConfusion) rfl rfl ?_
    obtain ⟨_, _, _, rest⟩ := talks.rest
    rw [rest]

end ClusterNode.Daemon
