import ClusterNode.Proofs.Daemon.Ownership
import ClusterNode.Daemon.CoordinatorSteps

/-!
# Steps of the coordinator

`CoordinatorMove` lists what a step makes of what the coordinator knows of files and
watchers, while nobody asks the node to go down. `stepCoordinator_cases` is the inversion
of a step; beside the move it gives the frame of the step, `Daemon.Directs`.

A scan that is applied is no single move: it tells of the files that are gone, and then
takes the new and the changed ones, one after the other. `applyScan_induction` follows it.
-/

namespace ClusterNode

/-- Whether the coordinator has begun and does not go down. -/
def CoordinatorPoint.works : CoordinatorPoint → Bool
  | .starting | .leaving | .waiting _ | .done => false
  | _ => true

namespace Daemon

/-- A coordinator that does its work has begun. -/
theorem begun_of_works {point : CoordinatorPoint} (works : point.works) : point ≠ .starting := by
  rintro rfl
  cases works

/-- What one step makes of what the coordinator knows; scans that are applied left out. -/
inductive CoordinatorMove (d : Daemon) (c : Coordinator) : Coordinator → Daemon → Prop where
  | begin {c' : Coordinator} {e : Daemon} : c.point = .starting →
      c'.files = c.files → c'.watchers = c.watchers → (∀ found, c'.point ≠ .applying found) →
      e.notices = d.notices → c'.members ≠ c'.configs →
      e.bus.find? c'.members =
        some ⟨c'.members, .clusterConfigUpdated, [.node d.localhost], [], 0⟩ →
      Spares [] d e → CoordinatorMove d c c' e
  /-- The watcher of an object has ended. -/
  | forget {p : ObjectPath} {filename : String} {id : WorkerId} {rest : List Notice}
      {e : Daemon} : c.point = .idle → d.notices = .watcherDone p filename id :: rest →
      c.watchers.get? p = some id → e.notices = rest → Spares [] d e →
      CoordinatorMove d c { c with
        watchers := c.watchers.erase p, statusTimes := c.statusTimes.erase p } e
  /-- The membership has changed. -/
  | retry {event : Event} {d' e : Daemon} : c.point = .idle →
      d.receive c.members = some (event, d') → e.notices = d.notices → Spares [] d' e →
      CoordinatorMove d c c.retry e
  /-- The configuration directory is read. -/
  | look {found : SortedMap ObjectPath ConfigFile} {e : Daemon} : c.point = .scanning →
      d.configDirectory.scan = some found → e.notices = d.notices → Spares [] d e →
      CoordinatorMove d c { c with point := .applying found } e
  /-- The files and the watchers are not concerned. -/
  | proceed {c' : Coordinator} {e : Daemon} : c.point ≠ .starting →
      c'.files = c.files → c'.watchers = c.watchers → c'.ids = c.ids →
      (∀ found, c'.point ≠ .applying found) →
      (e.notices = d.notices ∨ ∃ n, d.notices = n :: e.notices ∧
        ∀ p filename id, n = .watcherDone p filename id → c.watchers.get? p ≠ some id) →
      Spares [c.configs] d e → CoordinatorMove d c c' e

/-- What a step of the coordinator leaves as it was: all but the bus, the notices, its own
record and the workers that it starts. -/
structure Directs (c c' : Coordinator) (d e : Daemon) : Prop where
  coordinator : e.coordinator = some c'
  works : c'.point.works
  spares : Spares c.ids d e
  settings : e.settings = d.settings
  configDirectory : e.configDirectory = d.configDirectory
  takesNotices : e.takesNotices = d.takesNotices
  watchers : e.watchers = d.watchers
  nextWorker : d.nextWorker ≤ e.nextWorker
  grants : Grants .coordinator d e

variable {d e : Daemon} {own : List Nat} {c c' : Coordinator}

/-- After some talk the coordinator keeps its record anew. -/
theorem Talks.directs {d' : Daemon} (talks : Talks own d d') (mine : own ⊆ c.ids)
    (here : d.coordinator = some c) (keeps : Keeps c.ids c'.ids d d') (works : c'.point.works)
    {notices : List Notice} (made : e = { d'.putCoordinator c' with notices }) :
    Directs c c' d e := by
  subst made
  have spares : Spares c.ids d d' := by
    obtain ⟨_, leaves⟩ := talks.spares
    exact ⟨_, leaves.mono mine⟩
  have grants : Grants .coordinator d { d'.putCoordinator c' with notices } := by
    refine talks.grantsWith rfl ?_ ?_
    · rw [owned_coordinator here]
      exact keeps
    · intro b different i has
      right
      cases b with
      | coordinator => exact absurd rfl different
      | _ => exact has
  obtain ⟨_, _, _, rfl⟩ := talks.rest
  exact {
    works, grants
    coordinator := rfl
    spares := spares.andThen rfl rfl
    settings := rfl
    configDirectory := rfl
    takesNotices := rfl
    watchers := rfl
    nextWorker := Nat.le_refl _ }

/-- A coordinator that starts an aggregator. -/
theorem Talks.beginAggregator_directs {d' : Daemon} (talks : Talks own d d')
    (mine : own ⊆ c.ids) (here : d.coordinator = some c) (p : ObjectPath)
    (scope : List String) :
    Directs c { c with aggregators := c.aggregators.insert p d'.nextWorker, point := .idle } d
      (d'.beginAggregator c p scope) := by
  have spares : Spares c.ids d d' := by
    obtain ⟨_, leaves⟩ := talks.spares
    exact ⟨_, leaves.mono mine⟩
  have grants : Grants .coordinator d (d'.beginAggregator c p scope) := by
    refine talks.grantsWith rfl ?_ ?_
    · rw [owned_coordinator here]
      exact .refl _
    · intro b different i has
      cases b with
      | coordinator => exact absurd rfl different
      | aggregator k =>
        change i ∈ (((d'.aggregators.insert d'.nextWorker _).get? k).map _).getD [] at has
        rw [SortedMap.get?_insert] at has
        split at has
        · exact .inl (by simpa [AggregatorSubscriptions.ids] using has)
        · exact .inr has
      | _ => exact .inr has
  obtain ⟨_, _, _, rfl⟩ := talks.rest
  exact {
    grants
    coordinator := rfl
    works := rfl
    spares := spares.andThen rfl rfl
    settings := rfl
    configDirectory := rfl
    takesNotices := rfl
    watchers := rfl
    nextWorker := Nat.le_succ _ }

/-! ## Notices and events -/

/-- Whatever happens to a coordinator that does not begin, look or forget. -/
theorem Talks.proceeds {d' : Daemon} (talks : Talks [c.configs] d d')
    (here : d.coordinator = some c) (works : c.point.works) (files : c'.files = c.files)
    (watchers : c'.watchers = c.watchers) (ids : c'.ids = c.ids) (working : c'.point.works)
    (scans : ∀ found, c'.point ≠ .applying found)
    (taken : e.notices = d.notices ∨ ∃ n, d.notices = n :: e.notices ∧
      ∀ p filename id, n = .watcherDone p filename id → c.watchers.get? p ≠ some id)
    (made : e = { d'.putCoordinator c' with notices := e.notices }) :
    CoordinatorMove d c c' e ∧ Directs c c' d e := by
  constructor
  · refine .proceed (begun_of_works works) files watchers ids scans taken ?_
    rw [made]
    exact talks.spares.andThen rfl rfl
  · refine talks.directs (by simp [Coordinator.ids]) here ?_ working made
    rw [ids]
    exact .refl _

/-- The coordinator takes a notice. -/
theorem takeNotice_cases (here : d.coordinator = some c) (idle : c.point = .idle)
    {n : Notice} {rest : List Notice} (first : d.notices = n :: rest) :
    ∃ c', CoordinatorMove d c c' ({ d with notices := rest }.takeNotice c true n) ∧
      Directs c c' d ({ d with notices := rest }.takeNotice c true n) := by
  have silent := Talks.refl [c.configs] d
  have works : c.point.works := by rw [idle]; rfl
  have scans (found : SortedMap ObjectPath ConfigFile) : c.point ≠ .applying found := by
    rw [idle]
    exact CoordinatorPoint.noConfusion
  -- A notice that is not of a known worker changes nothing.
  have same : { d with notices := rest } =
      { d.putCoordinator c with notices := rest } := by
    simp [putCoordinator, ← here]
  cases n with
  | watcherDone p filename id =>
    simp only [takeNotice]
    split
    · rename_i known
      exact ⟨_, .forget idle first known rfl (spares_of_bus rfl rfl),
        (Talks.refl [] d).directs (List.nil_subset _) here (.refl _) works rfl⟩
    · rename_i replaced
      refine ⟨c, silent.proceeds here works rfl rfl rfl works scans (.inr ⟨_, first, ?_⟩) same⟩
      rintro _ _ _ ⟨⟩
      exact replaced
  | aggregatorDone p id =>
    have other (p' : ObjectPath) (filename : String) (id' : WorkerId)
        (watcher : Notice.aggregatorDone p id = .watcherDone p' filename id') :
        c.watchers.get? p' ≠ some id' := by
      cases watcher
    simp only [takeNotice]
    split
    · exact ⟨{ c with aggregators := c.aggregators.erase p, point := .restarting p },
        silent.proceeds here works rfl rfl rfl rfl (fun _ => CoordinatorPoint.noConfusion)
          (.inr ⟨_, first, other⟩) rfl⟩
    · exact ⟨c, silent.proceeds here works rfl rfl rfl works scans (.inr ⟨_, first, other⟩) same⟩

/-- The coordinator takes an event of a configuration. -/
theorem heedConfig_cases {d' : Daemon} (here : d.coordinator = some c) (idle : c.point = .idle)
    {event : Event} (received : d.receive c.configs = some (event, d')) :
    ∃ c', CoordinatorMove d c c' (d'.heedConfig c event) ∧
      Directs c c' d (d'.heedConfig c event) := by
  have talks : Talks [c.configs] d d' := talks_receive (List.mem_singleton_self _) received
  have works : c.point.works := by rw [idle]; rfl
  have scans (found : SortedMap ObjectPath ConfigFile) : c.point ≠ .applying found := by
    rw [idle]
    exact CoordinatorPoint.noConfusion
  have notices : d'.notices = d.notices := by
    obtain ⟨_, _, _, rfl⟩ := talks.rest
    rfl
  have same : d' = { d'.putCoordinator c with notices := d'.notices } := by
    obtain ⟨_, _, _, rfl⟩ := talks.rest
    simp [putCoordinator, ← here]
  have nothing : CoordinatorMove d c c d' ∧ Directs c c d d' :=
    talks.proceeds here works rfl rfl rfl works scans (.inl notices) same
  unfold heedConfig
  split
  · split
    · exact ⟨c, nothing⟩
    · refine ⟨_, ?_, talks.beginAggregator_directs (by simp [Coordinator.ids]) here _ _⟩
      refine .proceed ?_ rfl rfl rfl (fun _ => CoordinatorPoint.noConfusion) (.inl notices)
        (talks.spares.andThen rfl rfl)
      rw [idle]
      exact CoordinatorPoint.noConfusion
  · exact ⟨c, nothing⟩

/-! ## Steps -/

/-- The coordinator waits for what happens next. -/
theorem runCoordinator_cases (here : d.coordinator = some c) (idle : c.point = .idle)
    (stays : d.cancelled = false) (stepped : d.runCoordinator c = some e) :
    ∃ c', CoordinatorMove d c c' e ∧ Directs c c' d e := by
  have works : c.point.works := by rw [idle]; rfl
  unfold runCoordinator at stepped
  split at stepped
  · rename_i cancelled
    rw [stays] at cancelled
    cases cancelled
  · split at stepped
    · rename_i n rest first
      cases stepped
      exact takeNotice_cases here idle first
    · split at stepped
      · rename_i received
        cases stepped
        exact heedConfig_cases here idle received
      · split at stepped
        · rename_i event d' received
          cases stepped
          have talks : Talks [c.members] d d' :=
            talks_receive (List.mem_singleton_self _) received
          have notices : d'.notices = d.notices := by
            obtain ⟨_, _, _, rfl⟩ := talks.rest
            rfl
          exact ⟨c.retry, .retry idle received notices (spares_of_bus rfl rfl),
            talks.directs (by simp [Coordinator.ids]) here (.refl _) works rfl⟩
        · split at stepped
          · cases stepped
            exact ⟨{ c with
                nextScan := nextScanAfter d.served c.nextScan d.settings.scanPeriod
                point := .scanning },
              (Talks.refl [c.configs] d).proceeds here works rfl rfl rfl rfl
                (fun _ => CoordinatorPoint.noConfusion) (.inl rfl) rfl⟩
          · cases stepped

/-- The coordinator begins. -/
theorem begin_cases (here : d.coordinator = some c) (starting : c.point = .starting)
    (numbered : d.bus.Numbered) (stepped : d.stepCoordinator c = some e) :
    ∃ c', CoordinatorMove d c c' e ∧ Directs c c' d e := by
  simp only [stepCoordinator, starting] at stepped
  cases stepped
  have talks : Talks [] d ((d.subscribe .configUpdated []).2.subscribe
      .clusterConfigUpdated [.node d.localhost]).2 :=
    (talks_subscribe ..).trans (talks_subscribe ..)
  have later : (d.subscribe .configUpdated []).2.bus.Numbered :=
    numbered_subscribe numbered ..
  have found : ((d.subscribe .configUpdated []).2.bus.subscribe
      .clusterConfigUpdated [.node d.localhost]).2.find? (d.bus.nextId + 1) =
      some ⟨d.bus.nextId + 1, .clusterConfigUpdated, [.node d.localhost], [], 0⟩ :=
    Bus.find?_subscribe_new later _ _
  refine ⟨{ c with configs := d.bus.nextId, members := d.bus.nextId + 1, point := .idle },
    .begin starting rfl rfl (fun _ => CoordinatorPoint.noConfusion) rfl (Nat.succ_ne_self _) found
      (talks.spares.andThen rfl rfl), talks.directs (List.nil_subset _) here ?_ rfl rfl⟩
  intro i mine
  change i ∈ [d.bus.nextId, d.bus.nextId + 1] at mine
  change _ ∨ _ ∨ (_ ∧ i < d.bus.nextId + 1 + 1)
  simp only [List.mem_cons, List.not_mem_nil, or_false] at mine
  omega

/-- A step of a coordinator that does not go down. -/
theorem stepCoordinator_cases (here : d.coordinator = some c) (stays : d.cancelled = false)
    (works : c.point = .starting ∨ c.point.works) (numbered : d.bus.Numbered)
    (stepped : d.stepCoordinator c = some e) :
    (∃ c', CoordinatorMove d c c' e ∧ Directs c c' d e) ∨
      ∃ found, c.point = .applying found ∧ e = d.applyScan c found := by
  rcases works with starting | works
  · exact .inl (begin_cases here starting numbered stepped)
  have silent := Talks.refl [] d
  have proceeds {c' : Coordinator} {d' : Daemon} (talks : Talks [] d d')
      (files : c'.files = c.files) (watchers : c'.watchers = c.watchers) (ids : c'.ids = c.ids)
      (working : c'.point.works) (scans : ∀ found, c'.point ≠ .applying found) :
      ∃ c'', CoordinatorMove d c c'' (d'.putCoordinator c') ∧
        Directs c c'' d (d'.putCoordinator c') := by
    have more : Talks [c.configs] d d' := by
      obtain ⟨⟨_, leaves⟩, rest⟩ := talks
      exact ⟨⟨_, leaves.mono (List.nil_subset _)⟩, rest⟩
    have notices : d'.notices = d.notices := by
      obtain ⟨_, _, _, rfl⟩ := talks.rest
      rfl
    exact ⟨c', more.proceeds here works files watchers ids working scans (.inl notices) rfl⟩
  unfold stepCoordinator at stepped
  split at stepped
  · rename_i point
    rw [point] at works
    cases works
  · rename_i idle
    exact .inl (runCoordinator_cases here idle stays stepped)
  · rename_i point
    split at stepped
    · cases stepped
      exact .inl (proceeds silent rfl rfl rfl rfl fun _ => CoordinatorPoint.noConfusion)
    · rename_i found scanned
      cases stepped
      exact .inl ⟨_, .look point scanned rfl (spares_of_bus rfl rfl),
        silent.directs (List.nil_subset _) here (.refl _) rfl rfl⟩
  · rename_i found point
    cases stepped
    exact .inr ⟨found, point, rfl⟩
  · cases stepped
    exact .inl (proceeds silent rfl rfl rfl rfl fun _ => CoordinatorPoint.noConfusion)
  · cases stepped
    left
    simp only [lookAtStatus]
    split
    · exact proceeds silent rfl rfl rfl rfl fun _ => CoordinatorPoint.noConfusion
    · split
      · exact proceeds silent rfl rfl rfl rfl fun _ => CoordinatorPoint.noConfusion
      · exact proceeds silent rfl rfl rfl rfl fun _ => CoordinatorPoint.noConfusion
  · cases stepped
    left
    unfold readStatus
    split
    · exact proceeds silent rfl rfl rfl rfl fun _ => CoordinatorPoint.noConfusion
    · exact proceeds silent rfl rfl rfl rfl fun _ => CoordinatorPoint.noConfusion
  · cases stepped
    exact .inl (proceeds (talks_applyLocal _) rfl rfl rfl rfl
      fun _ => CoordinatorPoint.noConfusion)
  · rename_i p point
    have busy : c.point ≠ .starting := by rw [point]; exact CoordinatorPoint.noConfusion
    dsimp only at stepped
    by_cases none : (if d.storeOpen then d.replica.configNodes p else []).isEmpty
    · rw [if_pos none] at stepped
      cases stepped
      exact .inl (proceeds silent rfl rfl rfl rfl fun _ => CoordinatorPoint.noConfusion)
    · rw [if_neg none] at stepped
      cases stepped
      refine .inl ⟨_, ?_, silent.beginAggregator_directs (List.nil_subset _) here _ _⟩
      exact .proceed busy rfl rfl rfl (fun _ => CoordinatorPoint.noConfusion) (.inl rfl)
        (spares_of_bus rfl rfl)
  · rename_i point
    rw [point] at works
    cases works
  · rename_i point
    rw [point] at works
    cases works
  · cases stepped

end Daemon

end ClusterNode
