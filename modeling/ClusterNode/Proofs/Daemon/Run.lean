import ClusterNode.Proofs.Daemon.Bystanders
import ClusterNode.Proofs.Daemon.Scans
import ClusterNode.Proofs.Daemon.WatcherMoves

/-!
# Runs of a node

A `Daemon.Run` is a run of a node whose coordinator was started, while nobody asks it to
go down and the store is open. Every version of a file that is written has a time of
modification that no earlier version of the file had; a run keeps the states that it
passed through, latest first, and these say which versions there were.

`Step.cases` is the inversion of a step from the view of the coordinator and the watchers.
`Steady` is what every run keeps whatever happens; it is what the inversions rely on.
-/

namespace ClusterNode.Daemon

/-- What a run keeps whatever happens. -/
structure Steady (d : Daemon) : Prop where
  apart : d.Apart
  stays : d.cancelled = false
  isOpen : d.storeOpen = true
  takesNotices : d.takesNotices = true
  coordinator : ∃ c, d.coordinator = some c ∧ (c.point = .starting ∨ c.point.works)

variable {d e : Daemon}

/-! ## Single steps -/

/-- A step of an actor that is neither the coordinator nor a watcher, or of the world. -/
def Aside (d e : Daemon) : Prop :=
  ∃ a, a ≠ .coordinator ∧ (∀ id, a ≠ .watcher id) ∧ Bystands (d.owned a) d e ∧ Grants a d e

/-- A step of a watcher. -/
def WatcherTurns (d e : Daemon) : Prop :=
  ∃ id w w', d.watchers.get? id = some w ∧ w.point ≠ .done ∧ WatcherMove d w w' e ∧
    Turns id w w' d e

/-- A step of the coordinator. -/
def CoordinatorTurns (d e : Daemon) : Prop :=
  ∃ c, d.coordinator = some c ∧ ((∃ c', CoordinatorMove d c c' e ∧ Directs c c' d e) ∨
    ∃ found, c.point = .applying found ∧ e = d.applyScan c found)

/-- What only talks is aside. -/
theorem Talks.aside (talks : Talks [] d e) : Aside d e := by
  have bystands := talks.bystands
  obtain ⟨_, leaves⟩ := talks.spares
  exact ⟨.store, Actor.noConfusion, fun _ => Actor.noConfusion,
    { bystands with spares := ⟨_, leaves.mono (List.nil_subset _)⟩ }, talks.grants .store⟩

/-- What an actor does is aside, or a turn of a watcher or of the coordinator. -/
theorem step_cases (steady : d.Steady) {a : Actor} {input : MonitorInput}
    (stepped : d.stepTaking input a = some e) :
    Aside d e ∨ WatcherTurns d e ∨ CoordinatorTurns d e := by
  cases a with
  | store =>
    obtain ⟨bystands, grants⟩ := stepStore_bystands stepped
    exact .inl ⟨_, Actor.noConfusion, fun _ => Actor.noConfusion, bystands, grants⟩
  | coordinator =>
    obtain ⟨c, here, works⟩ := steady.coordinator
    have stepped : d.stepCoordinator c = some e := by simpa [stepTaking, here] using stepped
    exact .inr (.inr ⟨c, here,
      stepCoordinator_cases here steady.stays works steady.apart.numbered stepped⟩)
  | watcher id =>
    obtain ⟨w, here, stepped⟩ := Option.bind_eq_some_iff.1 stepped
    obtain ⟨lives, w', move, turns⟩ := stepWatcher_cases here steady.isOpen stepped
    exact .inr (.inl ⟨id, w, w', here, lives, move, turns⟩)
  | monitor id =>
    obtain ⟨m, here, stepped⟩ := Option.bind_eq_some_iff.1 stepped
    obtain ⟨bystands, grants⟩ := stepMonitor_bystands here stepped
    exact .inl ⟨_, Actor.noConfusion, fun _ => Actor.noConfusion, bystands, grants⟩
  | aggregator id =>
    obtain ⟨m, here, stepped⟩ := Option.bind_eq_some_iff.1 stepped
    obtain ⟨bystands, grants⟩ := stepAggregator_bystands here stepped
    exact .inl ⟨_, Actor.noConfusion, fun _ => Actor.noConfusion, bystands, grants⟩

/-- What changes nothing that an actor sees is aside. -/
theorem aside_of_clock (made : ∃ clock served statusFiles, e = { d with clock, served, statusFiles }) :
    Aside d e := by
  obtain ⟨clock, served, statusFiles, rfl⟩ := made
  refine ⟨.store, Actor.noConfusion, fun _ => Actor.noConfusion,
    ⟨spares_of_bus rfl rfl, rfl, rfl, rfl, rfl, rfl, rfl, no_notices rfl⟩, ?_⟩
  have grants := (Talks.refl [] d).grants .store
  exact ⟨grants.nextId, grants.numbered, grants.mine, grants.others⟩

/-- What can happen to a node that does not go down. -/
theorem Step.cases (step : Step d e) (steady : d.Steady) (stays : e.cancelled = false)
    (isOpen : e.storeOpen = true) :
    Aside d e ∨ (∃ files, e = { d with configDirectory := files }) ∨ WatcherTurns d e ∨
      CoordinatorTurns d e := by
  cases step with
  | act stepped =>
    rcases step_cases steady stepped with aside | turns
    · exact .inl aside
    · exact .inr (.inr turns)
  | moveClock ms => exact .inl (aside_of_clock ⟨_, _, _, rfl⟩)
  | serve due => exact .inl (aside_of_clock ⟨_, _, _, rfl⟩)
  | configDirectory files => exact .inr (.inl ⟨files, rfl⟩)
  | statusFiles files => exact .inl (aside_of_clock ⟨_, _, _, rfl⟩)
  | applyLocal m => exact .inl (talks_applyLocal m).aside
  | applyRemote node g ms => exact .inl (talks_applyRemote node g ms).aside
  | applyMessage m => exact .inl (talks_applyMessage m).aside
  | publish p => exact .inl (talks_publish p).aside
  | cancel => cases stays
  | closeStore => cases isOpen

/-! ## What every step keeps -/

/-- A coordinator that keeps its subscriptions takes none of another actor. -/
theorem Apart.putCoordinator (apart : d.Apart) {c c' : Coordinator} (here : d.coordinator = some c)
    (ids : c'.ids = c.ids) : (d.putCoordinator c').Apart := by
  refine apart.grants ((Talks.refl [] d).grantsWith (a := .coordinator) rfl ?_ ?_)
  · rw [owned_coordinator here]
    change Keeps c.ids c'.ids d d
    rw [ids]
    exact .refl _
  · intro b different i has
    right
    cases b with
    | coordinator => exact absurd rfl different
    | _ => exact has

/-- What every run keeps is kept by every step. -/
theorem Steady.step (steady : d.Steady) (step : Step d e) (stays : e.cancelled = false)
    (isOpen : e.storeOpen = true) : e.Steady := by
  obtain ⟨c, here, works⟩ := steady.coordinator
  rcases step.cases steady stays isOpen with
    ⟨a, _, _, bystands, grants⟩ | ⟨files, rfl⟩ | ⟨id, w, w', there, _, _, turns⟩ |
      ⟨c', here', moves⟩
  · exact ⟨steady.apart.grants grants, stays, isOpen,
      bystands.takesNotices.trans steady.takesNotices,
      c, bystands.coordinator.trans here, works⟩
  · exact ⟨steady.apart.of_same rfl rfl, stays, isOpen, steady.takesNotices, c, here, works⟩
  · exact ⟨steady.apart.grants (turns.grants there), stays, isOpen,
      turns.takesNotices.trans steady.takesNotices, c, turns.coordinator.trans here, works⟩
  · rcases moves with ⟨c'', _, directs⟩ | ⟨found, _, rfl⟩
    · exact ⟨steady.apart.grants directs.grants, stays, isOpen,
        directs.takesNotices.trans steady.takesNotices, c'', directs.coordinator,
        .inr directs.works⟩
    · obtain ⟨d', c'', rest, _, scans, apart, made⟩ := applyScan_induction steady.apart c' found
        (motive := fun _ _ => True) trivial fun _ _ _ _ _ _ _ _ _ => trivial
      rw [made] at stays isOpen ⊢
      exact ⟨apart.putCoordinator (scans.coordinator.trans here') scans.ids, stays, isOpen,
        scans.takesNotices.trans steady.takesNotices, _, rfl, .inr rfl⟩

/-! ## Runs -/

/-- Every version of a file was there just before, or has a time of modification that no
version of the file ever had. -/
def NewTimes (past : List Daemon) (d e : Daemon) : Prop :=
  ∀ file v, e.configDirectory.read? file = some v →
    d.configDirectory.read? file = some v ∨
      ∀ s ∈ past, ∀ u, s.configDirectory.read? file = some u → u.modified ≠ v.modified

/-- A run of a node that does not go down: the states that it passed through, latest first,
and the state that it has reached, which is one of them. -/
inductive Run (start : Daemon) : List Daemon → Daemon → Prop where
  | start : Run start [start] start
  | step {past : List Daemon} {d e : Daemon} :
      Run start past d → Step d e → e.cancelled = false → e.storeOpen = true →
      NewTimes past d e → Run start (e :: past) e

/-- A run passed through where it is. -/
theorem Run.mem {start : Daemon} {past : List Daemon} (run : Run start past d) : d ∈ past := by
  cases run <;> simp

/-- A run has its state at hand first. -/
theorem Run.head {start : Daemon} {past : List Daemon} (run : Run start past d) :
    ∃ before, past = d :: before := by
  cases run with
  | start => exact ⟨[], rfl⟩
  | step _ _ _ _ _ => exact ⟨_, rfl⟩

/-- A node whose coordinator was just started is steady. -/
theorem steady_start (s : DaemonSettings) (startedAt : Timestamp) :
    (Daemon.new s startedAt).startCoordinator.Steady where
  apart := by
    refine (apart_new s startedAt).grants
      ((Talks.refl [] _).grantsWith (a := .coordinator) rfl ?_ ?_)
    · intro i mine
      change i ∈ [0, 0] at mine
      exact .inl (by simpa using mine)
    · intro b different i has
      right
      cases b with
      | coordinator => exact absurd rfl different
      | _ => exact has
  stays := rfl
  isOpen := rfl
  takesNotices := rfl
  coordinator := ⟨_, rfl, .inl rfl⟩

/-- A run from there stays steady. -/
theorem Run.steady {s : DaemonSettings} {startedAt : Timestamp} {past : List Daemon}
    (run : Run (Daemon.new s startedAt).startCoordinator past d) : d.Steady := by
  induction run with
  | start => exact steady_start s startedAt
  | step _ step stays isOpen _ ih => exact ih.step step stays isOpen

/-! ## Runs that can be computed -/

instance (past : List Daemon) (d e : Daemon) : Decidable (NewTimes past d e) :=
  decidable_of_iff
    (∀ file v, e.configDirectory.files.get? file = some v →
      d.configDirectory.read? file = some v ∨
        ∀ s ∈ past, ∀ u ∈ s.configDirectory.read? file, u.modified ≠ v.modified)
    Iff.rfl

/-- A node is quiet when the actors that it has all wait. -/
theorem quiet_iff : d.Quiet ↔ ∀ a ∈ d.actors, d.step a = none := by
  constructor
  · exact fun quiet a _ => quiet a
  · intro waits a
    by_cases member : a ∈ d.actors
    · exact waits a member
    · cases a with
      | store => exact absurd (List.mem_append_left _ (by simp)) member
      | coordinator => exact absurd (List.mem_append_left _ (by simp)) member
      | watcher id =>
        have absent : d.watchers.get? id = none := by
          simpa [actors, SortedMap.mem_keys_iff, Option.eq_none_iff_forall_ne_some] using member
        simp [step, stepTaking, absent]
      | monitor id =>
        have absent : d.monitors.get? id = none := by
          simpa [actors, SortedMap.mem_keys_iff, Option.eq_none_iff_forall_ne_some] using member
        simp [step, stepTaking, absent]
      | aggregator id =>
        have absent : d.aggregators.get? id = none := by
          simpa [actors, SortedMap.mem_keys_iff, Option.eq_none_iff_forall_ne_some] using member
        simp [step, stepTaking, absent]

/-- A monitor that has no first input has none. -/
theorem runMonitor_of_first {id : WorkerId} {m : Monitor} (here : d.monitors.get? id = some m)
    (waits : d.runMonitor id m (d.firstInput (.monitor id)) = none) (input : MonitorInput) :
    d.runMonitor id m input = none := by
  simp only [firstInput, here] at waits
  by_cases ends : d.endsMonitor m = true
  · simp [ends, runMonitor] at waits
  by_cases requested : (d.bus.next? m.requests).isSome = true
  · rw [if_neg ends, if_pos requested, runMonitor] at waits
    split at waits
    · cases waits
    · cases waits
    · rename_i none
      simp [receive, Option.isSome_iff_ne_none.1 requested] at none
  · have none : d.receive m.requests = none := by simpa [receive] using requested
    rw [if_neg ends, if_neg requested] at waits
    cases input with
    | ending => simp [runMonitor, ends]
    | request => simp [runMonitor, none]
    | config => exact waits

/-- In a quiet node no actor can step, whatever a monitor would take. -/
theorem Quiet.stepTaking (quiet : d.Quiet) (input : MonitorInput) (a : Actor) :
    d.stepTaking input a = none := by
  cases a with
  | monitor id =>
    have waits := quiet (.monitor id)
    simp only [step, Daemon.stepTaking] at waits ⊢
    cases here : d.monitors.get? id with
    | none => rfl
    | some m =>
      rw [here, Option.bind_some, stepMonitor] at waits
      rw [Option.bind_some, stepMonitor]
      split at waits
      case h_4 =>
        split at waits
        · exact runMonitor_of_first here waits input
        · exact waits
      all_goals exact waits
  | store => exact quiet .store
  | coordinator => exact quiet .coordinator
  | watcher id => exact quiet (.watcher id)
  | aggregator id => exact quiet (.aggregator id)
instance (d : Daemon) : Decidable d.Quiet := decidable_of_iff _ quiet_iff.symm

/-- A thing that can happen to a node. -/
inductive Move where
  | act (a : Actor)
  | pass (ms : Nat)
  | serve (time : Nat)
  | write (files : ConfigDirectory)
  | change (m : Mutation)

/-- The node after a move, if the move can be made. -/
def perform (d : Daemon) : Move → Option Daemon
  | .act a => d.step a
  | .pass ms => some (d.moveClock ms)
  | .serve time => if time ≤ d.clock then some (d.serveTo time) else none
  | .write files => some { d with configDirectory := files }
  | .change m => some (d.applyLocal m).1

/-- A move is a step. -/
theorem step_of_perform {move : Move} (made : d.perform move = some e) : Step d e := by
  cases move with
  | act a => exact .act made
  | pass ms =>
    cases made
    exact .moveClock ms
  | serve time =>
    simp only [perform] at made
    split at made
    · rename_i due
      cases made
      exact .serve due
    · cases made
  | write files =>
    cases made
    exact .configDirectory files
  | change m =>
    cases made
    exact .applyLocal m

/-- The run that moves make, unless one cannot be made, the node goes down or a time of
modification comes twice. -/
def replay (past : List Daemon) (d : Daemon) : List Move → Option (List Daemon × Daemon)
  | [] => some (past, d)
  | move :: moves => do
    let e ← d.perform move
    if e.cancelled = false ∧ e.storeOpen = true ∧ NewTimes past d e then
      replay (e :: past) e moves
    else none

/-- What is replayed is a run. -/
theorem run_of_replay {start : Daemon} {past : List Daemon} (run : Run start past d)
    {moves : List Move} {later : List Daemon × Daemon}
    (made : replay past d moves = some later) : Run start later.1 later.2 := by
  induction moves generalizing past d with
  | nil =>
    cases made
    exact run
  | cons move moves ih =>
    obtain ⟨e, performed, made⟩ := Option.bind_eq_some_iff.1 made
    split at made
    · rename_i goes
      exact ih (run.step (step_of_perform performed) goes.1 goes.2.1 goes.2.2) made
    · cases made

/-- What holds at the end of a replayed run is reached. -/
theorem exists_run_of_replay {start : Daemon} (moves : List Move)
    {P : List Daemon → Daemon → Prop}
    (reached : ∃ later, later ∈ replay [start] start moves ∧ P later.1 later.2) :
    ∃ past d, Run start past d ∧ P past d := by
  obtain ⟨later, made, holds⟩ := reached
  exact ⟨later.1, later.2, run_of_replay .start made, holds⟩

end ClusterNode.Daemon
