import ClusterNode.Proofs.Daemon.Discovery
import ClusterNode.Proofs.Daemon.Staffing

/-!
# The aggregates of configured objects

A node is `Handled` when no event, command or notice is left that concerns aggregators.
`Life.presents_configured` says that then every object that some node configures has an
aggregator that runs, and the store has the aggregate of what it knows, in every life of a
node whose coordinator has subscribed before anything was configured.

A configuration that comes back while the aggregator leaves is ignored by the coordinator; it
is the notice of the aggregator that brings the next one. If the configuration is back when the
aggregator has ended and its notice is late, the configuration brings the next one, and the
notice is stale. `presented_of_restarted` is a life in which both happen.
-/

namespace ClusterNode

/-- The object whose aggregator the coordinator is about to start again. -/
def CoordinatorPoint.restarts? : CoordinatorPoint → Option ObjectPath
  | .restarting p => some p
  | _ => none

namespace Daemon

/-- Nothing is left that concerns the aggregators of a node. -/
structure Handled (d : Daemon) (c : Coordinator) : Prop where
  coordinator : d.coordinator = some c
  rests : c.point.restarts? = none
  notices : d.notices = []
  heard : d.receive c.configs = none
  aggregators : ∀ id a, d.aggregators.get? id = some a → a.point = .done ∨
    (a.point = .running ∧ a.mailbox = [] ∧ d.nextForAggregator a.subscriptions = none)

instance (d : Daemon) (c : Coordinator) : Decidable (Handled d c) :=
  decidable_of_iff (d.coordinator = some c ∧ c.point.restarts? = none ∧ d.notices = [] ∧
      d.receive c.configs = none ∧
      ∀ id a, d.aggregators.get? id = some a → a.point = .done ∨
        (a.point = .running ∧ a.mailbox = [] ∧ d.nextForAggregator a.subscriptions = none))
    ⟨fun ⟨here, rests, notices, heard, all⟩ => ⟨here, rests, notices, heard, all⟩,
      fun handled => ⟨handled.coordinator, handled.rests, handled.notices, handled.heard,
        handled.aggregators⟩⟩

/-- The coordinator has begun, and has or will have an aggregator for every configured object. -/
structure Attends (d : Daemon) (c : Coordinator) : Prop where
  begun : c.point ≠ .starting
  staff : d.Staff c
  names : d.Names c
  remembers : ∀ p : ObjectPath, p.PrintsBack → d.Remembers c p

variable {s : DaemonSettings} {startedAt : Timestamp} {start d e : Daemon} {past : List Daemon}
  {c : Coordinator} {p : ObjectPath} {news : List Publication}

/-- A coordinator that has begun goes on. -/
theorem Turn.begun (turn : Turn news d e) {c' : Coordinator} (here : d.coordinator = some c)
    (there : e.coordinator = some c') (begun : c.point ≠ .starting) : c'.point ≠ .starting := by
  cases turn with
  | aside _ _ bypasses =>
    cases here.symm.trans (bypasses.coordinator.symm.trans there)
    exact begun
  | aggregator _ _ _ frame =>
    cases here.symm.trans (frame.coordinator.symm.trans there)
    exact begun
  | coordinator _ _ staffs =>
    cases there.symm.trans staffs.coordinator
    exact begun_of_works staffs.works

/-- Whatever happens next, the coordinator goes on to attend to the configured objects. -/
theorem Attends.turn (attends : d.Attends c) (here : d.coordinator = some c) (turn : Turn news d e)
    (tidy : d.Tidy) (complete : e.Complete) (named : e.Named) {c' : Coordinator}
    (there : e.coordinator = some c') : e.Attends c' where
  begun := turn.begun here there attends.begun
  staff := attends.staff.turn here turn tidy there
  names := attends.names.turn here turn tidy complete named there
  remembers p back := (attends.remembers p back).turn attends.names attends.begun here turn tidy
    complete named back there

/-- A new store has no records. -/
theorem records_new (s : DaemonSettings) (startedAt : Timestamp) (node key : String) :
    (Daemon.new s startedAt).records node key = default := by
  have nodes : (Daemon.new s startedAt).replica.status.nodes =
      (∅ : SortedMap String NodeData).insert s.localhost ⟨initialGeneration, ∅⟩ := rfl
  simp only [records, Replica.records, ClusterStatus.records, ClusterStatus.nodeD, nodes,
    SortedMap.get?_insert]
  split <;> rfl

/-- A coordinator that has just subscribed attends: nothing is configured yet. -/
theorem attends_begin
    (begun : (Daemon.new s startedAt).startCoordinator.step .coordinator = some start) :
    start.Tidy ∧ start.AllStarting ∧ ∃ c, start.coordinator = some c ∧ start.Attends c := by
  have tidy := tidy_start s startedAt
  obtain ⟨_, turn⟩ := step_turn tidy begun
  refine ⟨tidy.turn (.act begun) turn, ?_⟩
  cases begun
  refine ⟨fun _ _ there => (nomatch there), _, rfl, ?_⟩
  exact {
    begun := CoordinatorPoint.noConfusion
    staff := {
      known := fun _ _ known => nomatch known
      living := fun _ _ there => nomatch there
      notices := fun _ _ waits => nomatch waits
      restarting := fun _ point => nomatch point }
    names := {
      known := fun _ _ known => nomatch known
      restarting := fun _ point => nomatch point
      discovers := fun _ => ⟨Nat.succ_ne_self _, _, rfl, ⟨rfl, rfl⟩, fun _ _ _ waits => (nomatch waits)⟩ }
    remembers := by
      rintro p _ ⟨node, held⟩
      exact absurd (congrArg Instance.config (records_new s startedAt node p.toString)) held }

/-- In every life from there the coordinator attends. -/
theorem Life.attends (life : Life start past d)
    (begun : (Daemon.new s startedAt).startCoordinator.step .coordinator = some start)
    (keyed : KeyedIn past) (complete : CompleteIn past) (named : ∀ s ∈ past, s.Named) :
    ∃ c, d.coordinator = some c ∧ d.Attends c := by
  obtain ⟨tidy, _, attends⟩ := attends_begin begun
  refine (life.induction
    (motive := fun past d => CompleteIn past → (∀ s ∈ past, s.Named) →
      ∃ c, d.coordinator = some c ∧ d.Attends c)
    tidy keyed (fun _ _ => attends) ?_).2 complete named
  intro past d e news life _ tidy is turn before complete named
  obtain ⟨c, here, attends⟩ := before (fun s member => complete s (List.mem_cons_of_mem _ member))
    (fun s member => named s (List.mem_cons_of_mem _ member))
  obtain ⟨c', there⟩ : ∃ c', e.coordinator = some c' := by
    cases turn with
    | aside _ _ bypasses => exact ⟨c, bypasses.coordinator.trans here⟩
    | aggregator _ _ _ frame => exact ⟨c, frame.coordinator.trans here⟩
    | coordinator _ _ staffs => exact ⟨_, staffs.coordinator⟩
  exact ⟨c', there, attends.turn here turn tidy (complete e (List.mem_cons_self ..))
    (named e (List.mem_cons_self ..)) there⟩

/-- In every life from there an object has at most one aggregator that lives. -/
theorem Life.sole (life : Life start past d)
    (begun : (Daemon.new s startedAt).startCoordinator.step .coordinator = some start)
    (keyed : KeyedIn past) (complete : CompleteIn past) (named : ∀ s ∈ past, s.Named)
    (key : String) : ∀ s ∈ past, s.Sole key := by
  intro s member
  obtain ⟨before, reached, sub⟩ := life.upTo member
  obtain ⟨c, _, attends⟩ := reached.attends begun (fun s member => keyed s (sub s member))
    (fun s member => complete s (sub s member)) (fun s member => named s (sub s member))
  exact attends.staff.sole attends.names key

/-- Every configured object has an aggregate, in a life of a node whose coordinator has
subscribed, in which nobody misses an event and all paths print back: when nothing is left that
concerns aggregators, the aggregator of the object is known and runs, and the store has the
aggregate of what it knows. -/
theorem Life.presents_configured
    (begun : (Daemon.new s startedAt).startCoordinator.step .coordinator = some start)
    (life : Life start past d) (keyed : KeyedIn past) (complete : CompleteIn past)
    (named : ∀ s ∈ past, s.Named) (handled : Handled d c) (back : p.PrintsBack) {node : String}
    (configured : (d.records node p.toString).config ≠ none) :
    ∃ id a, c.aggregators.get? p = some id ∧ d.aggregators.get? id = some a ∧ a.path = p ∧
      a.point = .running ∧
      d.objects.get? p.toString = some (aggregate a.status a.monitors) := by
  obtain ⟨tidy, starting, _⟩ := attends_begin begun
  obtain ⟨c', here, attends⟩ := life.attends begun keyed complete named
  cases handled.coordinator.symm.trans here
  rcases attends.remembers p back ⟨node, configured⟩ with
    ⟨id, known⟩ | restarting | ⟨node', value, waits⟩
  · obtain ⟨a, there, path, ended⟩ := attends.staff.known p id known
    obtain ⟨runs, _⟩ := (handled.aggregators id a there).resolve_left fun done => by
      have waits := ended done
      rw [handled.notices] at waits
      cases waits
    refine ⟨id, a, known, there, path, runs, ?_⟩
    have presented := life.presented tidy keyed starting
      (life.sole begun keyed complete named p.toString)
    exact presented id a there (by rw [path]) (by rw [runs]; rfl)
  · have rests := handled.rests
    rw [restarting] at rests
    cases rests
  · rw [queue_of_receive handled.heard] at waits
    cases waits

/-- The node of `pairNode` when its coordinator has subscribed. -/
def subscribedNode : Daemon := (pairNode.step .coordinator).getD pairNode

/-- The web object is configured on some nodes. -/
def configureWeb (scope : List String) : Move :=
  .change (.setConfig webPath { (default : InstanceConfig) with scope })

/-- So many steps of an aggregator. -/
def aggregatorMoves (id : WorkerId) (steps : Nat) : List Move :=
  List.replicate steps (.act (.aggregator id))

/-- The configuration of the object is deleted, and its aggregator leaves. -/
def leavingMoves (id : WorkerId) : List Move :=
  .change (.delConfig webPath) :: aggregatorMoves id 2

/-- The object is configured and its aggregator runs; the configuration is deleted, and comes
back when the aggregator leaves. The coordinator ignores it, takes the notice and starts the
next aggregator. -/
def restartedMoves : List Move :=
  [configureWeb ["n1"], .act .coordinator] ++ aggregatorMoves 1 4 ++ leavingMoves 1 ++
    [configureWeb ["n1"], .act .coordinator, .pass 5, .serve 5, .act (.aggregator 1),
      .act .coordinator, .act .coordinator] ++ aggregatorMoves 2 4

/-- The configuration is deleted again and comes back; the aggregator ends and its notice is
late. The coordinator finds it closed and starts the next aggregator for the configuration,
and then takes the notice. -/
def belatedMoves : List (Option Move) :=
  let ends : List Move := leavingMoves 2 ++
    [configureWeb ["n1"], .pass 5, .serve 10, .act (.aggregator 2)]
  ends.map some ++ [none, some (.act .coordinator)] ++ (aggregatorMoves 3 4).map some

/-- A configuration that comes back while the aggregator leaves has an aggregate in the end, and
so has one that comes back when the aggregator has ended and its notice is late. -/
theorem presented_of_restarted : ∃ past d, Life subscribedNode past d ∧
    pairNode.step .coordinator = some subscribedNode ∧ KeyedIn past ∧ CompleteIn past ∧
    (∀ s ∈ past, s.Named) ∧ webPath.PrintsBack ∧
    (d.records "n1" webPath.toString).config ≠ none ∧
    (∃ s ∈ past, s.notices = [.aggregatorDone webPath 2] ∧
      ∃ c, c ∈ s.coordinator ∧ c.aggregators.get? webPath = some 3) ∧
    ∃ c, Handled d c ∧ ∃ id a, c.aggregators.get? webPath = some id ∧
      d.aggregators.get? id = some a ∧ a.path = webPath ∧ a.point = .running ∧
      d.objects.get? webPath.toString = some (aggregate a.status a.monitors) := by
  obtain ⟨past, d, life, begun, keyed, complete, named, back, configured, stale, c, _, handled⟩ :
      ∃ past d, Life subscribedNode past d ∧ pairNode.step .coordinator = some subscribedNode ∧
        KeyedIn past ∧ CompleteIn past ∧ (∀ s ∈ past, s.Named) ∧ webPath.PrintsBack ∧
        (d.records "n1" webPath.toString).config ≠ none ∧
        (∃ s ∈ past, s.notices = [.aggregatorDone webPath 2] ∧
          ∃ c, c ∈ s.coordinator ∧ c.aggregators.get? webPath = some 3) ∧
        ∃ c, c ∈ d.coordinator ∧ Handled d c :=
    exists_life_of_pursue (restartedMoves.map some ++ belatedMoves) (by decide +kernel)
  exact ⟨past, d, life, begun, keyed, complete, named, back, configured, stale, c, handled,
    Life.presents_configured begun life keyed complete named handled back configured⟩

end Daemon

end ClusterNode
