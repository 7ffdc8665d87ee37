import ClusterNode.Proofs.Replication.Operations
import ClusterNode.Replication.Group

/-!
# Runs of a group

A `Group.Run` is a run of nodes that were fresh once and are never started anew, in
which no own generation overflows. It keeps every group it passed through.

`Step.replica` is the inversion lemma of a step from the view of one node, and
`Run.replica_induction` is the induction that follows from it. A run can also be
computed from a list of moves, by `replay`.
-/

namespace ClusterNode

namespace Group

/-- Every node has just started, and nothing was sent. -/
structure Fresh (g : Group) : Prop where
  silent : g.sent = []
  started : ∀ node r, g.get? node = some r →
    ∃ cluster limit timeout, r = Replica.new node cluster limit timeout

/-- No own generation becomes smaller, as one that overflows does. -/
def Grows (g h : Group) : Prop :=
  ∀ node r s, g.get? node = some r → h.get? node = some s → r.generation ≤ s.generation

/-- A run without overflow: the groups it passed through, latest first, and the group
it has reached, which is one of them. -/
inductive Run (start : Group) : List Group → Group → Prop where
  | start : Run start [start] start
  | step {past : List Group} {g h : Group} :
      Run start past g → Step g h → Grows g h → Run start (h :: past) h

variable {start g h : Group} {past : List Group} {node : String} {r : Replica}

/-! ## Single nodes -/

/-- A node has the replica that it was given. -/
theorem get?_put_self (g : Group) (node : String) (r : Replica) :
    (g.put node r).get? node = some r :=
  SortedMap.get?_insert_self ..

/-- What is put at one node leaves every other one. -/
theorem get?_put_of_ne (g : Group) (r : Replica) {other : String} (different : other ≠ node) :
    (g.put node r).get? other = g.get? other :=
  SortedMap.get?_insert_of_ne _ _ different

/-- A replica that is put stands for its node; every other node keeps its own. -/
theorem get?_put_cases {other : String} {s : Replica}
    (found : (g.put node r).get? other = some s) :
    (other = node ∧ s = r) ∨ (other ≠ node ∧ g.get? other = some s) := by
  by_cases same : other = node
  · subst same
    rw [get?_put_self] at found
    cases found
    exact .inl ⟨rfl, rfl⟩
  · rw [get?_put_of_ne g r same] at found
    exact .inr ⟨same, found⟩

/-- A step replaces the replica of one node by what an operation makes of it, or it
leaves all replicas. -/
theorem Step.replica {s : Replica} (step : Step g h) (found : h.get? node = some s) :
    g.get? node = some s ∨
    ∃ r, g.get? node = some r ∧
      ((∃ m, s = (r.applyLocal m).1) ∨ (∃ peer mode, s = r.setMode peer mode) ∨
        s = (r.buildMessage g.clock).1 ∨ ∃ m ∈ g.sent, s = (r.applyMessage m g.clock).1) := by
  cases step with
  | applyLocal m here =>
    rcases get?_put_cases found with ⟨rfl, rfl⟩ | ⟨_, before⟩
    · exact .inr ⟨_, here, .inl ⟨m, rfl⟩⟩
    · exact .inl before
  | setMode peer mode here =>
    rcases get?_put_cases found with ⟨rfl, rfl⟩ | ⟨_, before⟩
    · exact .inr ⟨_, here, .inr (.inl ⟨peer, mode, rfl⟩)⟩
    · exact .inl before
  | send here =>
    rcases get?_put_cases found with ⟨rfl, rfl⟩ | ⟨_, before⟩
    · exact .inr ⟨_, here, .inr (.inr (.inl rfl))⟩
    · exact .inl before
  | deliver here made =>
    rcases get?_put_cases found with ⟨rfl, rfl⟩ | ⟨_, before⟩
    · exact .inr ⟨_, here, .inr (.inr (.inr ⟨_, made, rfl⟩))⟩
    · exact .inl before
  | pass ms => exact .inl found

/-- No step removes a node. -/
theorem Step.keeps (step : Step g h) (found : g.get? node = some r) :
    ∃ s, h.get? node = some s := by
  have kept (other : String) (s : Replica) : ∃ t, (g.put other s).get? node = some t := by
    by_cases same : node = other
    · subst same
      exact ⟨s, get?_put_self ..⟩
    · exact ⟨r, by rwa [get?_put_of_ne g s same]⟩
  cases step with
  | applyLocal m here => exact kept ..
  | setMode peer mode here => exact kept ..
  | send here => exact kept ..
  | deliver here made => exact kept ..
  | pass ms => exact ⟨r, found⟩

/-! ## Runs -/

/-- A run has reached each group it passed through, by a shorter run. -/
theorem Run.before (run : Run start past g) (member : h ∈ past) :
    ∃ earlier, Run start earlier h ∧ earlier ⊆ past := by
  induction run with
  | start =>
    rw [List.mem_singleton] at member
    subst member
    exact ⟨[h], .start, fun _ known => known⟩
  | step shorter step grows ih =>
    rcases List.mem_cons.1 member with rfl | known
    · exact ⟨_, .step shorter step grows, fun _ known => known⟩
    · obtain ⟨earlier, run, within⟩ := ih known
      exact ⟨earlier, run, fun _ known => List.mem_cons_of_mem _ (within known)⟩

/-- No run loses a node. -/
theorem Run.keeps (run : Run start past g) (member : h ∈ past) (found : h.get? node = some r) :
    ∃ s, g.get? node = some s := by
  induction run with
  | start =>
    rw [List.mem_singleton] at member
    subst member
    exact ⟨r, found⟩
  | step _ step _ ih =>
    rcases List.mem_cons.1 member with rfl | known
    · exact ⟨r, found⟩
    · obtain ⟨s, kept⟩ := ih known
      exact step.keeps kept

/-- What holds of a fresh replica and is kept by every operation holds of every replica
of a run. -/
theorem Run.replica_induction {motive : String → Replica → Prop}
    (fresh : ∀ node cluster limit timeout,
      motive node (.new node cluster limit timeout))
    (applyLocal : ∀ node r m, motive node r → r.generation ≤ (r.applyLocal m).1.generation →
      motive node (r.applyLocal m).1)
    (setMode : ∀ node r peer mode, motive node r → motive node (r.setMode peer mode))
    (buildMessage : ∀ node r now, motive node r → motive node (r.buildMessage now).1)
    (applyMessage : ∀ node r m now, motive node r → motive node (r.applyMessage m now).1)
    (run : Run start past g) (begun : Fresh start) (here : g.get? node = some r) :
    motive node r := by
  induction run generalizing r with
  | start =>
    obtain ⟨cluster, limit, timeout, rfl⟩ := begun.started node r here
    exact fresh ..
  | step _ step grows ih =>
    rcases step.replica here with before | ⟨r', before, cases⟩
    · exact ih before
    · have kept := ih before
      have greater := grows node r' r before here
      rcases cases with ⟨m, rfl⟩ | ⟨peer, mode, rfl⟩ | rfl | ⟨m, _, rfl⟩
      · exact applyLocal node r' m kept greater
      · exact setMode node r' peer mode kept
      · exact buildMessage node r' _ kept
      · exact applyMessage node r' m _ kept

/-! ## Runs that can be computed -/

/-- Whether no own generation becomes smaller can be tested. -/
instance (g h : Group) : Decidable (Grows g h) :=
  decidable_of_iff
    (∀ e ∈ g.replicas.entries, ∀ s ∈ h.get? e.1, e.2.generation ≤ s.generation) <| by
    constructor
    · intro all node r s found now
      exact all (node, r) (SortedMap.get?_eq_some_iff.1 found) s now
    · intro grows e member s now
      exact grows e.1 e.2 s (SortedMap.get?_eq_some_iff.2 member) now

/-- The nodes of a cluster that have all just started. -/
def started (cluster : ClusterConfig) (limit timeout : Nat) : Group :=
  cluster.nodes.foldl (fun g node => g.put node (.new node cluster limit timeout)) (.new ∅)

/-- Nodes that have just started are fresh. -/
theorem started_fresh (cluster : ClusterConfig) (limit timeout : Nat) :
    Fresh (started cluster limit timeout) := by
  have fold (names : List String) (g : Group) (fresh : Fresh g) :
      Fresh (names.foldl (fun g node => g.put node (.new node cluster limit timeout)) g) := by
    induction names generalizing g with
    | nil => exact fresh
    | cons name names ih =>
      refine ih _ ⟨fresh.silent, fun node r found => ?_⟩
      rcases get?_put_cases found with ⟨rfl, rfl⟩ | ⟨_, before⟩
      · exact ⟨cluster, limit, timeout, rfl⟩
      · exact fresh.started node r before
  exact fold _ _ ⟨rfl, fun node r found => by cases found⟩

/-- Two members. -/
def pair : Group := started ⟨"c", ["n1", "n2"]⟩ 100 1000

/-- The replica of a node, a fresh one if the node is not in the group. -/
def replicaD (g : Group) (node : String) : Replica := (g.get? node).getD (.new node default 1 0)

/-- A thing that can happen in a group. -/
inductive Move where
  | change (node : String) (m : Mutation)
  | mode (node peer : String) (mode : PeerMode)
  | send (node : String)
  /-- A message arrives, by its place in `Group.sent`. -/
  | take (node : String) (place : Nat)
  | pass (ms : Nat)

/-- The group after a move, if the move can be made. -/
def perform (g : Group) : Move → Option Group
  | .change node m => (g.get? node).map fun r => g.put node (r.applyLocal m).1
  | .mode node peer mode => (g.get? node).map fun r => g.put node (r.setMode peer mode)
  | .send node => (g.get? node).map fun r => (g.send node r).1
  | .take node place => do
    let r ← g.get? node
    let m ← g.sent[place]?
    some (g.deliver node r m).1
  | .pass ms => some (g.pass ms)

/-- A move is a step. -/
theorem step_of_perform {move : Move} (made : g.perform move = some h) : Step g h := by
  cases move with
  | change node m =>
    obtain ⟨r, here, rfl⟩ := Option.map_eq_some_iff.1 made
    exact .applyLocal m here
  | mode node peer mode =>
    obtain ⟨r, here, rfl⟩ := Option.map_eq_some_iff.1 made
    exact .setMode peer mode here
  | send node =>
    obtain ⟨r, here, rfl⟩ := Option.map_eq_some_iff.1 made
    exact .send here
  | take node place =>
    obtain ⟨r, here, made⟩ := Option.bind_eq_some_iff.1 made
    obtain ⟨m, sent, made⟩ := Option.bind_eq_some_iff.1 made
    cases made
    exact .deliver here (List.mem_of_getElem? sent)
  | pass ms =>
    cases made
    exact .pass ms

/-- The run that moves make, unless one cannot be made or a generation overflows. -/
def replay (past : List Group) (g : Group) : List Move → Option (List Group × Group)
  | [] => some (past, g)
  | move :: moves => do
    let h ← g.perform move
    if Grows g h then replay (h :: past) h moves else none

/-- What is replayed is a run. -/
theorem run_of_replay (run : Run start past g) {moves : List Move} {later : List Group × Group}
    (made : replay past g moves = some later) : Run start later.1 later.2 := by
  induction moves generalizing past g with
  | nil =>
    cases made
    exact run
  | cons move moves ih =>
    obtain ⟨h, performed, made⟩ := Option.bind_eq_some_iff.1 made
    split at made
    · rename_i grows
      exact ih (run.step (step_of_perform performed) grows) made
    · cases made

end Group

end ClusterNode
