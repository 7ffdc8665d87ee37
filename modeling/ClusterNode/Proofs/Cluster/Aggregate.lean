import ClusterNode.Cluster.Aggregate
import ClusterNode.Proofs.SortedMap

/-!
# What an aggregate says

Each part of an aggregate is the answer to a list of questions about the records of the nodes:
the first that is answered with yes gives the value (`Chooses`). `aggregate_summarizes` puts the
questions of all five parts together; they ask what some node or every node says, so neither the
order of the nodes nor their number plays a part.

The overall status and the provisioned state are two joins of one shape: `Status.add` is
`Provisioned.and` under other names (`Status.add_asStatus`), and one induction serves both.
-/

namespace ClusterNode

/-! ## The first case that holds -/

/-- A value is that of the first case whose condition holds, or another one if none does. -/
def Chooses {α : Type} (x : α) : List (Prop × α) → α → Prop
  | [], other => x = other
  | (condition, value) :: rest, other =>
    condition ∧ x = value ∨ ¬condition ∧ Chooses x rest other

section

variable {α β : Type} {x value other : α} {condition : Prop} {rest : List (Prop × α)}

/-- A conditional puts its case before the others. -/
theorem Chooses.ite [Decidable condition] (chooses : Chooses x rest other) :
    Chooses (if condition then value else x) ((condition, value) :: rest) other := by
  by_cases holds : condition
  · exact .inl ⟨holds, if_pos holds⟩
  · rw [if_neg holds]
    exact .inr ⟨holds, chooses⟩

/-- A choice is carried along a function, case by case. -/
theorem Chooses.map (f : α → β) {cases : List (Prop × α)} (chooses : Chooses x cases other) :
    Chooses (f x) (cases.map fun c => (c.1, f c.2)) (f other) := by
  induction cases with
  | nil => exact congrArg f chooses
  | cons c rest ih =>
    rcases chooses with ⟨holds, rfl⟩ | ⟨not, chooses⟩
    · exact .inl ⟨holds, rfl⟩
    · exact .inr ⟨not, ih chooses⟩

end

/-! ## Joins -/

namespace Provisioned

/-- The join of the states that there are. -/
def IsJoin (has : Provisioned → Prop) (x : Provisioned) : Prop :=
  Chooses x [
    (has .mixed ∨ has .yes ∧ has .no, .mixed),
    (has .yes, .yes),
    (has .no, .no),
    (has .notApplicable, .notApplicable)] undef

/-- The join of two states stands for both. -/
theorem isJoin_and (a b : Provisioned) (rest : List Provisioned) (x : Provisioned) :
    IsJoin (· ∈ a.and b :: rest) x → IsJoin (· ∈ a :: b :: rest) x := by
  cases a <;> cases b <;> grind [IsJoin, Chooses, Provisioned.and, rank]

/-- The fold over some states is the join of all of them. -/
theorem isJoin_foldl (first : Provisioned) (votes : List Provisioned) :
    IsJoin (· ∈ first :: votes) (votes.foldl Provisioned.and first) := by
  induction votes generalizing first with
  | nil => cases first <;> simp [IsJoin, Chooses]
  | cons vote votes ih => exact isJoin_and first vote votes _ (ih (first.and vote))

end Provisioned

/-- The status that a provisioned state is in a join of statuses. -/
def Provisioned.asStatus : Provisioned → Status
  | .undef => .undef
  | .notApplicable => .notApplicable
  | .yes => .up
  | .no => .down
  | .mixed => .warn

namespace Status

/-- The provisioned state that a status counts as in a join; a standby one counts as its
counterpart. -/
def vote : Status → Provisioned
  | .undef => .undef
  | .notApplicable => .notApplicable
  | .up | .standbyUp => .yes
  | .down | .standbyDown => .no
  | .warn => .mixed

/-- The status is `up`, or counts as it. -/
def IsUp (s : Status) : Prop := s = .up ∨ s = .standbyUp

/-- The status is `down`, or counts as it. -/
def IsDown (s : Status) : Prop := s = .down ∨ s = .standbyDown

/-- The statuses that count as provisioned are those that count as `up`. -/
theorem vote_eq_yes {s : Status} : s.vote = .yes ↔ s.IsUp := by
  cases s <;> simp [vote, IsUp]

/-- The statuses that count as not provisioned are those that count as `down`. -/
theorem vote_eq_no {s : Status} : s.vote = .no ↔ s.IsDown := by
  cases s <;> simp [vote, IsDown]

/-- A warning alone counts as mixed. -/
theorem vote_eq_mixed {s : Status} : s.vote = .mixed ↔ s = .warn := by
  cases s <;> simp [vote]

/-- A status counts as not applicable if it is so. -/
theorem vote_eq_notApplicable {s : Status} : s.vote = .notApplicable ↔ s = .notApplicable := by
  cases s <;> simp [vote]

/-- Adding a status to the status of a state joins the state with what the status counts as. -/
theorem add_asStatus (p : Provisioned) (s : Status) :
    p.asStatus.add s = (p.and s.vote).asStatus := by
  cases p <;> cases s <;> rfl

/-- Statuses are joined as the states that they count as. -/
theorem foldl_add (first : Provisioned) (votes : List Status) :
    votes.foldl add first.asStatus = ((votes.map vote).foldl Provisioned.and first).asStatus := by
  induction votes generalizing first with
  | nil => rfl
  | cons s votes ih => rw [List.foldl_cons, add_asStatus, ih, List.map_cons, List.foldl_cons]

end Status

/-! ## The parts of an aggregate -/

namespace Aggregate

/-- The availability is a warning if there is one, else `up` if there is one, else `down`. -/
theorem chooses_avail (votes : List Status) :
    Chooses (avail votes)
      [(.warn ∈ votes, .warn), (.up ∈ votes, .up), (.down ∈ votes, .down)] .undef := by
  simp only [avail, List.contains_iff_mem]
  exact .ite (.ite (.ite rfl))

/-- The overall status is a warning if the availability or a vote is one, or if the votes are
divided; else it is the one that there is. -/
theorem chooses_overall (avail : Status) (votes : List Status) :
    Chooses (overall avail votes) [
      (avail = .warn ∨ .warn ∈ votes ∨ (∃ s ∈ votes, s.IsUp) ∧ ∃ s ∈ votes, s.IsDown, .warn),
      (∃ s ∈ votes, s.IsUp, .up),
      (∃ s ∈ votes, s.IsDown, .down),
      (.notApplicable ∈ votes, .notApplicable)] .undef := by
  by_cases warned : avail = .warn
  · exact .inl ⟨.inl warned, if_pos warned⟩
  · have joined := (Provisioned.isJoin_foldl .undef (votes.map Status.vote)).map
      Provisioned.asStatus
    rw [← Status.foldl_add] at joined
    rw [overall, if_neg warned]
    simpa [warned, Provisioned.asStatus, Status.vote_eq_yes, Status.vote_eq_no,
      Status.vote_eq_mixed, Status.vote_eq_notApplicable] using joined

/-- The provisioned state of an aggregate is the join of the votes. -/
theorem chooses_provisioned (votes : List Provisioned) :
    Provisioned.IsJoin (· ∈ votes) (votes.foldl Provisioned.and .undef) := by
  simpa [Provisioned.IsJoin] using Provisioned.isJoin_foldl .undef votes

/-- Without votes nothing is frozen or thawed; else the votes agree on one of them, or are mixed. -/
theorem chooses_frozen (votes : List Bool) :
    Chooses (frozen votes) [
      (votes = [], .notApplicable),
      (∀ vote ∈ votes, vote = true, .frozen),
      (∀ vote ∈ votes, vote = false, .thawed)] .mixed := by
  have thawed : (∀ vote ∈ votes, vote = false) ↔ ¬votes.any id = true := by simp
  simp only [frozen, List.isEmpty_iff, List.all_eq_true, id, thawed]
  refine .ite (.ite ?_)
  by_cases some : votes.any id
  · exact .inr ⟨not_not_intro some, if_pos some⟩
  · exact .inl ⟨some, if_neg some⟩

/-- One vote against it makes the placement non-optimal; without any vote it is not applicable. -/
theorem chooses_placement (votes : List Bool) :
    Chooses (placement votes)
      [(false ∈ votes, .nonOptimal), (∃ vote, vote ∈ votes, .optimal)] .notApplicable := by
  rcases votes with _ | ⟨vote, votes⟩
  · simp [Chooses, placement]
  · have all : (vote :: votes).all id = true ↔ false ∉ vote :: votes := by simp [List.all_eq_true]
    by_cases misplaced : false ∈ vote :: votes
    · exact .inl ⟨misplaced, if_neg (mt all.1 (not_not_intro misplaced))⟩
    · exact .inr ⟨misplaced, .inl ⟨⟨vote, List.mem_cons_self ..⟩, if_pos (all.2 misplaced)⟩⟩

end Aggregate

/-! ## The records of the nodes -/

variable {status : SortedMap String InstanceStatus} {monitors : SortedMap String InstanceMonitor}

/-- Some node has a status of which something holds. -/
def Reported (status : SortedMap String InstanceStatus) (holds : InstanceStatus → Prop) : Prop :=
  ∃ node s, status.get? node = some s ∧ holds s

/-- A node has both records, and its availability is not what its role asks for: a leader has to
be up and any other node down, unless it does not apply. -/
def Misplaced (status : SortedMap String InstanceStatus)
    (monitors : SortedMap String InstanceMonitor) (node : String) : Prop :=
  ∃ s m, status.get? node = some s ∧ monitors.get? node = some m ∧
    (m.isLeader = true ∧ s.avail ≠ .up ∧ s.avail ≠ .notApplicable ∨
      m.isLeader = false ∧ s.avail ≠ .down ∧ s.avail ≠ .notApplicable)

section

variable {α : Type} {f : InstanceStatus → α} {x : α} {p : α → Prop}

/-- The values of a field are those that some node reports. -/
theorem mem_map_values : x ∈ status.values.map f ↔ Reported status (f · = x) := by
  simp only [List.mem_map, SortedMap.mem_values_iff]
  constructor
  · rintro ⟨s, ⟨node, found⟩, rfl⟩
    exact ⟨node, s, found, rfl⟩
  · rintro ⟨node, s, found, rfl⟩
    exact ⟨s, ⟨node, found⟩, rfl⟩

/-- Some value of a field has a property exactly if some node reports one that has it. -/
theorem exists_mem_map_values :
    (∃ x ∈ status.values.map f, p x) ↔ Reported status (p <| f ·) := by
  simp only [mem_map_values]
  constructor
  · rintro ⟨_, ⟨node, s, found, rfl⟩, holds⟩
    exact ⟨node, s, found, holds⟩
  · rintro ⟨node, s, found, holds⟩
    exact ⟨f s, ⟨node, s, found, rfl⟩, holds⟩

/-- All values of a field have a property exactly if those of every node do. -/
theorem forall_mem_map_values :
    (∀ x ∈ status.values.map f, p x) ↔ ∀ node s, status.get? node = some s → p (f s) := by
  simp only [mem_map_values]
  constructor
  · intro all node s found
    exact all (f s) ⟨node, s, found, rfl⟩
  · rintro all _ ⟨node, s, found, rfl⟩
    exact all node s found

/-- A field has no value exactly if no node has a status. -/
theorem map_values_eq_nil : status.values.map f = [] ↔ ∀ node, status.get? node = none := by
  rw [List.map_eq_nil_iff]
  simp only [List.eq_nil_iff_forall_not_mem, SortedMap.mem_values_iff,
    Option.eq_none_iff_forall_ne_some]
  constructor
  · intro all node s found
    exact all s ⟨node, found⟩
  · rintro all s ⟨node, found⟩
    exact all node s found

end

namespace Aggregate

/-- A vote for the placement is that of a node with both records. -/
theorem mem_placements {vote : Bool} :
    vote ∈ placements status monitors ↔ ∃ node s m, status.get? node = some s ∧
      monitors.get? node = some m ∧ (expected m.isLeader).contains s.avail = vote := by
  simp only [placements, List.mem_filterMap, Option.map_eq_some_iff, Prod.exists,
    ← SortedMap.get?_eq_some_iff]
  grind

/-- A vote against the placement is that of a misplaced node. -/
theorem false_mem_placements :
    false ∈ placements status monitors ↔ ∃ node, Misplaced status monitors node := by
  rw [mem_placements]
  refine exists_congr fun node => exists_congr fun s => exists_congr fun m => ?_
  cases m.isLeader <;> simp [expected]

/-- There is a vote for the placement exactly if some node has both records. -/
theorem exists_mem_placements :
    (∃ vote, vote ∈ placements status monitors) ↔
      ∃ node, status.contains node = true ∧ monitors.contains node = true := by
  simp only [mem_placements, SortedMap.contains_iff]
  grind

end Aggregate

/-- Each part of an aggregate is the first of its cases that holds. -/
theorem aggregate_summarizes (status : SortedMap String InstanceStatus)
    (monitors : SortedMap String InstanceMonitor) :
    let o := aggregate status monitors
    Chooses o.avail [
      (Reported status (·.avail = .warn), .warn),
      (Reported status (·.avail = .up), .up),
      (Reported status (·.avail = .down), .down)] .undef ∧
    Chooses o.overall [
      (o.avail = .warn ∨ Reported status (·.overall = .warn) ∨
        Reported status (·.overall.IsUp) ∧ Reported status (·.overall.IsDown), .warn),
      (Reported status (·.overall.IsUp), .up),
      (Reported status (·.overall.IsDown), .down),
      (Reported status (·.overall = .notApplicable), .notApplicable)] .undef ∧
    Chooses o.provisioned [
      (Reported status (·.provisioned = .mixed) ∨
        Reported status (·.provisioned = .yes) ∧ Reported status (·.provisioned = .no), .mixed),
      (Reported status (·.provisioned = .yes), .yes),
      (Reported status (·.provisioned = .no), .no),
      (Reported status (·.provisioned = .notApplicable), .notApplicable)] .undef ∧
    Chooses o.frozen [
      (∀ node, status.get? node = none, .notApplicable),
      (∀ node s, status.get? node = some s → s.isFrozen = true, .frozen),
      (∀ node s, status.get? node = some s → s.isFrozen = false, .thawed)] .mixed ∧
    Chooses o.placement [
      (∃ node, Misplaced status monitors node, .nonOptimal),
      (∃ node, status.contains node = true ∧ monitors.contains node = true, .optimal)]
      .notApplicable := by
  intro o
  have avail := Aggregate.chooses_avail (status.values.map (·.avail))
  have overall := Aggregate.chooses_overall o.avail (status.values.map (·.overall))
  have provisioned := Aggregate.chooses_provisioned (status.values.map (·.provisioned))
  have frozen := Aggregate.chooses_frozen (status.values.map (·.isFrozen))
  have placement := Aggregate.chooses_placement (Aggregate.placements status monitors)
  simp only [Provisioned.IsJoin, mem_map_values] at avail provisioned
  simp only [exists_mem_map_values] at overall
  simp only [mem_map_values] at overall
  simp only [map_values_eq_nil, forall_mem_map_values] at frozen
  rw [Aggregate.false_mem_placements, Aggregate.exists_mem_placements] at placement
  exact ⟨avail, overall, provisioned, frozen, placement⟩

end ClusterNode
