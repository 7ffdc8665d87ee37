import ClusterNode.Proofs.Replication.Telling

/-!
# Courses of a replica

`Replica.Operation` is everything that can be done with a replica, whoever does it and whatever
it carries. A `Course` is what was done with a replica since its start; it keeps every moment, so
that a statement can look back at what made a change or brought a record.

An operation is about one node at most (`Operation.subject?`), and leaves the parts of all others
(`operate_samePart`). Either it brings everything of that node (`Operation.full?`), or it makes
mutations of it (`operate_nodeD`). No operation takes a node away (`operate_persists`), and
the table in the tree is what the node says to have applied (`Course.tabled`).
-/

namespace ClusterNode

namespace Replica

/-- What can be done with a replica. -/
inductive Operation where
  | call (c : Call)
  | takePending
  | buildMessage (now : Nat)
  | setStream (node id : String) (state : PeerState) (now : Timestamp)
  | setMode (node : String) (mode : PeerMode)
  | setAggregate (p : ObjectPath) (value : ObjectStatus) (source : Option String)
  | delAggregate (p : ObjectPath)
  deriving DecidableEq

/-- The replica after an operation, and the events that the operation returns. -/
def operate (r : Replica) : Operation → Replica × List Publication
  | .call c => r.call c
  | .takePending => r.takePending
  | .buildMessage now => ((r.buildMessage now).1, [])
  | .setStream node id state now => (r.setStream node id state now, [])
  | .setMode node mode => (r.setMode node mode, [])
  | .setAggregate p value source => r.setAggregate p value source
  | .delAggregate p => r.delAggregate p

/-- The node whose part an operation can change. -/
def Operation.subject? (r : Replica) : Operation → Option String
  | .call (.applyLocal _) => some r.localhost
  | .call (.applyRemote node _ _) => some node
  | .call (.applyFull node _ _) => some node
  | .call (.applyMessage m _) => some m.nodename
  | .setMode node _ => some node
  | _ => none

/-- Everything of a node that an operation brings: as of which generation, and what it is. -/
def Operation.full? (r : Replica) (p : String) : Operation → Option (Generation × NodeData)
  | .call (.applyFull node generation data) => if node = p then some (generation, data) else none
  | .call (.applyMessage m _) =>
    match m.body with
    | .full data =>
      if m.nodename = p ∧ r.listensTo p = true then some (m.generation, data) else none
    | _ => none
  | _ => none

/-- A replica, and what was done with it next. -/
structure Moment where
  replica : Replica
  operation : Operation
  deriving DecidableEq

/-- The replica after a moment. -/
def Moment.next (t : Moment) : Replica := (t.replica.operate t.operation).1

/-- The events that were returned at a moment. -/
def Moment.events (t : Moment) : List Publication := (t.replica.operate t.operation).2

/-- What was done with a replica since a start: the moments, latest first, and the replica that
was reached. -/
inductive Course (start : Replica) : List Moment → Replica → Prop where
  | start : Course start [] start
  | step {past : List Moment} {r : Replica} (o : Operation) :
      Course start past r → Course start (⟨r, o⟩ :: past) (r.operate o).1

variable {r s : Replica} {node p : String} {o : Operation}

/-- One course after the other. -/
theorem Course.trans {start : Replica} {past later : List Moment} (first : Course start past r)
    (second : Course r later s) : Course start (later ++ past) s := by
  induction second with
  | start => exact first
  | step o _ ih => exact ih.step o

/-- The moments and the replica that operations lead to, one after the other. -/
def pursue (past : List Moment) (r : Replica) : List Operation → List Moment × Replica
  | [] => (past, r)
  | o :: os => pursue (⟨r, o⟩ :: past) (r.operate o).1 os

/-- Operations one after the other are a course. -/
theorem Course.pursue {start : Replica} {past : List Moment} (course : Course start past r)
    (os : List Operation) : Course start (pursue past r os).1 (pursue past r os).2 := by
  induction os generalizing past r with
  | nil => exact course
  | cons o os ih => exact ih (course.step o)

/-! ## The parts of single nodes -/

/-- What is kept of a node is as before: its subtree, the generation applied of it, and whether
everything of it is wanted. -/
structure SamePart (p : String) (r s : Replica) : Prop where
  node : s.status.nodes.get? p = r.status.nodes.get? p
  applied : s.applied.get? p = r.applied.get? p
  resync : s.resync.contains p = r.resync.contains p

/-- What is kept of a node is as it is. -/
theorem SamePart.refl (p : String) (r : Replica) : SamePart p r r := ⟨rfl, rfl, rfl⟩

/-- What is kept of a node by one replica as by another one is kept by that one as by the first. -/
theorem SamePart.symm (same : SamePart p r s) : SamePart p s r :=
  ⟨same.node.symm, same.applied.symm, same.resync.symm⟩

/-- What is left of a node twice is left. -/
theorem SamePart.trans {t : Replica} (first : SamePart p r s) (second : SamePart p s t) :
    SamePart p r t where
  node := second.node.trans first.node
  applied := second.applied.trans first.applied
  resync := second.resync.trans first.resync

/-- A wish for everything leaves the subtree and the generation applied of its own node too. -/
theorem requestFull_samePart (different : p ≠ node) (last received : Generation) :
    SamePart p r (r.requestFull node last received) where
  node := by rw [requestFull_nodes]
  applied := by rw [requestFull_applied]
  resync := (requestFull_agrees ..).resync p different

/-- The changes of one peer leave what is kept of another node. -/
theorem follow_samePart (different : p ≠ node) (generation : Generation) (ms : List Mutation) :
    SamePart p r (r.follow node generation ms) where
  node := by
    simp [follow, SortedMap.get?_insert_of_ne _ _ different,
      ClusterStatus.get?_mutateAll_of_ne r.status ms different]
  applied := by simp [SortedMap.get?_insert_of_ne _ _ different]
  resync := by simp

/-- Everything of one peer leaves what is kept of another node. -/
theorem applyFull_samePart (different : p ≠ node) (generation : Generation) (data : NodeData) :
    SamePart p r (r.applyFull node generation data).1 where
  node := (applyFull_agrees ..).nodes p different
  applied := (applyFull_agrees ..).applied p different
  resync := (applyFull_agrees ..).resync p different

/-- What a message of one peer brings leaves what is kept of another node. -/
theorem applyBody_samePart (different : p ≠ node) (generation : Generation)
    (body : Message.Body) : SamePart p r (r.applyBody node generation body).1 := by
  apply applyBody_induction (motive := fun s _ => SamePart p r s)
  · intro s _ last received same
    exact same.trans (requestFull_samePart different last received)
  · intro deltas _ d _ s _ a same _ _ _
    exact same.trans (follow_samePart different ..)
  · intro data _
    exact applyFull_samePart different generation data
  · exact .refl p r

/-- Refused or not, the changes of one peer leave what is kept of another node. -/
theorem applyRemote_samePart (different : p ≠ node) (generation : Generation)
    (ms : List Mutation) : SamePart p r (r.applyRemote node generation ms).1 := by
  apply applyRemote_induction (motive := SamePart p r)
  · exact requestFull_samePart different
  · exact follow_samePart different generation ms
  · exact .refl p r

/-- The replica after changes of one generation, whether they are refused or not. -/
theorem call_applyRemote (r : Replica) (node : String) (generation : Generation)
    (ms : List Mutation) :
    (r.call (.applyRemote node generation ms)).1 = (r.applyRemote node generation ms).1 := by
  simp only [call]
  split <;> simp_all

/-- An operation leaves the parts of all nodes that it is not about. -/
theorem operate_samePart (other : o.subject? r ≠ some p) : SamePart p r (r.operate o).1 := by
  cases o with
  | call c =>
    have different {q : String} (about : (Operation.call c).subject? r = some q) : p ≠ q := by
      rintro rfl
      exact other about
    cases c with
    | applyLocal m =>
      exact ⟨applyLocal_get?_of_ne m (different rfl), by rw [operate, call, applyLocal_applied],
        by rw [operate, call, applyLocal_resync]⟩
    | applyRemote q generation ms =>
      rw [operate, call_applyRemote]
      exact applyRemote_samePart (different rfl) generation ms
    | applyFull q generation data => exact applyFull_samePart (different rfl) generation data
    | applyMessage m now =>
      rw [operate, call, applyMessage_eq]
      split
      · have taken := applyBody_samePart (r := r.hear m now) (different rfl) m.generation m.body
        exact ⟨taken.node, taken.applied, taken.resync⟩
      · exact .refl p r
  | setMode q mode =>
    have different : p ≠ q := by
      rintro rfl
      exact other rfl
    refine ⟨by simp [operate], by simp [operate], ?_⟩
    simp only [operate, setMode]
    split
    · simp only [refreshGens_resync, refreshHeartbeat]
      split <;> simp [SortedMap.contains_insert, different]
    · rfl
  | buildMessage now => exact ⟨by simp [operate], by simp [operate], by simp [operate]⟩
  | delAggregate q =>
    simp only [operate, delAggregate]
    split <;> exact ⟨rfl, rfl, rfl⟩
  | takePending | setStream | setAggregate => exact ⟨rfl, rfl, rfl⟩

/-! ## The subtree of one node -/

section Subtree

variable {motive : NodeData → Prop}
  (mutated : ∀ d m, motive d → motive (d.mutate p m))
  (stamped : ∀ d (generation : Generation), motive d → motive { d with generation })

include mutated

/-- What every mutation of a node keeps, mutations in order keep. -/
theorem mutateAll_nodeD (ms : List Mutation) {d : NodeData} (start : motive d) :
    motive (d.mutateAll p ms) := by
  induction ms generalizing d with
  | nil => exact start
  | cons m ms ih => exact ih (mutated d m start)

include stamped

/-- An own mutation is a mutation of the own subtree, with the next generation. -/
theorem applyLocal_nodeD (start : motive (r.status.nodeD p)) (m : Mutation) :
    motive ((r.applyLocal m).1.status.nodeD p) := by
  by_cases own : p = r.localhost
  · cases own
    have made : motive ((r.status.mutate r.localhost m).1.nodeD r.localhost) := by
      rw [ClusterStatus.nodeD_mutate]
      exact mutated _ m start
    simp only [applyLocal]
    split
    · exact made
    · simp only [ClusterStatus.nodeD, refreshGens_nodes, SortedMap.get?_insert_self,
        Option.getD_some]
      exact stamped _ _ made
  · rw [ClusterStatus.nodeD, applyLocal_get?_of_ne m own]
    exact start

/-- Following a node makes mutations of it, with a later generation. -/
theorem follow_nodeD (start : motive (r.status.nodeD p)) (node : String)
    (generation : Generation) (ms : List Mutation) :
    motive ((r.follow node generation ms).status.nodeD p) := by
  by_cases own : p = node
  · cases own
    have after : (r.follow p generation ms).status.nodeD p =
        { (r.status.nodeD p).mutateAll p ms with generation } := by
      rw [ClusterStatus.nodeD, follow_get?_nodes]
      rfl
    rw [after]
    exact stamped _ generation (mutateAll_nodeD mutated ms start)
  · rw [ClusterStatus.nodeD, (follow_samePart own generation ms).node]
    exact start

/-- A message makes mutations of its sender, unless it brings everything of it. -/
theorem applyBody_nodeD (start : motive (r.status.nodeD p)) {node : String}
    {body : Message.Body} (partly : p = node → ∀ data, body ≠ .full data)
    (generation : Generation) :
    motive ((r.applyBody node generation body).1.status.nodeD p) := by
  apply applyBody_induction (motive := fun s _ => motive (s.status.nodeD p))
  · intro s _ last received kept
    rw [ClusterStatus.nodeD, requestFull_nodes]
    exact kept
  · intro deltas _ d _ s _ a kept _ _ _
    exact follow_nodeD mutated stamped kept node d.generation d.mutations
  · intro data full
    have different : p ≠ node := fun own => partly own data full
    rw [ClusterStatus.nodeD, (applyFull_samePart different generation data).node]
    exact start
  · exact start

/-- What the mutations of a node and its generations keep of its subtree, every operation keeps
that does not bring everything of the node. -/
theorem operate_nodeD (start : motive (r.status.nodeD p)) (partly : o.full? r p = none) :
    motive ((r.operate o).1.status.nodeD p) := by
  cases o with
  | call c =>
    cases c with
    | applyLocal m => exact applyLocal_nodeD mutated stamped start m
    | applyRemote q generation ms =>
      rw [operate, call_applyRemote]
      apply applyRemote_induction (motive := fun s => motive (s.status.nodeD p))
      · intro last received
        rw [ClusterStatus.nodeD, requestFull_nodes]
        exact start
      · exact follow_nodeD mutated stamped start q generation ms
      · exact start
    | applyFull q generation data =>
      have different : p ≠ q := by
        rintro rfl
        simp [Operation.full?] at partly
      rw [ClusterStatus.nodeD, operate, call, (applyFull_samePart different generation data).node]
      exact start
    | applyMessage m now =>
      rw [operate, call, applyMessage_eq]
      split
      · rename_i listens
        have heard : motive ((r.hear m now).status.nodeD p) := start
        refine applyBody_nodeD mutated stamped heard ?_ m.generation
        rintro rfl data full
        simp [Operation.full?, full, listens] at partly
      · exact start
  | setMode q mode =>
    rw [ClusterStatus.nodeD, operate, setMode_nodes]
    exact start
  | buildMessage now =>
    rw [operate, buildMessage_status]
    exact start
  | delAggregate q =>
    simp only [operate, delAggregate]
    split <;> exact start
  | takePending | setStream | setAggregate => exact start

end Subtree

/-- Everything of a node arrived: its subtree is that, published by the node, and the node is in
step. -/
structure Filled (p : String) (generation : Generation) (data : NodeData) (r : Replica) : Prop where
  node : r.status.nodes.get? p = some { data.publishedBy p with generation }
  applied : r.applied.get? p = some generation
  resync : r.resync.contains p = false

/-- When everything of a node is applied, it arrived. -/
theorem applyFull_filled (r : Replica) (p : String) (generation : Generation) (data : NodeData) :
    Filled p generation data (r.applyFull p generation data).1 :=
  ⟨applyFull_nodes .., applyFull_applied .., applyFull_resync ..⟩

/-- What brings everything of a node. -/
theorem operate_filled {generation : Generation} {data : NodeData}
    (full : o.full? r p = some (generation, data)) : Filled p generation data (r.operate o).1 := by
  unfold Operation.full? at full
  split at full
  · split at full
    · rename_i own
      cases full
      cases own
      exact applyFull_filled ..
    · cases full
  · rename_i m now
    split at full
    · rename_i body
      split at full
      · rename_i taken
        obtain ⟨rfl, listens⟩ := taken
        cases full
        have filled := applyFull_filled (r.hear m now) m.nodename m.generation data
        rw [operate, call, applyMessage_eq, if_pos listens, body]
        exact ⟨filled.node, filled.applied, filled.resync⟩
      · cases full
    · cases full
  · cases full

/-! ## What no operation takes away -/

/-- The names of a replica are as before, and no node is gone from the tree. -/
structure Persists (r s : Replica) : Prop where
  localhost : s.localhost = r.localhost
  nodename : s.status.daemon.nodename = r.status.daemon.nodename
  nodes : ∀ p, r.status.nodes.contains p = true → s.status.nodes.contains p = true

/-- What persists twice persists. -/
theorem Persists.trans {t : Replica} (first : r.Persists s) (second : s.Persists t) :
    r.Persists t where
  localhost := second.localhost.trans first.localhost
  nodename := second.nodename.trans first.nodename
  nodes p here := second.nodes p (first.nodes p here)

/-- Where the names and the tree of nodes are the same, they persist. -/
theorem persists_of_nodes (localhost : s.localhost = r.localhost)
    (nodename : s.status.daemon.nodename = r.status.daemon.nodename)
    (nodes : s.status.nodes = r.status.nodes) : r.Persists s :=
  ⟨localhost, nodename, fun p here => by rwa [nodes]⟩

/-- The subtree of one node is set. -/
theorem persists_of_insert {d : NodeData} (localhost : s.localhost = r.localhost)
    (nodename : s.status.daemon.nodename = r.status.daemon.nodename)
    (nodes : s.status.nodes = r.status.nodes.insert node d) : r.Persists s :=
  ⟨localhost, nodename, fun p here => by rw [nodes, SortedMap.contains_insert, here, Bool.or_true]⟩

/-- A request for everything leaves the names and the tree of nodes. -/
theorem requestFull_persists (r : Replica) (node : String) (last received : Generation) :
    r.Persists (r.requestFull node last received) :=
  persists_of_nodes (requestFull_localhost ..) (requestFull_agrees ..).nodename
    (requestFull_nodes ..)

/-- The changes of a peer leave the names, and no node goes. -/
theorem follow_persists (r : Replica) (node : String) (generation : Generation)
    (ms : List Mutation) : r.Persists (r.follow node generation ms) where
  localhost := rfl
  nodename := by simp [follow, refreshGens]
  nodes p here := by
    by_cases own : p = node
    · rw [own, SortedMap.contains, follow_get?_nodes]
      rfl
    · rw [SortedMap.contains, (follow_samePart own generation ms).node]
      exact here

/-- What a message brings leaves the names, and no node goes. -/
theorem applyBody_persists (r : Replica) (node : String) (generation : Generation)
    (body : Message.Body) : r.Persists (r.applyBody node generation body).1 := by
  apply applyBody_induction (motive := fun s _ => r.Persists s)
  · intro s _ last received persists
    exact persists.trans (requestFull_persists ..)
  · intro deltas _ d _ s _ a persists _ _ _
    exact persists.trans (follow_persists ..)
  · intro data _
    exact persists_of_insert rfl rfl rfl
  · exact persists_of_nodes rfl rfl rfl

/-- No operation changes the names of a replica or takes a node from the tree. -/
theorem operate_persists (r : Replica) (o : Operation) : r.Persists (r.operate o).1 := by
  cases o with
  | call c =>
    cases c with
    | applyLocal m =>
      have mutated : r.Persists { r with status := (r.status.mutate r.localhost m).1 } :=
        persists_of_insert rfl (by simp) (ClusterStatus.mutate_nodes ..)
      simp only [operate, call, applyLocal]
      split
      · exact mutated
      · exact mutated.trans (persists_of_insert rfl rfl rfl)
    | applyRemote node generation ms =>
      rw [operate, call_applyRemote]
      apply applyRemote_induction (motive := r.Persists)
      · exact requestFull_persists r node
      · exact follow_persists ..
      · exact persists_of_nodes rfl rfl rfl
    | applyFull node generation data => exact persists_of_insert rfl rfl rfl
    | applyMessage m now =>
      rw [operate, call, applyMessage_eq]
      split
      · have taken := applyBody_persists (r.hear m now) m.nodename m.generation m.body
        exact ⟨taken.localhost, taken.nodename, taken.nodes⟩
      · exact persists_of_nodes rfl rfl rfl
  | setMode peer mode =>
    exact persists_of_nodes (setMode_localhost ..) (setMode_nodename ..) (setMode_nodes ..)
  | buildMessage now =>
    exact persists_of_nodes (buildMessage_localhost ..) (by simp [operate]) (by simp [operate])
  | delAggregate q =>
    simp only [operate, delAggregate]
    split <;> exact persists_of_nodes rfl rfl rfl
  | takePending | setStream | setAggregate => exact persists_of_nodes rfl rfl rfl

/-- A replica that bears the name of a node and has the node in its tree. -/
structure IsOf (r : Replica) (node : String) : Prop where
  localhost : r.localhost = node
  nodename : r.status.daemon.nodename = node
  present : r.status.nodes.contains node = true

/-- What persists stays the replica of its node. -/
theorem IsOf.persists (isOf : r.IsOf node) (persists : r.Persists s) : s.IsOf node where
  localhost := by rw [persists.localhost, isOf.localhost]
  nodename := by rw [persists.nodename, isOf.nodename]
  present := persists.nodes node isOf.present

/-- A replica of a node bears one name at both places. -/
theorem IsOf.named (isOf : r.IsOf node) : r.status.daemon.nodename = r.localhost := by
  rw [isOf.nodename, isOf.localhost]

section Fresh

variable {cluster : ClusterConfig} {limit timeout : Nat} {past : List Moment}

/-- Whatever is done with a replica of a node, it stays one. -/
theorem Course.isOf (course : Course (.new node cluster limit timeout) past r) : r.IsOf node := by
  induction course with
  | start => exact ⟨rfl, rfl, by rw [SortedMap.contains, new_get?_self]; rfl⟩
  | step o _ ih => exact ih.persists (operate_persists ..)

end Fresh

/-! ## The advertised table -/

/-- The table in the tree is what the node says to have applied. -/
def Tabled (r : Replica) : Prop := r.status.daemon.gens = r.advertisedGens

/-- What the table is made of. -/
theorem advertisedGens_congr (localhost : s.localhost = r.localhost)
    (generation : s.generation = r.generation) (applied : s.applied = r.applied)
    (resync : s.resync = r.resync) : s.advertisedGens = r.advertisedGens := by
  unfold advertisedGens
  rw [localhost, generation, applied, resync]

/-- A request for everything leaves the table in step. -/
theorem requestFull_tabled (tabled : r.Tabled) (node : String) (last received : Generation) :
    (r.requestFull node last received).Tabled := by
  unfold requestFull
  split
  · exact tabled
  · rfl

/-- A mutation without an event leaves the own generation, so the table need not be written. -/
theorem applyLocal_tabled (tabled : r.Tabled) (present : r.status.nodes.contains r.localhost = true)
    (m : Mutation) : (r.applyLocal m).1.Tabled := by
  simp only [applyLocal]
  split
  · obtain ⟨d, own⟩ := SortedMap.contains_iff.1 present
    have data : r.status.nodeD r.localhost = d := by simp [ClusterStatus.nodeD, own]
    have generation : generation { r with status := (r.status.mutate r.localhost m).1 } =
        r.generation := by
      simp [generation, ClusterStatus.mutate_nodes, own, data]
    have same : advertisedGens { r with status := (r.status.mutate r.localhost m).1 } =
        r.advertisedGens := advertisedGens_congr rfl generation rfl rfl
    rw [Tabled, same, ← tabled]
    exact congrArg DaemonSection.gens (ClusterStatus.mutate_daemon ..)
  · rfl

/-- What a message brings leaves the table in step. -/
theorem applyBody_tabled (tabled : r.Tabled) (node : String) (generation : Generation)
    (body : Message.Body) : (r.applyBody node generation body).1.Tabled := by
  apply applyBody_induction (motive := fun s _ => s.Tabled)
  · intro s _ last received tabled
    exact requestFull_tabled tabled node last received
  · intro deltas _ d _ s _ a _ _ _ _
    rfl
  · intro data _
    rfl
  · exact tabled

/-- A message leaves the table in step. -/
theorem applyMessage_tabled (tabled : r.Tabled) (m : Message) (now : Nat) :
    (r.applyMessage m now).1.Tabled := by
  rw [applyMessage_eq]
  split
  · have heard : (r.hear m now).Tabled := tabled
    exact applyBody_tabled heard m.nodename m.generation m.body
  · exact tabled

/-- Every operation that changes what was applied writes the table. -/
theorem operate_tabled (tabled : r.Tabled) (isOf : r.IsOf node) (o : Operation) :
    (r.operate o).1.Tabled := by
  cases o with
  | call c =>
    cases c with
    | applyLocal m =>
      have present := isOf.present
      rw [← isOf.localhost] at present
      exact applyLocal_tabled tabled present m
    | applyRemote q generation ms =>
      rw [operate, call_applyRemote]
      apply applyRemote_induction (motive := Tabled)
      · exact requestFull_tabled tabled q
      · rfl
      · exact tabled
    | applyFull q generation data => rfl
    | applyMessage m now => exact applyMessage_tabled tabled m now
  | setMode peer mode => rfl
  | buildMessage now =>
    unfold Tabled
    rw [operate, buildMessage_advertisedGens, buildMessage_status]
    exact tabled
  | delAggregate q =>
    simp only [operate, delAggregate]
    split <;> exact tabled
  | takePending | setStream | setAggregate => exact tabled

/-- The table in the tree is up to date after every operation. -/
theorem Course.tabled {cluster : ClusterConfig} {limit timeout : Nat} {past : List Moment}
    (course : Course (.new node cluster limit timeout) past r) : r.Tabled := by
  induction course with
  | start => rfl
  | step o course ih => exact operate_tabled ih course.isOf o

end Replica

end ClusterNode
