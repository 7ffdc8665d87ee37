import ClusterNode.Proofs.Replication.Subtree
import ClusterNode.Replication.Replica

/-!
# Effects of the operations of a replica

Every operation is described once, by what it leaves and by what it changes, so that
statements about runs never open an operation again.

`AgreesBut` is the frame of everything that a peer can cause: two replicas agree in
all but what concerns that peer. The rest are inversion lemmas: `applyLocal_cases`,
`applyRemote_cases` and `buildMessage_body` list the ways in which an operation can
end.
-/

namespace ClusterNode

/-- Below another generation the next one is greater by one. -/
theorem Generation.toNat_add_one {a b : Generation} (below : a < b) :
    (a + 1).toNat = a.toNat + 1 := by
  have bound := UInt64.toNat_lt b
  rw [UInt64.lt_iff_toNat_lt] at below
  rw [UInt64.toNat_add]
  simp only [UInt64.toNat_one]
  omega

namespace Replica

/-! ## The frame of a peer -/

/-- Two replicas agree in all but what concerns one peer: its subtree, what was
applied of it, whether it is wanted in full, and what was heard of it. -/
structure AgreesBut (node : String) (r s : Replica) : Prop where
  localhost : s.localhost = r.localhost
  nodename : s.status.daemon.nodename = r.status.daemon.nodename
  heartbeat : s.status.daemon.heartbeat = r.status.daemon.heartbeat
  cluster : s.status.cluster = r.status.cluster
  objects : s.status.objects = r.status.objects
  queue : s.patchQueue = r.patchQueue
  limit : s.maxPatchQueue = r.maxPatchQueue
  timeout : s.peerTimeout = r.peerTimeout
  streams : s.streams = r.streams
  modes : s.modes = r.modes
  nodes : ∀ other, other ≠ node → s.status.nodes.get? other = r.status.nodes.get? other
  applied : ∀ other, other ≠ node → s.applied.get? other = r.applied.get? other
  resync : ∀ other, other ≠ node → s.resync.contains other = r.resync.contains other
  remoteGens : ∀ other, other ≠ node → s.remoteGens.get? other = r.remoteGens.get? other
  heard : ∀ other, other ≠ node → s.heard.get? other = r.heard.get? other

namespace AgreesBut

variable {node : String} {r s t : Replica}

/-- Nothing changes. -/
theorem refl (node : String) (r : Replica) : AgreesBut node r r := by
  constructor <;> intros <;> rfl

/-- One change of the peer after the other. -/
theorem trans (first : AgreesBut node r s) (second : AgreesBut node s t) :
    AgreesBut node r t where
  localhost := second.localhost.trans first.localhost
  nodename := second.nodename.trans first.nodename
  heartbeat := second.heartbeat.trans first.heartbeat
  cluster := second.cluster.trans first.cluster
  objects := second.objects.trans first.objects
  queue := second.queue.trans first.queue
  limit := second.limit.trans first.limit
  timeout := second.timeout.trans first.timeout
  streams := second.streams.trans first.streams
  modes := second.modes.trans first.modes
  nodes other different := (second.nodes other different).trans (first.nodes other different)
  applied other different :=
    (second.applied other different).trans (first.applied other different)
  resync other different := (second.resync other different).trans (first.resync other different)
  remoteGens other different :=
    (second.remoteGens other different).trans (first.remoteGens other different)
  heard other different := (second.heard other different).trans (first.heard other different)

/-- A peer leaves the own generation. -/
theorem generation (agrees : AgreesBut node r s) (peer : node ≠ r.localhost) :
    s.generation = r.generation := by
  unfold Replica.generation
  rw [agrees.localhost, agrees.nodes _ (Ne.symm peer)]

/-- A peer leaves the membership. -/
theorem members (agrees : AgreesBut node r s) : s.members = r.members := by
  unfold Replica.members
  rw [agrees.cluster]

end AgreesBut

/-! ## Generations -/

variable (r : Replica) (node : String)

/-- The own generation stands in the own subtree. -/
theorem generation_of_own {r : Replica} {d : NodeData}
    (own : r.status.nodes.get? r.localhost = some d) : r.generation = d.generation := by
  simp [generation, own]

/-- What is applied of a peer, unless it is wanted in full. -/
theorem lastApplied?_of_ne {r : Replica} {node : String} (peer : node ≠ r.localhost) :
    r.lastApplied? node = if r.resync.contains node then none else r.applied.get? node := by
  simp [lastApplied?, peer]

/-- The generation of a peer in the advertised table: zero of one wanted in full. -/
theorem get?_advertisedGens {r : Replica} {node : String} (peer : node ≠ r.localhost) :
    r.advertisedGens.get? node =
      if r.resync.contains node then some 0 else r.applied.get? node := by
  unfold advertisedGens
  simp only [SortedMap.get?_foldl_keys]
  rw [SortedMap.get?_foldl_insert (fun e => if r.resync.contains e.1 then 0 else e.2),
    SortedMap.get?_insert_of_ne _ _ peer, SortedMap.get?_empty, Option.or_none]
  by_cases wanted : r.resync.contains node
  · simp [wanted]
  · simp [wanted]

@[simp] theorem refreshGens_nodes : r.refreshGens.status.nodes = r.status.nodes := rfl

@[simp] theorem refreshGens_localhost : r.refreshGens.localhost = r.localhost := rfl

@[simp] theorem refreshGens_applied : r.refreshGens.applied = r.applied := rfl

@[simp] theorem refreshGens_resync : r.refreshGens.resync = r.resync := rfl

@[simp] theorem refreshGens_patchQueue : r.refreshGens.patchQueue = r.patchQueue := rfl

/-- A node that has just started holds the empty subtree of itself. -/
theorem new_get?_self (node : String) (cluster : ClusterConfig) (limit timeout : Nat) :
    (Replica.new node cluster limit timeout).status.nodes.get? node =
      some ⟨initialGeneration, ∅⟩ :=
  SortedMap.get?_insert_self ..

/-! ## Wishes for everything -/

variable (last received : Generation)

/-- A wish concerns the wanted peer. -/
theorem requestFull_agrees : AgreesBut node r (r.requestFull node last received) := by
  unfold requestFull
  split
  · exact .refl node r
  · constructor <;> intros <;> first | rfl | skip
    rename_i other different
    simp [SortedMap.contains_insert, different]

@[simp] theorem requestFull_nodes :
    (r.requestFull node last received).status.nodes = r.status.nodes := by
  unfold requestFull
  split <;> rfl

@[simp] theorem requestFull_applied :
    (r.requestFull node last received).applied = r.applied := by
  unfold requestFull
  split <;> rfl

@[simp] theorem requestFull_localhost :
    (r.requestFull node last received).localhost = r.localhost := by
  unfold requestFull
  split <;> rfl

@[simp] theorem requestFull_remoteGens :
    (r.requestFull node last received).remoteGens = r.remoteGens := by
  unfold requestFull
  split <;> rfl

@[simp] theorem requestFull_heard :
    (r.requestFull node last received).heard = r.heard := by
  unfold requestFull
  split <;> rfl

/-- A peer that was asked for everything is wanted in full. -/
@[simp] theorem requestFull_resync :
    (r.requestFull node last received).resync.contains node = true := by
  unfold requestFull
  split
  · assumption
  · simp [SortedMap.contains_insert]

/-! ## Changes of a peer -/

/-- The replica after the mutations of one generation of a peer. -/
def follow (r : Replica) (node : String) (generation : Generation) (ms : List Mutation) :
    Replica :=
  refreshGens { r with
    status := { (r.status.mutateAll node ms).1 with
      nodes := (r.status.mutateAll node ms).1.nodes.insert node
        { (r.status.mutateAll node ms).1.nodeD node with generation } }
    applied := r.applied.insert node generation }

variable (generation : Generation) (ms : List Mutation)

@[simp] theorem follow_resync : (r.follow node generation ms).resync = r.resync := rfl

@[simp] theorem follow_localhost : (r.follow node generation ms).localhost = r.localhost := rfl

@[simp] theorem follow_applied :
    (r.follow node generation ms).applied = r.applied.insert node generation := rfl

/-- The subtree of the peer is the mutated one, at the new generation. -/
theorem follow_get?_nodes :
    (r.follow node generation ms).status.nodes.get? node =
      some { (r.status.nodeD node).mutateAll node ms with generation } := by
  simp [follow]

variable {r node} in
/-- Following a peer concerns that peer alone, unless it is the node itself. -/
theorem follow_agrees (peer : node ≠ r.status.daemon.nodename) :
    AgreesBut node r (r.follow node generation ms) where
  localhost := rfl
  nodename := by simp [follow, refreshGens]
  heartbeat := by simp [follow, refreshGens]
  cluster := ClusterStatus.mutateAll_cluster_of_ne ms peer
  objects := ClusterStatus.mutateAll_objects r.status node ms
  queue := rfl
  limit := rfl
  timeout := rfl
  streams := rfl
  modes := rfl
  nodes other different := by
    simp [follow, SortedMap.get?_insert_of_ne _ _ different,
      ClusterStatus.get?_mutateAll_of_ne r.status ms different]
  applied other different := by
    simp [SortedMap.get?_insert_of_ne _ _ different]
  resync _ _ := rfl
  remoteGens _ _ := rfl
  heard _ _ := rfl

/-- What a generation of a peer can come to: it is refused and the peer wanted in full,
it is a repetition, or it is followed. -/
theorem applyRemote_cases :
    (∃ last e, r.applyRemote node generation ms =
        (r.requestFull node last generation, .error e) ∧
        ∀ a, r.lastApplied? node = some a → a < generation ∧ generation ≠ a + 1) ∨
    (∃ a, r.applyRemote node generation ms = (r, .ok []) ∧ r.lastApplied? node = some a ∧
        generation ≤ a) ∨
    (∃ a events, r.applyRemote node generation ms = (r.follow node generation ms, .ok events) ∧
        r.lastApplied? node = some a ∧ a < generation ∧ generation = a + 1) := by
  unfold applyRemote
  cases known : r.lastApplied? node with
  | none => exact .inl ⟨0, _, rfl, by simp⟩
  | some a =>
    by_cases repeated : generation ≤ a
    · exact .inr (.inl ⟨a, by simp [repeated], rfl, repeated⟩)
    · have later : a < generation := by simpa using repeated
      by_cases follows : generation = a + 1
      · refine .inr (.inr ⟨a, (r.status.mutateAll node ms).2, ?_, rfl, later, follows⟩)
        simp only [follows, if_false, ne_eq, not_true_eq_false]
        rw [if_neg (by simpa [follows] using later)]
        rfl
      · refine .inl ⟨a, .generationGap node (a + 1) generation, by simp [repeated, follows], ?_⟩
        intro a' same
        cases same
        exact ⟨later, follows⟩

/-- What wishes for everything and following a peer keep, changes of one generation keep. -/
theorem applyRemote_induction {motive : Replica → Prop}
    (requested : ∀ last received, motive (r.requestFull node last received))
    (followed : motive (r.follow node generation ms)) (start : motive r) :
    motive (r.applyRemote node generation ms).1 := by
  rcases applyRemote_cases r node generation ms with
    ⟨last, e, made, _⟩ | ⟨a, made, _⟩ | ⟨a, events, made, _⟩
  · rw [made]
    exact requested last generation
  · rw [made]
    exact start
  · rw [made]
    exact followed

/-- Replacing all that a peer says concerns that peer alone. -/
theorem applyFull_agrees (data : NodeData) :
    AgreesBut node r (r.applyFull node generation data).1 where
  localhost := rfl
  nodename := rfl
  heartbeat := rfl
  cluster := rfl
  objects := rfl
  queue := rfl
  limit := rfl
  timeout := rfl
  streams := rfl
  modes := rfl
  nodes other different := by
    simp [applyFull, SortedMap.get?_insert_of_ne _ _ different]
  applied other different := by
    simp [applyFull, SortedMap.get?_insert_of_ne _ _ different]
  resync other different := by
    simp [applyFull, SortedMap.contains_erase, different]
  remoteGens _ _ := rfl
  heard _ _ := rfl

/-- After everything of a peer arrived, the peer is in step at the generation given. -/
theorem applyFull_applied (data : NodeData) :
    (r.applyFull node generation data).1.applied.get? node = some generation := by
  simp [applyFull]

/-- After everything of a peer arrived, it is no longer wanted in full. -/
theorem applyFull_resync (data : NodeData) :
    (r.applyFull node generation data).1.resync.contains node = false := by
  simp [applyFull, SortedMap.contains_erase]

/-- The subtree of a peer is the one that arrived, published by the peer. -/
theorem applyFull_nodes (data : NodeData) :
    (r.applyFull node generation data).1.status.nodes.get? node =
      some { data.publishedBy node with generation } := by
  simp [applyFull]

/-! ## Messages of a peer -/

section Message

variable {r : Replica} {node : String}

/-- One generation of a peer concerns that peer alone. -/
theorem applyRemote_agrees (generation : Generation) (ms : List Mutation)
    (peer : node ≠ r.status.daemon.nodename) :
    AgreesBut node r (r.applyRemote node generation ms).1 := by
  apply applyRemote_induction (motive := AgreesBut node r)
  · exact requestFull_agrees r node
  · exact follow_agrees generation ms peer
  · exact .refl node r

/-- A generation that follows the one applied is made. -/
theorem applyRemote_next {generation a : Generation} {ms : List Mutation}
    (known : r.lastApplied? node = some a) (later : a < generation) (next : generation = a + 1) :
    r.applyRemote node generation ms =
      (r.follow node generation ms, .ok (r.status.mutateAll node ms).2) := by
  unfold applyRemote
  simp only [known]
  rw [if_neg (by simpa using later), if_neg (by simpa using next)]
  rfl

section Induction

variable {motive : Replica → List Publication → Prop} {generation : Generation}

/-- What the changes that follow and wishes for everything keep, of a replica and of the
events so far, the changes of a patch keep. -/
theorem applyDeltas_induction {deltas : List Delta} {events : List Publication}
    (requested : ∀ s events last received, motive s events →
      motive (s.requestFull node last received) events)
    (followed : ∀ d ∈ deltas, ∀ s events a, motive s events → s.lastApplied? node = some a →
      a < d.generation → d.generation = a + 1 →
      motive (s.follow node d.generation d.mutations)
        (events ++ (s.status.mutateAll node d.mutations).2))
    (start : motive r events) :
    motive (r.applyDeltas node deltas).1 (events ++ (r.applyDeltas node deltas).2) := by
  induction deltas generalizing r events with
  | nil => simpa [applyDeltas] using start
  | cons d ds ih =>
    have later (s : Replica) (events : List Publication) (holds : motive s events) :
        motive (s.applyDeltas node ds).1 (events ++ (s.applyDeltas node ds).2) :=
      ih (fun d member => followed d (List.mem_cons_of_mem _ member)) holds
    rcases applyRemote_cases r node d.generation d.mutations with
      ⟨last, e, made, _⟩ | ⟨a, made, _⟩ | ⟨a, _, _, known, below, next⟩
    · simpa [applyDeltas, made] using requested r events last d.generation start
    · simpa [applyDeltas, made] using later r events start
    · have made := followed d (List.mem_cons_self ..) r events a start known below next
      simpa [applyDeltas, applyRemote_next known below next] using later _ _ made

/-- A patch leaves the name of the node. -/
theorem applyDeltas_localhost (r : Replica) (node : String) (deltas : List Delta) :
    (r.applyDeltas node deltas).1.localhost = r.localhost := by
  have start : r.localhost = r.localhost := rfl
  exact @applyDeltas_induction r node (fun s _ => s.localhost = r.localhost) deltas []
    (fun s _ last received same => (requestFull_localhost ..).trans same)
    (fun d _ s _ a same _ _ _ => same) start

/-- What the changes that follow and wishes for everything keep, a message keeps, unless it
brings everything. -/
theorem applyBody_induction {body : Message.Body}
    (requested : ∀ s events last received, motive s events →
      motive (s.requestFull node last received) events)
    (followed : ∀ deltas, body = .patch deltas → ∀ d ∈ deltas, ∀ s events a, motive s events →
      s.lastApplied? node = some a → a < d.generation → d.generation = a + 1 →
      motive (s.follow node d.generation d.mutations)
        (events ++ (s.status.mutateAll node d.mutations).2))
    (filled : ∀ data, body = .full data →
      motive (r.applyFull node generation data).1 (r.applyFull node generation data).2)
    (start : motive r []) :
    motive (r.applyBody node generation body).1 (r.applyBody node generation body).2 := by
  cases body with
  | full data => exact filled data rfl
  | patch deltas =>
    have made := applyDeltas_induction requested (followed deltas rfl) start
    rw [List.nil_append] at made
    simp only [applyBody]
    split
    · exact requested _ _ _ _ start
    · split
      · exact requested _ _ _ _ start
      · split
        · split
          · exact requested _ _ _ _ made
          · exact made
        · exact made
  | ping =>
    simp only [applyBody]
    split
    · exact requested _ _ _ _ start
    · split
      · exact requested _ _ _ _ start
      · exact start

end Induction

/-- What a message brings concerns its sender alone. -/
theorem applyBody_agrees (generation : Generation) (body : Message.Body)
    (peer : node ≠ r.status.daemon.nodename) :
    AgreesBut node r (r.applyBody node generation body).1 := by
  apply applyBody_induction (motive := fun s _ => AgreesBut node r s)
  · intro s _ last received agrees
    exact agrees.trans (requestFull_agrees ..)
  · intro deltas _ d _ s _ a agrees _ _ _
    exact agrees.trans (follow_agrees d.generation d.mutations (by rwa [agrees.nodename]))
  · intro data _
    exact applyFull_agrees ..
  · exact .refl node r

/-- The replica that has noted the generations of a sender. -/
def hear (r : Replica) (m : Message) (now : Nat) : Replica :=
  { r with
    remoteGens := r.remoteGens.insert m.nodename m.gens
    heard := r.heard.insert m.nodename now }

/-- Noting the generations of a sender concerns that sender alone. -/
theorem hear_agrees (r : Replica) (m : Message) (now : Nat) :
    AgreesBut m.nodename r (r.hear m now) := by
  constructor <;> intros <;> first | rfl | skip
  all_goals
    rename_i other different
    simp [hear, SortedMap.get?_insert_of_ne _ _ different]

/-- A message is dropped, or its sender is noted and then its body is taken. -/
theorem applyMessage_eq (r : Replica) (m : Message) (now : Nat) :
    (r.applyMessage m now).1 =
      if r.listensTo m.nodename then
        { ((r.hear m now).applyBody m.nodename m.generation m.body).1 with pending := [] }
      else r := by
  unfold applyMessage
  split <;> rfl

/-- The waiting announcements are no part of any frame. -/
theorem AgreesBut.withoutPending {r s : Replica} (agrees : AgreesBut node r s) :
    AgreesBut node r { s with pending := [] } :=
  ⟨agrees.localhost, agrees.nodename, agrees.heartbeat, agrees.cluster, agrees.objects,
    agrees.queue, agrees.limit, agrees.timeout, agrees.streams, agrees.modes, agrees.nodes,
    agrees.applied, agrees.resync, agrees.remoteGens, agrees.heard⟩

/-- A node listens to others only. -/
theorem ne_of_listensTo (listens : r.listensTo node = true) : node ≠ r.localhost := by
  simp only [listensTo, Bool.and_eq_true, bne_iff_ne] at listens
  exact listens.1

/-- A message concerns its sender alone. -/
theorem applyMessage_agrees (r : Replica) (m : Message) (now : Nat)
    (named : r.status.daemon.nodename = r.localhost) :
    AgreesBut m.nodename r (r.applyMessage m now).1 := by
  rw [applyMessage_eq]
  split
  · rename_i listens
    have peer : m.nodename ≠ (r.hear m now).status.daemon.nodename := by
      rw [(hear_agrees r m now).nodename, named]
      exact ne_of_listensTo listens
    exact (hear_agrees r m now).trans (applyBody_agrees m.generation m.body peer).withoutPending
  · exact .refl _ r

/-- What a message brings changes nothing of what peers said to have applied. -/
theorem applyBody_remoteGens (generation : Generation) (body : Message.Body) :
    (r.applyBody node generation body).1.remoteGens = r.remoteGens := by
  apply applyBody_induction (motive := fun s _ => s.remoteGens = r.remoteGens)
  · intro s _ last received same
    rw [requestFull_remoteGens, same]
  · intro deltas _ d _ s _ a same _ _ _
    exact same
  · intro data _
    rfl
  · rfl

/-- What a message brings changes nothing of when peers were heard. -/
theorem applyBody_heard (generation : Generation) (body : Message.Body) :
    (r.applyBody node generation body).1.heard = r.heard := by
  apply applyBody_induction (motive := fun s _ => s.heard = r.heard)
  · intro s _ last received same
    rw [requestFull_heard, same]
  · intro deltas _ d _ s _ a same _ _ _
    exact same
  · intro data _
    rfl
  · rfl

/-- The generations of a message are noted for its sender. -/
theorem applyMessage_remoteGens {m : Message} (now : Nat)
    (listens : r.listensTo m.nodename = true) :
    (r.applyMessage m now).1.remoteGens.get? m.nodename = some m.gens := by
  rw [applyMessage_eq, if_pos listens]
  change ((r.hear m now).applyBody m.nodename m.generation m.body).1.remoteGens.get? _ = _
  rw [applyBody_remoteGens]
  exact SortedMap.get?_insert_self ..

/-- The time of a message is noted for its sender. -/
theorem applyMessage_heard {m : Message} (now : Nat) (listens : r.listensTo m.nodename = true) :
    (r.applyMessage m now).1.heard.get? m.nodename = some now := by
  rw [applyMessage_eq, if_pos listens]
  change ((r.hear m now).applyBody m.nodename m.generation m.body).1.heard.get? _ = _
  rw [applyBody_heard]
  exact SortedMap.get?_insert_self ..

/-- A message of a peer leaves the own generation. -/
theorem applyMessage_generation (r : Replica) (m : Message) (now : Nat)
    (named : r.status.daemon.nodename = r.localhost) :
    (r.applyMessage m now).1.generation = r.generation := by
  by_cases listens : r.listensTo m.nodename = true
  · exact (applyMessage_agrees r m now named).generation (ne_of_listensTo listens)
  · rw [applyMessage_eq, if_neg listens]

end Message

/-! ## Own changes -/

section Local

variable (r : Replica) (m : Mutation)

@[simp] theorem applyLocal_localhost : (r.applyLocal m).1.localhost = r.localhost := by
  simp only [applyLocal]
  split <;> rfl

@[simp] theorem applyLocal_nodename :
    (r.applyLocal m).1.status.daemon.nodename = r.status.daemon.nodename := by
  simp only [applyLocal]
  split <;> simp [refreshGens]

@[simp] theorem applyLocal_applied : (r.applyLocal m).1.applied = r.applied := by
  simp only [applyLocal]
  split <;> rfl

@[simp] theorem applyLocal_resync : (r.applyLocal m).1.resync = r.resync := by
  simp only [applyLocal]
  split <;> rfl

@[simp] theorem applyLocal_maxPatchQueue :
    (r.applyLocal m).1.maxPatchQueue = r.maxPatchQueue := by
  simp only [applyLocal]
  split <;> rfl

variable {r} in
/-- An own mutation leaves the subtree of every peer. -/
theorem applyLocal_get?_of_ne {other : String} (peer : other ≠ r.localhost) :
    (r.applyLocal m).1.status.nodes.get? other = r.status.nodes.get? other := by
  simp only [applyLocal]
  split
  · exact ClusterStatus.get?_mutate_of_ne r.status m peer
  · simp [SortedMap.get?_insert_of_ne _ _ peer, ClusterStatus.get?_mutate_of_ne r.status m peer]

variable {r m} in
/-- An own mutation changes no record and is forgotten, or it makes the next generation
and waits in the queue. -/
theorem applyLocal_cases {d : NodeData} (own : r.status.nodes.get? r.localhost = some d)
    (formed : d.WellFormed r.localhost) :
    ((r.applyLocal m).1.status.nodes.get? r.localhost = some d ∧
      (r.applyLocal m).1.patchQueue = r.patchQueue) ∨
    ((r.applyLocal m).1.status.nodes.get? r.localhost =
        some { d.mutate r.localhost m with generation := d.generation + 1 } ∧
      (r.applyLocal m).1.patchQueue =
        trimQueue r.maxPatchQueue (r.patchQueue.insert (d.generation + 1) [m])) := by
  have data : r.status.nodeD r.localhost = d := by simp [ClusterStatus.nodeD, own]
  by_cases silent : (r.status.mutate r.localhost m).2 = []
  · left
    have unchanged := ClusterStatus.nodeD_mutate_of_silent (by rwa [data]) silent
    rw [data] at unchanged
    simp [applyLocal, silent, ClusterStatus.mutate_nodes, data, unchanged]
  · right
    have loud : (r.status.mutate r.localhost m).2.isEmpty = false := by simpa using silent
    simp [applyLocal, loud, data]

end Local

/-! ## Modes -/

section Mode

variable (r : Replica) (peer : String) (mode : PeerMode)

@[simp] theorem setMode_localhost : (r.setMode peer mode).localhost = r.localhost := by
  simp only [setMode]
  split <;> rfl

@[simp] theorem setMode_nodename :
    (r.setMode peer mode).status.daemon.nodename = r.status.daemon.nodename := by
  simp only [setMode]
  split <;> rfl

@[simp] theorem setMode_nodes : (r.setMode peer mode).status.nodes = r.status.nodes := by
  simp only [setMode]
  split <;> rfl

@[simp] theorem setMode_applied : (r.setMode peer mode).applied = r.applied := by
  simp only [setMode]
  split <;> rfl

@[simp] theorem setMode_patchQueue : (r.setMode peer mode).patchQueue = r.patchQueue := by
  simp only [setMode]
  split <;> rfl

end Mode

/-! ## Messages to peers -/

section Build

variable (r : Replica) (now : Nat)

@[simp] theorem buildMessage_localhost : (r.buildMessage now).1.localhost = r.localhost := by
  simp only [buildMessage]
  split <;> rfl

@[simp] theorem buildMessage_status : (r.buildMessage now).1.status = r.status := by
  simp only [buildMessage]
  split <;> rfl

@[simp] theorem buildMessage_applied : (r.buildMessage now).1.applied = r.applied := by
  simp only [buildMessage]
  split <;> rfl

@[simp] theorem buildMessage_resync : (r.buildMessage now).1.resync = r.resync := by
  simp only [buildMessage]
  split <;> rfl

@[simp] theorem buildMessage_nodename : (r.buildMessage now).2.nodename = r.localhost := by
  simp only [buildMessage]
  split <;> rfl

@[simp] theorem buildMessage_generation : (r.buildMessage now).2.generation = r.generation := by
  simp only [buildMessage]
  split <;> rfl

@[simp] theorem buildMessage_gens : (r.buildMessage now).2.gens = r.advertisedGens := by
  simp only [buildMessage]
  split <;> rfl

/-- Making a message leaves the own generation. -/
theorem buildMessage_own_generation : (r.buildMessage now).1.generation = r.generation := by
  simp [Replica.generation]

/-- Making a message leaves the membership. -/
theorem buildMessage_members : (r.buildMessage now).1.members = r.members := by
  unfold members
  rw [buildMessage_status]

/-- Making a message leaves what the node says to have applied. -/
theorem buildMessage_advertisedGens :
    (r.buildMessage now).1.advertisedGens = r.advertisedGens := by
  simp [advertisedGens, Replica.generation]

/-- The changes that are kept when a message is made: those that some heard peer lacks. -/
theorem buildMessage_patchQueue :
    (r.buildMessage now).1.patchQueue =
      match (r.expireSilent now).acks.min? with
      | some least => r.patchQueue.filter fun g _ => least < g
      | none => r.patchQueue := by
  simp only [buildMessage]
  cases (r.expireSilent now).acks.min? <;> rfl

/-- What the next message brings: everything if some heard peer lags, else the changes
that the slowest heard peer lacks, else nothing. -/
theorem buildMessage_body :
    (r.buildMessage now).2.body =
      if (r.expireSilent now).acks.any r.lags then .full (r.status.nodeD r.localhost)
      else
        match (r.expireSilent now).acks.min? with
        | some least =>
          if least < r.generation then
            .patch ((r.patchQueue.entries.filter fun e => least < e.1).map fun e => ⟨e.1, e.2⟩)
          else .ping
        | none => .ping := by
  simp only [buildMessage]
  cases (r.expireSilent now).acks.min? with
  | none => rfl
  | some least =>
    have kept (behind : least < r.generation) :
        (r.patchQueue.entries.filter fun e => decide (least < e.1)).filter
            (fun e => decide (least + 1 ≤ e.1)) =
          r.patchQueue.entries.filter fun e => decide (least < e.1) := by
      rw [List.filter_eq_self]
      intro e member
      have above : least < e.1 := by simpa using (List.mem_filter.1 member).2
      rw [UInt64.lt_iff_toNat_lt] at above
      simpa [UInt64.le_iff_toNat_le, Generation.toNat_add_one behind] using
        Nat.succ_le_of_lt above
    change (if (r.expireSilent now).acks.any r.lags then
        Message.Body.full (r.status.nodeD r.localhost)
      else if least < r.generation then
        .patch (((r.patchQueue.entries.filter fun e => decide (least < e.1)).filter
          fun e => decide (least + 1 ≤ e.1)).map fun e => ⟨e.1, e.2⟩)
      else .ping) = _
    by_cases behind : least < r.generation
    · rw [kept behind]
    · simp only [if_neg behind]

end Build

/-! ## Replicas of a node -/

/-- A replica of a node: it bears its name and holds a subtree of it. -/
structure BelongsTo (r : Replica) (node : String) : Prop where
  localhost : r.localhost = node
  nodename : r.status.daemon.nodename = node
  own : ∃ d, r.status.nodes.get? node = some d ∧ d.WellFormed node

namespace BelongsTo

variable {r : Replica} {node : String}

/-- A replica publishes under its own name. -/
theorem named (belongs : r.BelongsTo node) : r.status.daemon.nodename = r.localhost := by
  rw [belongs.nodename, belongs.localhost]

/-- A fresh replica is one of its node. -/
theorem new (node : String) (cluster : ClusterConfig) (limit timeout : Nat) :
    (Replica.new node cluster limit timeout).BelongsTo node :=
  ⟨rfl, rfl, _, new_get?_self .., .ofEmpty node initialGeneration⟩

/-- An own mutation keeps the node of a replica. -/
theorem applyLocal (belongs : r.BelongsTo node) (m : Mutation) :
    (r.applyLocal m).1.BelongsTo node := by
  obtain ⟨rfl, named, d, own, formed⟩ := belongs
  refine ⟨by simp, by simpa using named, ?_⟩
  rcases applyLocal_cases (m := m) own formed with ⟨unchanged, _⟩ | ⟨changed, _⟩
  · exact ⟨d, unchanged, formed⟩
  · exact ⟨_, changed, (formed.mutate m).withGeneration _⟩

/-- A mode keeps the node of a replica. -/
theorem setMode (belongs : r.BelongsTo node) (peer : String) (mode : PeerMode) :
    (r.setMode peer mode).BelongsTo node where
  localhost := by simpa using belongs.localhost
  nodename := by simpa using belongs.nodename
  own := by simpa using belongs.own

/-- Making a message keeps the node of a replica. -/
theorem buildMessage (belongs : r.BelongsTo node) (now : Nat) :
    (r.buildMessage now).1.BelongsTo node where
  localhost := by simpa using belongs.localhost
  nodename := by simpa using belongs.nodename
  own := by simpa using belongs.own

/-- A message of a peer keeps the node of a replica. -/
theorem applyMessage (belongs : r.BelongsTo node) (m : Message) (now : Nat) :
    (r.applyMessage m now).1.BelongsTo node := by
  by_cases listens : r.listensTo m.nodename = true
  · have frame := applyMessage_agrees r m now belongs.named
    have peer := ne_of_listensTo listens
    rw [belongs.localhost] at peer
    refine ⟨by rw [frame.localhost, belongs.localhost], by rw [frame.nodename, belongs.nodename],
      ?_⟩
    rw [frame.nodes node peer.symm]
    exact belongs.own
  · rw [applyMessage_eq, if_neg listens]
    exact belongs

end BelongsTo

end Replica

end ClusterNode
