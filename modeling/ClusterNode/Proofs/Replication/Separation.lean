import ClusterNode.Heartbeat.Manager
import ClusterNode.Proofs.Replication.Course

/-!
# Peers speak for themselves

What a message does is decided by the part of its sender and the names that a replica bears
(`Replica.Alike`): two replicas that are alike to a peer do likewise with its messages
(`Replica.Likewise`). What it leaves is everything else (`Replica.AgreesBut`). So messages of
different peers do the same in either order.

An inbound payload is handed on only as a message of the node that sealed it.
-/

namespace ClusterNode

/-- What mutations of a peer tell depends on what the peer said, and on the name of the cluster. -/
theorem ClusterStatus.mutateAll_events_congr {s s' : ClusterStatus} {node : String}
    (peer : node ≠ s.daemon.nodename) (nodename : s'.daemon.nodename = s.daemon.nodename)
    (cluster : s'.cluster = s.cluster) (data : s'.nodeD node = s.nodeD node)
    (ms : List Mutation) : (s'.mutateAll node ms).2 = (s.mutateAll node ms).2 := by
  induction ms generalizing s s' with
  | nil => rfl
  | cons m ms ih =>
    have first : (s'.mutate node m).2 = (s.mutate node m).2 := by
      rw [mutate_events, mutate_events, cluster, data]
    have peer' : node ≠ s'.daemon.nodename := by rwa [nodename]
    have later : ((s'.mutate node m).1.mutateAll node ms).2 =
        ((s.mutate node m).1.mutateAll node ms).2 := by
      apply ih
      · rwa [mutate_daemon]
      · rw [mutate_daemon, mutate_daemon, nodename]
      · rw [mutate_cluster_of_ne m peer', mutate_cluster_of_ne m peer, cluster]
      · rw [nodeD_mutate, nodeD_mutate, data]
    simp only [mutateAll, first, later]

namespace Replica

variable {r s : Replica} {node p : String} {past : List Moment}

/-! ## Replicas that are alike to a peer -/

/-- Two replicas are alike to a peer: they bear the same names and keep the same of the peer. -/
structure Alike (p : String) (r s : Replica) : Prop where
  localhost : s.localhost = r.localhost
  nodename : s.status.daemon.nodename = r.status.daemon.nodename
  cluster : s.status.cluster = r.status.cluster
  part : SamePart p r s

namespace Alike

/-- Replicas that are alike to a peer keep the same subtree of it. -/
theorem nodeD (alike : Alike p r s) : s.status.nodeD p = r.status.nodeD p := by
  unfold ClusterStatus.nodeD
  rw [alike.part.node]

/-- Replicas that are alike to a peer have the same last generation of it. -/
theorem lastApplied? (alike : Alike p r s) (other : p ≠ r.localhost) :
    s.lastApplied? p = r.lastApplied? p := by
  have other' : p ≠ s.localhost := by rwa [alike.localhost]
  rw [lastApplied?_of_ne other, lastApplied?_of_ne other', alike.part.resync, alike.part.applied]

/-- Replicas that are alike to a peer both listen to it, or neither does. -/
theorem listensTo (alike : Alike p r s) : s.listensTo p = r.listensTo p := by
  unfold Replica.listensTo members
  rw [alike.localhost, alike.cluster]

end Alike

/-- What a peer cannot change is alike to every other one. -/
theorem AgreesBut.alike {q : String} (agrees : AgreesBut q r s) (different : p ≠ q) :
    Alike p r s where
  localhost := agrees.localhost
  nodename := agrees.nodename
  cluster := agrees.cluster
  part := ⟨agrees.nodes p different, agrees.applied p different, agrees.resync p different⟩

/-- Two replicas did likewise: what came of them is alike to a peer, the same was published, and
the same is to be announced beside what waited before. -/
structure Likewise (p : String) (r s : Replica) (x y : Replica × List Publication) : Prop where
  alike : Alike p x.1 y.1
  events : y.2 = x.2
  pending : ∃ news, x.1.pending = r.pending ++ news ∧ y.1.pending = s.pending ++ news

/-- Replicas that are alike and publish the same did likewise. -/
theorem Likewise.refl (alike : Alike p r s) (events : List Publication) :
    Likewise p r s (r, events) (s, events) :=
  ⟨alike, rfl, [], by simp, by simp⟩

/-- One thing after the other. -/
theorem Likewise.trans {x y x' y' : Replica × List Publication} (first : Likewise p r s x y)
    (second : Likewise p x.1 y.1 x' y') :
    Likewise p r s (x'.1, x.2 ++ x'.2) (y'.1, y.2 ++ y'.2) where
  alike := second.alike
  events := by rw [first.events, second.events]
  pending := by
    obtain ⟨news, told, told'⟩ := first.pending
    obtain ⟨more, later, later'⟩ := second.pending
    exact ⟨news ++ more, by rw [later, told, List.append_assoc],
      by rw [later', told', List.append_assoc]⟩

/-- A peer is wanted in full likewise. -/
theorem requestFull_likewise (alike : Alike p r s) (last received : Generation)
    (events : List Publication) :
    Likewise p r s (r.requestFull p last received, events)
      (s.requestFull p last received, events) := by
  by_cases flagged : r.resync.contains p = true
  · have flagged' : s.resync.contains p = true := alike.part.resync.trans flagged
    rw [requestFull, if_pos flagged, requestFull, if_pos flagged']
    exact .refl alike events
  · have flagged' : ¬ s.resync.contains p = true := by rwa [alike.part.resync]
    have frame := requestFull_agrees r p last received
    have frame' := requestFull_agrees s p last received
    refine ⟨⟨?_, ?_, ?_, ?_, ?_, ?_⟩, rfl, [.ofNode (.resyncRequested p last received) p], ?_, ?_⟩
    · rw [frame.localhost, frame'.localhost, alike.localhost]
    · rw [frame.nodename, frame'.nodename, alike.nodename]
    · rw [frame.cluster, frame'.cluster, alike.cluster]
    · rw [requestFull_nodes, requestFull_nodes, alike.part.node]
    · rw [requestFull_applied, requestFull_applied, alike.part.applied]
    · rw [requestFull_resync, requestFull_resync]
    · rw [requestFull, if_neg flagged]
      rfl
    · rw [requestFull, if_neg flagged']
      rfl

/-- Replicas that did likewise and ask for everything do likewise. -/
theorem Likewise.requestFull {x y : Replica × List Publication} (likewise : Likewise p r s x y)
    (last received : Generation) :
    Likewise p r s (x.1.requestFull p last received, x.2)
      (y.1.requestFull p last received, y.2) := by
  simpa using likewise.trans (requestFull_likewise likewise.alike last received [])

/-- A peer is followed likewise. -/
theorem follow_likewise (alike : Alike p r s) (peer : p ≠ r.status.daemon.nodename)
    (generation : Generation) (ms : List Mutation) :
    Likewise p r s (r.follow p generation ms, (r.status.mutateAll p ms).2)
      (s.follow p generation ms, (s.status.mutateAll p ms).2) := by
  have frame := follow_agrees generation ms peer
  have frame' := follow_agrees generation ms (show p ≠ s.status.daemon.nodename by
    rwa [alike.nodename])
  refine ⟨⟨?_, ?_, ?_, ?_, ?_, alike.part.resync⟩, ?_, [], ?_, ?_⟩
  · rw [frame.localhost, frame'.localhost, alike.localhost]
  · rw [frame.nodename, frame'.nodename, alike.nodename]
  · rw [frame.cluster, frame'.cluster, alike.cluster]
  · rw [follow_get?_nodes, follow_get?_nodes, alike.nodeD]
  · rw [follow_applied, follow_applied, SortedMap.get?_insert_self, SortedMap.get?_insert_self]
  · exact ClusterStatus.mutateAll_events_congr peer alike.nodename alike.cluster alike.nodeD ms
  · exact (List.append_nil _).symm
  · exact (List.append_nil _).symm

/-- A peer is taken in full likewise. -/
theorem applyFull_likewise (alike : Alike p r s) (generation : Generation) (data : NodeData) :
    Likewise p r s (r.applyFull p generation data) (s.applyFull p generation data) := by
  have frame := applyFull_agrees r p generation data
  have frame' := applyFull_agrees s p generation data
  refine ⟨⟨?_, ?_, ?_, ?_, ?_, ?_⟩, ?_, [], ?_, ?_⟩
  · rw [frame.localhost, frame'.localhost, alike.localhost]
  · rw [frame.nodename, frame'.nodename, alike.nodename]
  · rw [frame.cluster, frame'.cluster, alike.cluster]
  · rw [applyFull_nodes, applyFull_nodes]
  · rw [applyFull_applied, applyFull_applied]
  · rw [applyFull_resync, applyFull_resync]
  · simp only [applyFull, alike.nodeD]
  · exact (List.append_nil _).symm
  · exact (List.append_nil _).symm

/-- The changes of a patch are made likewise, up to the first that does not follow. -/
theorem applyDeltas_likewise {deltas : List Delta} (alike : Alike p r s)
    (peer : p ≠ r.status.daemon.nodename) (other : p ≠ r.localhost) :
    Likewise p r s (r.applyDeltas p deltas) (s.applyDeltas p deltas) := by
  induction deltas generalizing r s with
  | nil => exact .refl alike []
  | cons d ds ih =>
    have known' := alike.lastApplied? other
    cases known : r.lastApplied? p with
    | none =>
      rw [known] at known'
      simp only [applyDeltas, applyRemote, known, known']
      exact requestFull_likewise alike 0 d.generation []
    | some a =>
      rw [known] at known'
      by_cases repeated : d.generation ≤ a
      · simp only [applyDeltas, applyRemote, known, known', if_pos repeated, List.nil_append]
        exact ih alike peer other
      · by_cases next : d.generation = a + 1
        · have below := UInt64.not_le.1 repeated
          have first := follow_likewise alike peer d.generation d.mutations
          simp only [applyDeltas, applyRemote_next known below next,
            applyRemote_next known' below next]
          exact first.trans (ih first.alike (by rwa [(follow_agrees _ _ peer).nodename]) other)
        · simp only [applyDeltas, applyRemote, known, known', if_neg repeated, ne_eq, next,
            not_false_eq_true, if_true]
          exact requestFull_likewise alike a d.generation []

/-- What a message brings is taken likewise. -/
theorem applyBody_likewise (alike : Alike p r s) (peer : p ≠ r.status.daemon.nodename)
    (other : p ≠ r.localhost) (generation : Generation) (body : Message.Body) :
    Likewise p r s (r.applyBody p generation body) (s.applyBody p generation body) := by
  have known := alike.lastApplied? other
  cases body with
  | full data => exact applyFull_likewise alike generation data
  | ping =>
    simp only [applyBody, known]
    split
    · exact requestFull_likewise alike 0 generation []
    · split
      · exact requestFull_likewise alike _ generation []
      · exact .refl alike []
  | patch deltas =>
    simp only [applyBody, known]
    split
    · exact requestFull_likewise alike 0 generation []
    · split
      · exact requestFull_likewise alike _ generation []
      · have made : Likewise p r s (r.applyDeltas p deltas) (s.applyDeltas p deltas) :=
          applyDeltas_likewise alike peer other
        have known := made.alike.lastApplied? (by rwa [applyDeltas_localhost])
        simp only [known]
        split
        · split
          · exact made.requestFull _ generation
          · exact made
        · exact made

/-! ## Messages -/

/-- A message of a node that is not listened to is dropped. -/
theorem applyMessage_of_not_listensTo {m : Message} (deaf : ¬ r.listensTo m.nodename = true)
    (now : Nat) : r.applyMessage m now = (r, []) := by
  unfold applyMessage
  rw [if_neg deaf]

/-- A message is taken likewise; what waits is announced at its end. -/
theorem applyMessage_likewise {m : Message} (alike : Alike m.nodename r s)
    (named : r.status.daemon.nodename = r.localhost) (listens : r.listensTo m.nodename = true)
    (now : Nat) :
    Alike m.nodename (r.applyMessage m now).1 (s.applyMessage m now).1 ∧
      ∃ told news, (r.applyMessage m now).2 = told ++ (r.pending ++ news) ∧
        (s.applyMessage m now).2 = told ++ (s.pending ++ news) := by
  have listens' : s.listensTo m.nodename = true := by rwa [alike.listensTo]
  have other := ne_of_listensTo listens
  have heard : Alike m.nodename (r.hear m now) (s.hear m now) :=
    ⟨alike.localhost, alike.nodename, alike.cluster, alike.part.node, alike.part.applied,
      alike.part.resync⟩
  have made := applyBody_likewise heard (by rwa [(hear_agrees r m now).nodename, named]) other
    m.generation m.body
  obtain ⟨news, waits, waits'⟩ := made.pending
  constructor
  · rw [applyMessage_eq, applyMessage_eq, if_pos listens, if_pos listens']
    have ⟨localhost, nodename, cluster, part⟩ := made.alike
    exact ⟨localhost, nodename, cluster, part.node, part.applied, part.resync⟩
  · refine ⟨((r.hear m now).applyBody m.nodename m.generation m.body).2, news, ?_, ?_⟩
    · unfold applyMessage
      rw [if_pos listens]
      exact congrArg (_ ++ ·) waits
    · unfold applyMessage
      rw [if_pos listens', ← made.events]
      exact congrArg (_ ++ ·) waits'

/-- Nothing waits after a message was taken. -/
theorem applyMessage_pending {m : Message} (listens : r.listensTo m.nodename = true) (now : Nat) :
    (r.applyMessage m now).1.pending = [] := by
  rw [applyMessage_eq, if_pos listens]

/-! ## Messages of different peers -/

/-- Replicas that differ in nothing of a peer nor in anything else are the same. -/
theorem AgreesBut.eq (agrees : AgreesBut p r s) (part : SamePart p r s)
    (remoteGens : s.remoteGens.get? p = r.remoteGens.get? p)
    (heard : s.heard.get? p = r.heard.get? p) (pending : s.pending = r.pending)
    (tabled : r.Tabled) (tabled' : s.Tabled) : s = r := by
  have same {β : Type} {m m' : SortedMap String β} (here : m'.get? p = m.get? p)
      (off : ∀ q, q ≠ p → m'.get? q = m.get? q) : m' = m := by
    apply SortedMap.ext_get?
    intro q
    by_cases own : q = p
    · rw [own, here]
    · exact off q own
  have unit {a b : Option Unit} (both : a.isSome = b.isSome) : a = b := by
    cases a <;> cases b <;> first | rfl | cases both
  have nodes := same part.node agrees.nodes
  have applied := same part.applied agrees.applied
  have resync : s.resync = r.resync :=
    same (unit part.resync) fun q off => unit (agrees.resync q off)
  have remoteGens := same remoteGens agrees.remoteGens
  have heard := same heard agrees.heard
  have generation : s.generation = r.generation := by
    unfold Replica.generation
    rw [nodes, agrees.localhost]
  have gens : s.status.daemon.gens = r.status.daemon.gens := by
    rw [tabled', tabled, advertisedGens_congr agrees.localhost generation applied resync]
  have status : s.status = r.status :=
    calc s.status = ⟨s.status.cluster, ⟨s.status.daemon.nodename, s.status.daemon.gens,
          s.status.daemon.heartbeat⟩, s.status.nodes, s.status.objects⟩ := rfl
      _ = r.status := by
        rw [agrees.cluster, agrees.nodename, gens, agrees.heartbeat, nodes, agrees.objects]
  calc s = ⟨s.localhost, s.status, s.applied, s.resync, s.remoteGens, s.heard, s.peerTimeout,
        s.patchQueue, s.maxPatchQueue, s.streams, s.modes, s.pending⟩ := rfl
    _ = r := by
      rw [agrees.localhost, status, applied, resync, remoteGens, heard, agrees.timeout,
        agrees.queue, agrees.limit, agrees.streams, agrees.modes, pending]

/-- What concerns one peer and then another one agrees with the other order but for the first
peer, if for the other peer the order makes no difference. -/
theorem AgreesBut.swap {q : String} {t u v : Replica} (first : AgreesBut p r s)
    (second : AgreesBut q s t) (first' : AgreesBut q r u) (second' : AgreesBut p u v)
    (part : SamePart q u t) (remoteGens : t.remoteGens.get? q = u.remoteGens.get? q)
    (heard : t.heard.get? q = u.heard.get? q) : AgreesBut p t v := by
  have merge {β : Type} (f : Replica → String → β) (here : f t q = f u q)
      (one : ∀ n, n ≠ p → f s n = f r n) (two : ∀ n, n ≠ q → f t n = f s n)
      (one' : ∀ n, n ≠ q → f u n = f r n) (two' : ∀ n, n ≠ p → f v n = f u n) (n : String)
      (off : n ≠ p) : f v n = f t n := by
    by_cases own : n = q
    · rw [two' n off, own, here]
    · rw [two' n off, one' n own, two n own, one n off]
  exact {
    localhost := (second'.localhost.trans first'.localhost).trans
      (second.localhost.trans first.localhost).symm
    nodename := (second'.nodename.trans first'.nodename).trans
      (second.nodename.trans first.nodename).symm
    heartbeat := (second'.heartbeat.trans first'.heartbeat).trans
      (second.heartbeat.trans first.heartbeat).symm
    cluster := (second'.cluster.trans first'.cluster).trans
      (second.cluster.trans first.cluster).symm
    objects := (second'.objects.trans first'.objects).trans
      (second.objects.trans first.objects).symm
    queue := (second'.queue.trans first'.queue).trans (second.queue.trans first.queue).symm
    limit := (second'.limit.trans first'.limit).trans (second.limit.trans first.limit).symm
    timeout := (second'.timeout.trans first'.timeout).trans
      (second.timeout.trans first.timeout).symm
    streams := (second'.streams.trans first'.streams).trans
      (second.streams.trans first.streams).symm
    modes := (second'.modes.trans first'.modes).trans (second.modes.trans first.modes).symm
    nodes := merge (·.status.nodes.get? ·) part.node first.nodes second.nodes first'.nodes
      second'.nodes
    applied := merge (·.applied.get? ·) part.applied first.applied second.applied first'.applied
      second'.applied
    resync := merge (·.resync.contains ·) part.resync first.resync second.resync first'.resync
      second'.resync
    remoteGens := merge (·.remoteGens.get? ·) remoteGens first.remoteGens second.remoteGens
      first'.remoteGens second'.remoteGens
    heard := merge (·.heard.get? ·) heard first.heard second.heard first'.heard second'.heard }

/-- Messages of different peers do the same in either order, and publish the same but for its
order. -/
theorem applyMessage_comm (named : r.status.daemon.nodename = r.localhost) (tabled : r.Tabled)
    {m m' : Message} (different : m.nodename ≠ m'.nodename) (now : Nat) :
    ((r.applyMessage m' now).1.applyMessage m now).1 =
        ((r.applyMessage m now).1.applyMessage m' now).1 ∧
      ((r.applyMessage m' now).2 ++ ((r.applyMessage m' now).1.applyMessage m now).2).Perm
        ((r.applyMessage m now).2 ++ ((r.applyMessage m now).1.applyMessage m' now).2) := by
  have frame := applyMessage_agrees r m now named
  have frame' := applyMessage_agrees r m' now named
  have alike := frame.alike different.symm
  have alike' := frame'.alike different
  by_cases listens : r.listensTo m.nodename = true
  · by_cases listens' : r.listensTo m'.nodename = true
    · obtain ⟨same, told, news, events, later⟩ := applyMessage_likewise alike' named listens now
      obtain ⟨same', told', news', events', later'⟩ :=
        applyMessage_likewise alike named listens' now
      have second := applyMessage_agrees (r.applyMessage m now).1 m' now
        (by rw [frame.nodename, frame.localhost, named])
      have second' := applyMessage_agrees (r.applyMessage m' now).1 m now
        (by rw [frame'.nodename, frame'.localhost, named])
      have heeds : (r.applyMessage m' now).1.listensTo m.nodename = true := by
        rwa [alike'.listensTo]
      have heeds' : (r.applyMessage m now).1.listensTo m'.nodename = true := by
        rwa [alike.listensTo]
      constructor
      · have agrees := frame.swap second frame' second' same'.part
          (by rw [applyMessage_remoteGens now heeds', applyMessage_remoteGens now listens'])
          (by rw [applyMessage_heard now heeds', applyMessage_heard now listens'])
        refine agrees.eq ((second.alike different).part.symm.trans same.part) ?_ ?_ ?_
          (applyMessage_tabled (applyMessage_tabled tabled m now) m' now)
          (applyMessage_tabled (applyMessage_tabled tabled m' now) m now)
        · rw [applyMessage_remoteGens now heeds, second.remoteGens _ different,
            applyMessage_remoteGens now listens]
        · rw [applyMessage_heard now heeds, second.heard _ different,
            applyMessage_heard now listens]
        · rw [applyMessage_pending heeds, applyMessage_pending heeds']
      · rw [events, later, events', later', applyMessage_pending listens,
          applyMessage_pending listens', List.perm_iff_count]
        intro new
        simp only [List.count_append, List.count_nil]
        omega
    · have deaf : ¬ (r.applyMessage m now).1.listensTo m'.nodename = true := by
        rwa [alike.listensTo]
      rw [applyMessage_of_not_listensTo listens', applyMessage_of_not_listensTo deaf]
      exact ⟨rfl, by simp⟩
  · have deaf : ¬ (r.applyMessage m' now).1.listensTo m.nodename = true := by
      rwa [alike'.listensTo]
    rw [applyMessage_of_not_listensTo listens, applyMessage_of_not_listensTo deaf]
    exact ⟨rfl, by simp⟩

/-! ## Inbound payloads -/

/-- A payload is a message of the node that sealed it, or none. -/
theorem nodename_of_message? {i : Inbound} {m : Message} (message : i.message? = some m) :
    m.nodename = i.node := by
  obtain ⟨decoded, _, checked⟩ := Option.bind_eq_some_iff.1 message
  split at checked
  · rename_i same
    cases checked
    exact same
  · cases checked

/-- What a node seals concerns that node alone. -/
theorem deliver_agrees (r : Replica) (i : Inbound) (now : Nat)
    (named : r.status.daemon.nodename = r.localhost) :
    AgreesBut i.node r (i.deliver r now).1 := by
  unfold Inbound.deliver
  split
  · rename_i m message
    rw [← nodename_of_message? message]
    exact applyMessage_agrees r m now named
  · exact .refl _ r

/-- A receiver hands on what others sealed. -/
theorem take_opens {receiver : Receiver} {c : DriverContext} {datagram : Bytes} {now : Nat}
    {i : Inbound} (taken : (receiver.take c datagram now).2.1 = some i) :
    i.node ≠ c.localhost ∧ ∃ bytes, c.envelope.open? bytes = .ok (i.node, i.payload) := by
  unfold Receiver.take at taken
  split at taken
  · cases taken
  · rename_i f _
    obtain ⟨reassembler, message⟩ := receiver.reassembler.push f now
    simp only at taken
    split at taken
    · rename_i node payload opened
      obtain ⟨bytes, _, opens⟩ := Option.map_eq_some_iff.1 opened
      split at taken
      · cases taken
      · rename_i other
        cases taken
        exact ⟨other, bytes, opens⟩
    · cases taken

/-- At any time, a message changes nothing that is not of its sender, and nothing at all if it is
of the node itself or of no member; messages of different peers do the same in either order; and
what is delivered is of the node that sealed it. -/
theorem Course.separated {cluster : ClusterConfig} {limit timeout : Nat}
    (course : Course (.new node cluster limit timeout) past r) (now : Nat) :
    (∀ m : Message, AgreesBut m.nodename r (r.applyMessage m now).1 ∧
      (r.applyMessage m now).1.generation = r.generation ∧
      ((m.nodename = r.localhost ∨ r.members ≠ [] ∧ m.nodename ∉ r.members) →
        r.applyMessage m now = (r, []))) ∧
    (∀ m m' : Message, m.nodename ≠ m'.nodename →
      ((r.applyMessage m' now).1.applyMessage m now).1 =
          ((r.applyMessage m now).1.applyMessage m' now).1 ∧
        ((r.applyMessage m' now).2 ++ ((r.applyMessage m' now).1.applyMessage m now).2).Perm
          ((r.applyMessage m now).2 ++ ((r.applyMessage m now).1.applyMessage m' now).2)) ∧
    (∀ i : Inbound, AgreesBut i.node r (i.deliver r now).1 ∧
      ∀ m, i.message? = some m → m.nodename = i.node) ∧
    ∀ (receiver : Receiver) (c : DriverContext) (datagram : Bytes) (i : Inbound),
      (receiver.take c datagram now).2.1 = some i →
      i.node ≠ c.localhost ∧ ∃ bytes, c.envelope.open? bytes = .ok (i.node, i.payload) := by
  have named := course.isOf.named
  refine ⟨fun m => ⟨applyMessage_agrees r m now named, applyMessage_generation r m now named,
    fun stranger => applyMessage_of_not_listensTo ?_ now⟩,
    fun m m' different => applyMessage_comm named course.tabled different now,
    fun i => ⟨deliver_agrees r i now named, fun m => nodename_of_message?⟩,
    fun receiver c datagram i => take_opens⟩
  simp only [listensTo, Bool.and_eq_true, bne_iff_ne, Bool.or_eq_true, List.isEmpty_iff,
    List.contains_iff_mem]
  rintro ⟨other, member⟩
  rcases stranger with own | ⟨known, outside⟩
  · exact other own
  · exact member.elim known outside

/-- A node that has one change of its own and everything of a peer. -/
def acquainted : List Moment × Replica :=
  pursue [] (.new "n1" ⟨"c", ["n1", "n2", "n3"]⟩ 8 1000)
    [.call (.applyLocal (.setConfig ⟨"root", .svc, "web"⟩ ⟨"", .epoch, ["n1"], "n1"⟩)),
      .call (.applyFull "n2" 3 ⟨3, ∅⟩)]

/-- Two changes of that peer; the one that sets the scope of the cluster concerns the peer too. -/
def twoChanges : Message :=
  let change (kind : Kind) (name : String) : Mutation :=
    .setConfig ⟨"root", kind, name⟩ ⟨"", .epoch, ["n2"], "n2"⟩
  ⟨"n2", 5, ∅, .patch [⟨4, [change .svc "db"]⟩, ⟨5, [change .ccfg "cluster"]⟩]⟩

/-- A ping of a peer of which nothing is known yet. -/
def firstPing : Message := ⟨"n3", 2, ∅, .ping⟩

/-- Both messages change something, and in either order the same. -/
theorem separated_of_acquainted :
    Course (.new "n1" ⟨"c", ["n1", "n2", "n3"]⟩ 8 1000) acquainted.1 acquainted.2 ∧
      (acquainted.2.applyMessage twoChanges 0).1 ≠ acquainted.2 ∧
      (acquainted.2.applyMessage firstPing 0).1 ≠ acquainted.2 ∧
      ((acquainted.2.applyMessage firstPing 0).1.applyMessage twoChanges 0).1 =
        ((acquainted.2.applyMessage twoChanges 0).1.applyMessage firstPing 0).1 := by
  have course : Course (.new "n1" ⟨"c", ["n1", "n2", "n3"]⟩ 8 1000) acquainted.1 acquainted.2 :=
    Course.start.pursue _
  exact ⟨course, by decide +kernel, by decide +kernel,
    ((course.separated 0).2.1 twoChanges firstPing (by decide)).1⟩

end Replica

end ClusterNode
