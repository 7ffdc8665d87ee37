import ClusterNode.Proofs.Replication.Queue

/-!
# Messages that suit the generations said to be applied

A message is made for all peers at once, from the generations that they said to have
applied. `Message.Suits` says that it brings a peer up that applied a given one: by
everything, by changes without a hole from there on, or because nothing is missing.

`Ordered.suits` is the side of the sender and `applyBody_of_suits` that of the peer.
-/

namespace ClusterNode

/-- A message brings a peer up to the generation of its sender, if the peer said to
have applied a generation; zero says that it wants everything. -/
def Message.Suits (m : Message) (applied : Generation) : Prop :=
  match m.body with
  | .full _ => True
  | .patch deltas => applied ≠ 0 ∧ applied ≤ m.generation ∧
      ∃ first, Ascends first (deltas.map (·.generation)) m.generation.toNat ∧
        first ≤ applied.toNat + 1
  | .ping => applied ≠ 0 ∧ applied = m.generation

namespace Replica

variable {r : Replica} {node peer : String}

/-- The generation of a node that the replica says to have applied. -/
def acked (r : Replica) (node : String) : Generation := (r.advertisedGens.get? node).getD 0

/-- What a peer heard from is taken to have applied. -/
theorem mem_acks (member : peer ∈ r.peers) {gens : GenerationTable}
    (told : r.remoteGens.get? peer = some gens) :
    (gens.get? r.localhost).getD 0 ∈ r.acks :=
  List.mem_filterMap.2 ⟨peer, member, by rw [told]; rfl⟩

/-- A peer that was heard in time is not forgotten. -/
theorem expireSilent_keeps {now : Nat}
    (audible : ∀ at_, r.heard.get? peer = some at_ → now - at_ ≤ r.peerTimeout) :
    (r.expireSilent now).heard.get? peer = r.heard.get? peer ∧
      (r.expireSilent now).remoteGens.get? peer = r.remoteGens.get? peer := by
  have listed : peer ∉ (r.heard.entries.filter fun e => r.peerTimeout < now - e.2).map (·.1) := by
    intro silent
    obtain ⟨e, member, rfl⟩ := List.mem_map.1 silent
    obtain ⟨member, late⟩ := List.mem_filter.1 member
    have early := audible e.2 (SortedMap.get?_eq_some_iff.2 member)
    rw [decide_eq_true_iff] at late
    omega
  unfold expireSilent
  constructor
  · rw [SortedMap.get?_foldl_erase, if_neg listed]
  · rw [SortedMap.get?_foldl_erase, if_neg listed]

/-- A peer that was silent too long is forgotten. -/
theorem expireSilent_forgets {now at_ : Nat} (heard : r.heard.get? peer = some at_)
    (late : r.peerTimeout < now - at_) :
    (r.expireSilent now).heard.get? peer = none ∧
      (r.expireSilent now).remoteGens.get? peer = none := by
  have listed : peer ∈ (r.heard.entries.filter fun e => r.peerTimeout < now - e.2).map (·.1) := by
    refine List.mem_map.2 ⟨(peer, at_), List.mem_filter.2 ⟨?_, ?_⟩, rfl⟩
    · exact SortedMap.get?_eq_some_iff.1 heard
    · simpa using late
  unfold expireSilent
  constructor
  · rw [SortedMap.get?_foldl_erase, if_pos listed]
  · rw [SortedMap.get?_foldl_erase, if_pos listed]

/-- A peer is counted, if it is a member or the members are not known and it was heard. -/
theorem mem_peers (member : r.members = [] ∨ peer ∈ r.members) (different : peer ≠ r.localhost)
    {gens : GenerationTable} (told : r.remoteGens.get? peer = some gens) : peer ∈ r.peers := by
  unfold peers
  by_cases unknown : r.members = []
  · rw [if_pos (by simpa using unknown)]
    exact SortedMap.mem_keys_iff.2 ⟨gens, told⟩
  · rw [if_neg (by simpa using unknown)]
    exact List.mem_filter.2 ⟨member.resolve_left unknown, by simpa using different⟩

/-! ## The sender -/

/-- Whatever is sent suits every generation that was counted and is not beyond the own
one. -/
theorem Ordered.suits (ordered : r.Ordered) {now : Nat} {applied : Generation}
    (counted : applied ∈ (r.expireSilent now).acks) (known : applied ≤ r.generation) :
    (r.buildMessage now).2.Suits applied := by
  unfold Message.Suits
  rw [buildMessage_body, buildMessage_generation]
  by_cases lagging : (r.expireSilent now).acks.any r.lags = true
  · rw [if_pos lagging]
    trivial
  · rw [if_neg lagging]
    have kept (a : Generation) (member : a ∈ (r.expireSilent now).acks) : r.lags a = false := by
      simpa using mt (fun lags => List.any_eq_true.2 ⟨a, member, lags⟩) lagging
    have positive : applied ≠ 0 := by
      have kept := kept applied counted
      simp only [lags, Bool.or_eq_false_iff, beq_eq_false_iff_ne] at kept
      exact kept.1
    cases slowest : (r.expireSilent now).acks.min? with
    | none =>
      rw [List.min?_eq_none_iff] at slowest
      rw [slowest] at counted
      cases counted
    | some least =>
      have lower : least ≤ applied := (List.min?_eq_some_iff.1 slowest).2 applied counted
      by_cases behind : least < r.generation
      · simp only [if_pos behind]
        refine ⟨positive, known, ?_⟩
        obtain ⟨_, queue⟩ := ordered
        obtain ⟨first, sent⟩ := queue.above least
        have deltas : ((r.patchQueue.entries.filter fun e => decide (least < e.1)).map
              fun e => (⟨e.1, e.2⟩ : Delta)).map (·.generation) =
            r.waiting.filter (least < ·) := by
          rw [waiting, List.filter_map, List.map_map]
          rfl
        rw [deltas]
        refine ⟨first, sent, ?_⟩
        -- Either nothing is missing, or the first missing change is in the queue.
        rcases UInt64.lt_or_eq_of_le known with missing | complete
        · have kept := kept applied counted
          simp only [lags, missing, decide_true, Bool.true_and, Bool.or_eq_false_iff,
            Bool.not_eq_false'] at kept
          have next := Generation.toNat_add_one missing
          have queued : applied + 1 ∈ r.waiting := SortedMap.mem_keys_iff_contains.2 kept.2
          rw [UInt64.le_iff_toNat_le] at lower
          have member : applied + 1 ∈ r.waiting.filter (least < ·) := by
            refine List.mem_filter.2 ⟨queued, ?_⟩
            rw [decide_eq_true_iff, UInt64.lt_iff_toNat_lt]
            omega
          have bound := (sent.bounds member).1
          omega
        · rw [complete]
          exact sent.first_le
      · simp only [if_neg behind]
        refine ⟨positive, UInt64.le_antisymm known ?_⟩
        exact UInt64.le_trans (UInt64.not_lt.1 behind) lower

/-! ## The peer -/

/-- A peer in step with a node has applied a generation and does not want everything. -/
theorem lastApplied?_eq_some {applied : Generation} (other : node ≠ r.localhost) :
    r.lastApplied? node = some applied ↔
      r.resync.contains node = false ∧ r.applied.get? node = some applied := by
  rw [lastApplied?_of_ne other]
  by_cases wanted : r.resync.contains node <;> simp [wanted]

/-- Following a peer in step keeps it in step, at the new generation. -/
theorem follow_lastApplied? {applied : Generation} (other : node ≠ r.localhost)
    (sync : r.lastApplied? node = some applied) (generation : Generation) (ms : List Mutation) :
    (r.follow node generation ms).lastApplied? node = some generation := by
  rw [lastApplied?_eq_some other] at sync
  rw [lastApplied?_eq_some (by simpa using other), follow_resync, follow_applied]
  exact ⟨sync.1, SortedMap.get?_insert_self ..⟩

/-- A peer that says to have applied a generation is in step with it. -/
theorem lastApplied?_of_acked (other : node ≠ r.localhost) (positive : r.acked node ≠ 0) :
    r.lastApplied? node = some (r.acked node) := by
  rw [lastApplied?_eq_some other]
  unfold acked at positive ⊢
  rw [get?_advertisedGens other] at positive ⊢
  by_cases wanted : r.resync.contains node = true
  · simp [wanted] at positive
  · rw [if_neg wanted] at positive ⊢
    cases applied : r.applied.get? node with
    | none => simp [applied] at positive
    | some a => exact ⟨by simpa using wanted, rfl⟩

/-- Changes without a hole that begin no later than what is missing are all made. -/
theorem applyDeltas_of_ascends {deltas : List Delta} {first : Nat} {applied last : Generation}
    (other : node ≠ r.localhost) (sync : r.lastApplied? node = some applied)
    (ascends : Ascends first (deltas.map (·.generation)) last.toNat)
    (begins : first ≤ applied.toNat + 1) (known : applied ≤ last) :
    (r.applyDeltas node deltas).1.lastApplied? node = some last := by
  rw [UInt64.le_iff_toNat_le] at known
  induction deltas generalizing r first applied with
  | nil =>
    have ends : first = last.toNat + 1 := ascends
    have same : applied = last := UInt64.toNat_inj.1 (by omega)
    rw [← same]
    exact sync
  | cons d ds ih =>
    obtain ⟨here, rest⟩ := ascends
    simp only at here
    rcases applyRemote_cases r node d.generation d.mutations with
      ⟨_, _, _, refused⟩ | ⟨a, made, same, repeated⟩ | ⟨a, events, made, same, below, next⟩
    · -- The change is not beyond the next one, so it cannot be refused.
      obtain ⟨below, gap⟩ := refused applied sync
      have successor := Generation.toNat_add_one below
      rw [UInt64.lt_iff_toNat_lt] at below
      exact absurd (UInt64.toNat_inj.1 (by omega)) gap
    · rw [sync] at same
      cases same
      rw [UInt64.le_iff_toNat_le] at repeated
      simp only [applyDeltas, made]
      exact ih other sync rest (by omega) known
    · have followed := follow_lastApplied? other same d.generation d.mutations
      have bound := rest.first_le
      simp only [applyDeltas, made]
      exact ih (by simpa using other) followed rest (by omega) (by omega)

/-- A message that suits what a peer said to have applied brings the peer in step. -/
theorem applyBody_of_suits {m : Message} (other : m.nodename ≠ r.localhost)
    (suits : m.Suits (r.acked m.nodename)) :
    (r.applyBody m.nodename m.generation m.body).1.lastApplied? m.nodename =
      some m.generation := by
  unfold Message.Suits at suits
  cases body : m.body with
  | full data =>
    have frame := applyFull_agrees r m.nodename m.generation data
    rw [applyBody, lastApplied?_eq_some (by rwa [frame.localhost])]
    exact ⟨applyFull_resync .., applyFull_applied ..⟩
  | patch deltas =>
    rw [body] at suits
    obtain ⟨positive, known, first, ascends, begins⟩ := suits
    have sync := lastApplied?_of_acked other positive
    have made := applyDeltas_of_ascends other sync ascends begins known
    simp only [applyBody, sync, if_neg (UInt64.not_lt.2 known), made]
    rw [if_neg (UInt64.lt_irrefl _)]
    exact made
  | ping =>
    rw [body] at suits
    have sync := lastApplied?_of_acked other suits.1
    simp only [applyBody, sync]
    rw [if_neg (by simpa using suits.2), sync, suits.2]

end Replica

end ClusterNode
