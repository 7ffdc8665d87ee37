import ClusterNode.Proofs.Replication.Run

/-!
# The queue of own changes

The changes that a node keeps for its peers are those of consecutive generations up to
the own one (`Replica.Ordered`). Trimming and making a message take the oldest ones
away, so they keep this.

`Ascends` says it of a list by recursion, in the order in which a peer makes the
changes of a patch: `applyDeltas_of_ascends` is why the peer ends in step.
-/

namespace ClusterNode

/-- Consecutive generations, the first one given, up to and including the last one. -/
def Ascends (first : Nat) : List Generation → Nat → Prop
  | [], last => first = last + 1
  | g :: gens, last => g.toNat = first ∧ Ascends (first + 1) gens last

namespace Ascends

variable {first last : Nat} {gens : List Generation} {g : Generation}

/-- The first generation is at most the one after the last. -/
theorem first_le (ascends : Ascends first gens last) : first ≤ last + 1 := by
  induction gens generalizing first with
  | nil => exact Nat.le_of_eq ascends
  | cons g gens ih =>
    have rest := ih ascends.2
    omega

/-- Every generation lies between the first and the last one. -/
theorem bounds (ascends : Ascends first gens last) (member : g ∈ gens) :
    first ≤ g.toNat ∧ g.toNat ≤ last := by
  induction gens generalizing first with
  | nil => cases member
  | cons head gens ih =>
    obtain ⟨here, rest⟩ := ascends
    have bound := rest.first_le
    rcases List.mem_cons.1 member with rfl | later
    · omega
    · have between := ih rest later
      omega

/-- No generation between the first and the last one is left out. -/
theorem mem_of_between (ascends : Ascends first gens last) (above : first ≤ g.toNat)
    (below : g.toNat ≤ last) : g ∈ gens := by
  induction gens generalizing first with
  | nil =>
    have ends : first = last + 1 := ascends
    omega
  | cons head gens ih =>
    obtain ⟨here, rest⟩ := ascends
    by_cases same : g.toNat = head.toNat
    · rw [UInt64.toNat_inj.1 same]
      exact List.mem_cons_self ..
    · exact List.mem_cons_of_mem _ (ih rest (by omega))

/-- The next generation comes last. -/
theorem snoc (ascends : Ascends first gens last) (next : g.toNat = last + 1) :
    Ascends first (gens ++ [g]) (last + 1) := by
  induction gens generalizing first with
  | nil =>
    have here : first = last + 1 := ascends
    exact ⟨by omega, by rw [here]; rfl⟩
  | cons head gens ih => exact ⟨ascends.1, ih ascends.2⟩

/-- Without the oldest ones the generations are still consecutive. -/
theorem drop (ascends : Ascends first gens last) (n : Nat) :
    ∃ later, Ascends later (gens.drop n) last := by
  induction n generalizing first gens with
  | zero => exact ⟨first, ascends⟩
  | succ n ih =>
    cases gens with
    | nil => exact ⟨first, ascends⟩
    | cons head gens => exact ih ascends.2

/-- The generations above one are still consecutive. -/
theorem above (ascends : Ascends first gens last) (least : Generation) :
    ∃ later, Ascends later (gens.filter (least < ·)) last := by
  induction gens generalizing first with
  | nil => exact ⟨first, ascends⟩
  | cons head gens ih =>
    by_cases below : least < head
    · -- All that follow are greater still, so all of them stay.
      refine ⟨first, ?_⟩
      rw [List.filter_eq_self.2]
      · exact ascends
      · intro g member
        have between := ascends.bounds member
        have here := ascends.1
        rw [UInt64.lt_iff_toNat_lt] at below
        rw [decide_eq_true_iff, UInt64.lt_iff_toNat_lt]
        omega
    · rw [List.filter_cons_of_neg (by simpa using below)]
      exact ih ascends.2

end Ascends

namespace Replica

variable {r : Replica} {node : String}

/-- The generations of the changes in the queue. -/
def waiting (r : Replica) : List Generation := r.patchQueue.entries.map (·.1)

/-- The queue ends with the own generation and has no holes. -/
def Ordered (r : Replica) : Prop := ∃ first, Ascends first r.waiting r.generation.toNat

/-- A fresh replica has nothing in its queue. -/
theorem Ordered.new (node : String) (cluster : ClusterConfig) (limit timeout : Nat) :
    (Replica.new node cluster limit timeout).Ordered := by
  refine ⟨2, ?_⟩
  rw [generation_of_own (new_get?_self node cluster limit timeout)]
  rfl

/-- What is kept of a queue. -/
theorem trimQueue_entries (limit : Nat) (q : SortedMap Generation (List Mutation)) :
    (trimQueue limit q).entries = q.entries.drop (q.entries.length - limit) := rfl

/-- An own mutation is forgotten, or it makes the next generation and comes last in the queue;
what is then too much is taken from the front. -/
theorem Ordered.applyLocal_cases (ordered : r.Ordered) (belongs : r.BelongsTo node) (m : Mutation)
    (grows : r.generation ≤ (r.applyLocal m).1.generation) :
    ((r.applyLocal m).1.generation = r.generation ∧
      (r.applyLocal m).1.patchQueue = r.patchQueue) ∨
    ((r.applyLocal m).1.generation.toNat = r.generation.toNat + 1 ∧
      (r.applyLocal m).1.patchQueue.entries =
        (r.patchQueue.entries ++ [((r.applyLocal m).1.generation, [m])]).drop
          (r.patchQueue.size + 1 - r.maxPatchQueue)) := by
  obtain ⟨first, queue⟩ := ordered
  obtain ⟨rfl, named, d, own, formed⟩ := belongs
  have generation := generation_of_own own
  rcases Replica.applyLocal_cases (m := m) own formed with ⟨unchanged, same⟩ | ⟨changed, longer⟩
  · left
    rw [← applyLocal_localhost r m] at unchanged
    exact ⟨by rw [generation_of_own unchanged, generation], same⟩
  · right
    rw [← applyLocal_localhost r m] at changed
    rw [generation, generation_of_own changed] at grows
    have below : d.generation < d.generation + 1 := by
      rcases UInt64.lt_or_eq_of_le grows with less | same
      · exact less
      · exact absurd same (by simp)
    have next := Generation.toNat_add_one below
    rw [generation] at queue
    have above : ∀ e ∈ r.patchQueue.entries, compare (d.generation + 1) e.1 = .gt := by
      intro e member
      have between := queue.bounds (List.mem_map_of_mem member)
      rw [Std.compare_eq_gt, UInt64.lt_iff_toNat_lt]
      omega
    have entries := SortedMap.entries_insert_of_all_lt (m := r.patchQueue) [m] above
    rw [generation_of_own changed, generation, longer, trimQueue_entries, entries]
    exact ⟨next, by simp [SortedMap.size]⟩

/-- An own change comes last in the queue. -/
theorem Ordered.applyLocal (ordered : r.Ordered) (belongs : r.BelongsTo node) (m : Mutation)
    (grows : r.generation ≤ (r.applyLocal m).1.generation) : (r.applyLocal m).1.Ordered := by
  have ⟨first, queue⟩ := ordered
  rcases ordered.applyLocal_cases belongs m grows with ⟨generation, same⟩ | ⟨next, longer⟩
  · exact ⟨first, by rwa [waiting, same, generation]⟩
  · have snoc := queue.snoc next
    rw [← next] at snoc
    rw [Ordered, waiting, longer, List.map_drop, List.map_append]
    exact snoc.drop _

/-- A mode concerns no change. -/
theorem Ordered.setMode (ordered : r.Ordered) (peer : String) (mode : PeerMode) :
    (r.setMode peer mode).Ordered := by
  simpa only [Ordered, waiting, generation, setMode_patchQueue, setMode_nodes,
    setMode_localhost] using ordered

/-- Making a message drops the oldest changes at most. -/
theorem Ordered.buildMessage (ordered : r.Ordered) (now : Nat) :
    (r.buildMessage now).1.Ordered := by
  obtain ⟨first, queue⟩ := ordered
  simp only [Ordered, waiting, buildMessage_own_generation, buildMessage_patchQueue]
  split
  · rename_i least _
    have kept : (r.patchQueue.filter fun g _ => least < g).entries.map (·.1) =
        r.waiting.filter (least < ·) := by
      rw [waiting, List.filter_map]
      rfl
    rw [kept]
    exact queue.above least
  · exact ⟨first, queue⟩

/-- What a peer sends concerns no own change. -/
theorem Ordered.applyMessage (ordered : r.Ordered) (belongs : r.BelongsTo node) (m : Message)
    (now : Nat) : (r.applyMessage m now).1.Ordered := by
  have frame := applyMessage_agrees r m now belongs.named
  rw [Ordered, waiting, frame.queue, applyMessage_generation r m now belongs.named]
  exact ordered

end Replica

/-- In a run every replica is one of its node, with an ordered queue. -/
theorem Group.Run.ordered {start g : Group} {past : List Group} {node : String} {r : Replica}
    (run : Run start past g) (fresh : Fresh start) (here : g.get? node = some r) :
    r.BelongsTo node ∧ r.Ordered :=
  run.replica_induction (motive := fun node r => r.BelongsTo node ∧ r.Ordered)
    (fun node cluster limit timeout => ⟨.new node cluster limit timeout, .new ..⟩)
    (fun _ _ m both grows => ⟨both.1.applyLocal m, both.2.applyLocal both.1 m grows⟩)
    (fun _ _ peer mode both => ⟨both.1.setMode peer mode, both.2.setMode peer mode⟩)
    (fun _ _ now both => ⟨both.1.buildMessage now, both.2.buildMessage now⟩)
    (fun _ _ m now both => ⟨both.1.applyMessage m now, both.2.applyMessage both.1 m now⟩) fresh here

end ClusterNode
