import ClusterNode.Proofs.Replication.Operations

/-!
# Replicas that repeat what was said

An `Archive` is everything that nodes said of themselves so far. `Replica.Faithful`
relates one replica to it: the own subtree is the latest entry of its node, every
change in the queue leads from one entry of the node to the next, and every copy of a
peer is an entry of that peer, at the generation that is noted as applied.

Each operation keeps a replica faithful, whatever faithful message arrives. The one
that adds to the archive is `Replica.applyLocal`.
-/

namespace ClusterNode

/-- Which subtrees which nodes had, at some time. -/
abbrev Archive := String → NodeData → Prop

namespace Archive

/-- An archive in which a generation of a node names one subtree. -/
structure Coherent (said : Archive) : Prop where
  formed : ∀ node d, said node d → d.WellFormed node
  unique : ∀ node d e, said node d → said node e → d.generation = e.generation → d = e

/-- Mutations lead from one entry of a node to its entry at a generation. -/
def Leads (said : Archive) (node : String) (generation : Generation) (ms : List Mutation) :
    Prop :=
  ∃ d, said node d ∧ d.generation < generation ∧ generation = d.generation + 1 ∧
    said node { d.mutateAll node ms with generation }

/-- A greater archive keeps what leads from entry to entry. -/
theorem Leads.mono {said said' : Archive} {node : String} {generation : Generation}
    {ms : List Mutation} (keeps : ∀ node d, said node d → said' node d)
    (leads : said.Leads node generation ms) : said'.Leads node generation ms := by
  obtain ⟨d, before, below, next, after⟩ := leads
  exact ⟨d, keeps _ _ before, below, next, keeps _ _ after⟩

end Archive

/-- A message that repeats what its sender said. -/
def Message.Faithful (said : Archive) (m : Message) : Prop :=
  match m.body with
  | .full data => said m.nodename data ∧ data.generation = m.generation
  | .patch deltas => ∀ d ∈ deltas, said.Leads m.nodename d.generation d.mutations
  | .ping => True

/-- A greater archive keeps messages faithful. -/
theorem Message.Faithful.mono {said said' : Archive} {m : Message}
    (keeps : ∀ node d, said node d → said' node d) (faithful : m.Faithful said) :
    m.Faithful said' := by
  obtain ⟨sender, generation, gens, body⟩ := m
  cases body with
  | full data => exact ⟨keeps _ _ faithful.1, faithful.2⟩
  | patch deltas => exact fun d member => (faithful d member).mono keeps
  | ping => trivial

namespace Replica

/-- What a replica holds of a peer is an entry of the archive. -/
def Repeats (said : Archive) (r : Replica) (peer : String) : Prop :=
  ∀ a, r.applied.get? peer = some a →
    ∃ d, r.status.nodes.get? peer = some d ∧ said peer d ∧ d.generation = a

/-- A replica of a node that repeats what was said. -/
structure Faithful (said : Archive) (node : String) (r : Replica) : Prop where
  localhost : r.localhost = node
  nodename : r.status.daemon.nodename = node
  own : ∃ d, r.status.nodes.get? node = some d ∧ said node d ∧
    ∀ e, said node e → e.generation ≤ d.generation
  queue : ∀ e ∈ r.patchQueue.entries, said.Leads node e.1 e.2
  copies : ∀ peer, peer ≠ node → r.Repeats said peer

variable {said : Archive} {node : String} {r : Replica}

/-- The own generation bounds what the node said. -/
theorem Faithful.generation_le (faithful : r.Faithful said node) {d : NodeData}
    (entry : said node d) : d.generation ≤ r.generation := by
  obtain ⟨own, found, _, greatest⟩ := faithful.own
  have found' : r.status.nodes.get? r.localhost = some own := by rwa [faithful.localhost]
  rw [generation_of_own found']
  exact greatest d entry

/-- The own subtree is the latest entry. -/
theorem Faithful.own_data (faithful : r.Faithful said node) :
    ∃ d, r.status.nodes.get? node = some d ∧ said node d ∧ d.generation = r.generation := by
  obtain ⟨own, found, entry, _⟩ := faithful.own
  have found' : r.status.nodes.get? r.localhost = some own := by rwa [faithful.localhost]
  exact ⟨own, found, entry, (generation_of_own found').symm⟩

/-- The name under which a faithful replica publishes is its own. -/
theorem Faithful.named (faithful : r.Faithful said node) :
    r.status.daemon.nodename = r.localhost := by
  rw [faithful.nodename, faithful.localhost]

/-! ## Modes and messages to peers -/

/-- A mode concerns no record. -/
theorem Faithful.setMode (faithful : r.Faithful said node) (peer : String) (mode : PeerMode) :
    (r.setMode peer mode).Faithful said node where
  localhost := by simpa using faithful.localhost
  nodename := by simpa using faithful.nodename
  own := by simpa using faithful.own
  queue := by simpa using faithful.queue
  copies other different a := by simpa using faithful.copies other different a

/-- Making a message drops changes from the queue and leaves everything else. -/
theorem Faithful.buildMessage (faithful : r.Faithful said node) (now : Nat) :
    (r.buildMessage now).1.Faithful said node where
  localhost := by simpa using faithful.localhost
  nodename := by simpa using faithful.nodename
  own := by simpa using faithful.own
  queue := by
    rw [buildMessage_patchQueue]
    split
    · intro e member
      exact faithful.queue e (List.mem_filter.1 member).1
    · exact faithful.queue
  copies other different a := by simpa using faithful.copies other different a

/-- A message made by a faithful replica is faithful. -/
theorem Faithful.message (faithful : r.Faithful said node) (now : Nat) :
    (r.buildMessage now).2.Faithful said := by
  obtain ⟨d, found, entry, generation⟩ := faithful.own_data
  have data : r.status.nodeD r.localhost = d := by
    simp [ClusterStatus.nodeD, faithful.localhost, found]
  unfold Message.Faithful
  rw [buildMessage_body]
  split
  · rename_i everything made
    split at made
    · cases made
      rw [data, buildMessage_nodename, buildMessage_generation, faithful.localhost]
      exact ⟨entry, generation⟩
    · split at made
      · split at made <;> simp at made
      · simp at made
  · rename_i deltas made
    split at made
    · simp at made
    · split at made
      · split at made
        · cases made
          intro delta member
          obtain ⟨e, waiting, rfl⟩ := List.mem_map.1 member
          rw [buildMessage_nodename, faithful.localhost]
          exact faithful.queue e (List.mem_filter.1 waiting).1
        · simp at made
      · simp at made
  · trivial

/-! ## Messages of a peer -/

section Remote

variable {peer : String}

/-- A wish for everything of a peer leaves its copy. -/
theorem Repeats.requestFull (repeats : r.Repeats said peer) (last received : Generation) :
    (r.requestFull peer last received).Repeats said peer := by
  intro a applied
  rw [requestFull_applied] at applied
  rw [requestFull_nodes]
  exact repeats a applied

/-- A generation that leads from entry to entry is followed to an entry. -/
theorem Repeats.applyRemote (coherent : said.Coherent) (repeats : r.Repeats said peer)
    (other : peer ≠ r.localhost) {generation : Generation} {ms : List Mutation}
    (leads : said.Leads peer generation ms) :
    (r.applyRemote peer generation ms).1.Repeats said peer := by
  rcases applyRemote_cases r peer generation ms with
    ⟨last, e, made, _⟩ | ⟨a, made, _⟩ | ⟨a, events, made, known, below, next⟩
  · rw [made]
    exact repeats.requestFull last generation
  · rw [made]
    exact repeats
  · rw [made]
    intro b applied
    have same : generation = b := by simpa using applied
    subst same
    refine ⟨_, follow_get?_nodes .., ?_, rfl⟩
    -- The copy is the entry that the change leads from, for it has its generation.
    rw [lastApplied?_of_ne other] at known
    have applied : r.applied.get? peer = some a := by
      split at known
      · cases known
      · exact known
    obtain ⟨copy, found, entry, at_⟩ := repeats a applied
    obtain ⟨d, before, lower, follows, after⟩ := leads
    have generations : copy.generation = d.generation := by
      have successor : d.generation + 1 = a + 1 := by rw [← follows, next]
      have d_lt := Generation.toNat_add_one lower
      have a_lt := Generation.toNat_add_one below
      rw [at_]
      apply UInt64.toNat_inj.1
      rw [successor] at d_lt
      omega
    have equal : copy = d := coherent.unique peer copy d entry before generations
    have data : r.status.nodeD peer = d := by simp [ClusterStatus.nodeD, found, equal]
    rw [data]
    exact after

/-- The changes of a patch are followed from entry to entry. -/
theorem Repeats.applyDeltas (coherent : said.Coherent) {deltas : List Delta}
    (repeats : r.Repeats said peer) (other : peer ≠ r.localhost)
    (named : r.status.daemon.nodename = r.localhost)
    (leads : ∀ d ∈ deltas, said.Leads peer d.generation d.mutations) :
    (r.applyDeltas peer deltas).1.Repeats said peer := by
  induction deltas generalizing r with
  | nil => exact repeats
  | cons d ds ih =>
    have first := repeats.applyRemote coherent other (leads d (List.mem_cons_self ..))
    have frame := applyRemote_agrees (r := r) d.generation d.mutations (by rwa [named])
    unfold Replica.applyDeltas
    split
    · rename_i s e made
      rw [made] at first
      exact first
    · rename_i s events made
      rw [made] at first frame
      exact ih first (by rwa [frame.localhost]) (by rw [frame.nodename, frame.localhost, named])
        fun d member => leads d (List.mem_cons_of_mem _ member)

/-- Whatever a faithful message brings, the copy of its sender stays an entry. -/
theorem Repeats.applyBody (coherent : said.Coherent) {m : Message} (faithful : m.Faithful said)
    (repeats : r.Repeats said m.nodename) (other : m.nodename ≠ r.localhost)
    (named : r.status.daemon.nodename = r.localhost) :
    (r.applyBody m.nodename m.generation m.body).1.Repeats said m.nodename := by
  obtain ⟨sender, generation, gens, body⟩ := m
  cases body with
  | full data =>
    intro a applied
    have same : generation = a := by simpa [Replica.applyBody, applyFull_applied] using applied
    subst same
    obtain ⟨entry, at_⟩ := faithful
    refine ⟨_, applyFull_nodes .., ?_, rfl⟩
    have formed := coherent.formed _ _ entry
    cases at_
    rw [NodeData.publishedBy_of_wellFormed formed]
    exact entry
  | patch deltas =>
    have followed := repeats.applyDeltas coherent other named faithful
    simp only [Replica.applyBody]
    split
    · exact Repeats.requestFull repeats _ _
    · split
      · exact Repeats.requestFull repeats _ _
      · split
        · split
          · exact Repeats.requestFull followed _ _
          · exact followed
        · exact followed
  | ping =>
    simp only [Replica.applyBody]
    split
    · exact Repeats.requestFull repeats _ _
    · split
      · exact Repeats.requestFull repeats _ _
      · exact repeats

/-- A peer's part of the books decides alone whether its copy is an entry. -/
theorem AgreesBut.repeats {s : Replica} {other : String} (agrees : AgreesBut peer r s)
    (different : other ≠ peer) (repeats : r.Repeats said other) : s.Repeats said other := by
  intro a applied
  rw [agrees.applied other different] at applied
  rw [agrees.nodes other different]
  exact repeats a applied

/-- A faithful message keeps a replica faithful. -/
theorem Faithful.applyMessage (coherent : said.Coherent) (faithful : r.Faithful said node)
    {m : Message} (honest : m.Faithful said) (now : Nat) :
    (r.applyMessage m now).1.Faithful said node := by
  have frame := applyMessage_agrees r m now faithful.named
  by_cases listens : r.listensTo m.nodename = true
  · have other : m.nodename ≠ node := by
      rw [← faithful.localhost]
      exact ne_of_listensTo listens
    refine ⟨?_, ?_, ?_, ?_, ?_⟩
    · rw [frame.localhost, faithful.localhost]
    · rw [frame.nodename, faithful.nodename]
    · rw [frame.nodes node other.symm]
      exact faithful.own
    · rw [frame.queue]
      exact faithful.queue
    · intro peer different
      by_cases sender : peer = m.nodename
      · subst sender
        have heard := hear_agrees r m now
        have copied : (r.hear m now).Repeats said m.nodename := faithful.copies _ different
        have taken := copied.applyBody coherent honest (by rwa [heard.localhost, faithful.localhost])
          (by rw [heard.nodename, heard.localhost, faithful.named])
        rw [applyMessage_eq, if_pos listens]
        exact taken
      · exact frame.repeats sender (faithful.copies peer different)
  · rw [applyMessage_eq, if_neg listens]
    exact faithful

end Remote

/-! ## Own changes -/

/-- A copy of a peer stays an entry of a greater archive. -/
theorem Repeats.mono {said' : Archive} (keeps : ∀ node d, said node d → said' node d)
    {peer : String} (repeats : r.Repeats said peer) : r.Repeats said' peer := by
  intro a applied
  obtain ⟨d, found, entry, at_⟩ := repeats a applied
  exact ⟨d, found, keeps _ _ entry, at_⟩

/-- A greater archive keeps a replica faithful, if it has nothing new of its node. -/
theorem Faithful.mono {said' : Archive} (faithful : r.Faithful said node)
    (keeps : ∀ node d, said node d → said' node d) (same : ∀ d, said' node d → said node d) :
    r.Faithful said' node where
  localhost := faithful.localhost
  nodename := faithful.nodename
  own := by
    obtain ⟨d, found, entry, greatest⟩ := faithful.own
    exact ⟨d, found, keeps _ _ entry, fun e known => greatest e (same e known)⟩
  queue e member := (faithful.queue e member).mono keeps
  copies peer different := (faithful.copies peer different).mono keeps

/-- The entries of a limited queue stood in the queue. -/
theorem mem_of_mem_trimQueue {limit : Nat} {q : SortedMap Generation (List Mutation)}
    {e : Generation × List Mutation} (member : e ∈ (trimQueue limit q).entries) :
    e ∈ q.entries :=
  List.mem_of_mem_drop member

/-- An own mutation that makes no generation keeps the replica faithful; one that makes
the next generation keeps it faithful to the archive that has the new subtree too. -/
theorem Faithful.applyLocal (coherent : said.Coherent) (faithful : r.Faithful said node)
    (m : Mutation) (grows : r.generation ≤ (r.applyLocal m).1.generation) :
    (r.applyLocal m).1.Faithful said node ∨
    ∃ d, (r.applyLocal m).1.status.nodes.get? node = some d ∧
      d.WellFormed node ∧ (∀ e, said node e → e.generation < d.generation) ∧
      ∀ said' : Archive, (∀ node e, said node e → said' node e) → said' node d →
        (∀ e, said' node e → said node e ∨ e = d) → (r.applyLocal m).1.Faithful said' node := by
  obtain ⟨d, found, entry, greatest⟩ := faithful.own
  have here := faithful.localhost
  have found' : r.status.nodes.get? r.localhost = some d := by rwa [here]
  have formed := coherent.formed node d entry
  have copies : ∀ peer, peer ≠ node → (r.applyLocal m).1.Repeats said peer := by
    intro peer different a applied
    rw [applyLocal_applied] at applied
    rw [applyLocal_get?_of_ne m (by rwa [here])]
    exact faithful.copies peer different a applied
  rcases applyLocal_cases (m := m) found' (by rwa [here]) with
    ⟨unchanged, queue⟩ | ⟨changed, queue⟩
  · left
    rw [here] at unchanged
    refine ⟨by simpa using here, by simpa using faithful.nodename, ⟨d, unchanged, entry, greatest⟩,
      ?_, copies⟩
    rw [queue]
    exact faithful.queue
  · right
    have newGeneration : (r.applyLocal m).1.generation = d.generation + 1 := by
      rw [← applyLocal_localhost r m] at changed
      exact generation_of_own changed
    rw [generation_of_own found', newGeneration] at grows
    have below : d.generation < d.generation + 1 := by
      rcases UInt64.lt_or_eq_of_le grows with less | same
      · exact less
      · exact absurd same (by simp)
    rw [here] at changed
    refine ⟨_, changed, (formed.mutate m).withGeneration _, ?_, ?_⟩
    · intro e known
      exact UInt64.lt_of_le_of_lt (greatest e known) below
    · intro said' keeps new only
      refine ⟨by simpa using here, by simpa using faithful.nodename, ⟨_, changed, new, ?_⟩, ?_,
        fun peer different => (copies peer different).mono keeps⟩
      · intro e known
        rcases only e known with old | same
        · exact UInt64.le_of_lt (UInt64.lt_of_le_of_lt (greatest e old) below)
        · rw [same]
          exact UInt64.le_refl _
      · intro waiting member
        rw [queue] at member
        rcases SortedMap.mem_insertEntry (mem_of_mem_trimQueue member) with rfl | before
        · exact ⟨d, keeps _ _ entry, below, rfl, new⟩
        · exact (faithful.queue waiting before).mono keeps

end Replica

end ClusterNode
