import ClusterNode.Proofs.Replication.Acknowledgement
import ClusterNode.Proofs.Replication.Course

/-!
# Own changes and the peers that lack them

A message is made for the peers that are counted (`Replica.Counted`): those of whom the last
word is known and not too old, unless their mode was set to full after it. What they said to
have applied decides which own changes stay in the queue and what the message brings.

`Replica.Kept` is what a course keeps of the queue, and `Course.books` says that the books on the
peers are their last words. From both follows what can leave the queue at any moment, and what a
message brings.
-/

namespace ClusterNode

namespace Replica

/-- An operation brings no changes of a node under its name. -/
def Operation.Foreign (node : String) : Operation → Prop
  | .call (.applyRemote name _ _) => name ≠ node
  | .call (.applyFull name _ _) => name ≠ node
  | _ => True

instance (node : String) (o : Operation) : Decidable (o.Foreign node) := by
  unfold Operation.Foreign
  split <;> infer_instance

/-- What an operation notes of a peer: when it was heard and what it said to have applied, or
that it is forgotten. It is forgotten when a message is made after it was silent too long, and
when its mode is set to full, however lately it was heard. -/
def Operation.word? (r : Replica) (p : String) :
    Operation → Option (Option (Nat × GenerationTable))
  | .call (.applyMessage m now) =>
    if m.nodename = p ∧ r.listensTo p = true then some (some (now, m.gens)) else none
  | .setMode q .full => if q = p ∧ p ≠ r.localhost then some none else none
  | .buildMessage now =>
    match r.heard.get? p with
    | some at_ => if r.peerTimeout < now - at_ then some none else none
    | none => none
  | _ => none

/-- The last word of a peer, if it was not forgotten since. -/
def lastWord? (past : List Moment) (p : String) : Option (Nat × GenerationTable) :=
  (past.findSome? fun t => t.operation.word? t.replica p).join

/-- A peer is counted when a message is made, and acknowledged a generation: it is a member if
the members are known, and its last word is not older than the timeout. A peer that was heard in
time is counted no longer once its mode was set to full: both sides exchange everything then, so
that nothing it acknowledged before holds, until it is heard again. -/
structure Counted (past : List Moment) (r : Replica) (now : Nat) (p : String) (acked : Generation) :
    Prop where
  member : r.members = [] ∨ p ∈ r.members
  other : p ≠ r.localhost
  heard : ∃ at_ gens, lastWord? past p = some (at_, gens) ∧ now - at_ ≤ r.peerTimeout ∧
    (gens.get? r.localhost).getD 0 = acked

/-- An own mutation made a generation. -/
def Moment.Made (t : Moment) (g : Generation) (ms : List Mutation) : Prop :=
  ∃ m, t.operation = .call (.applyLocal m) ∧ ms = [m] ∧ t.replica.generation < g ∧
    t.next.generation = g

variable {r s : Replica} {node p : String} {o : Operation} {past : List Moment}

/-! ## The last words of the peers -/

@[simp] theorem lastWord?_cons (t : Moment) :
    lastWord? (t :: past) p =
      match t.operation.word? t.replica p with
      | some word => word
      | none => lastWord? past p := by
  unfold lastWord?
  rw [List.findSome?_cons]
  cases t.operation.word? t.replica p <;> rfl

/-- What is noted of a peer, if the operation notes something of it. -/
def noted (r : Replica) (o : Operation) (p : String) : Option Nat × Option GenerationTable :=
  match o.word? r p with
  | some word => (word.map (·.1), word.map (·.2))
  | none => (r.heard.get? p, r.remoteGens.get? p)

/-- An operation leaves the books on a peer, unless it notes something of it. -/
theorem operate_word (r : Replica) (o : Operation) (p : String) :
    ((r.operate o).1.heard.get? p, (r.operate o).1.remoteGens.get? p) = r.noted o p := by
  cases o with
  | call c =>
    cases c with
    | applyLocal m =>
      simp only [operate, call, applyLocal]
      split <;> rfl
    | applyRemote q generation ms =>
      rw [operate, call_applyRemote]
      apply applyRemote_induction
        (motive := fun s => (s.heard.get? p, s.remoteGens.get? p) = r.noted _ p)
      · intro last received
        rw [requestFull_heard, requestFull_remoteGens]
        rfl
      · rfl
      · rfl
    | applyFull q generation data => rfl
    | applyMessage m now =>
      simp only [operate, call, noted, Operation.word?, applyMessage_eq]
      by_cases listens : r.listensTo m.nodename = true
      · simp only [if_pos listens, applyBody_heard, applyBody_remoteGens, hear,
          SortedMap.get?_insert]
        by_cases own : p = m.nodename
        · simp [own, listens]
        · simp [own, Ne.symm own]
      · rw [if_neg listens, if_neg]
        rintro ⟨rfl, heard⟩
        exact listens heard
  | setMode q mode =>
    cases mode with
    | patch => rfl
    | full =>
      by_cases other : q = r.localhost
      · simp only [operate, setMode, noted, Operation.word?, other, ne_eq, not_true_eq_false,
          and_false, if_false]
        rw [if_neg fun same => same.2 same.1.symm]
        rfl
      · simp only [operate, setMode, noted, Operation.word?, other, ne_eq, not_false_eq_true,
          and_self, if_true]
        by_cases own : q = p
        · cases own
          simp [refreshHeartbeat, refreshGens, SortedMap.get?_erase, other]
        · simp [refreshHeartbeat, refreshGens, SortedMap.get?_erase, own, Ne.symm own]
  | buildMessage now =>
    have same : (r.buildMessage now).1.heard = (r.expireSilent now).heard ∧
        (r.buildMessage now).1.remoteGens = (r.expireSilent now).remoteGens := by
      simp only [buildMessage]
      constructor <;> split <;> rfl
    simp only [operate, same, noted, Operation.word?]
    by_cases late : ∃ at_, r.heard.get? p = some at_ ∧ r.peerTimeout < now - at_
    · obtain ⟨at_, heard, late⟩ := late
      simp [expireSilent_forgets heard late, heard, late]
    · have audible : ∀ at_, r.heard.get? p = some at_ → now - at_ ≤ r.peerTimeout :=
        fun at_ heard => Nat.not_lt.1 fun silent => late ⟨at_, heard, silent⟩
      rw [(expireSilent_keeps audible).1, (expireSilent_keeps audible).2]
      cases heard : r.heard.get? p with
      | none => rfl
      | some at_ => simp only [if_neg (Nat.not_lt.2 (audible at_ heard))]
  | delAggregate q =>
    simp only [operate, delAggregate]
    split <;> rfl
  | takePending | setStream | setAggregate => rfl

/-- Words of others are noted only. -/
theorem Operation.ne_of_word {word : Nat × GenerationTable}
    (noted : o.word? r p = some (some word)) : p ≠ r.localhost := by
  unfold Operation.word? at noted
  split at noted
  · split at noted
    · rename_i taken
      exact ne_of_listensTo taken.2
    · cases noted
  · split at noted <;> cases noted
  · split at noted
    · split at noted <;> cases noted
    · cases noted
  · cases noted

section Fresh

variable {cluster : ClusterConfig} {limit timeout : Nat}

/-- The books on a peer are its last word. -/
theorem Course.books (course : Course (.new node cluster limit timeout) past r) (p : String) :
    r.heard.get? p = (lastWord? past p).map (·.1) ∧
      r.remoteGens.get? p = (lastWord? past p).map (·.2) := by
  induction course with
  | start => exact ⟨rfl, rfl⟩
  | @step past r o _ ih =>
    have noted := Prod.ext_iff.1 (operate_word r o p)
    simp only [Replica.noted] at noted
    simp only [lastWord?_cons]
    cases word : o.word? r p with
    | some word => simpa [word] using noted
    | none => simpa [word, ih] using noted

/-- A node has no word of itself. -/
theorem Course.ne_of_lastWord (course : Course (.new node cluster limit timeout) past r)
    {word : Nat × GenerationTable} (last : lastWord? past p = some word) : p ≠ node := by
  induction course with
  | start => cases last
  | @step past r o course ih =>
    rw [lastWord?_cons] at last
    split at last
    · rename_i noted
      rw [last] at noted
      rw [← course.isOf.localhost]
      exact o.ne_of_word noted
    · exact ih last

/-- The generations acknowledged by the peers that are counted. -/
theorem Course.mem_acks (course : Course (.new node cluster limit timeout) past r) {now : Nat}
    {acked : Generation} :
    acked ∈ (r.expireSilent now).acks ↔ ∃ p, Counted past r now p acked := by
  have told (p : String) (gens : GenerationTable) :
      (r.expireSilent now).remoteGens.get? p = some gens ↔
        ∃ at_, lastWord? past p = some (at_, gens) ∧ now - at_ ≤ r.peerTimeout := by
    obtain ⟨heard, remoteGens⟩ := course.books p
    cases last : lastWord? past p with
    | none =>
      rw [last] at heard remoteGens
      rw [(expireSilent_keeps (by simp [heard])).2, remoteGens]
      simp
    | some word =>
      rw [last] at heard remoteGens
      by_cases late : r.peerTimeout < now - word.1
      · rw [(expireSilent_forgets heard late).2]
        constructor
        · intro absent
          cases absent
        · rintro ⟨at_, same, recent⟩
          cases same
          exact absurd late (Nat.not_lt.2 recent)
      · have recent := Nat.not_lt.1 late
        rw [(expireSilent_keeps fun at_ same => by cases heard.symm.trans same; exact recent).2,
          remoteGens]
        constructor
        · rintro ⟨⟩
          exact ⟨word.1, rfl, recent⟩
        · rintro ⟨at_, same, _⟩
          cases same
          rfl
  unfold acks
  rw [List.mem_filterMap]
  constructor
  · rintro ⟨p, member, acknowledged⟩
    obtain ⟨gens, known, rfl⟩ := Option.map_eq_some_iff.1 acknowledged
    obtain ⟨at_, last, recent⟩ := (told p gens).1 known
    refine ⟨p, ?_, ?_, at_, gens, last, recent, rfl⟩
    · by_cases unknown : r.members = []
      · exact .inl unknown
      · have known : ¬ (r.expireSilent now).members = [] := unknown
        unfold peers at member
        rw [if_neg (by simpa using known)] at member
        exact .inr (List.mem_filter.1 member).1
    · rw [course.isOf.localhost]
      exact course.ne_of_lastWord last
  · rintro ⟨p, member, other, at_, gens, last, recent, rfl⟩
    have known := (told p gens).2 ⟨at_, last, recent⟩
    refine ⟨p, ?_, ?_⟩
    · exact mem_peers member other known
    · rw [known]
      rfl

end Fresh

/-! ## The queue -/

/-- What an operation that makes no own change and no message keeps of the own ones. -/
structure SameOwn (r s : Replica) : Prop where
  localhost : s.localhost = r.localhost
  nodename : s.status.daemon.nodename = r.status.daemon.nodename
  own : s.status.nodes.get? r.localhost = r.status.nodes.get? r.localhost
  queue : s.patchQueue = r.patchQueue
  limit : s.maxPatchQueue = r.maxPatchQueue

/-- Where the own part is the same the generation is. -/
theorem SameOwn.generation (same : SameOwn r s) : s.generation = r.generation := by
  unfold Replica.generation
  rw [same.localhost, same.own]

/-- Where only what concerns one peer differs, the own part is the same. -/
theorem AgreesBut.sameOwn (agrees : AgreesBut p r s) (peer : p ≠ r.localhost) : SameOwn r s :=
  ⟨agrees.localhost, agrees.nodename, agrees.nodes _ peer.symm, agrees.queue, agrees.limit⟩

/-- Only own changes and messages concern the queue. -/
theorem operate_sameOwn (belongs : r.BelongsTo node) (foreign : o.Foreign node)
    (noChange : ∀ m, o ≠ .call (.applyLocal m)) (noMessage : ∀ now, o ≠ .buildMessage now) :
    SameOwn r (r.operate o).1 := by
  have named := belongs.named
  have localhost := belongs.localhost
  cases o with
  | call c =>
    cases c with
    | applyLocal m => exact absurd rfl (noChange m)
    | applyRemote q generation ms =>
      have other : q ≠ node := foreign
      rw [operate, call_applyRemote]
      exact (applyRemote_agrees generation ms (by rwa [named, localhost])).sameOwn
        (by rwa [localhost])
    | applyFull q generation data =>
      have other : q ≠ node := foreign
      exact (applyFull_agrees ..).sameOwn (by rwa [localhost])
    | applyMessage m now =>
      by_cases listens : r.listensTo m.nodename = true
      · exact (applyMessage_agrees r m now named).sameOwn (ne_of_listensTo listens)
      · rw [operate, call, applyMessage_eq, if_neg listens]
        exact ⟨rfl, rfl, rfl, rfl, rfl⟩
  | buildMessage now => exact absurd rfl (noMessage now)
  | setMode q mode =>
    refine ⟨setMode_localhost .., setMode_nodename .., by simp [operate], setMode_patchQueue .., ?_⟩
    simp only [operate, setMode]
    split <;> rfl
  | delAggregate q =>
    simp only [operate, delAggregate]
    split <;> exact ⟨rfl, rfl, rfl, rfl, rfl⟩
  | takePending | setStream | setAggregate => exact ⟨rfl, rfl, rfl, rfl, rfl⟩

/-- What a course keeps of the own changes. -/
structure Kept (node : String) (limit : Nat) (past : List Moment) (r : Replica) : Prop where
  belongs : r.BelongsTo node
  ordered : r.Ordered
  limit : r.maxPatchQueue = max limit 1
  short : r.patchQueue.size ≤ r.maxPatchQueue
  made : ∀ e ∈ r.patchQueue.entries, ∃ t ∈ past, t.Made e.1 e.2

/-- A change that is in the queue was made by the latest moment too. -/
theorem Kept.before {limit : Nat} (kept : Kept node limit past r) (t : Moment)
    {e : Generation × List Mutation} (member : e ∈ r.patchQueue.entries) :
    ∃ u ∈ t :: past, u.Made e.1 e.2 := by
  obtain ⟨u, made, how⟩ := kept.made e member
  exact ⟨u, List.mem_cons_of_mem _ made, how⟩

/-- An own mutation adds the change that it makes, and keeps to the limit. -/
theorem Kept.applyLocal {limit : Nat} (kept : Kept node limit past r) (m : Mutation)
    (grows : r.generation ≤ (r.applyLocal m).1.generation) :
    Kept node limit (⟨r, .call (.applyLocal m)⟩ :: past) (r.applyLocal m).1 where
  belongs := kept.belongs.applyLocal m
  ordered := kept.ordered.applyLocal kept.belongs m grows
  limit := (applyLocal_maxPatchQueue r m).trans kept.limit
  short := by
    have short := kept.short
    rw [applyLocal_maxPatchQueue]
    rcases kept.ordered.applyLocal_cases kept.belongs m grows with ⟨_, same⟩ | ⟨_, longer⟩
    · rwa [same]
    · unfold SortedMap.size at short longer ⊢
      rw [longer, List.length_drop, List.length_append, List.length_singleton]
      omega
  made e member := by
    rcases kept.ordered.applyLocal_cases kept.belongs m grows with ⟨_, same⟩ | ⟨next, longer⟩
    · rw [same] at member
      exact kept.before _ member
    · rw [longer] at member
      rcases List.mem_append.1 (List.mem_of_mem_drop member) with old | new
      · exact kept.before _ old
      · cases List.mem_singleton.1 new
        refine ⟨_, List.mem_cons_self .., m, rfl, rfl, ?_, rfl⟩
        rw [UInt64.lt_iff_toNat_lt, next]
        exact Nat.lt_succ_self _

/-- Making a message keeps changes that were kept before. -/
theorem Kept.buildMessage {limit : Nat} (kept : Kept node limit past r) (now : Nat) :
    Kept node limit (⟨r, .buildMessage now⟩ :: past) (r.buildMessage now).1 := by
  have fewer : (r.buildMessage now).1.patchQueue.entries.Sublist r.patchQueue.entries := by
    rw [buildMessage_patchQueue]
    split
    · exact List.filter_sublist
    · exact .refl _
  have limit : (r.buildMessage now).1.maxPatchQueue = r.maxPatchQueue := by
    simp only [Replica.buildMessage]
    split <;> rfl
  refine ⟨kept.belongs.buildMessage now, kept.ordered.buildMessage now, limit.trans kept.limit,
    ?_, fun e member => kept.before _ (fewer.subset member)⟩
  rw [limit]
  exact Nat.le_trans fewer.length_le kept.short

/-- What concerns no own change keeps the queue as it is. -/
theorem Kept.of_sameOwn {limit : Nat} (kept : Kept node limit past r) (same : SameOwn r s)
    (t : Moment) : Kept node limit (t :: past) s where
  belongs := by
    obtain ⟨rfl, named, own⟩ := kept.belongs
    exact ⟨same.localhost, by rw [same.nodename, named], by rwa [same.own]⟩
  ordered := by
    have ordered := kept.ordered
    rwa [Ordered, waiting, same.queue, same.generation]
  limit := same.limit.trans kept.limit
  short := by
    rw [same.queue, same.limit]
    exact kept.short
  made e member := by
    rw [same.queue] at member
    exact kept.before t member

section Fresh

variable {cluster : ClusterConfig} {limit timeout : Nat}

/-- Along a course the changes in the queue are those that were made. -/
theorem Course.kept (course : Course (.new node cluster limit timeout) past r)
    (foreign : ∀ t ∈ past, t.operation.Foreign node)
    (grows : ∀ t ∈ past, t.replica.generation ≤ t.next.generation) :
    Kept node limit past r := by
  induction course with
  | start => exact ⟨.new .., .new .., rfl, Nat.zero_le _, fun e member => by cases member⟩
  | @step past r o course ih =>
    have kept := ih (fun t before => foreign t (List.mem_cons_of_mem _ before))
      fun t before => grows t (List.mem_cons_of_mem _ before)
    have foreign := foreign ⟨r, o⟩ (List.mem_cons_self ..)
    have grows := grows ⟨r, o⟩ (List.mem_cons_self ..)
    by_cases change : ∃ m, o = .call (.applyLocal m)
    · obtain ⟨m, rfl⟩ := change
      exact kept.applyLocal m grows
    · by_cases message : ∃ now, o = .buildMessage now
      · obtain ⟨now, rfl⟩ := message
        exact kept.buildMessage now
      · exact kept.of_sameOwn (operate_sameOwn kept.belongs foreign
          (fun m same => change ⟨m, same⟩) fun now same => message ⟨now, same⟩) _

end Fresh

/-! ## What leaves the queue -/

/-- An own mutation finds the queue full, and the oldest change makes room. -/
def Evicts (r : Replica) (o : Operation) (e : Generation × List Mutation) : Prop :=
  (∃ m, o = .call (.applyLocal m)) ∧ r.patchQueue.size = r.maxPatchQueue ∧
    r.patchQueue.entries.head? = some e

/-- A message is made when all counted peers, one at least, acknowledged a generation. -/
def Releases (past : List Moment) (r : Replica) (o : Operation) (g : Generation) : Prop :=
  ∃ now, o = .buildMessage now ∧ (∃ p acked, Counted past r now p acked) ∧
    ∀ p acked, Counted past r now p acked → g ≤ acked

/-- The queue makes room for one change at a time, if it is full. -/
theorem Kept.leaves_applyLocal {limit : Nat} (kept : Kept node limit past r) {m : Mutation}
    (grows : r.generation ≤ (r.applyLocal m).1.generation) {e : Generation × List Mutation}
    (member : e ∈ r.patchQueue.entries) (gone : e ∉ (r.applyLocal m).1.patchQueue.entries) :
    Evicts r (.call (.applyLocal m)) e := by
  have positive : 0 < r.maxPatchQueue := by
    rw [kept.limit]
    omega
  have short := kept.short
  rcases kept.ordered.applyLocal_cases kept.belongs m grows with ⟨_, same⟩ | ⟨_, longer⟩
  · rw [same] at gone
    exact absurd member gone
  · rw [longer] at gone
    unfold Evicts
    unfold SortedMap.size at short gone ⊢
    cases queue : r.patchQueue.entries with
    | nil =>
      rw [queue] at member
      cases member
    | cons oldest later =>
      rw [queue] at member short gone
      by_cases room : (oldest :: later).length < r.maxPatchQueue
      · rw [Nat.sub_eq_zero_of_le room] at gone
        exact absurd (List.mem_append_left _ member) gone
      · have full := Nat.le_antisymm short (Nat.not_lt.1 room)
        rw [full, Nat.add_sub_cancel_left] at gone
        rcases List.mem_cons.1 member with rfl | kept
        · exact ⟨⟨m, rfl⟩, full, rfl⟩
        · exact absurd (List.mem_append_left _ kept) gone

/-- Making a message drops what all counted peers acknowledged. -/
theorem Course.leaves_buildMessage {cluster : ClusterConfig} {limit timeout : Nat}
    (course : Course (.new node cluster limit timeout) past r) {now : Nat}
    {e : Generation × List Mutation} (member : e ∈ r.patchQueue.entries)
    (gone : e ∉ (r.buildMessage now).1.patchQueue.entries) :
    Releases past r (.buildMessage now) e.1 := by
  rw [buildMessage_patchQueue] at gone
  cases slowest : (r.expireSilent now).acks.min? with
  | none =>
    rw [slowest] at gone
    exact absurd member gone
  | some least =>
    rw [slowest] at gone
    have known := List.min?_eq_some_iff.1 slowest
    refine ⟨now, rfl, ?_, ?_⟩
    · obtain ⟨p, counted⟩ := course.mem_acks.1 known.1
      exact ⟨p, least, counted⟩
    · intro p acked counted
      have lower := known.2 acked (course.mem_acks.2 ⟨p, counted⟩)
      refine UInt64.le_trans (UInt64.not_lt.1 fun above => gone ?_) lower
      exact List.mem_filter.2 ⟨member, decide_eq_true above⟩

/-! ## What a message brings -/

/-- What a message brings to a peer that acknowledged a generation: all of the node, or nothing
is missing, or all changes from the first missing one on, each as it was made. -/
def Supplies (past : List Moment) (r : Replica) (m : Message) (acked : Generation) : Prop :=
  m.body = .full (r.status.nodeD r.localhost) ∨ r.generation ≤ acked ∨
    ∃ deltas first, m.body = .patch deltas ∧
      Ascends first (deltas.map (·.generation)) r.generation.toNat ∧ first ≤ acked.toNat + 1 ∧
      ∀ d ∈ deltas, ∃ t ∈ past, t.Made d.generation d.mutations

/-- A peer needs everything: it asks for it, or it lacks a change that is no longer queued. -/
def Needs (r : Replica) (acked : Generation) : Prop :=
  acked = 0 ∨ ∃ g, acked < g ∧ g ≤ r.generation ∧ g ∉ r.waiting

/-- If any change that a peer lacks is not queued, the first one is not. -/
theorem Ordered.lags_iff (ordered : r.Ordered) {acked : Generation} :
    r.lags acked = true ↔ r.Needs acked := by
  obtain ⟨first, queue⟩ := ordered
  unfold lags Needs
  rw [Bool.or_eq_true, beq_iff_eq, Bool.and_eq_true, decide_eq_true_iff, Bool.not_eq_true']
  refine or_congr_right ⟨?_, ?_⟩
  · rintro ⟨behind, missing⟩
    have next := Generation.toNat_add_one behind
    rw [UInt64.lt_iff_toNat_lt] at behind
    refine ⟨acked + 1, ?_, ?_, fun queued => ?_⟩
    · rw [UInt64.lt_iff_toNat_lt]
      omega
    · rw [UInt64.le_iff_toNat_le]
      omega
    · rw [SortedMap.mem_keys_iff_contains.1 queued] at missing
      cases missing
  · rintro ⟨g, above, below, missing⟩
    have behind := UInt64.lt_of_lt_of_le above below
    refine ⟨behind, Bool.eq_false_iff.2 fun queued => ?_⟩
    have next := Generation.toNat_add_one behind
    have bounds := queue.bounds (SortedMap.mem_keys_iff_contains.2 queued)
    rw [UInt64.lt_iff_toNat_lt] at above
    rw [UInt64.le_iff_toNat_le] at below
    exact missing (queue.mem_of_between (by omega) below)

/-- A message brings everything exactly if a peer that is heard lags behind the queue. -/
theorem buildMessage_full_iff (r : Replica) (now : Nat) :
    (∃ data, (r.buildMessage now).2.body = .full data) ↔
      ∃ acked ∈ (r.expireSilent now).acks, r.lags acked = true := by
  rw [buildMessage_body, ← List.any_eq_true]
  by_cases lagging : (r.expireSilent now).acks.any r.lags = true
  · rw [if_pos lagging]
    exact iff_of_true ⟨_, rfl⟩ lagging
  · rw [if_neg lagging]
    refine iff_of_false ?_ lagging
    rintro ⟨data, made⟩
    split at made
    · split at made <;> cases made
    · cases made

/-- What a message can be: all of the node, changes from the queue, or no change at all. -/
theorem buildMessage_cases (r : Replica) (now : Nat) :
    (r.buildMessage now).2.body = .full (r.status.nodeD r.localhost) ∨
    (∃ deltas, (r.buildMessage now).2.body = .patch deltas ∧
      ∀ d ∈ deltas, (d.generation, d.mutations) ∈ r.patchQueue.entries) ∨
    (r.buildMessage now).2.body = .ping := by
  rw [buildMessage_body]
  split
  · exact .inl rfl
  · split
    · split
      · refine .inr (.inl ⟨_, rfl, fun d sent => ?_⟩)
        obtain ⟨e, queued, rfl⟩ := List.mem_map.1 sent
        exact (List.mem_filter.1 queued).1
      · exact .inr (.inr rfl)
    · exact .inr (.inr rfl)

/-- A message supplies every peer that is counted. -/
theorem Kept.supplies {limit : Nat} (kept : Kept node limit past r) {now : Nat}
    {acked : Generation} (counted : acked ∈ (r.expireSilent now).acks) :
    Supplies past r (r.buildMessage now).2 acked := by
  by_cases known : acked ≤ r.generation
  · have suits := kept.ordered.suits counted known
    unfold Message.Suits at suits
    rw [buildMessage_generation] at suits
    rcases buildMessage_cases r now with full | ⟨deltas, patch, queued⟩ | ping
    · exact .inl full
    · rw [patch] at suits
      obtain ⟨_, _, first, ascends, begins⟩ := suits
      exact .inr (.inr ⟨deltas, first, patch, ascends, begins,
        fun d sent => kept.made _ (queued d sent)⟩)
    · rw [ping] at suits
      exact .inr (.inl (UInt64.le_of_eq suits.2.symm))
  · exact .inr (.inl (UInt64.le_of_lt (UInt64.not_le.1 known)))

/-- What leaves the queue makes room or was acknowledged by all counted peers. -/
theorem Kept.leaves {cluster : ClusterConfig} {limit timeout : Nat}
    (kept : Kept node limit past r) (course : Course (.new node cluster limit timeout) past r)
    (foreign : o.Foreign node) (grows : r.generation ≤ (r.operate o).1.generation)
    {e : Generation × List Mutation} (member : e ∈ r.patchQueue.entries)
    (gone : e ∉ (r.operate o).1.patchQueue.entries) : Evicts r o e ∨ Releases past r o e.1 := by
  by_cases change : ∃ m, o = .call (.applyLocal m)
  · obtain ⟨m, rfl⟩ := change
    exact .inl (kept.leaves_applyLocal grows member gone)
  · by_cases message : ∃ now, o = .buildMessage now
    · obtain ⟨now, rfl⟩ := message
      exact .inr (course.leaves_buildMessage member gone)
    · have same := operate_sameOwn kept.belongs foreign (fun m same => change ⟨m, same⟩)
        fun now same => message ⟨now, same⟩
      rw [same.queue] at gone
      exact absurd member gone

/-- Whatever is done with a node whose generations do not run over, the queue has the latest own
changes without a hole, within its limit; a change leaves it for a newer one or when all counted
peers acknowledged it; and every message supplies all counted peers, with all of the node if and
only if one of them needs that. -/
theorem Course.supplied {cluster : ClusterConfig} {limit timeout : Nat}
    (course : Course (.new node cluster limit timeout) past r)
    (foreign : ∀ t ∈ past, t.operation.Foreign node)
    (grows : ∀ t ∈ past, t.replica.generation ≤ t.next.generation) :
    r.Ordered ∧ r.patchQueue.size ≤ max limit 1 ∧
    (∀ o e, o.Foreign node → r.generation ≤ (r.operate o).1.generation →
      e ∈ r.patchQueue.entries → e ∉ (r.operate o).1.patchQueue.entries →
      Evicts r o e ∨ Releases past r o e.1) ∧
    ∀ now, (∀ p acked, Counted past r now p acked →
        Supplies past r (r.buildMessage now).2 acked) ∧
      ((∃ data, (r.buildMessage now).2.body = .full data) ↔
        ∃ p acked, Counted past r now p acked ∧ r.Needs acked) := by
  have kept := course.kept foreign grows
  refine ⟨kept.ordered, kept.limit ▸ kept.short, fun o e foreign grows member gone =>
    kept.leaves course foreign grows member gone, fun now => ⟨fun p acked counted =>
    kept.supplies (course.mem_acks.2 ⟨p, counted⟩), ?_⟩⟩
  rw [buildMessage_full_iff]
  constructor
  · rintro ⟨acked, member, lags⟩
    obtain ⟨p, counted⟩ := course.mem_acks.1 member
    exact ⟨p, acked, counted, kept.ordered.lags_iff.1 lags⟩
  · rintro ⟨p, acked, counted, needs⟩
    exact ⟨acked, course.mem_acks.2 ⟨p, counted⟩, kept.ordered.lags_iff.2 needs⟩

/-- A node that made three changes and keeps two of them, of which its peer acknowledged the first
one. -/
def backlog : List Moment × Replica :=
  let change name := Operation.call (.applyLocal
    (.setConfig ⟨"root", .svc, name⟩ ⟨"", .epoch, ["n1"], "n1"⟩))
  pursue [] (.new "n1" ⟨"c", ["n1", "n2"]⟩ 2 1000)
    [change "web", change "db", change "mail",
      .call (.applyMessage ⟨"n2", 1, (∅ : GenerationTable).insert "n1" 2, .ping⟩ 0)]

/-- The peer is counted, and the two changes that are left supply it. -/
theorem supplied_of_backlog :
    (∀ t ∈ backlog.1, t.operation.Foreign "n1") ∧
      (∀ t ∈ backlog.1, t.replica.generation ≤ t.next.generation) ∧
      Counted backlog.1 backlog.2 1000 "n2" 2 ∧ backlog.2.waiting = [3, 4] ∧
      Supplies backlog.1 backlog.2 (backlog.2.buildMessage 1000).2 2 := by
  have foreign : ∀ t ∈ backlog.1, t.operation.Foreign "n1" := by decide +kernel
  have grows : ∀ t ∈ backlog.1, t.replica.generation ≤ t.next.generation := by decide +kernel
  have counted : Counted backlog.1 backlog.2 1000 "n2" 2 :=
    ⟨.inr (by decide +kernel), by decide +kernel, 0, (∅ : GenerationTable).insert "n1" 2,
      by decide +kernel, by decide +kernel, by decide +kernel⟩
  obtain ⟨_, _, _, messages⟩ := (Course.start.pursue _).supplied foreign grows
  exact ⟨foreign, grows, counted, by decide +kernel, (messages 1000).1 "n2" 2 counted⟩

end Replica

end ClusterNode
