import ClusterNode.Proofs.Replication.Announcement
import ClusterNode.Proofs.Replication.Supply

/-!
# Whom the heartbeat section names

The heartbeat section of the tree is written by the two heartbeat operations, from the streams and
modes that were noted and from the members as they are then. `Replica.Course.section_names` says
exactly whom it names: of the streams, the nodes that the latest writing listed; of the modes, the
nodes that every writing since the mode listed.

An own mutation of a cluster object changes the members and writes no section. So a node that is
named is listed, or such a mutation took it from the members since the latest writing
(`Replica.Expelled`); `section_names_expelled` is a course in which one did.
-/

namespace ClusterNode

namespace Replica

/-! ## Writings of the section -/

/-- An operation writes the heartbeat section. -/
def Operation.writesSection : Operation → Bool
  | .setStream .. | .setMode .. => true
  | _ => false

/-- An operation notes a stream of a node. -/
def Operation.notesStream (q : String) : Operation → Bool
  | .setStream node .. => node == q
  | _ => false

/-- An operation notes the mode of a node. -/
def Operation.notesMode (q : String) : Operation → Bool
  | .setMode node _ => node == q
  | _ => false

/-- The section names a node in its streams. -/
def NamesStream (r : Replica) (q : String) : Prop :=
  q ∈ r.status.daemon.heartbeat.streams.map (·.node)

/-- The section names a node in its modes. -/
def NamesMode (r : Replica) (q : String) : Prop :=
  q ∈ r.status.daemon.heartbeat.modes.map (·.node)

instance (r : Replica) (q : String) : Decidable (r.NamesStream q) :=
  inferInstanceAs (Decidable (_ ∈ _))

instance (r : Replica) (q : String) : Decidable (r.NamesMode q) :=
  inferInstanceAs (Decidable (_ ∈ _))

/-- The latest writing of the section listed a node. -/
def LastListed (q : String) : List Moment → Prop
  | [] => False
  | t :: past =>
    if t.operation.writesSection then t.replica.isListed q = true else LastListed q past

/-- A stream of a node was noted. -/
def HasStream (q : String) (past : List Moment) : Prop :=
  ∃ t ∈ past, t.operation.notesStream q = true

/-- The mode of a node was noted, and every writing of the section since then listed the node. -/
def HasMode (q : String) : List Moment → Prop
  | [] => False
  | t :: past =>
    (t.operation.writesSection = true → t.replica.isListed q = true) ∧
      (t.operation.notesMode q = true ∨ HasMode q past)

/-- An own mutation of a cluster object takes a node from the members. -/
def Moment.Expels (t : Moment) (q : String) : Prop :=
  (∃ m, t.operation = .call (.applyLocal m) ∧ m.path.isCluster = true) ∧
    t.replica.isListed q = true ∧ t.next.isListed q = false

/-- Since the latest writing of the section, a node was taken from the members. -/
def Expelled (q : String) : List Moment → Prop
  | [] => False
  | t :: past => t.operation.writesSection = false ∧ (t.Expels q ∨ Expelled q past)

variable {r s : Replica} {node q : String} {o : Operation} {past : List Moment}

/-- A stream is noted with a writing. -/
theorem Operation.writesSection_of_notesStream (o : Operation)
    (notes : o.notesStream q = true) : o.writesSection = true := by
  unfold notesStream at notes
  split at notes
  · rfl
  · cases notes

/-- A mode is noted with a writing. -/
theorem Operation.writesSection_of_notesMode (o : Operation) (notes : o.notesMode q = true) :
    o.writesSection = true := by
  unfold notesMode at notes
  split at notes
  · rfl
  · cases notes

/-- A stream of a node was noted in the latest moment, or before. -/
theorem hasStream_cons {t : Moment} :
    HasStream q (t :: past) ↔ t.operation.notesStream q = true ∨ HasStream q past := by
  simp only [HasStream, List.mem_cons, exists_eq_or_imp]

/-- A node has a mode only if the latest writing listed it. -/
theorem HasMode.lastListed (hasMode : HasMode q past) : LastListed q past := by
  induction past with
  | nil => exact hasMode
  | cons t past ih =>
    obtain ⟨listed, noted⟩ := hasMode
    rw [LastListed]
    split
    · rename_i writes
      exact listed writes
    · rename_i silent
      rcases noted with now | before
      · exact absurd (t.operation.writesSection_of_notesMode now) silent
      · exact ih before

/-! ## What the section is made of -/

/-- The section, and what was noted of streams and modes, is as before. -/
structure SameSection (r s : Replica) : Prop where
  heartbeat : s.status.daemon.heartbeat = r.status.daemon.heartbeat
  streams : s.streams = r.streams
  modes : s.modes = r.modes

/-- Where only what concerns one peer differs, the section is as before. -/
theorem AgreesBut.sameSection (agrees : AgreesBut node r s) : SameSection r s :=
  ⟨agrees.heartbeat, agrees.streams, agrees.modes⟩

/-- The members are written by own mutations of cluster objects only. -/
theorem operate_isListed (isOf : r.IsOf node) (foreign : o.Foreign node) :
    (r.operate o).1.isListed = r.isListed ∨
      ∃ m, o = .call (.applyLocal m) ∧ m.path.isCluster = true := by
  have listed {s : Replica} (members : s.members = r.members) : s.isListed = r.isListed := by
    funext q
    rw [isListed, members, isListed]
  have named := isOf.named
  cases o with
  | call c =>
    cases c with
    | applyLocal m =>
      cases cluster : m.path.isCluster with
      | true => exact .inr ⟨m, rfl, cluster⟩
      | false =>
        refine .inl (listed ?_)
        rw [operate, call, applyLocal_members named, ObjectPath.membership?, cluster]
        rfl
    | applyRemote p generation ms =>
      have other : p ≠ node := foreign
      rw [operate, call_applyRemote]
      exact .inl (listed (applyRemote_agrees generation ms (by rwa [isOf.nodename])).members)
    | applyFull p generation data => exact .inl (listed (applyFull_agrees ..).members)
    | applyMessage m now => exact .inl (listed (applyMessage_agrees r m now named).members)
  | buildMessage now => exact .inl (listed (buildMessage_members ..))
  | setMode p mode =>
    refine .inl (listed ?_)
    simp only [operate, setMode]
    split <;> rfl
  | delAggregate p =>
    refine .inl (listed ?_)
    simp only [operate, delAggregate]
    split <;> rfl
  | takePending | setStream | setAggregate => exact .inl rfl

/-- Whatever writes no section leaves what it is made of. -/
theorem operate_sameSection (isOf : r.IsOf node) (foreign : o.Foreign node)
    (silent : o.writesSection = false) : SameSection r (r.operate o).1 := by
  have named := isOf.named
  cases o with
  | call c =>
    cases c with
    | applyLocal m =>
      have same := congrArg DaemonSection.heartbeat
        (ClusterStatus.mutate_daemon r.status r.localhost m)
      simp only [operate, call, applyLocal]
      split <;> exact ⟨same, rfl, rfl⟩
    | applyRemote p generation ms =>
      have other : p ≠ node := foreign
      rw [operate, call_applyRemote]
      exact (applyRemote_agrees generation ms (by rwa [isOf.nodename])).sameSection
    | applyFull p generation data => exact (applyFull_agrees ..).sameSection
    | applyMessage m now => exact (applyMessage_agrees r m now named).sameSection
  | buildMessage now =>
    refine ⟨by rw [operate, buildMessage_status], ?_, ?_⟩ <;>
    · simp only [operate, buildMessage]
      split <;> rfl
  | setMode p mode => cases silent
  | setStream p id state now => cases silent
  | delAggregate p =>
    simp only [operate, delAggregate]
    split <;> exact ⟨rfl, rfl, rfl⟩
  | takePending | setAggregate => exact ⟨rfl, rfl, rfl⟩

/-- A node is noted with a stream. -/
def Streams (r : Replica) (q : String) : Prop :=
  ∃ key stream, r.streams.get? key = some stream ∧ stream.node = q

/-- Every stream is noted under its own node. -/
def StreamsKeyed (r : Replica) : Prop :=
  ∀ key stream, r.streams.get? key = some stream → stream.node = key.node

/-- The section that is written names the streams of the listed nodes. -/
theorem refreshHeartbeat_namesStream :
    r.refreshHeartbeat.NamesStream q ↔ r.Streams q ∧ r.isListed q = true := by
  simp only [NamesStream, refreshHeartbeat, Streams, List.mem_map, List.mem_filter,
    SortedMap.values, SortedMap.get?_eq_some_iff]
  constructor
  · rintro ⟨_, ⟨⟨⟨key, stream⟩, member, rfl⟩, listed⟩, rfl⟩
    exact ⟨⟨key, stream, member, rfl⟩, listed⟩
  · rintro ⟨⟨key, stream, member, rfl⟩, listed⟩
    exact ⟨stream, ⟨⟨_, member, rfl⟩, listed⟩, rfl⟩

/-- The section that is written names the modes that are kept. -/
theorem refreshHeartbeat_namesMode :
    r.refreshHeartbeat.NamesMode q ↔ q ∈ r.refreshHeartbeat.modes.keys := by
  simp only [NamesMode, refreshHeartbeat, SortedMap.keys, List.map_map]
  exact Iff.rfl

/-- The modes of the listed nodes are kept. -/
theorem mem_refreshHeartbeat_modes :
    q ∈ r.refreshHeartbeat.modes.keys ↔ q ∈ r.modes.keys ∧ r.isListed q = true := by
  simp only [SortedMap.mem_keys_iff, refreshHeartbeat, SortedMap.get?_filter]
  cases r.modes.get? q <;> simp

/-! ## What a course notes -/

/-- What the section and the books behind it have to do with what was done. -/
structure Noted (past : List Moment) (r : Replica) : Prop where
  keyed : r.StreamsKeyed
  streams : ∀ q, r.Streams q ↔ HasStream q past
  modes : ∀ q, q ∈ r.modes.keys ↔ HasMode q past
  namesStream : ∀ q, r.NamesStream q ↔ HasStream q past ∧ LastListed q past
  namesMode : ∀ q, r.NamesMode q ↔ HasMode q past

/-- A new replica has noted nothing. -/
theorem Noted.new (node : String) (cluster : ClusterConfig) (limit timeout : Nat) :
    Noted [] (Replica.new node cluster limit timeout) where
  keyed key stream found := by cases found
  streams q := by
    constructor
    · rintro ⟨key, stream, found, _⟩
      cases found
    · rintro ⟨t, member, _⟩
      cases member
  modes q := ⟨fun member => (by cases member), fun has => has.elim⟩
  namesStream q := ⟨fun member => (by cases member), fun has => has.2.elim⟩
  namesMode q := ⟨fun member => (by cases member), fun has => has.elim⟩

/-- Whatever writes no section adds nothing to what was noted. -/
theorem Noted.of_silent (noted : Noted past r) (silent : o.writesSection = false)
    (same : SameSection r s) : Noted (⟨r, o⟩ :: past) s := by
  have writes : ¬o.writesSection = true := Bool.not_eq_true _ ▸ silent
  have hasStream : ∀ q, HasStream q (⟨r, o⟩ :: past) ↔ HasStream q past := fun q =>
    hasStream_cons.trans (or_iff_right (mt o.writesSection_of_notesStream writes))
  have hasMode : ∀ q, HasMode q (⟨r, o⟩ :: past) ↔ HasMode q past := by
    intro q
    simp [HasMode, silent, mt o.writesSection_of_notesMode writes]
  have lastListed : ∀ q, LastListed q (⟨r, o⟩ :: past) ↔ LastListed q past := by
    intro q
    simp [LastListed, silent]
  refine ⟨?_, fun q => ?_, fun q => ?_, fun q => ?_, fun q => ?_⟩
  · rw [StreamsKeyed, same.streams]
    exact noted.keyed
  · rw [Streams, same.streams, hasStream]
    exact noted.streams q
  · rw [same.modes, hasMode]
    exact noted.modes q
  · rw [NamesStream, same.heartbeat, hasStream, lastListed]
    exact noted.namesStream q
  · rw [NamesMode, same.heartbeat, hasMode]
    exact noted.namesMode q

/-- What an operation notes, before it writes the section. -/
structure Notes (o : Operation) (r s : Replica) : Prop where
  listed : s.isListed = r.isListed
  keyed : r.StreamsKeyed → s.StreamsKeyed
  streams : r.StreamsKeyed → ∀ q, s.Streams q ↔ o.notesStream q = true ∨ r.Streams q
  modes : ∀ q, q ∈ s.modes.keys ↔ o.notesMode q = true ∨ q ∈ r.modes.keys

/-- The section is written after a note. -/
theorem Noted.of_notes (noted : Noted past r) {s' : Replica} (writes : o.writesSection = true)
    (notes : Notes o r s) (same : SameSection s.refreshHeartbeat s') :
    Noted (⟨r, o⟩ :: past) s' := by
  have streams : ∀ q, s.Streams q ↔ HasStream q (⟨r, o⟩ :: past) := by
    intro q
    rw [hasStream_cons, notes.streams noted.keyed]
    exact or_congr_right (noted.streams q)
  have modes : ∀ q, q ∈ s.refreshHeartbeat.modes.keys ↔ HasMode q (⟨r, o⟩ :: past) := by
    intro q
    rw [mem_refreshHeartbeat_modes, notes.modes, notes.listed, noted.modes]
    simp [HasMode, writes, and_comm]
  refine ⟨?_, fun q => ?_, fun q => ?_, fun q => ?_, fun q => ?_⟩
  · rw [StreamsKeyed, same.streams]
    exact notes.keyed noted.keyed
  · rw [Streams, same.streams]
    exact streams q
  · rw [same.modes]
    exact modes q
  · rw [NamesStream, same.heartbeat, LastListed, if_pos writes, ← streams, ← notes.listed]
    exact refreshHeartbeat_namesStream
  · rw [NamesMode, same.heartbeat, ← modes]
    exact refreshHeartbeat_namesMode

/-- A stream is noted under its own node. -/
theorem notes_setStream (r : Replica) (node id : String) (state : PeerState) (now : Timestamp)
    (stream : HeartbeatStream) (own : stream.node = node) :
    Notes (.setStream node id state now) r
      { r with streams := r.streams.insert ⟨node, id⟩ stream } where
  listed := rfl
  keyed keyed key other found := by
    simp only [SortedMap.get?_insert] at found
    split at found
    · rename_i same
      cases found
      rw [own, same]
    · exact keyed key other found
  streams keyed q := by
    simp only [Streams, SortedMap.get?_insert, Operation.notesStream, beq_iff_eq]
    constructor
    · rintro ⟨key, other, found, rfl⟩
      split at found
      · cases found
        exact .inl own.symm
      · exact .inr ⟨key, other, found, rfl⟩
    · rintro (rfl | ⟨key, other, found, rfl⟩)
      · exact ⟨⟨node, id⟩, stream, if_pos rfl, own⟩
      · by_cases same : key = ⟨node, id⟩
        · -- The stream is replaced by one of the same node.
          refine ⟨key, stream, if_pos same, ?_⟩
          rw [own, keyed key other found, same]
        · exact ⟨key, other, by rwa [if_neg same], rfl⟩
  modes q := by simp [Operation.notesMode]

/-- A mode is noted, whatever is forgotten with it. -/
theorem notes_setMode (node : String) (mode : PeerMode) (status : s.status = r.status)
    (streams : s.streams = r.streams) (modes : s.modes = r.modes.insert node mode) :
    Notes (.setMode node mode) r s where
  listed := by
    funext q
    simp only [isListed, members, status]
  keyed keyed := by rwa [StreamsKeyed, streams]
  streams _ q := by simp [Streams, streams, Operation.notesStream]
  modes q := by
    rw [modes, SortedMap.mem_keys_iff_contains, SortedMap.contains_insert,
      SortedMap.mem_keys_iff_contains, Bool.or_eq_true, decide_eq_true_iff, Operation.notesMode,
      beq_iff_eq, eq_comm]

/-- Setting a mode writes the section after the note. -/
theorem setMode_notes (r : Replica) (node : String) (mode : PeerMode) :
    ∃ s, r.setMode node mode = s.refreshHeartbeat.refreshGens ∧
      Notes (.setMode node mode) r s := by
  simp only [setMode]
  refine ⟨_, rfl, ?_⟩
  split <;> exact notes_setMode node mode rfl rfl rfl

/-- Every operation notes what it is about, and the section is written from that. -/
theorem Noted.operate (noted : Noted past r) (isOf : r.IsOf node) (foreign : o.Foreign node) :
    Noted (⟨r, o⟩ :: past) (r.operate o).1 := by
  cases writes : o.writesSection with
  | false => exact noted.of_silent writes (operate_sameSection isOf foreign writes)
  | true =>
    cases o with
    | setStream p id state now =>
      exact noted.of_notes rfl (notes_setStream r p id state now _ rfl) ⟨rfl, rfl, rfl⟩
    | setMode p mode =>
      obtain ⟨s, made, notes⟩ := setMode_notes r p mode
      rw [Replica.operate, made]
      exact noted.of_notes rfl notes ⟨rfl, rfl, rfl⟩
    | _ => cases writes

section Fresh

variable {cluster : ClusterConfig} {limit timeout : Nat}

/-- Along a course the section is in step with what was noted. -/
theorem Course.noted (course : Course (.new node cluster limit timeout) past r)
    (foreign : ∀ t ∈ past, t.operation.Foreign node) : Noted past r := by
  induction course with
  | start => exact .new ..
  | @step past r o course ih =>
    have noted := ih fun t before => foreign t (List.mem_cons_of_mem _ before)
    exact noted.operate course.isOf (foreign ⟨r, o⟩ (List.mem_cons_self ..))

/-- What the latest writing listed is listed, or was taken from the members since. -/
theorem Course.listed_or_expelled (course : Course (.new node cluster limit timeout) past r)
    (foreign : ∀ t ∈ past, t.operation.Foreign node) (last : LastListed q past) :
    r.isListed q = true ∨ Expelled q past := by
  induction course with
  | start => exact last.elim
  | @step past r o course ih =>
    have same := operate_isListed course.isOf (foreign ⟨r, o⟩ (List.mem_cons_self ..))
    rw [LastListed] at last
    cases writes : o.writesSection with
    | true =>
      rw [if_pos writes] at last
      rcases same with same | ⟨m, rfl, _⟩
      · rw [same]
        exact .inl last
      · cases writes
    | false =>
      rw [if_neg (by simp [writes])] at last
      rcases ih (fun t before => foreign t (List.mem_cons_of_mem _ before)) last with
        listed | expelled
      · cases after : (r.operate o).1.isListed q with
        | true => exact .inl rfl
        | false =>
          rcases same with same | cluster
          · rw [same, listed] at after
            cases after
          · exact .inr ⟨writes, .inl ⟨cluster, listed, after⟩⟩
      · exact .inr ⟨writes, .inr expelled⟩

/-- Whatever is done with a node that is not told of itself, the section names in its streams the
nodes of which a stream was noted and that the latest writing listed, and in its modes those that
every writing since their mode was noted listed. A node that it names is listed still, unless a
mutation of a cluster object took it from the members since the latest writing. -/
theorem Course.section_names (course : Course (.new node cluster limit timeout) past r)
    (foreign : ∀ t ∈ past, t.operation.Foreign node) (q : String) :
    (r.NamesStream q ↔ HasStream q past ∧ LastListed q past) ∧
    (r.NamesMode q ↔ HasMode q past) ∧
    (r.NamesStream q ∨ r.NamesMode q → r.isListed q = true ∨ Expelled q past) := by
  have noted := course.noted foreign
  refine ⟨noted.namesStream q, noted.namesMode q, fun named => ?_⟩
  apply course.listed_or_expelled foreign
  rcases named with stream | mode
  · exact ((noted.namesStream q).1 stream).2
  · exact ((noted.namesMode q).1 mode).lastListed

end Fresh

/-- What is done with a node of three members that notes modes and streams of its peers, and is then
given other members. -/
def narrowing : List Operation :=
  [.setMode "n2" .patch, .setMode "gone" .patch, .setStream "n2" "rx" .alive .epoch,
    .setStream "n3" "rx" .alive .epoch, .call (.applyLocal (setCluster "cluster" ["n1", "n3"]))]

/-- The node after that. -/
def narrowed : List Moment × Replica :=
  pursue [] (.new "n1" ⟨"c", ["n1", "n2", "n3"]⟩ 8 1000) narrowing

/-- The peer that is still a member is named, since it was listed; the node that never was a member
has no mode. -/
theorem section_names_of_narrowed :
    (∀ t ∈ narrowed.1, t.operation.Foreign "n1") ∧ narrowed.2.members = ["n1", "n3"] ∧
      (narrowed.2.NamesStream "n3" ∧ LastListed "n3" narrowed.1) ∧
      ¬narrowed.2.NamesMode "gone" ∧ ¬HasMode "gone" narrowed.1 := by
  have foreign : ∀ t ∈ narrowed.1, t.operation.Foreign "n1" := by decide +kernel
  have named : narrowed.2.NamesStream "n3" := by decide +kernel
  have unnamed : ¬narrowed.2.NamesMode "gone" := by decide +kernel
  have listed := ((Course.start.pursue narrowing).section_names foreign "n3").1.1 named
  have dropped := mt ((Course.start.pursue narrowing).section_names foreign "gone").2.1.2 unnamed
  exact ⟨foreign, by decide +kernel, ⟨named, listed.2⟩, unnamed, dropped⟩

/-- The peer that is no member any more is named still: the section does not only name members. -/
theorem section_names_expelled :
    ¬∀ past r, Course (.new "n1" ⟨"c", ["n1", "n2", "n3"]⟩ 8 1000) past r → r.members ≠ [] →
      ∀ q, r.NamesStream q ∨ r.NamesMode q → q ∈ r.members := by
  intro only
  have named : narrowed.2.NamesStream "n2" ∨ narrowed.2.NamesMode "n2" := by decide +kernel
  have known : narrowed.2.members ≠ [] := by decide +kernel
  have gone : "n2" ∉ narrowed.2.members := by decide +kernel
  exact gone (only _ _ (Course.start.pursue narrowing) known "n2" named)

end Replica

end ClusterNode
