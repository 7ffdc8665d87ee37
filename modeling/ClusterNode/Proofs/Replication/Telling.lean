import ClusterNode.Proofs.Replication.Operations
import ClusterNode.Proofs.Replication.Records

/-!
# A store tells of every change of its records

Whoever hears all that a store publishes knows the records that it holds: `Replica.call`
is any of the calls that change records, and replaying what it returns on the records
before gives the records after it, each event a real change when its turn comes.

Differences pass over a key that is no written object path, so that the keys of the tree
and of everything that a peer sends are asked to be written paths; mutations of written
paths keep them so.
-/

namespace ClusterNode

/-- What a message brings has written paths for keys. -/
def Message.Body.Keyed : Message.Body → Prop
  | .full data => data.Keyed
  | _ => True

/-- What a message brings has written paths for keys, and its mutations are about paths that
their written forms name. -/
def Message.Body.Named : Message.Body → Prop
  | .full data => data.Keyed
  | .patch deltas => ∀ d ∈ deltas, ∀ m ∈ d.mutations, m.path.PrintsBack
  | .ping => True

instance (body : Message.Body) : Decidable body.Keyed :=
  match body with
  | .full data => inferInstanceAs (Decidable data.Keyed)
  | .patch _ | .ping => isTrue trivial

namespace Replica

/-- The records of all instances that a replica holds. -/
def records (r : Replica) : Records := r.status.records

/-- The keys of the tree are written object paths. -/
def Keyed (r : Replica) : Prop := ∀ node d, r.status.nodes.get? node = some d → d.Keyed

instance (r : Replica) : Decidable r.Keyed := inferInstanceAs (Decidable (∀ _ _, _ → _))

/-- The announcements that wait tell of no record. -/
def Silent (r : Replica) : Prop := ∀ p ∈ r.pending, p.event.change? = none

instance (r : Replica) : Decidable r.Silent := inferInstanceAs (Decidable (∀ _ ∈ _, _))

variable {r s : Replica} {node : String}

/-- The subtree of a node, or an empty one, has written keys. -/
theorem Keyed.nodeD (keyed : r.Keyed) (node : String) : (r.status.nodeD node).Keyed := by
  unfold ClusterStatus.nodeD
  cases found : r.status.nodes.get? node with
  | none => exact fun key i there => by cases there
  | some d => exact keyed node d found

/-- Where the tree of nodes is the same the records are. -/
theorem records_of_nodes (nodes : s.status.nodes = r.status.nodes) : s.records = r.records := by
  funext node key
  simp only [records, ClusterStatus.records, ClusterStatus.nodeD, nodes]

/-- The generation of a subtree is no record. -/
theorem records_withGeneration (status : ClusterStatus) (node : String) {generation : Generation}
    (nodes : s.status.nodes = status.nodes.insert node { status.nodeD node with generation }) :
    s.records = status.records := by
  unfold records
  rw [ClusterStatus.records_of_nodes nodes]
  funext node' key
  simp only [Records.setNode]
  split
  · rename_i same
    simp only [same, ClusterStatus.records, NodeData.instanceD]
  · rfl

/-- A request for everything leaves the records. -/
theorem requestFull_records (last received : Generation) :
    (r.requestFull node last received).records = r.records :=
  records_of_nodes (requestFull_nodes ..)

/-! ## Own changes -/

/-- An own mutation does to the records what it does in the tree. -/
theorem records_applyLocal (r : Replica) (m : Mutation) :
    (r.applyLocal m).1.records = (r.status.mutate r.localhost m).1.records := by
  simp only [applyLocal]
  split
  · rfl
  · exact records_withGeneration (r.status.mutate r.localhost m).1 r.localhost rfl

/-- The events of an own mutation tell of what it does to the records. -/
theorem applyLocal_tells (r : Replica) (m : Mutation) :
    r.records.Tells (r.applyLocal m).2 (r.applyLocal m).1.records := by
  have told := ClusterStatus.mutate_tells r.status r.localhost m
  rw [records_applyLocal]
  simp only [applyLocal]
  split
  · rename_i silent
    rw [List.isEmpty_iff.1 silent] at told
    exact told
  · exact told

/-! ## Changes of peers -/

/-- The events of one generation of a peer tell of what it does to the records; a refusal
changes none. -/
theorem applyRemote_tells (r : Replica) (node : String) (generation : Generation)
    (ms : List Mutation) :
    match r.applyRemote node generation ms with
    | (s, .ok events) => r.records.Tells events s.records
    | (s, .error _) => s.records = r.records := by
  cases known : r.lastApplied? node with
  | none =>
    simp only [applyRemote, known]
    exact requestFull_records ..
  | some last =>
    simp only [applyRemote, known]
    by_cases repeated : generation ≤ last
    · simp only [if_pos repeated]
      exact Records.tells_nil
    · simp only [if_neg repeated]
      by_cases follows : generation = last + 1
      · simp only [follows, ne_eq, not_true_eq_false, if_false]
        rw [records_withGeneration (r.status.mutateAll node ms).1 node (s := refreshGens _) rfl]
        exact ClusterStatus.mutateAll_tells r.status node ms
      · simp only [ne_eq, follows, not_false_eq_true, if_true]
        exact requestFull_records ..

/-- The events of everything that a peer says tell how its records became what they are. -/
theorem applyFull_tells (generation : Generation) {data : NodeData} (keyed : r.Keyed)
    (keyed' : data.Keyed) :
    r.records.Tells (r.applyFull node generation data).2
      (r.applyFull node generation data).1.records := by
  have told := NodeData.difference_tells (t := r.records) rfl (keyed.nodeD node)
    (show NodeData.Keyed { data.publishedBy node with generation } from keyed'.publishedBy node)
  have after : (r.applyFull node generation data).1.records =
      r.records.setNode node (NodeData.instanceD { data.publishedBy node with generation }) :=
    ClusterStatus.records_of_nodes rfl
  rw [after]
  exact told

/-- The events of what a message brings tell of what it does to the records. -/
theorem applyBody_tells (node : String) (generation : Generation) {body : Message.Body}
    (keyed : r.Keyed) (keyed' : body.Keyed) :
    r.records.Tells (r.applyBody node generation body).2
      (r.applyBody node generation body).1.records := by
  apply applyBody_induction (motive := fun s events => r.records.Tells events s.records)
  · intro s events last received told
    rw [requestFull_records]
    exact told
  · intro deltas _ d _ s events a told known below next
    have made := applyRemote_tells s node d.generation d.mutations
    rw [applyRemote_next known below next] at made
    exact told.append made
  · rintro data rfl
    exact applyFull_tells generation keyed keyed'
  · exact Records.tells_nil

/-! ## What is no record -/

/-- A new node has nothing to announce. -/
theorem silent_new (localhost : String) (cluster : ClusterConfig) (limit timeout : Nat) :
    (Replica.new localhost cluster limit timeout).Silent :=
  fun _ waits => by cases waits

/-- The aggregates are left, and nothing that waits begins to tell of records. -/
structure Spares (r s : Replica) : Prop where
  objects : s.status.objects = r.status.objects
  silent : r.Silent → s.Silent

/-- Where the aggregates and what waits are the same, both are spared. -/
theorem spares_of_eq (objects : s.status.objects = r.status.objects)
    (pending : s.pending = r.pending) : r.Spares s where
  objects := objects
  silent silent := by
    unfold Silent
    rw [pending]
    exact silent

/-- What is spared twice is spared. -/
theorem Spares.trans {t : Replica} (first : r.Spares s) (second : s.Spares t) : r.Spares t where
  objects := second.objects.trans first.objects
  silent silent := second.silent (first.silent silent)

/-- A wish for everything is about no record. -/
theorem requestFull_spares (r : Replica) (node : String) (last received : Generation) :
    r.Spares (r.requestFull node last received) := by
  unfold requestFull
  split
  · exact spares_of_eq rfl rfl
  · refine ⟨rfl, fun silent p waits => ?_⟩
    rcases List.mem_append.1 waits with before | new
    · exact silent p before
    · cases List.mem_singleton.1 new
      rfl

/-- An own mutation spares the aggregates and what waits. -/
theorem applyLocal_spares (r : Replica) (m : Mutation) : r.Spares (r.applyLocal m).1 := by
  simp only [applyLocal]
  split
  · exact spares_of_eq (ClusterStatus.mutate_objects ..) rfl
  · exact spares_of_eq (ClusterStatus.mutate_objects ..) rfl

/-- The changes of a peer spare the aggregates and what waits. -/
theorem applyRemote_spares (r : Replica) (node : String) (generation : Generation)
    (ms : List Mutation) : r.Spares (r.applyRemote node generation ms).1 := by
  apply applyRemote_induction (motive := r.Spares)
  · exact requestFull_spares r node
  · exact spares_of_eq (ClusterStatus.mutateAll_objects ..) rfl
  · exact spares_of_eq rfl rfl

/-- What a message brings spares the aggregates and what waits. -/
theorem applyBody_spares (r : Replica) (node : String) (generation : Generation)
    (body : Message.Body) : r.Spares (r.applyBody node generation body).1 := by
  apply applyBody_induction (motive := fun s _ => r.Spares s)
  · intro s _ last received spares
    exact spares.trans (requestFull_spares ..)
  · intro deltas _ d _ s _ a spares _ _ _
    exact spares.trans (spares_of_eq (ClusterStatus.mutateAll_objects ..) rfl)
  · intro data _
    exact spares_of_eq rfl rfl
  · exact spares_of_eq rfl rfl

/-- A message spares the aggregates and what waits. -/
theorem applyMessage_spares (r : Replica) (m : Message) (now : Nat) :
    r.Spares (r.applyMessage m now).1 := by
  rw [applyMessage_eq]
  split
  · have heard : r.Spares (r.hear m now) := spares_of_eq rfl rfl
    exact ⟨(heard.trans (applyBody_spares ..)).objects, fun _ _ waits => by cases waits⟩
  · exact spares_of_eq rfl rfl

/-! ## Calls -/

/-- The events of a message, with those that waited, tell of what it does to the records. -/
theorem applyMessage_tells {m : Message} (now : Nat) (keyed : r.Keyed) (silent : r.Silent)
    (keyed' : r.listensTo m.nodename = true → m.body.Keyed) :
    r.records.Tells (r.applyMessage m now).2 (r.applyMessage m now).1.records := by
  unfold applyMessage
  split
  · rename_i listens
    have heard : (r.hear m now).Silent := silent
    have told : (r.hear m now).records.Tells _ _ :=
      applyBody_tells m.nodename m.generation keyed (keyed' listens)
    exact told.append
      (Records.tells_of_silent
        ((applyBody_spares _ m.nodename m.generation m.body).silent heard))
  · exact Records.tells_nil

/-- A call of the store that can change records. -/
inductive Call where
  | applyLocal (m : Mutation)
  | applyRemote (node : String) (generation : Generation) (ms : List Mutation)
  | applyFull (node : String) (generation : Generation) (data : NodeData)
  | applyMessage (m : Message) (now : Nat)
  deriving DecidableEq

/-- What a call brings of a peer's subtree has written paths for keys. -/
def Call.Keyed : Call → Prop
  | .applyFull _ _ data => data.Keyed
  | .applyMessage m _ => m.body.Keyed
  | _ => True

instance (c : Call) : Decidable c.Keyed :=
  match c with
  | .applyFull _ _ data => inferInstanceAs (Decidable data.Keyed)
  | .applyMessage m _ => inferInstanceAs (Decidable m.body.Keyed)
  | .applyLocal _ | .applyRemote .. => isTrue trivial

/-- The replica after a call and the events that the call returns, none if it is refused. -/
def call (r : Replica) : Call → Replica × List Publication
  | .applyLocal m => r.applyLocal m
  | .applyRemote node generation ms =>
    match r.applyRemote node generation ms with
    | (s, .ok events) => (s, events)
    | (s, .error _) => (s, [])
  | .applyFull node generation data => r.applyFull node generation data
  | .applyMessage m now => r.applyMessage m now

/-- The events of a call tell of what it does to the records. -/
theorem call_tells {c : Call} (keyed : r.Keyed) (silent : r.Silent) (keyed' : c.Keyed) :
    r.records.Tells (r.call c).2 (r.call c).1.records := by
  cases c with
  | applyLocal m => exact applyLocal_tells r m
  | applyRemote node generation ms =>
    have told := applyRemote_tells r node generation ms
    simp only [call]
    split <;> rename_i made <;> simp only [made] at told
    · exact told
    · rw [told]
      exact Records.tells_nil
  | applyFull node generation data => exact applyFull_tells generation keyed keyed'
  | applyMessage m now => exact applyMessage_tells now keyed silent fun _ => keyed'

/-! ## Keys -/

/-- A subtree that is replaced by one with written keys keeps the keys of the tree written. -/
theorem Keyed.insert {d : NodeData} (keyed : r.Keyed) (keyed' : d.Keyed)
    (nodes : s.status.nodes = r.status.nodes.insert node d) : s.Keyed := by
  intro node' d' found
  rw [nodes, SortedMap.get?_insert] at found
  split at found
  · cases found
    exact keyed'
  · exact keyed node' d' found

/-- Where the tree of nodes is the same the keys stay written. -/
theorem Keyed.of_nodes (keyed : r.Keyed) (same : s.status.nodes = r.status.nodes) : s.Keyed := by
  unfold Keyed
  rw [same]
  exact keyed

/-- The generation of a subtree is no key. -/
theorem Keyed.withGeneration (keyed : r.Keyed) (node : String) {generation : Generation}
    (nodes : s.status.nodes = r.status.nodes.insert node
      { r.status.nodeD node with generation }) : s.Keyed :=
  keyed.insert (d := { r.status.nodeD node with generation }) (keyed.nodeD node) nodes

/-- An own mutation about a path that prints back keeps the keys written. -/
theorem Keyed.applyLocal (keyed : r.Keyed) {m : Mutation} (back : m.path.PrintsBack) :
    (r.applyLocal m).1.Keyed := by
  have made : Keyed { r with status := (r.status.mutate r.localhost m).1 } :=
    keyed.insert ((keyed.nodeD r.localhost).mutate back) (ClusterStatus.mutate_nodes ..)
  simp only [Replica.applyLocal]
  split
  · exact made
  · exact made.withGeneration r.localhost rfl

/-- Changes of a peer about paths that print back keep the keys written. -/
theorem Keyed.follow (keyed : r.Keyed) (node : String) (generation : Generation)
    {ms : List Mutation} (back : ∀ m ∈ ms, m.path.PrintsBack) :
    (r.follow node generation ms).Keyed := by
  intro other d found
  by_cases same : other = node
  · rw [same, follow_get?_nodes] at found
    cases found
    exact (keyed.nodeD node).mutateAll back
  · simp only [Replica.follow, refreshGens_nodes, SortedMap.get?_insert_of_ne _ _ same,
      ClusterStatus.get?_mutateAll_of_ne r.status ms same] at found
    exact keyed other d found

/-- A request for everything keeps the keys written. -/
theorem Keyed.requestFull (keyed : r.Keyed) (node : String) (last received : Generation) :
    (r.requestFull node last received).Keyed :=
  keyed.of_nodes (requestFull_nodes ..)

/-- Refused or not, changes about paths that print back keep the keys written. -/
theorem Keyed.applyRemote (keyed : r.Keyed) (node : String) (generation : Generation)
    {ms : List Mutation} (back : ∀ m ∈ ms, m.path.PrintsBack) :
    (r.applyRemote node generation ms).1.Keyed := by
  apply applyRemote_induction (motive := Keyed)
  · exact keyed.requestFull node
  · exact keyed.follow node generation back
  · exact keyed

/-- Everything of a peer keeps the keys written if its own are. -/
theorem Keyed.applyFull (keyed : r.Keyed) (node : String) (generation : Generation)
    {data : NodeData} (keyed' : data.Keyed) : (r.applyFull node generation data).1.Keyed :=
  keyed.insert (d := { data.publishedBy node with generation }) (keyed'.publishedBy node) rfl

/-- What a message brings keeps the keys written if it is named so. -/
theorem Keyed.applyBody (keyed : r.Keyed) (node : String) (generation : Generation)
    {body : Message.Body} (named : body.Named) : (r.applyBody node generation body).1.Keyed := by
  apply applyBody_induction (motive := fun s _ => s.Keyed)
  · intro s _ last received keyed
    exact keyed.requestFull node last received
  · rintro deltas rfl d member s _ a keyed _ _ _
    exact keyed.follow node d.generation (named d member)
  · rintro data rfl
    exact keyed.applyFull node generation named
  · exact keyed

/-! ## Calls one after the other -/

/-- What a call brings is about paths that their written forms name. -/
def Call.Named : Call → Prop
  | .applyLocal m => m.path.PrintsBack
  | .applyRemote _ _ ms => ∀ m ∈ ms, m.path.PrintsBack
  | .applyFull _ _ data => data.Keyed
  | .applyMessage m _ => m.body.Named

/-- A call about paths that print back brings written keys. -/
theorem Call.Named.keyed {c : Call} (named : c.Named) : c.Keyed := by
  cases c with
  | applyMessage m now =>
    change m.body.Keyed
    change m.body.Named at named
    cases body : m.body with
    | full data => rw [body] at named; exact named
    | patch | ping => trivial
  | applyFull => exact named
  | applyLocal | applyRemote => trivial

/-- A call keeps the keys written and what waits silent. -/
theorem keeps_call {c : Call} (keyed : r.Keyed) (silent : r.Silent) (named : c.Named) :
    (r.call c).1.Keyed ∧ (r.call c).1.Silent := by
  cases c with
  | applyLocal m =>
    exact ⟨keyed.applyLocal named, (applyLocal_spares r m).silent silent⟩
  | applyRemote node generation ms =>
    have keyed' := keyed.applyRemote node generation named
    have silent' := (applyRemote_spares r node generation ms).silent silent
    simp only [call]
    split <;> rename_i made <;> rw [made] at keyed' silent' <;> exact ⟨keyed', silent'⟩
  | applyFull node generation data =>
    exact ⟨keyed.applyFull node generation named, silent⟩
  | applyMessage m now =>
    refine ⟨?_, (applyMessage_spares r m now).silent silent⟩
    simp only [call, applyMessage_eq]
    split
    · have heard : (r.hear m now).Keyed := keyed
      exact heard.applyBody m.nodename m.generation named
    · exact keyed

/-- The replica after calls, made in order. -/
def callAll (r : Replica) (cs : List Call) : Replica := cs.foldl (fun r c => (r.call c).1) r

/-- Any number of calls keep the keys written and what waits silent. -/
theorem keeps_callAll {cs : List Call} (keyed : r.Keyed) (silent : r.Silent)
    (named : ∀ c ∈ cs, c.Named) : (r.callAll cs).Keyed ∧ (r.callAll cs).Silent := by
  induction cs generalizing r with
  | nil => exact ⟨keyed, silent⟩
  | cons c cs ih =>
    obtain ⟨keyed', silent'⟩ := keeps_call keyed silent (named c (List.mem_cons_self ..))
    exact ih keyed' silent' fun c later => named c (List.mem_cons_of_mem _ later)

/-! ## The records after a call -/

/-- The events that a call returns, replayed in order on the records before it, give the
records after it; a value that they set is another one than before, and a record that they
delete was there. What waits to be announced is never of a record, from the start on and after
any calls: `silent_new` and `keeps_callAll`. -/
theorem replay_call {c : Call} (keyed : r.Keyed) (silent : r.Silent) (keyed' : c.Keyed) :
    r.records.replay (r.call c).2 = (r.call c).1.records ∧ r.records.Genuine (r.call c).2 :=
  ⟨(call_tells keyed silent keyed').replay, (call_tells keyed silent keyed').genuine⟩

/-- A peer brings a configuration and a status. -/
def filled : Call :=
  let config : InstanceConfig := { (default : InstanceConfig) with scope := ["n2"] }
  let instances : SortedMap String Instance :=
    (∅ : SortedMap String Instance).insert "web" ⟨some config, some default, none⟩
  .applyFull "n2" 1 ⟨1, instances⟩

/-- A replica that holds a configuration and a status of a peer. -/
def ofPeer : Replica := (Replica.new "n1" ⟨"c", []⟩ 8 1000).callAll [filled]

/-- A message by which the peer has nothing any more. -/
def emptied : Call := .applyMessage ⟨"n2", 2, ∅, .full ⟨2, ∅⟩⟩ 0

/-- Both records are told of. -/
theorem replay_call_of_emptied :
    (ofPeer.Keyed ∧ ofPeer.Silent ∧ emptied.Keyed) ∧ (ofPeer.call emptied).2.length = 2 ∧
      ofPeer.records.replay (ofPeer.call emptied).2 = (ofPeer.call emptied).1.records ∧
      ofPeer.records.Genuine (ofPeer.call emptied).2 := by
  have filled_named : filled.Named := (by decide +kernel : filled.Keyed)
  have keyed_new : (Replica.new "n1" ⟨"c", []⟩ 8 1000).Keyed := by decide +kernel
  obtain ⟨keyed, silent⟩ : ofPeer.Keyed ∧ ofPeer.Silent :=
    keeps_callAll keyed_new (silent_new _ _ _ _) (by simpa using filled_named)
  have emptied_named : emptied.Named := (by decide +kernel : (⟨2, ∅⟩ : NodeData).Keyed)
  have keyed' := emptied_named.keyed
  exact ⟨⟨keyed, silent, keyed'⟩, by decide +kernel, replay_call keyed silent keyed'⟩

end Replica

end ClusterNode
