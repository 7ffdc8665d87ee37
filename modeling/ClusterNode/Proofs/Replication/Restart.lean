import ClusterNode.Proofs.Replication.Acknowledgement
import ClusterNode.Proofs.Replication.Course

/-!
# Nodes that are started anew

A node that is started anew counts its generations from the start again, and nothing in
a message tells which life of its sender made it. `Lives` is a group with that
knowledge beside it: the life of every node, of every message, and of what every copy
was taken from.

A peer that holds the copy of an earlier life can tell by the generations alone. So it
makes no change of a later life unless that life has itself reached the generation
after the one applied (`Lives.Run.change_follows`); once it has, the peer cannot tell
(`Lives.not_restartSafe`).
-/

namespace ClusterNode

/-- Whether a message brings everything its sender says. -/
def Message.bringsAll (m : Message) : Bool :=
  match m.body with
  | .full _ => true
  | _ => false

/-- What a peer holds of a node after changes of the node were made on it, in order. -/
def NodeData.replayed (node : String) : Option NodeData → List Delta → Option NodeData
  | copy, [] => copy
  | copy, d :: ds =>
    replayed node
      (some { (copy.getD default).mutateAll node d.mutations with generation := d.generation }) ds

namespace Replica

variable {r s t : Replica} {node : String}

/-- The copy and the generation applied of a node are as before. -/
def Holds (node : String) (r s : Replica) : Prop :=
  s.status.nodes.get? node = r.status.nodes.get? node ∧
    s.applied.get? node = r.applied.get? node

/-- Changes of a node that follow one another led its copy from one generation applied to
another one. -/
structure Led (node : String) (applied : Generation) (taken : List Delta) (last : Generation)
    (r s : Replica) : Prop where
  ascends : Ascends (applied.toNat + 1) (taken.map (·.generation)) last.toNat
  copy : s.status.nodes.get? node = NodeData.replayed node (r.status.nodes.get? node) taken
  applied : s.applied.get? node = some last

/-- A wish for everything leaves the copy. -/
theorem holds_requestFull (last received : Generation) :
    Holds node r (r.requestFull node last received) :=
  ⟨by rw [requestFull_nodes], by rw [requestFull_applied]⟩

/-- No change leads a copy nowhere. -/
theorem Led.refl {applied : Generation} (known : r.applied.get? node = some applied) :
    Led node applied [] applied r r :=
  ⟨rfl, rfl, known⟩

/-- What leaves the copy leads it no further. -/
theorem Led.holds {applied last : Generation} {taken : List Delta}
    (led : Led node applied taken last r s) (holds : Holds node s t) :
    Led node applied taken last r t :=
  ⟨led.ascends, holds.1.trans led.copy, holds.2.trans led.applied⟩

/-- A change that follows leads the copy before the later ones do. -/
theorem Led.follow {applied last : Generation} {taken : List Delta} {d : Delta}
    (below : applied < d.generation) (next : d.generation = applied + 1)
    (led : Led node d.generation taken last (r.follow node d.generation d.mutations) s) :
    Led node applied (d :: taken) last r s := by
  have successor : d.generation.toNat = applied.toNat + 1 := by
    rw [next] at below ⊢
    exact Generation.toNat_add_one below
  refine ⟨⟨successor, ?_⟩, ?_, led.applied⟩
  · rw [← successor]
    exact led.ascends
  · rw [led.copy, follow_get?_nodes]
    rfl

/-- A copy that is led to its own generation is as before. -/
theorem Led.unmoved {applied : Generation} {taken : List Delta}
    (known : r.applied.get? node = some applied)
    (led : Led node applied taken applied r s) : Holds node r s := by
  cases taken with
  | nil => exact ⟨led.copy, led.applied.trans known.symm⟩
  | cons d taken =>
    have below := (led.ascends.bounds (List.mem_cons_self ..)).1
    have above := (led.ascends.bounds (List.mem_cons_self ..)).2
    omega

/-- A copy is led forward only. -/
theorem Led.le {applied last : Generation} {taken : List Delta}
    (led : Led node applied taken last r s) : applied ≤ last := by
  have bound := led.ascends.first_le
  rw [UInt64.le_iff_toNat_le]
  omega

/-- The first change on a copy is the one that follows the generation applied. -/
theorem Led.first {applied last : Generation} {taken : List Delta}
    (led : Led node applied taken last r s) (moved : applied < last) :
    ∃ d ∈ taken, d.generation = applied + 1 := by
  have successor := Generation.toNat_add_one moved
  rw [UInt64.lt_iff_toNat_lt] at moved
  have member : applied + 1 ∈ taken.map (·.generation) :=
    led.ascends.mem_of_between (by omega) (by omega)
  obtain ⟨d, taken, same⟩ := List.mem_map.1 member
  exact ⟨d, taken, same⟩

/-- The changes of a patch lead the copy of a peer in step as far as they follow one
another. It is in step there, or everything is wanted. -/
theorem applyDeltas_led (deltas : List Delta) {applied : Generation} (other : node ≠ r.localhost)
    (sync : r.lastApplied? node = some applied) :
    ∃ taken last, taken.Sublist deltas ∧
      Led node applied taken last r (r.applyDeltas node deltas).1 ∧
      ((r.applyDeltas node deltas).1.resync.contains node = true ∨
        (r.applyDeltas node deltas).1.lastApplied? node = some last) := by
  induction deltas generalizing r applied with
  | nil => exact ⟨[], applied, .slnil, .refl ((lastApplied?_eq_some other).1 sync).2, .inr sync⟩
  | cons d ds ih =>
    rcases applyRemote_cases r node d.generation d.mutations with
      ⟨_, e, made, _⟩ | ⟨a, made, _⟩ | ⟨a, events, made, same, below, next⟩
    · simp only [applyDeltas, made]
      have start := Led.refl ((lastApplied?_eq_some other).1 sync).2
      exact ⟨[], applied, List.nil_sublist _, start.holds (holds_requestFull ..),
        .inl (requestFull_resync ..)⟩
    · simp only [applyDeltas, made]
      obtain ⟨taken, last, part, led, ends⟩ := ih other sync
      exact ⟨taken, last, part.cons d, led, ends⟩
    · cases sync.symm.trans same
      simp only [applyDeltas, made]
      have followed := follow_lastApplied? other sync d.generation d.mutations
      obtain ⟨taken, last, part, led, ends⟩ := ih (by simpa using other) followed
      exact ⟨d :: taken, last, part.cons_cons d, led.follow below next, ends⟩

/-- A patch that is not older than the copy of a peer in step leads the copy as far as its
changes follow one another, and leaves it in step with the patch or wanted in full. -/
theorem applyBody_patch_led {deltas : List Delta} {applied generation : Generation}
    (other : node ≠ r.localhost) (sync : r.lastApplied? node = some applied)
    (known : applied ≤ generation) :
    ∃ taken last, taken.Sublist deltas ∧
      Led node applied taken last r (r.applyBody node generation (.patch deltas)).1 ∧
      (last < generation →
        (r.applyBody node generation (.patch deltas)).1.resync.contains node = true) := by
  obtain ⟨taken, last, part, led, ends⟩ := applyDeltas_led deltas other sync
  refine ⟨taken, last, part, ?_⟩
  have other' := other
  rw [← applyDeltas_localhost r node deltas] at other'
  simp only [applyBody, sync, if_neg (UInt64.not_lt.2 known)]
  rcases ends with wanted | there
  · rw [lastApplied?_of_ne other', if_pos wanted]
    exact ⟨led, fun _ => wanted⟩
  · rw [there]
    by_cases behind : last < generation
    · simp only [if_pos behind]
      exact ⟨led.holds (holds_requestFull ..), fun _ => requestFull_resync ..⟩
    · simp only [if_neg behind]
      exact ⟨led, fun short => absurd short behind⟩

/-- What a message does to the copy of its sender. A message with everything replaces it; a
patch that is not older than the copy leads it by the changes that follow; any other message
leaves it, and the sender is wanted in full unless its generation is the one applied. -/
theorem applyBody_cases (other : node ≠ r.localhost) (generation : Generation)
    (body : Message.Body) :
    (∃ data, body = .full data ∧
      Filled node generation data (r.applyBody node generation body).1) ∨
    (∃ applied deltas taken last, body = .patch deltas ∧
      r.lastApplied? node = some applied ∧ applied ≤ generation ∧
      taken.Sublist deltas ∧ applied < last ∧
      Led node applied taken last r (r.applyBody node generation body).1 ∧
      (last < generation →
        (r.applyBody node generation body).1.resync.contains node = true)) ∨
    ((∀ data, body ≠ .full data) ∧ Holds node r (r.applyBody node generation body).1 ∧
      (r.lastApplied? node ≠ some generation →
        (r.applyBody node generation body).1.resync.contains node = true)) := by
  cases body with
  | full data => exact .inl ⟨data, rfl, applyFull_filled ..⟩
  | ping =>
    refine .inr (.inr ⟨by simp, ?_⟩)
    simp only [applyBody]
    split
    · exact ⟨holds_requestFull .., fun _ => requestFull_resync ..⟩
    · rename_i last sync
      split
      · exact ⟨holds_requestFull .., fun _ => requestFull_resync ..⟩
      · rename_i same
        refine ⟨⟨rfl, rfl⟩, fun behind => absurd ?_ behind⟩
        rw [sync, Decidable.not_not.1 same]
  | patch deltas =>
    refine .inr ?_
    cases sync : r.lastApplied? node with
    | none =>
      refine .inr ⟨by simp, ?_⟩
      simp only [applyBody, sync]
      exact ⟨holds_requestFull .., fun _ => requestFull_resync ..⟩
    | some applied =>
      by_cases older : generation < applied
      · refine .inr ⟨by simp, ?_⟩
        simp only [applyBody, sync, if_pos older]
        exact ⟨holds_requestFull .., fun _ => requestFull_resync ..⟩
      · have known := UInt64.not_lt.1 older
        obtain ⟨taken, last, part, led, short⟩ := applyBody_patch_led other sync known
        by_cases moved : applied < last
        · exact .inl ⟨applied, deltas, taken, last, rfl, rfl, known, part, moved, led, short⟩
        · have still : applied = last := UInt64.le_antisymm led.le (UInt64.not_lt.1 moved)
          subst still
          have holds := led.unmoved ((lastApplied?_eq_some other).1 sync).2
          refine .inr ⟨by simp, holds, fun different => ?_⟩
          exact short (UInt64.lt_of_le_of_ne known fun same => different (by rw [same]))

/-- After an own mutation the queue has nothing new but the own generation. -/
theorem mem_waiting_applyLocal (belongs : r.BelongsTo node) {m : Mutation} {g : Generation}
    (member : g ∈ (r.applyLocal m).1.waiting) :
    g ∈ r.waiting ∨ g = (r.applyLocal m).1.generation := by
  obtain ⟨rfl, _, d, own, formed⟩ := belongs
  rcases applyLocal_cases (m := m) own formed with ⟨_, same⟩ | ⟨changed, longer⟩
  · rw [waiting, same] at member
    exact .inl member
  · rw [← applyLocal_localhost r m] at changed
    rw [waiting, longer] at member
    obtain ⟨e, kept, rfl⟩ := List.mem_map.1 member
    rcases SortedMap.mem_insertEntry (List.mem_of_mem_drop kept) with rfl | before
    · exact .inr (generation_of_own changed).symm
    · exact .inl (List.mem_map_of_mem before)

/-- Making a message adds nothing to the queue. -/
theorem mem_waiting_buildMessage {now : Nat} {g : Generation}
    (member : g ∈ (r.buildMessage now).1.waiting) : g ∈ r.waiting := by
  rw [waiting, buildMessage_patchQueue] at member
  split at member
  · obtain ⟨e, kept, rfl⟩ := List.mem_map.1 member
    exact List.mem_map_of_mem (List.mem_filter.1 kept).1
  · exact member

/-- The changes of a message come from the queue. -/
theorem mem_waiting_of_sent {now : Nat} {deltas : List Delta}
    (body : (r.buildMessage now).2.body = .patch deltas) {d : Delta} (member : d ∈ deltas) :
    d.generation ∈ r.waiting := by
  rw [buildMessage_body] at body
  split at body
  · cases body
  · split at body
    · split at body
      · cases body
        obtain ⟨e, queued, rfl⟩ := List.mem_map.1 member
        exact List.mem_map_of_mem (List.mem_filter.1 queued).1
      · cases body
    · cases body

end Replica

/-- A group whose nodes are started anew at times, with what the messages do not tell. -/
structure Lives where
  group : Group
  /-- How often each node was started anew. -/
  life : String → Nat
  /-- Every message that was made, with the life of its sender at that time. -/
  made : List (Message × Nat)
  /-- The life of its owner that the copy of a node was taken from, at each peer. -/
  stem : String → String → Option Nat

namespace Lives

/-- A node replaces its replica. -/
def put (s : Lives) (node : String) (r : Replica) : Lives :=
  { s with group := s.group.put node r }

/-- A node makes its next message in its present life. -/
def send (s : Lives) (node : String) (r : Replica) : Lives :=
  let (group, m) := s.group.send node r
  { s with group, made := (m, s.life node) :: s.made }

/-- A message of some life arrives at a node; one that brings everything is what the
copy is taken from then. -/
def deliver (s : Lives) (node : String) (r : Replica) (m : Message) (life : Nat) : Lives :=
  { s with
    group := (s.group.deliver node r m).1
    stem := fun p n =>
      if p = node ∧ n = m.nodename ∧ r.listensTo n ∧ m.bringsAll then some life
      else s.stem p n }

/-- A node is started anew. -/
def restart (s : Lives) (node : String) (cluster : ClusterConfig) (limit timeout : Nat) :
    Lives :=
  { s with
    group := s.group.put node (.new node cluster limit timeout)
    life := fun n => if n = node then s.life n + 1 else s.life n
    stem := fun p n => if p = node then none else s.stem p n }

/-- What can happen in a group whose nodes are started anew at any moment. -/
inductive Step (s : Lives) : Lives → Prop where
  | applyLocal {node : String} {r : Replica} (m : Mutation) :
      s.group.get? node = some r → Step s (s.put node (r.applyLocal m).1)
  | setMode {node : String} {r : Replica} (peer : String) (mode : PeerMode) :
      s.group.get? node = some r → Step s (s.put node (r.setMode peer mode))
  | send {node : String} {r : Replica} : s.group.get? node = some r → Step s (s.send node r)
  | deliver {node : String} {r : Replica} {m : Message} {life : Nat} :
      s.group.get? node = some r → (m, life) ∈ s.made → Step s (s.deliver node r m life)
  | pass (ms : Nat) : Step s { s with group := s.group.pass ms }
  | restart {node : String} {r : Replica} (cluster : ClusterConfig) (limit timeout : Nat) :
      s.group.get? node = some r → Step s (s.restart node cluster limit timeout)

/-- Every node has just started, and nothing was sent. -/
structure Fresh (s : Lives) : Prop where
  group : s.group.Fresh
  silent : s.made = []
  empty : ∀ p n, s.stem p n = none

/-- A run with restarts: what it passed through, latest first, and what it has reached. -/
inductive Run (start : Lives) : List Lives → Lives → Prop where
  | start : Run start [start] start
  | step {past : List Lives} {s t : Lives} : Run start past s → Step s t → Run start (t :: past) t

/-- In the past a life of a node had a generation. -/
def Had (past : List Lives) (node : String) (life : Nat) (generation : Generation) : Prop :=
  ∃ s ∈ past, s.life node = life ∧ ∃ r, s.group.get? node = some r ∧ r.generation = generation

/-- A longer past has what was had before. -/
theorem Had.later {past : List Lives} {s : Lives} {node : String} {life : Nat}
    {generation : Generation} (had : Had past node life generation) :
    Had (s :: past) node life generation := by
  obtain ⟨t, member, rest⟩ := had
  exact ⟨t, List.mem_cons_of_mem _ member, rest⟩

/-- Every copy was taken from some life of its owner, and every change that waits or was
sent was made by the life that keeps or sent it. -/
structure Sound (past : List Lives) (s : Lives) : Prop where
  belongs : ∀ node r, s.group.get? node = some r → r.BelongsTo node
  copies : ∀ p r, s.group.get? p = some r → ∀ n a, r.applied.get? n = some a →
    ∃ origin, s.stem p n = some origin
  waiting : ∀ node r, s.group.get? node = some r → ∀ g ∈ r.waiting,
    Had past node (s.life node) g
  made : ∀ m life, (m, life) ∈ s.made → ∀ deltas, m.body = .patch deltas → ∀ d ∈ deltas,
    Had past m.nodename life d.generation

variable {start s t : Lives} {past : List Lives} {node : String} {r : Replica}

/-- A fresh group has nothing in its queues. -/
theorem Fresh.sound (fresh : Fresh start) : Sound [start] start where
  belongs node r here := by
    obtain ⟨cluster, limit, timeout, rfl⟩ := fresh.group.started node r here
    exact .new node cluster limit timeout
  copies node r here n a applied := by
    obtain ⟨cluster, limit, timeout, rfl⟩ := fresh.group.started node r here
    cases applied
  waiting node r here g member := by
    obtain ⟨cluster, limit, timeout, rfl⟩ := fresh.group.started node r here
    cases member
  made m life member := by
    rw [fresh.silent] at member
    cases member

/-- A sound state stays sound when one node replaces its replica, if what is said of a
replica is true of the new one. -/
theorem Sound.replace (sound : Sound past s) (belongs : r.BelongsTo node)
    (replicas : t.group.replicas = s.group.replicas.insert node r)
    (lives : ∀ n, n ≠ node → t.life n = s.life n)
    (stems : ∀ p n, p ≠ node → t.stem p n = s.stem p n)
    (copies : ∀ n a, r.applied.get? n = some a → ∃ origin, t.stem node n = some origin)
    (waiting : ∀ g ∈ r.waiting, Had (t :: past) node (t.life node) g)
    (made : ∀ m life, (m, life) ∈ t.made → ∀ deltas, m.body = .patch deltas → ∀ d ∈ deltas,
      Had past m.nodename life d.generation) : Sound (t :: past) t := by
  have cases {n : String} {u : Replica} (found : t.group.get? n = some u) :
      (n = node ∧ u = r) ∨ (n ≠ node ∧ s.group.get? n = some u) := by
    refine Group.get?_put_cases (g := s.group) ?_
    rw [Group.get?, replicas] at found
    exact found
  refine ⟨?_, ?_, ?_, ?_⟩
  · intro n u found
    rcases cases found with ⟨rfl, rfl⟩ | ⟨_, before⟩
    · exact belongs
    · exact sound.belongs n u before
  · intro p u found n a applied
    rcases cases found with ⟨rfl, rfl⟩ | ⟨other, before⟩
    · exact copies n a applied
    · rw [stems p n other]
      exact sound.copies p u before n a applied
  · intro n u found g member
    rcases cases found with ⟨rfl, rfl⟩ | ⟨other, before⟩
    · exact waiting g member
    · rw [lives n other]
      exact (sound.waiting n u before g member).later
  · intro m life member deltas body d change
    exact (made m life member deltas body d change).later

/-- A message brings no copy into being but one that is taken from the life that sent
everything. -/
theorem Sound.copies_deliver (sound : Sound past s) (here : s.group.get? node = some r)
    {m : Message} {life : Nat} {n : String} {a : Generation}
    (applied : (r.applyMessage m s.group.clock).1.applied.get? n = some a) :
    ∃ origin, (s.deliver node r m life).stem node n = some origin := by
  have frame := Replica.applyMessage_agrees r m s.group.clock (sound.belongs node r here).named
  -- A copy that was there before keeps an origin, whatever arrives.
  have kept {b : Generation} (before : r.applied.get? n = some b) :
      ∃ origin, (s.deliver node r m life).stem node n = some origin := by
    obtain ⟨origin, stem⟩ := sound.copies node r here n b before
    simp only [deliver]
    split
    · exact ⟨life, rfl⟩
    · exact ⟨origin, stem⟩
  by_cases sender : n = m.nodename
  · subst sender
    by_cases listens : r.listensTo m.nodename = true
    · have other := Replica.ne_of_listensTo listens
      rw [Replica.applyMessage_eq, if_pos listens] at applied
      rcases Replica.applyBody_cases (r := r.hear m s.group.clock) other m.generation m.body with
        ⟨data, body, _⟩ | ⟨b, _, _, _, _, sync, _⟩ | ⟨_, holds, _⟩
      · exact ⟨life, by simp [deliver, Message.bringsAll, body, listens]⟩
      · exact kept ((Replica.lastApplied?_eq_some other).1 sync).2
      · exact kept (holds.2.symm.trans applied)
    · rw [Replica.applyMessage_eq, if_neg listens] at applied
      exact kept applied
  · exact kept ((frame.applied n sender).symm.trans applied)

/-- One step keeps what waits or was sent to the life that made it. -/
theorem Sound.step (sound : Sound past s) (step : Step s t) : Sound (t :: past) t := by
  cases step with
  | @applyLocal node r m here =>
    have belongs := sound.belongs node r here
    refine sound.replace (belongs.applyLocal m) rfl (fun _ _ => rfl) (fun _ _ _ => rfl) ?_ ?_
      sound.made
    · intro n a applied
      rw [Replica.applyLocal_applied] at applied
      exact sound.copies node r here n a applied
    intro g member
    rcases Replica.mem_waiting_applyLocal belongs member with before | rfl
    · exact (sound.waiting node r here g before).later
    · exact ⟨_, List.mem_cons_self .., rfl, _, Group.get?_put_self .., rfl⟩
  | @setMode node r peer mode here =>
    refine sound.replace ((sound.belongs node r here).setMode peer mode) rfl (fun _ _ => rfl)
      (fun _ _ _ => rfl) ?_ ?_ sound.made
    · intro n a applied
      rw [Replica.setMode_applied] at applied
      exact sound.copies node r here n a applied
    · intro g member
      rw [Replica.waiting, Replica.setMode_patchQueue] at member
      exact (sound.waiting node r here g member).later
  | @send node r here =>
    have belongs := sound.belongs node r here
    refine sound.replace (belongs.buildMessage s.group.clock) rfl (fun _ _ => rfl)
      (fun _ _ _ => rfl) ?_ ?_ ?_
    · intro n a applied
      rw [Replica.buildMessage_applied] at applied
      exact sound.copies node r here n a applied
    · intro g member
      exact (sound.waiting node r here g (Replica.mem_waiting_buildMessage member)).later
    · intro m life member deltas body d change
      rcases List.mem_cons.1 member with same | before
      · obtain ⟨sent, present⟩ := Prod.mk.inj same
        have name : m.nodename = node := by
          rw [sent, ← belongs.localhost]
          exact Replica.buildMessage_nodename ..
        rw [sent] at body
        rw [name, present]
        exact sound.waiting node r here _ (Replica.mem_waiting_of_sent body change)
      · exact sound.made m life before deltas body d change
  | @deliver node r m life here _ =>
    have belongs := sound.belongs node r here
    have frame := Replica.applyMessage_agrees r m s.group.clock belongs.named
    refine sound.replace (belongs.applyMessage m s.group.clock) rfl (fun _ _ => rfl) ?_ ?_ ?_
      sound.made
    · intro p n other
      exact if_neg fun same => other same.1
    · intro n a applied
      exact sound.copies_deliver here applied
    · intro g member
      rw [Replica.waiting, frame.queue] at member
      exact (sound.waiting node r here g member).later
  | pass ms =>
    refine ⟨sound.belongs, sound.copies, ?_, ?_⟩
    · exact fun node r here g member => (sound.waiting node r here g member).later
    · exact fun m life member deltas body d change =>
        (sound.made m life member deltas body d change).later
  | @restart node r cluster limit timeout here =>
    refine sound.replace (.new node cluster limit timeout) rfl ?_ ?_ ?_ ?_ sound.made
    · intro n other
      exact if_neg other
    · intro p n other
      exact if_neg other
    · intro n a applied
      cases applied
    · intro g member
      cases member

/-- In a run with restarts every change belongs to the life that made it. -/
theorem Run.sound (run : Run start past s) (fresh : Fresh start) : Sound past s := by
  induction run with
  | start => exact fresh.sound
  | step _ step ih => exact ih.step step

/-! ## Runs that can be computed -/

/-- A thing that can happen in a group whose nodes are started anew. -/
inductive Move where
  | move (m : Group.Move)
  | restart (node : String) (cluster : ClusterConfig) (limit timeout : Nat)

/-- What a move leads to, if the move can be made. -/
def perform (s : Lives) : Move → Option Lives
  | .move (.change node m) => (s.group.get? node).map fun r => s.put node (r.applyLocal m).1
  | .move (.mode node peer mode) =>
    (s.group.get? node).map fun r => s.put node (r.setMode peer mode)
  | .move (.send node) => (s.group.get? node).map fun r => s.send node r
  | .move (.take node place) => do
    let r ← s.group.get? node
    let (m, life) ← s.made[place]?
    some (s.deliver node r m life)
  | .move (.pass ms) => some { s with group := s.group.pass ms }
  | .restart node cluster limit timeout =>
    (s.group.get? node).map fun _ => s.restart node cluster limit timeout

/-- A move is a step. -/
theorem step_of_perform {move : Move} (made : s.perform move = some t) : Step s t := by
  cases move with
  | move m =>
    cases m with
    | change node m =>
      obtain ⟨r, here, rfl⟩ := Option.map_eq_some_iff.1 made
      exact .applyLocal m here
    | mode node peer mode =>
      obtain ⟨r, here, rfl⟩ := Option.map_eq_some_iff.1 made
      exact .setMode peer mode here
    | send node =>
      obtain ⟨r, here, rfl⟩ := Option.map_eq_some_iff.1 made
      exact .send here
    | take node place =>
      obtain ⟨r, here, made⟩ := Option.bind_eq_some_iff.1 made
      obtain ⟨⟨m, life⟩, sent, made⟩ := Option.bind_eq_some_iff.1 made
      cases made
      exact .deliver here (List.mem_of_getElem? sent)
    | pass ms =>
      cases made
      exact .pass ms
  | restart node cluster limit timeout =>
    obtain ⟨r, here, rfl⟩ := Option.map_eq_some_iff.1 made
    exact .restart cluster limit timeout here

/-- The run that moves make, unless one cannot be made. -/
def replay (past : List Lives) (s : Lives) : List Move → Option (List Lives × Lives)
  | [] => some (past, s)
  | move :: moves => do
    let t ← s.perform move
    replay (t :: past) t moves

/-- What is replayed is a run. -/
theorem run_of_replay (run : Run start past s) {moves : List Move} {later : List Lives × Lives}
    (made : replay past s moves = some later) : Run start later.1 later.2 := by
  induction moves generalizing past s with
  | nil =>
    cases made
    exact run
  | cons move moves ih =>
    obtain ⟨t, performed, made⟩ := Option.bind_eq_some_iff.1 made
    exact ih (run.step (step_of_perform performed)) made

/-! ## What a peer can tell -/

/-- What a message of some life of a node does at a peer. If it brings everything, the copy
and the generation applied become those of the message, and the copy is one of its life. If
the peer is in step with a copy of some life, and the message is a patch that is not older,
the changes of the patch that follow one another from the generation applied on are made on
the copy, each of a generation that the life of the message has itself had, and everything
is wanted if they end before the generation of the message. Otherwise the message does not
bring everything, the copy is left, and everything is wanted unless the generation of the
message is the one applied. -/
theorem Run.change_follows (run : Run start past s) (fresh : Fresh start) {p : String}
    (here : s.group.get? p = some r) {m : Message} {life : Nat} (made : (m, life) ∈ s.made)
    (listens : r.listensTo m.nodename = true) :
    (∃ data, m.body = .full data ∧
      Replica.Filled m.nodename m.generation data (r.applyMessage m s.group.clock).1 ∧
      (s.deliver p r m life).stem p m.nodename = some life) ∨
    (∃ origin applied deltas taken last, s.stem p m.nodename = some origin ∧
      r.lastApplied? m.nodename = some applied ∧ m.body = .patch deltas ∧
      applied ≤ m.generation ∧ taken.Sublist deltas ∧ applied < last ∧
      Replica.Led m.nodename applied taken last r (r.applyMessage m s.group.clock).1 ∧
      Had past m.nodename life (applied + 1) ∧
      (∀ d ∈ taken, Had past m.nodename life d.generation) ∧
      (last < m.generation →
        (r.applyMessage m s.group.clock).1.resync.contains m.nodename = true)) ∨
    (m.bringsAll = false ∧ Replica.Holds m.nodename r (r.applyMessage m s.group.clock).1 ∧
      (r.lastApplied? m.nodename ≠ some m.generation →
        (r.applyMessage m s.group.clock).1.resync.contains m.nodename = true)) := by
  have sound := run.sound fresh
  have other := Replica.ne_of_listensTo listens
  rw [Replica.applyMessage_eq, if_pos listens]
  rcases Replica.applyBody_cases (r := r.hear m s.group.clock) other m.generation m.body with
    ⟨data, body, filled⟩ |
    ⟨applied, deltas, taken, last, body, sync, known, part, moved, led, short⟩ |
    ⟨partly, holds, wanted⟩
  · refine .inl ⟨data, body, ⟨filled.node, filled.applied, filled.resync⟩, ?_⟩
    simp [deliver, Message.bringsAll, body, listens]
  · have held := ((Replica.lastApplied?_eq_some other).1 sync).2
    obtain ⟨origin, stem⟩ := sound.copies p r here m.nodename applied held
    -- Every change that was made on the copy is one of the message, and so of its life.
    have had : ∀ d ∈ taken, Had past m.nodename life d.generation :=
      fun d member => sound.made m life made deltas body d (part.subset member)
    obtain ⟨first, member, next⟩ := led.first moved
    refine .inr (.inl ⟨origin, applied, deltas, taken, last, stem, sync, body, known, part, moved,
      ⟨led.ascends, led.copy, led.applied⟩, ?_, had, short⟩)
    rw [← next]
    exact had first member
  · refine .inr (.inr ⟨?_, holds, wanted⟩)
    cases body : m.body with
    | full data => exact absurd body (partly data)
    | patch | ping => simp [Message.bringsAll, body]

/-- Two members in their first lives. -/
def pair : Lives := ⟨Group.pair, fun _ => 0, [], fun _ _ => none⟩

/-- Two members that have just started are fresh. -/
theorem pair_fresh : Fresh pair :=
  ⟨Group.started_fresh .., rfl, fun _ _ => rfl⟩

/-- A change of the configuration of an object. -/
def configure (name : String) : Move :=
  .move (.change "n1" (.setConfig ⟨"root", .svc, name⟩ ⟨"", .epoch, ["n1"], "n1"⟩))

/-- The first node makes a change, hears from the second one, and makes a message. -/
def answered : List Lives × Lives :=
  (replay [pair] pair [
    configure "web", .move (.send "n2"), .move (.take "n1" 0), .move (.send "n1")]).get (by decide)

/-- The second node takes the message. The first one is started anew and makes two changes,
hears from the second one, and makes a message. -/
def overtaken : List Lives × Lives :=
  (replay answered.1 answered.2 [
    .move (.take "n2" 0),
    .restart "n1" ⟨"c", ["n1", "n2"]⟩ 100 1000, configure "db", configure "app",
    .move (.send "n2"), .move (.take "n1" 0), .move (.send "n1")]).get (by decide)

/-- The message of the first life. -/
def answer : Message := (answered.2.made.get ⟨0, by decide⟩).1

/-- The message of the second life. -/
def overtaking : Message := (overtaken.2.made.get ⟨0, by decide⟩).1

/-- What the second node holds after a message. -/
def heeding (s : Lives) (m : Message) : Replica :=
  ((s.group.replicaD "n2").applyMessage m s.group.clock).1

/-- The message of the first life replaces what the second node holds of the first one. The
second life had the generation after the one applied by then, so the second node makes its
change on the copy of the first life, and misses the change before it. -/
theorem change_follows_of_overtaken :
    (∃ data, answer.body = .full data ∧
      Replica.Filled "n1" 2 data (answered.2.heeding answer) ∧
      (answered.2.deliver "n2" (answered.2.group.replicaD "n2") answer 0).stem "n2" "n1" =
        some 0) ∧
    (∃ origin applied deltas taken last, overtaken.2.stem "n2" "n1" = some origin ∧
      (overtaken.2.group.replicaD "n2").lastApplied? "n1" = some applied ∧
      overtaking.body = .patch deltas ∧ applied ≤ 3 ∧ taken.Sublist deltas ∧ applied < last ∧
      Replica.Led "n1" applied taken last (overtaken.2.group.replicaD "n2")
        (overtaken.2.heeding overtaking) ∧
      Had overtaken.1 "n1" 1 (applied + 1) ∧ (∀ d ∈ taken, Had overtaken.1 "n1" 1 d.generation) ∧
      (last < 3 → (overtaken.2.heeding overtaking).resync.contains "n1" = true)) ∧
    (overtaken.2.heeding overtaking).applied.get? "n1" = some 3 ∧
    ((overtaken.2.heeding overtaking).status.nodes.get? "n1").map (·.instances.keys) =
      some ["app", "web"] := by
  have before : Run pair answered.1 answered.2 := run_of_replay .start (Option.some_get _).symm
  have run : Run pair overtaken.1 overtaken.2 := run_of_replay before (Option.some_get _).symm
  refine ⟨?_, ?_, by decide, by decide⟩
  · have unknown : (answered.2.group.replicaD "n2").lastApplied? "n1" = none := by decide
    rcases before.change_follows pair_fresh
      (by decide : answered.2.group.get? "n2" = some (answered.2.group.replicaD "n2"))
      (by decide : (answer, 0) ∈ answered.2.made) (by decide) with
      full | ⟨_, _, _, _, _, _, sync, _⟩ | ⟨partly, _⟩
    · exact full
    · cases unknown.symm.trans sync
    · exact absurd partly (by decide)
  · have partly : overtaking.bringsAll = false := by decide
    rcases run.change_follows pair_fresh
      (by decide : overtaken.2.group.get? "n2" = some (overtaken.2.group.replicaD "n2"))
      (by decide : (overtaking, 1) ∈ overtaken.2.made) (by decide) with
      ⟨_, body, _⟩ | led | ⟨_, holds, _⟩
    · simp [Message.bringsAll, body] at partly
    · exact led
    · exact absurd holds.2 (by decide)

/-- No change of a later life is made on a copy that was taken from an earlier one. -/
def RestartSafe : Prop :=
  ∀ start past s, Run start past s → Fresh start →
    ∀ p r m life origin, s.group.get? p = some r → (m, life) ∈ s.made →
      r.listensTo m.nodename = true → s.stem p m.nodename = some origin → origin < life →
      m.bringsAll = false →
      Replica.Holds m.nodename r (r.applyMessage m s.group.clock).1

/-- A life that has overtaken the generation that a peer applied of an earlier one is
taken for it: its next change is made on the copy of the earlier life. -/
theorem not_restartSafe : ¬ RestartSafe := by
  intro safe
  have before : Run pair answered.1 answered.2 := run_of_replay .start (Option.some_get _).symm
  have run : Run pair overtaken.1 overtaken.2 := run_of_replay before (Option.some_get _).symm
  have here : overtaken.2.group.get? "n2" = some (overtaken.2.group.replicaD "n2") := by decide
  have holds := safe pair _ _ run pair_fresh "n2" _ overtaking 1 0 here (by decide) (by decide)
    (by decide) (by decide) (by decide)
  have applied : ((overtaken.2.group.replicaD "n2").applyMessage overtaking
      overtaken.2.group.clock).1.applied.get? "n1" ≠
      (overtaken.2.group.replicaD "n2").applied.get? "n1" := by decide
  exact applied holds.2

end Lives

end ClusterNode
