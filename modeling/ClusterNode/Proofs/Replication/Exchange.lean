import ClusterNode.Proofs.Replication.Acknowledgement
import ClusterNode.Proofs.Replication.History

/-!
# Exchanges of messages

In an exchange every peer of a node makes a message that the node takes
(`Group.Gathers`), and then the node makes one that every peer takes
(`Group.Spreads`). Whatever happened before, every peer then holds what the node holds.

Each half has an invariant that one step keeps: `Group.Gathering` says which peers the
node has heard in this exchange, `Group.Spreading` which peers it has brought up.
-/

namespace ClusterNode

namespace Group

variable {start g h k : Group} {past : List Group} {node p : String} {r : Replica} {m : Message}

/-- Every node knows no members, or knows all nodes of the group as members. -/
def Complete (g : Group) : Prop :=
  ∀ p t, g.get? p = some t → t.members = [] ∨ ∀ q s, g.get? q = some s → q ∈ t.members

/-- Whether a group is complete can be tested. -/
instance (g : Group) : Decidable (Complete g) :=
  decidable_of_iff (∀ e ∈ g.replicas.entries, e.2.members = [] ∨
    ∀ e' ∈ g.replicas.entries, e'.1 ∈ e.2.members) <| by
  constructor
  · intro all p t there
    refine (all (p, t) (SortedMap.get?_eq_some_iff.1 there)).imp_right fun all q s found => ?_
    exact all (q, s) (SortedMap.get?_eq_some_iff.1 found)
  · intro complete e member
    have known := complete e.1 e.2 (SortedMap.get?_eq_some_iff.2 member)
    exact known.imp_right fun all e' other => all e'.1 e'.2 (SortedMap.get?_eq_some_iff.2 other)

/-- Every peer that waits makes one message and a node takes every message that flies,
in any order and while time passes. -/
inductive Gathers (node : String) : List String → List Message → Group → Group → Prop where
  | done {g : Group} : Gathers node [] [] g g
  | send {waiting : List String} {flying : List Message} {g h : Group} {p : String}
      {t : Replica} : p ∈ waiting → g.get? p = some t →
      Gathers node (waiting.filter (· ≠ p)) ((g.send p t).2 :: flying) (g.send p t).1 h →
      Gathers node waiting flying g h
  | take {waiting : List String} {flying : List Message} {g h : Group} {m : Message}
      {r : Replica} : m ∈ flying → g.get? node = some r →
      Gathers node waiting (flying.erase m) (g.deliver node r m).1 h →
      Gathers node waiting flying g h
  | pass {waiting : List String} {flying : List Message} {g h : Group} (ms : Nat) :
      Gathers node waiting flying (g.pass ms) h → Gathers node waiting flying g h

/-- Every peer that waits takes a message, in any order and while time passes. -/
inductive Spreads (m : Message) : List String → Group → Group → Prop where
  | done {g : Group} : Spreads m [] g g
  | take {waiting : List String} {g h : Group} {p : String} {t : Replica} :
      p ∈ waiting → g.get? p = some t →
      Spreads m (waiting.filter (· ≠ p)) (g.deliver p t m).1 h → Spreads m waiting g h
  | pass {waiting : List String} {g h : Group} (ms : Nat) :
      Spreads m waiting (g.pass ms) h → Spreads m waiting g h

/-- The peers of a node: the other nodes of the group. -/
def peersOf (g : Group) (node : String) : List String := g.replicas.keys.filter (· ≠ node)

/-! ## Single steps -/

/-- What does not lower the generation of a node can follow in a run. -/
theorem grows_put (here : g.get? node = some r) {s : Replica} (kept : r.generation ≤ s.generation)
    {sent : List Message} : Grows g { g.put node s with sent } := by
  intro other t u before after
  rcases get?_put_cases (g := g) after with ⟨rfl, rfl⟩ | ⟨_, same⟩
  · rw [here] at before
    cases before
    exact kept
  · rw [before] at same
    cases same
    exact UInt64.le_refl _

/-- A message can be made at any time. -/
theorem Run.send (run : Run start past g) (here : g.get? node = some r) :
    Run start ((g.send node r).1 :: past) (g.send node r).1 := by
  have kept : (r.buildMessage g.clock).1.generation = r.generation :=
    Replica.buildMessage_own_generation ..
  exact run.step (.send here) (grows_put here (UInt64.le_of_eq kept.symm))

/-- A message that was made can arrive at any time. -/
theorem Run.deliver (run : Run start past g) (fresh : Fresh start) (here : g.get? node = some r)
    (made : m ∈ g.sent) :
    Run start ((g.deliver node r m).1 :: past) (g.deliver node r m).1 := by
  have named := (run.ordered fresh here).1.named
  have kept : (r.applyMessage m g.clock).1.generation = r.generation :=
    Replica.applyMessage_generation r m g.clock named
  exact run.step (.deliver here made) (grows_put here (UInt64.le_of_eq kept.symm))

/-- Time can pass at any time. -/
theorem Run.pass (run : Run start past g) (ms : Nat) :
    Run start (g.pass ms :: past) (g.pass ms) := by
  refine run.step (.pass ms) fun node r s before after => ?_
  rw [show g.get? node = some s from after] at before
  cases before
  exact UInt64.le_refl _

/-- A node knows its members as before, so the group stays complete. -/
theorem Complete.put (complete : g.Complete) (here : g.get? node = some r) {s : Replica}
    (same : s.members = r.members) {sent : List Message} :
    Complete { g.put node s with sent } := by
  have before {q : String} {u : Replica} (found : (g.put node s).get? q = some u) :
      ∃ v, g.get? q = some v ∧ u.members = v.members := by
    rcases get?_put_cases found with ⟨rfl, rfl⟩ | ⟨_, kept⟩
    · exact ⟨r, here, same⟩
    · exact ⟨u, kept, rfl⟩
  intro p t found
  obtain ⟨t', found', known⟩ := before found
  rw [known]
  refine (complete p t' found').imp_right fun all q u there => ?_
  obtain ⟨u', there', _⟩ := before there
  exact all q u' there'

/-- In a complete group every node listens to every other one. -/
theorem Complete.listensTo (complete : g.Complete) (here : g.get? node = some r)
    (localhost : r.localhost = node) (different : p ≠ node) {t : Replica}
    (there : g.get? p = some t) : r.listensTo p = true := by
  simp only [Replica.listensTo, Bool.and_eq_true, bne_iff_ne, Bool.or_eq_true,
    List.isEmpty_iff, List.contains_iff_mem]
  refine ⟨by rwa [localhost], ?_⟩
  exact (complete node r here).imp_right fun all => all p t there

/-! ## The messages of the peers -/

/-- The state of an exchange before the node makes its message: each peer still waits,
or its message flies, or the node knows what the peer has applied of it. -/
structure Gathering (start : Group) (node : String) (waiting : List String)
    (flying : List Message) (g : Group) : Prop where
  run : ∃ past, Run start past g
  complete : g.Complete
  others : ∀ p ∈ waiting, p ≠ node
  flies : ∀ m ∈ flying, m ∈ g.sent ∧ m.nodename ≠ node ∧
    ∃ t, g.get? m.nodename = some t ∧ m.gens.get? node = t.advertisedGens.get? node
  told : ∀ p t, g.get? p = some t → p ≠ node →
    p ∈ waiting ∨ (∃ m ∈ flying, m.nodename = p) ∨
    ∃ r gens, g.get? node = some r ∧ r.remoteGens.get? p = some gens ∧
      gens.get? node = t.advertisedGens.get? node

variable {waiting : List String} {flying : List Message}

/-- The message of a peer says what the peer has applied. -/
theorem Gathering.send (gathering : Gathering start node waiting flying g) (fresh : Fresh start)
    {t : Replica} (member : p ∈ waiting) (there : g.get? p = some t) :
    Gathering start node (waiting.filter (· ≠ p)) ((g.send p t).2 :: flying) (g.send p t).1 := by
  obtain ⟨⟨past, run⟩, complete, others, flies, told⟩ := gathering
  have different := others p member
  have name : (g.send p t).2.nodename = p := by
    rw [← (run.ordered fresh there).1.localhost]
    exact Replica.buildMessage_nodename ..
  have self : (g.send p t).1.get? p = some (t.buildMessage g.clock).1 := get?_put_self ..
  have keeps {q : String} (other : q ≠ p) : (g.send p t).1.get? q = g.get? q :=
    get?_put_of_ne g _ other
  have advertised : (t.buildMessage g.clock).1.advertisedGens = t.advertisedGens :=
    Replica.buildMessage_advertisedGens ..
  have members : (t.buildMessage g.clock).1.members = t.members :=
    Replica.buildMessage_members ..
  have gens : (g.send p t).2.gens = t.advertisedGens := Replica.buildMessage_gens ..
  refine ⟨⟨_, run.send there⟩, complete.put there members, ?_, ?_, ?_⟩
  · intro q known
    exact others q (List.mem_filter.1 known).1
  · intro m member
    rcases List.mem_cons.1 member with rfl | before
    · refine ⟨List.mem_cons_self .., by rwa [name], _, by rw [name]; exact self, ?_⟩
      rw [gens, advertised]
    · obtain ⟨made, other, u, found, same⟩ := flies m before
      refine ⟨List.mem_cons_of_mem _ made, other, ?_⟩
      by_cases mine : m.nodename = p
      · rw [mine] at found ⊢
        rw [there] at found
        cases found
        exact ⟨_, self, by rw [advertised]; exact same⟩
      · exact ⟨u, by rw [keeps mine]; exact found, same⟩
  · intro q u found other
    by_cases mine : q = p
    · exact .inr (.inl ⟨_, List.mem_cons_self .., name.trans mine.symm⟩)
    · rw [keeps mine] at found
      rcases told q u found other with still | ⟨m, before, name⟩ | ⟨r, gens, here, noted, same⟩
      · exact .inl (List.mem_filter.2 ⟨still, by simpa using mine⟩)
      · exact .inr (.inl ⟨m, List.mem_cons_of_mem _ before, name⟩)
      · exact .inr (.inr ⟨r, gens, by rw [keeps (Ne.symm different)]; exact here, noted, same⟩)

/-- A message that the node takes is noted. -/
theorem Gathering.take (gathering : Gathering start node waiting flying g) (fresh : Fresh start)
    (member : m ∈ flying) (here : g.get? node = some r) :
    Gathering start node waiting (flying.erase m) (g.deliver node r m).1 := by
  obtain ⟨⟨past, run⟩, complete, others, flies, told⟩ := gathering
  obtain ⟨made, different, t, there, same⟩ := flies m member
  have belongs := (run.ordered fresh here).1
  have frame := Replica.applyMessage_agrees r m g.clock belongs.named
  have listens := complete.listensTo here belongs.localhost different there
  have self : (g.deliver node r m).1.get? node = some (r.applyMessage m g.clock).1 :=
    get?_put_self ..
  have keeps {q : String} (other : q ≠ node) : (g.deliver node r m).1.get? q = g.get? q :=
    get?_put_of_ne g _ other
  refine ⟨⟨_, run.deliver fresh here made⟩, complete.put here frame.members, others, ?_, ?_⟩
  · intro m' known
    obtain ⟨made', other, u, found, said⟩ := flies m' (List.mem_of_mem_erase known)
    exact ⟨made', other, u, by rw [keeps other]; exact found, said⟩
  · intro q u found other
    rw [keeps other] at found
    by_cases sender : q = m.nodename
    · subst sender
      rw [there] at found
      cases found
      exact .inr (.inr ⟨_, m.gens, self, Replica.applyMessage_remoteGens _ listens, same⟩)
    · rcases told q u found other with still | ⟨m', before, name⟩ | ⟨s, gens, now, noted, said⟩
      · exact .inl still
      · have unequal : m' ≠ m := fun equal => sender (by rw [← name, equal])
        exact .inr (.inl ⟨m', (List.mem_erase_of_ne unequal).2 before, name⟩)
      · rw [here] at now
        cases now
        exact .inr (.inr ⟨_, gens, self, by rw [frame.remoteGens q sender]; exact noted, said⟩)

/-- When all messages of the peers are taken, the node knows what every peer applied. -/
theorem Gathers.gathering (gathers : Gathers node waiting flying g h)
    (gathering : Gathering start node waiting flying g) (fresh : Fresh start) :
    Gathering start node [] [] h := by
  induction gathers with
  | done => exact gathering
  | send member there _ ih => exact ih (gathering.send fresh member there)
  | take member here _ ih => exact ih (gathering.take fresh member here)
  | pass ms _ ih =>
    obtain ⟨⟨past, run⟩, complete, others, flies, told⟩ := gathering
    exact ih ⟨⟨_, run.pass ms⟩, complete, others, flies, told⟩

/-! ## The message of the node -/

/-- The state of an exchange after the node made its message: the message suits every
peer that still waits, and every other peer is in step with it. -/
structure Spreading (start : Group) (node : String) (m : Message) (waiting : List String)
    (g : Group) : Prop where
  run : ∃ past, Run start past g
  complete : g.Complete
  others : ∀ p ∈ waiting, p ≠ node
  made : m ∈ g.sent
  sender : m.nodename = node
  own : ∃ r, g.get? node = some r ∧ r.generation = m.generation
  served : ∀ p t, g.get? p = some t → p ≠ node →
    (p ∈ waiting → m.Suits (t.acked node)) ∧
    (p ∉ waiting → t.lastApplied? node = some m.generation)

/-- When a node knows what every peer applied, its message suits them all. -/
theorem Gathering.spreading (gathering : Gathering start node [] [] g) (fresh : Fresh start)
    (here : g.get? node = some r)
    (audible : ∀ p t, g.get? p = some t → p ≠ node → ∀ at_, r.heard.get? p = some at_ →
      g.clock - at_ ≤ r.peerTimeout)
    (all : ∀ p t, g.get? p = some t → p ≠ node → p ∈ waiting)
    (others : ∀ p ∈ waiting, p ≠ node) :
    Spreading start node (g.send node r).2 waiting (g.send node r).1 := by
  obtain ⟨⟨past, run⟩, complete, _, _, told⟩ := gathering
  have ⟨belongs, ordered⟩ := run.ordered fresh here
  have localhost := belongs.localhost
  have self : (g.send node r).1.get? node = some (r.buildMessage g.clock).1 := get?_put_self ..
  have keeps {q : String} (other : q ≠ node) : (g.send node r).1.get? q = g.get? q :=
    get?_put_of_ne g _ other
  refine ⟨⟨_, run.send here⟩, complete.put here (Replica.buildMessage_members ..), others,
    List.mem_cons_self .., ?_, ⟨_, self, ?_⟩, ?_⟩
  · rw [← localhost]
    exact Replica.buildMessage_nodename ..
  · exact (Replica.buildMessage_own_generation ..).trans (Replica.buildMessage_generation ..).symm
  · intro p t there different
    have there : g.get? p = some t := (keeps different).symm.trans there
    refine ⟨fun _ => ?_, fun missing => absurd (all p t there different) missing⟩
    obtain ⟨r', gens, here', noted, same⟩ :=
      ((told p t there different).resolve_left (List.not_mem_nil)).resolve_left (by simp)
    rw [here] at here'
    cases here'
    have remembered := (Replica.expireSilent_keeps (audible p t there different)).2
    have member : p ∈ (r.expireSilent g.clock).peers := by
      refine Replica.mem_peers ?_ (by rw [← localhost] at different; exact different)
        (remembered.trans noted)
      exact (complete node r here).imp_right fun all => all p t there
    have counted := Replica.mem_acks member (remembered.trans noted)
    have acked : (gens.get? (r.expireSilent g.clock).localhost).getD 0 = t.acked node := by
      rw [show (r.expireSilent g.clock).localhost = node from localhost, same]
      rfl
    rw [acked] at counted
    refine ordered.suits counted ?_
    -- What the peer applied is not beyond what the node has reached.
    by_cases none : t.acked node = 0
    · rw [none]
      exact UInt64.zero_le
    · have other : node ≠ t.localhost := by
        rw [(run.ordered fresh there).1.localhost]
        exact Ne.symm different
      have sync := Replica.lastApplied?_of_acked other none
      have applied := ((Replica.lastApplied?_eq_some other).1 sync).2
      obtain ⟨s, _, now, bound, _⟩ := run.copy_eq_past fresh there (Ne.symm different) applied
      rw [here] at now
      cases now
      exact bound

/-- A peer that takes the message is in step with the node. -/
theorem Spreading.take (spreading : Spreading start node m waiting g) (fresh : Fresh start)
    {t : Replica} (member : p ∈ waiting) (there : g.get? p = some t) :
    Spreading start node m (waiting.filter (· ≠ p)) (g.deliver p t m).1 := by
  obtain ⟨⟨past, run⟩, complete, others, made, sender, ⟨r, here, own⟩, served⟩ := spreading
  subst sender
  have different := others p member
  have belongs := (run.ordered fresh there).1
  have frame := Replica.applyMessage_agrees t m g.clock belongs.named
  have listens := complete.listensTo there belongs.localhost (Ne.symm different) here
  have self : (g.deliver p t m).1.get? p = some (t.applyMessage m g.clock).1 := get?_put_self ..
  have keeps {q : String} (other : q ≠ p) : (g.deliver p t m).1.get? q = g.get? q :=
    get?_put_of_ne g _ other
  refine ⟨⟨_, run.deliver fresh there made⟩, complete.put there frame.members, ?_, made, rfl,
    ⟨r, by rw [keeps (Ne.symm different)]; exact here, own⟩, ?_⟩
  · intro q known
    exact others q (List.mem_filter.1 known).1
  · intro q u found other
    by_cases mine : q = p
    · subst mine
      rw [self] at found
      cases found
      refine ⟨fun still => ?_, fun _ => ?_⟩
      · have unequal := (List.mem_filter.1 still).2
        simp at unequal
      have suits := (served q t there other).1 member
      have peer := Replica.ne_of_listensTo listens
      rw [Replica.applyMessage_eq, if_pos listens]
      exact Replica.applyBody_of_suits (r := t.hear m g.clock) peer suits
    · rw [keeps mine] at found
      refine ⟨fun still => (served q u found other).1 (List.mem_filter.1 still).1, ?_⟩
      intro missing
      refine (served q u found other).2 fun still => missing ?_
      exact List.mem_filter.2 ⟨still, by simpa using mine⟩

/-- When every peer took the message, every peer is in step with the node. -/
theorem Spreads.spreading (spreads : Spreads m waiting g h)
    (spreading : Spreading start node m waiting g) (fresh : Fresh start) :
    Spreading start node m [] h := by
  induction spreads with
  | done => exact spreading
  | take member there _ ih => exact ih (spreading.take fresh member there)
  | pass ms _ ih =>
    obtain ⟨⟨past, run⟩, complete, others, made, sender, own, served⟩ := spreading
    exact ih ⟨⟨_, run.pass ms⟩, complete, others, made, sender, own, served⟩

/-! ## The exchange -/

/-- A node that has a replica is a peer of every other node. -/
theorem mem_peersOf {t : Replica} (there : g.get? p = some t) (different : p ≠ node) :
    p ∈ g.peersOf node :=
  List.mem_filter.2 ⟨SortedMap.mem_keys_iff.2 ⟨t, there⟩, by simpa using different⟩

/-- No node is a peer of itself. -/
theorem ne_of_mem_peersOf (member : p ∈ g.peersOf node) : p ≠ node := by
  simpa using (List.mem_filter.1 member).2

/-- Hearing the peers adds no node. -/
theorem Gathers.before {t : Replica} (gathers : Gathers node waiting flying g h)
    (there : h.get? p = some t) : ∃ s, g.get? p = some s := by
  have known {g : Group} {q : String} {r s u : Replica} (here : g.get? q = some r)
      (found : (g.put q s).get? p = some u) : ∃ v, g.get? p = some v := by
    rcases get?_put_cases found with ⟨rfl, rfl⟩ | ⟨_, before⟩
    · exact ⟨r, here⟩
    · exact ⟨u, before⟩
  induction gathers with
  | done => exact ⟨t, there⟩
  | send _ here _ ih =>
    obtain ⟨s, sent⟩ := ih there
    exact known here sent
  | take _ here _ ih =>
    obtain ⟨s, taken⟩ := ih there
    exact known here taken
  | pass ms _ ih => exact ih there

/-- After an exchange every peer is in step with the node, does not want everything of it
and holds what the node itself holds, whatever the run did before. -/
theorem Run.exchange_in_step (run : Run start past g) (fresh : Fresh start)
    (complete : g.Complete) (gathers : Gathers node (g.peersOf node) [] g h)
    (here : h.get? node = some r)
    (audible : ∀ p t, h.get? p = some t → p ≠ node → ∀ at_, r.heard.get? p = some at_ →
      h.clock - at_ ≤ r.peerTimeout)
    (spreads : Spreads (h.send node r).2 (g.peersOf node) (h.send node r).1 k) :
    ∃ s d, k.get? node = some s ∧ s.status.nodes.get? node = some d ∧
      ∀ p t, k.get? p = some t → p ≠ node →
        t.lastApplied? node = some s.generation ∧ t.resync.contains node = false ∧
        t.status.nodes.get? node = some d := by
  have others (p : String) (member : p ∈ g.peersOf node) : p ≠ node := ne_of_mem_peersOf member
  have begin_ : Gathering start node (g.peersOf node) [] g :=
    ⟨⟨past, run⟩, complete, others, fun _ flies => absurd flies List.not_mem_nil,
      fun p t there different => .inl (mem_peersOf there different)⟩
  have heard := gathers.gathering begin_ fresh
  have all (p : String) (t : Replica) (there : h.get? p = some t) (different : p ≠ node) :
      p ∈ g.peersOf node := by
    obtain ⟨s, before⟩ := gathers.before there
    exact mem_peersOf before different
  obtain ⟨⟨past', run'⟩, _, _, _, _, ⟨s, now, own⟩, served⟩ :=
    spreads.spreading (heard.spreading fresh here audible all others) fresh
  have faithful := run'.faithful fresh
  obtain ⟨d, mine, said, generation⟩ := (faithful.replicas node s now).own_data
  refine ⟨s, d, now, mine, fun p t there different => ?_⟩
  have other : node ≠ t.localhost := by
    rw [(run'.ordered fresh there).1.localhost]
    exact Ne.symm different
  have sync := (served p t there different).2 List.not_mem_nil
  rw [← own] at sync
  have ⟨wanted, applied⟩ := (Replica.lastApplied?_eq_some other).1 sync
  obtain ⟨copy, found, entry, at_⟩ :=
    (faithful.replicas p t there).copies node (Ne.symm different) _ applied
  have equal : copy = d :=
    faithful.coherent.unique node copy d entry said (by rw [at_, generation])
  exact ⟨sync, wanted, by rw [found, equal]⟩

/-- Two members, one of which changed something that the other one lacks. -/
def pairChanged : List Group × Group :=
  (replay [pair] pair [
    .change "n1" (.setConfig ⟨"root", .svc, "web"⟩ ⟨"", .epoch, ["n1"], "n1"⟩)]).get (by decide)

/-- The group after the peer made its message. -/
def pairAsked : Group × Message := pairChanged.2.send "n2" (pairChanged.2.replicaD "n2")

/-- The group after the node took the message. -/
def pairAnswered : Group := (pairAsked.1.deliver "n1" (pairAsked.1.replicaD "n1") pairAsked.2).1

/-- The group after the node made its message. -/
def pairTold : Group × Message := pairAnswered.send "n1" (pairAnswered.replicaD "n1")

/-- The group after the exchange. -/
def pairExchanged : Group := (pairTold.1.deliver "n2" (pairTold.1.replicaD "n2") pairTold.2).1

/-- The exchange brings the change to the other node. -/
theorem exchange_in_step_of_changed :
    ∃ s d, pairExchanged.get? "n1" = some s ∧ s.status.nodes.get? "n1" = some d ∧
      ∀ p t, pairExchanged.get? p = some t → p ≠ "n1" →
        t.lastApplied? "n1" = some s.generation ∧ t.resync.contains "n1" = false ∧
        t.status.nodes.get? "n1" = some d := by
  have run : Run pair pairChanged.1 pairChanged.2 := run_of_replay .start (Option.some_get _).symm
  have gathers : Gathers "n1" (pairChanged.2.peersOf "n1") [] pairChanged.2 pairAnswered := by
    refine .send (p := "n2") (t := pairChanged.2.replicaD "n2") (by decide) (by decide) ?_
    rw [show (pairChanged.2.peersOf "n1").filter (· ≠ "n2") = [] by decide]
    refine .take (m := pairAsked.2) (r := pairAsked.1.replicaD "n1")
      (List.mem_singleton.2 rfl) (by decide) ?_
    rw [show [(pairChanged.2.send "n2" (pairChanged.2.replicaD "n2")).2].erase pairAsked.2 = []
      by decide]
    exact .done
  have here : pairAnswered.get? "n1" = some (pairAnswered.replicaD "n1") := by decide
  have spreads : Spreads pairTold.2 (pairChanged.2.peersOf "n1") pairTold.1 pairExchanged := by
    refine .take (p := "n2") (t := pairTold.1.replicaD "n2") (by decide) (by decide) ?_
    rw [show (pairChanged.2.peersOf "n1").filter (· ≠ "n2") = [] by decide]
    exact .done
  have audible : ∀ e ∈ (pairAnswered.replicaD "n1").heard.entries,
      pairAnswered.clock - e.2 ≤ (pairAnswered.replicaD "n1").peerTimeout := by decide
  exact run.exchange_in_step (started_fresh ..) (by decide) gathers here
    (fun p _ _ _ at_ heard => audible (p, at_) (SortedMap.get?_eq_some_iff.1 heard)) spreads

end Group

end ClusterNode
