import ClusterNode.Proofs.Replication.Archive
import ClusterNode.Proofs.Replication.Run

/-!
# Histories of a group

`Group.Said` is the archive of all own subtrees that a run has passed through, so that
what a node holds of a peer can be compared with what the peer itself held earlier.

One step keeps a group faithful to its past (`Group.Faithful.step`), so every group of
a run is, and a copy is a past subtree of its owner at the generation noted for it.
-/

namespace ClusterNode

namespace Group

/-- The own subtrees that the nodes had in the past. -/
def Said (past : List Group) : Archive := fun node d =>
  ∃ h ∈ past, ∃ r, h.get? node = some r ∧ r.status.nodes.get? node = some d

/-- All replicas and all messages of a group repeat what was said. -/
structure Faithful (said : Archive) (g : Group) : Prop where
  coherent : said.Coherent
  replicas : ∀ node r, g.get? node = some r → r.Faithful said node
  sent : ∀ m ∈ g.sent, m.Faithful said

variable {start g h : Group} {past : List Group} {node : String} {r : Replica}

/-! ## The past -/

/-- The latest group adds its own subtrees. -/
theorem said_cons {d : NodeData} :
    Said (h :: past) node d ↔
      (∃ r, h.get? node = some r ∧ r.status.nodes.get? node = some d) ∨ Said past node d := by
  simp [Said]

/-- A group that repeats the past adds nothing to it. -/
theorem said_cons_of_faithful (faithful : Faithful (Said past) h) :
    Said (h :: past) = Said past := by
  funext node d
  apply propext
  rw [said_cons]
  constructor
  · rintro (⟨r, here, own⟩ | before)
    · obtain ⟨e, found, entry, _⟩ := (faithful.replicas node r here).own
      rw [own] at found
      cases found
      exact entry
    · exact before
  · exact .inr

/-- A group that repeats the past is faithful to the past with itself. -/
theorem Faithful.stay (faithful : Faithful (Said past) h) : Faithful (Said (h :: past)) h := by
  rw [said_cons_of_faithful faithful]
  exact faithful

/-- What every node says of itself at the start is faithful to it. -/
theorem Fresh.faithful (fresh : Fresh start) : Faithful (Said [start]) start := by
  -- A fresh node has said one thing, the empty subtree at the first generation.
  have said_iff {node : String} {d : NodeData} (entry : Said [start] node d) :
      d = ⟨initialGeneration, ∅⟩ := by
    obtain ⟨h, member, r, here, own⟩ := entry
    rw [List.mem_singleton] at member
    subst member
    obtain ⟨cluster, limit, timeout, rfl⟩ := fresh.started node r here
    exact (Option.some.inj ((Replica.new_get?_self ..).symm.trans own)).symm
  refine ⟨⟨?_, ?_⟩, ?_, ?_⟩
  · intro node d entry
    rw [said_iff entry]
    exact .ofEmpty node initialGeneration
  · intro node d e one other _
    rw [said_iff one, said_iff other]
  · intro node r here
    obtain ⟨cluster, limit, timeout, rfl⟩ := fresh.started node r here
    have own := Replica.new_get?_self node cluster limit timeout
    refine ⟨rfl, rfl, ⟨_, own, ⟨start, by simp, _, here, own⟩, ?_⟩, ?_, ?_⟩
    · intro e entry
      rw [said_iff entry]
      exact UInt64.le_refl _
    · intro e member
      cases member
    · intro peer _ a applied
      simp [Replica.new, Replica.refreshGens] at applied
  · intro m made
    rw [fresh.silent] at made
    cases made

/-- An operation that says nothing new keeps a group faithful to its past. -/
theorem Faithful.put (faithful : Faithful (Said past) g) (replica : r.Faithful (Said past) node)
    {sent : List Message} (honest : ∀ m ∈ sent, m.Faithful (Said past)) :
    Faithful (Said past) { g.put node r with sent } where
  coherent := faithful.coherent
  replicas other s found := by
    rcases get?_put_cases found with ⟨rfl, rfl⟩ | ⟨_, before⟩
    · exact replica
    · exact faithful.replicas other s before
  sent := honest

/-- An operation that says something new of its node, at a greater generation than all
before, keeps a group faithful to the past that has it too. -/
theorem Faithful.extend (faithful : Faithful (Said past) g) {d : NodeData}
    (own : r.status.nodes.get? node = some d) (formed : d.WellFormed node)
    (greater : ∀ e, Said past node e → e.generation < d.generation)
    (replica : r.Faithful (Said (g.put node r :: past)) node) :
    Faithful (Said (g.put node r :: past)) (g.put node r) := by
  have keeps (other : String) (e : NodeData) (entry : Said past other e) :
      Said (g.put node r :: past) other e := said_cons.2 (.inr entry)
  have only {other : String} {e : NodeData} (entry : Said (g.put node r :: past) other e) :
      (other = node ∧ e = d) ∨ Said past other e := by
    rcases said_cons.1 entry with ⟨s, found, mine⟩ | before
    · rcases get?_put_cases found with ⟨rfl, rfl⟩ | ⟨_, kept⟩
      · rw [own] at mine
        cases mine
        exact .inl ⟨rfl, rfl⟩
      · obtain ⟨e', found, known, _⟩ := (faithful.replicas other s kept).own
        rw [mine] at found
        cases found
        exact .inr known
    · exact .inr before
  refine ⟨⟨?_, ?_⟩, ?_, fun m made => (faithful.sent m made).mono keeps⟩
  · intro other e entry
    rcases only entry with ⟨rfl, rfl⟩ | before
    · exact formed
    · exact faithful.coherent.formed other e before
  · intro other e e' one two same
    rcases only one with ⟨rfl, rfl⟩ | before
    · rcases only two with ⟨_, rfl⟩ | before'
      · rfl
      · exact absurd same.symm (UInt64.ne_of_lt (greater e' before'))
    · rcases only two with ⟨rfl, rfl⟩ | before'
      · exact absurd same (UInt64.ne_of_lt (greater e before))
      · exact faithful.coherent.unique other e e' before before' same
  · intro other s found
    rcases get?_put_cases found with ⟨rfl, rfl⟩ | ⟨different, before⟩
    · exact replica
    · refine (faithful.replicas other s before).mono keeps fun e entry => ?_
      rcases only entry with ⟨same, _⟩ | known
      · exact absurd same different
      · exact known

/-- One step keeps a group faithful to its past. -/
theorem Faithful.step (faithful : Faithful (Said past) g) (step : Step g h) (grows : Grows g h) :
    Faithful (Said (h :: past)) h := by
  cases step with
  | applyLocal m here =>
    rename_i node r
    have mine := faithful.replicas node r here
    rcases mine.applyLocal faithful.coherent m (grows _ _ _ here (get?_put_self ..)) with
      quiet | ⟨d, own, formed, greater, fits⟩
    · exact (faithful.put quiet faithful.sent).stay
    · refine faithful.extend own formed greater (fits _ ?_ ?_ ?_)
      · exact fun _ _ entry => said_cons.2 (.inr entry)
      · exact said_cons.2 (.inl ⟨_, get?_put_self .., own⟩)
      · intro e entry
        rcases said_cons.1 entry with ⟨s, found, own'⟩ | before
        · rw [get?_put_self] at found
          cases found
          rw [own] at own'
          cases own'
          exact .inr rfl
        · exact .inl before
  | setMode peer mode here =>
    exact (faithful.put ((faithful.replicas _ _ here).setMode peer mode) faithful.sent).stay
  | send here =>
    have mine := faithful.replicas _ _ here
    refine (faithful.put (mine.buildMessage g.clock) fun m made => ?_).stay
    rcases List.mem_cons.1 made with rfl | before
    · exact mine.message g.clock
    · exact faithful.sent m before
  | deliver here made =>
    have mine := faithful.replicas _ _ here
    have heard := mine.applyMessage faithful.coherent (faithful.sent _ made) g.clock
    exact (faithful.put heard faithful.sent).stay
  | pass ms =>
    exact Faithful.stay ⟨faithful.coherent, faithful.replicas, faithful.sent⟩

/-! ## Runs -/

/-- Every group of a run is faithful to its past. -/
theorem Run.faithful (run : Run start past g) (fresh : Fresh start) :
    Faithful (Said past) g := by
  induction run with
  | start => exact fresh.faithful
  | step _ step grows ih => exact ih.step step grows

/-- Whenever a node had a generation, it said what its own subtree was. -/
theorem Run.said (run : Run start past g) (fresh : Fresh start) (member : h ∈ past)
    (found : h.get? node = some r) :
    ∃ d, r.status.nodes.get? node = some d ∧ Said past node d ∧ d.generation = r.generation := by
  obtain ⟨earlier, shorter, _⟩ := run.before member
  obtain ⟨d, own, _, generation⟩ := ((shorter.faithful fresh).replicas node r found).own_data
  exact ⟨d, own, ⟨h, member, r, found, own⟩, generation⟩

/-- What a node holds of a peer is what the peer itself held at the generation noted as
applied, at every moment of the run at which it had that generation; there was such a
moment, and the peer has not fallen behind it since. -/
theorem Run.copy_eq_past (run : Run start past g) (fresh : Fresh start) {p n : String}
    (here : g.get? p = some r) (peer : n ≠ p) {applied : Generation}
    (known : r.applied.get? n = some applied) :
    ∃ s copy, g.get? n = some s ∧ applied ≤ s.generation ∧
      r.status.nodes.get? n = some copy ∧ copy.generation = applied ∧
      (∃ h ∈ past, ∃ t, h.get? n = some t ∧ t.generation = applied) ∧
      ∀ h ∈ past, ∀ t, h.get? n = some t → t.generation = applied →
        t.status.nodes.get? n = some copy := by
  have faithful := run.faithful fresh
  obtain ⟨copy, found, entry, at_⟩ := (faithful.replicas p r here).copies n peer applied known
  have ⟨h, member, t, there, own⟩ := entry
  obtain ⟨s, now⟩ := run.keeps member there
  refine ⟨s, copy, now, ?_, found, at_, ⟨h, member, t, there, ?_⟩, ?_⟩
  · rw [← at_]
    exact (faithful.replicas n s now).generation_le entry
  · obtain ⟨d, own', _, generation⟩ := run.said fresh member there
    rw [own] at own'
    cases own'
    rw [← generation, at_]
  · intro h member t there same
    obtain ⟨d, own, said, generation⟩ := run.said fresh member there
    rw [own, faithful.coherent.unique n d copy said entry (by rw [generation, same, at_])]

/-- The run of a change, a message of the peer, and the message that brings it the
change. -/
def firstExchange : List Group × Group :=
  (replay [pair] pair [
    .change "n1" (.setConfig ⟨"root", .svc, "web"⟩ ⟨"", .epoch, ["n1"], "n1"⟩),
    .send "n2", .take "n1" 0, .send "n1", .take "n2" 0]).get (by decide)

/-- After a first exchange the second of two nodes holds what the first one held. -/
theorem copy_eq_past_of_firstExchange :
    ∃ r, firstExchange.2.get? "n2" = some r ∧ r.applied.get? "n1" = some 2 ∧
      ∃ s copy, firstExchange.2.get? "n1" = some s ∧ 2 ≤ s.generation ∧
        r.status.nodes.get? "n1" = some copy ∧ copy.generation = 2 ∧
        (∃ h ∈ firstExchange.1, ∃ t, h.get? "n1" = some t ∧ t.generation = 2) ∧
        ∀ h ∈ firstExchange.1, ∀ t, h.get? "n1" = some t → t.generation = 2 →
          t.status.nodes.get? "n1" = some copy := by
  have run : Run pair firstExchange.1 firstExchange.2 :=
    run_of_replay .start (Option.some_get _).symm
  have here : firstExchange.2.get? "n2" =
      some ((firstExchange.2.get? "n2").get (by decide)) := (Option.some_get _).symm
  have known : ((firstExchange.2.get? "n2").get (by decide)).applied.get? "n1" = some 2 := by
    decide
  exact ⟨_, here, known, run.copy_eq_past (started_fresh ..) here (by decide) known⟩

end Group

end ClusterNode
