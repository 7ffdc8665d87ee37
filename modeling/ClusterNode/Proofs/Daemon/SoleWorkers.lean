import ClusterNode.Proofs.Daemon.CrewSteps
import ClusterNode.Proofs.Daemon.Upkeep

/-!
# An object has one worker of a kind

A `Daemon.Passage` is a run of a node with a coordinator, of which the steps are crewed. Nothing is
asked of it: the store may close, the node may go down, and notices may be late, so that the
coordinator goes on as if a worker that has ended had said nothing yet.

`Passage.sole_workers` says that an object has one worker of a kind at most that has not ended;
that the coordinator forgets a worker only when it has ended, by its own notice or for the worker
that follows it; and that an aggregator publishes the aggregate of its object when every other
one has deleted it and does nothing any more.
-/

namespace ClusterNode.Daemon

/-- What can happen to a node whose notices may be late. -/
inductive Happens (d : Daemon) : Daemon → Prop where
  | step {e : Daemon} : Step d e → Happens d e
  /-- The coordinator steps while the latest notices are on their way. -/
  | late {seen late : List Notice} {e : Daemon} : d.notices = seen ++ late →
      ({ d with notices := seen } : Daemon).step .coordinator = some e →
      Happens d { e with notices := e.notices ++ late }

/-- A run: the steps that were made, latest first, and the state reached. -/
inductive Passage (start : Daemon) : List (Daemon × Daemon) → Daemon → Prop where
  | start : Passage start [] start
  | next {past : List (Daemon × Daemon)} {d e : Daemon} :
      Passage start past d → Happens d e → Passage start ((d, e) :: past) e

/-- An aggregator publishes the aggregate of an object. -/
def SetsAggregate (id : WorkerId) (p : ObjectPath) (t : Daemon × Daemon) : Prop :=
  t.1.step (.aggregator id) = some t.2 ∧
    ∃ a source, t.1.aggregators.get? id = some a ∧ a.path = p ∧ a.point = .publishing source

/-- An aggregator deletes the aggregate of an object. -/
def DeletesAggregate (id : WorkerId) (p : ObjectPath) (t : Daemon × Daemon) : Prop :=
  t.1.step (.aggregator id) = some t.2 ∧
    ∃ a, t.1.aggregators.get? id = some a ∧ a.path = p ∧ a.point = .leaving

variable {s : DaemonSettings} {startedAt : Timestamp} {start d e : Daemon}
  {past earlier later : List (Daemon × Daemon)} {t : Daemon × Daemon} {c c' : Coordinator}
  {kind : WorkerKind} {id : WorkerId} {v : Worker} {p : ObjectPath}

/-! ## Single steps -/

/-- What the coordinator does with the notices that it sees, it does while others are late. -/
theorem Manages.late {seen late : List Notice}
    (manages : Manages c c' { d with notices := seen } e) (waits : d.notices = seen ++ late) :
    Manages c c' d { e with notices := e.notices ++ late } where
  coordinator := manages.coordinator
  vacant := manages.vacant
  managed kind := by
    have managed := manages.managed kind
    refine { managed with keeps := fun q i known => ?_, told := fun q i told => ?_ }
    · refine (managed.keeps q i known).imp_right fun ⟨ended, next⟩ => ⟨ended, ?_⟩
      refine next.imp_left fun ⟨gone, first⟩ => ⟨gone, ?_⟩
      obtain ⟨rest, split⟩ := List.head?_eq_some_iff.1 first
      have all : (d.crew c kind).told = (seen ++ late).map (·.of? kind) := by rw [crew, waits]
      rw [all, List.map_append]
      change seen.map (·.of? kind) = _ at split
      rw [split, List.cons_append, List.head?_cons]
    · rw [mem_told_crew_iff, waits]
      obtain ⟨n, member, mine⟩ := mem_told_crew_iff.1 told
      rcases List.mem_append.1 member with old | new
      · obtain ⟨m, before, same⟩ := mem_told_crew_iff.1
          (managed.told q i (mem_told_crew_iff.2 ⟨n, old, mine⟩))
        exact ⟨m, List.mem_append_left _ before, same⟩
      · exact ⟨n, List.mem_append_right _ new, mine⟩

/-- The crews are sound, and an aggregator that has cleaned up did so by a step of the past. -/
structure Crewed (past : List (Daemon × Daemon)) (d : Daemon) : Prop where
  crews : ∃ c, d.coordinator = some c ∧ c.Vacant ∧ ∀ kind, (d.crew c kind).Sound
  cleaned : ∀ id v, d.worker? .aggregator id = some v → v.stage ≠ .active →
    ∃ u ∈ past, DeletesAggregate id v.path u

/-- What can happen concerns a worker, the coordinator or neither. -/
theorem Happens.staff (happens : Happens d e) (crewed : Crewed past d) : Staffed d e := by
  obtain ⟨c, here, vacant, sound⟩ := crewed.crews
  cases happens with
  | step step =>
    refine step.staff fun c' here' => ?_
    cases here.symm.trans here'
    exact ⟨vacant, sound⟩
  | @late seen late e waits stepped =>
    have fewer (kind : WorkerKind) : (({ d with notices := seen } : Daemon).crew c kind).Sound := by
      refine (sound kind).managed (Crew.managed_of_same rfl rfl (fun p i told => ?_) (Nat.le_refl _))
      obtain ⟨n, member, mine⟩ := mem_told_crew_iff.1 told
      exact mem_told_crew_iff.2 ⟨n, by rw [waits]; exact List.mem_append_left _ member, mine⟩
    obtain ⟨c', here', stepped⟩ := Option.bind_eq_some_iff.1 stepped
    cases here.symm.trans here'
    obtain ⟨c'', manages⟩ := stepCoordinator_manages (d := { d with notices := seen }) here vacant
      fewer stepped
    exact .coordinator here (manages.late waits)

/-- Whatever happens next, what the coordinator knows fits the crews. -/
theorem Staffed.sound (staffed : Staffed d e) (here : d.coordinator = some c) (vacant : c.Vacant)
    (sound : ∀ kind, (d.crew c kind).Sound) :
    ∃ c', e.coordinator = some c' ∧ c'.Vacant ∧ ∀ kind, (e.crew c' kind).Sound := by
  cases staffed with
  | aside same =>
    exact ⟨c, same.coordinator.trans here, vacant, fun kind => by rw [same.crew]; exact sound kind⟩
  | @worker kind' id v v' works _ =>
    refine ⟨c, works.coordinator.trans here, vacant, fun kind => ?_⟩
    by_cases same : kind = kind'
    · subst same
      exact (sound kind).turn (works.turn c)
    · exact (sound kind).managed (works.managed c same)
  | coordinator here' manages =>
    cases here.symm.trans here'
    exact ⟨_, manages.coordinator, manages.vacant,
      fun kind => (sound kind).managed (manages.managed kind)⟩

/-- A worker that has ended stays as it is. -/
theorem Staffed.stays_ended (staffed : Staffed d e) (there : d.worker? kind id = some v)
    (ended : v.stage = .ended) : e.worker? kind id = some v := by
  cases staffed with
  | aside same => rw [same.workers, there]
  | @worker kind' id' u u' works _ =>
    by_cases same : kind = kind'
    · subst same
      by_cases one : id = id'
      · subst one
        cases works.here.symm.trans there
        exact absurd ended works.lives
      · rw [works.others id one, there]
    · rw [works.elsewhere kind same, there]
  | @coordinator c c' _ manages => exact (manages.managed kind).stays id v there

/-- An aggregator that has cleaned up did so before, or does so now. -/
theorem Staffed.cleaned (staffed : Staffed d e) (there : e.worker? .aggregator id = some v)
    (cleans : v.stage ≠ .active) :
    (∃ u, d.worker? .aggregator id = some u ∧ u.path = v.path ∧ u.stage ≠ .active) ∨
      DeletesAggregate id v.path (d, e) := by
  cases staffed with
  | aside same =>
    rw [same.workers] at there
    exact .inl ⟨v, there, rfl, cleans⟩
  | @worker kind id' u u' works deletes =>
    by_cases same : kind = .aggregator
    · subst same
      by_cases one : id = id'
      · subst one
        cases works.after.symm.trans there
        by_cases active : u.stage = .active
        · obtain ⟨stepped, a, here, path, leaving⟩ := deletes rfl active cleans
          exact .inr ⟨stepped, a, here, path.trans works.path.symm, leaving⟩
        · exact .inl ⟨u, works.here, works.path.symm, active⟩
      · rw [works.others id one] at there
        exact .inl ⟨v, there, rfl, cleans⟩
    · rw [works.elsewhere .aggregator (Ne.symm same)] at there
      exact .inl ⟨v, there, rfl, cleans⟩
  | coordinator _ manages =>
    rcases (manages.managed .aggregator).starts id v there with before | ⟨_, _, active, _⟩
    · exact .inl ⟨v, before, rfl, cleans⟩
    · exact absurd active cleans

/-! ## Passages -/

/-- At the start there is no worker, and nothing is known of any. -/
theorem crewed_start (s : DaemonSettings) (startedAt : Timestamp) :
    Crewed [] (Daemon.new s startedAt).startCoordinator where
  crews := by
    refine ⟨_, rfl, fun _ point => (nomatch point), fun kind => ?_⟩
    cases kind <;> exact ⟨fun _ _ there => (nomatch there), fun _ _ known => (nomatch known),
      fun _ _ told => (nomatch told), fun _ _ => rfl⟩
  cleaned _ _ there := nomatch there

/-- What every passage keeps. -/
theorem Passage.crewed (passage : Passage (Daemon.new s startedAt).startCoordinator past d) :
    Crewed past d := by
  induction passage with
  | start => exact crewed_start s startedAt
  | @next past d e _ happens crewed =>
    have staffed := happens.staff crewed
    obtain ⟨c, here, vacant, sound⟩ := crewed.crews
    refine ⟨staffed.sound here vacant sound, fun id v there cleans => ?_⟩
    rcases staffed.cleaned there cleans with ⟨u, before, path, cleaned⟩ | deletes
    · obtain ⟨t, member, deleted⟩ := crewed.cleaned id u before cleaned
      rw [path] at deleted
      exact ⟨t, List.mem_cons_of_mem _ member, deleted⟩
    · exact ⟨_, List.mem_cons_self .., deletes⟩

/-- Before a step of a passage there was a passage to it. -/
theorem Passage.upTo (passage : Passage start past d) (split : past = later ++ t :: earlier) :
    Passage start earlier t.1 := by
  induction passage generalizing later with
  | start => cases later <;> cases split
  | next before _ ih =>
    cases later with
    | nil =>
      cases split
      exact before
    | cons u later =>
      cases split
      exact ih rfl

/-- A worker that has ended stays so. -/
theorem Passage.stays_ended (passage : Passage (Daemon.new s startedAt).startCoordinator past d)
    (split : past = later ++ t :: earlier) (there : t.1.worker? kind id = some v)
    (ended : v.stage = .ended) : d.worker? kind id = some v := by
  induction passage generalizing later with
  | start => cases later <;> cases split
  | next before happens ih =>
    refine (happens.staff before.crewed).stays_ended ?_ ended
    cases later with
    | nil =>
      cases split
      exact there
    | cons u later =>
      cases split
      exact ih rfl

/-- An aggregator that has ended does nothing. -/
theorem step_aggregator_of_ended (there : d.worker? .aggregator id = some v)
    (ended : v.stage = .ended) : d.step (.aggregator id) = none := by
  obtain ⟨a, here, made⟩ := Option.map_eq_some_iff.1 there
  rw [← made] at ended
  have done := AggregatorPoint.stage_eq_ended_iff.1 ended
  simp only [step, stepTaking, here, Option.bind_some, stepAggregator, done]

/-- When an aggregator publishes the aggregate of its object, every other one has deleted it and
does nothing any more. -/
theorem Passage.sets_after (passage : Passage (Daemon.new s startedAt).startCoordinator past d)
    (split : past = later ++ t :: earlier) (sets : SetsAggregate id p t) {id' : WorkerId}
    (other : id' ≠ id) {a : Aggregator} (there : t.1.aggregators.get? id' = some a)
    (path : a.path = p) :
    (∃ u ∈ earlier, DeletesAggregate id' p u) ∧ ∀ u ∈ later, u.1.step (.aggregator id') = none := by
  have crewed := (passage.upTo split).crewed
  obtain ⟨_, b, source, here, mine, publishing⟩ := sets
  obtain ⟨c, _, _, sound⟩ := crewed.crews
  have present : t.1.worker? .aggregator id' = some ⟨a.path, a.point.stage⟩ := by
    rw [worker?, there, Option.map_some]
  have ended : a.point.stage = .ended := by
    refine Decidable.not_not.1 fun lives => other ?_
    have one : t.1.worker? .aggregator id = some ⟨b.path, b.point.stage⟩ := by
      rw [worker?, here, Option.map_some]
    refine (sound .aggregator).unique present one (path.trans mine.symm) lives ?_
    rw [publishing]
    exact WorkerStage.noConfusion
  constructor
  · obtain ⟨u, member, deletes⟩ := crewed.cleaned id' _ present (by
      rw [ended]
      exact WorkerStage.noConfusion)
    exact ⟨u, member, path ▸ deletes⟩
  · intro u member
    obtain ⟨latest, since, rfl⟩ := List.append_of_mem member
    have before : past = latest ++ u :: (since ++ t :: earlier) := by simpa using split
    exact step_aggregator_of_ended ((passage.upTo before).stays_ended rfl present ended) ended

/-- What the coordinator forgets of workers, in any step. -/
theorem Staffed.forgets (staffed : Staffed d e) (here : d.coordinator = some c)
    (known : (c.known kind).get? p = some id) :
    ∃ c', e.coordinator = some c' ∧ ((c'.known kind).get? p = some id ∨
      (∃ v, d.worker? kind id = some v ∧ v.stage = .ended) ∧
        ((c'.known kind).get? p = none ∧
            (∃ n rest, d.notices = n :: rest ∧ n.of? kind = some (p, id)) ∨
          ∃ id', (c'.known kind).get? p = some id' ∧ d.nextWorker ≤ id')) := by
  cases staffed with
  | aside same => exact ⟨c, same.coordinator.trans here, .inl known⟩
  | worker works _ => exact ⟨c, works.coordinator.trans here, .inl known⟩
  | @coordinator _ c' here' manages =>
    cases here.symm.trans here'
    refine ⟨c', manages.coordinator, ((manages.managed kind).keeps p id known).imp_right
      fun ⟨ended, next⟩ => ⟨ended, next.imp_left fun ⟨gone, first⟩ => ⟨gone, ?_⟩⟩⟩
    obtain ⟨rest, told⟩ := List.head?_eq_some_iff.1 first
    obtain ⟨n, later, waits, mine, _⟩ := List.map_eq_cons_iff.1 told
    exact ⟨n, later, waits, mine⟩

/-- An object has one worker of a kind, in every run of a node that its coordinator makes, even
where notices are late.

Two watchers or two aggregators of an object that have not ended are the same. The coordinator
forgets a worker that it knows only when it has ended, by the worker's own notice or for the one
that follows it; so no notice of a worker that was replaced removes its successor. And when an
aggregator publishes the aggregate of its object, every other aggregator that the object had has
deleted it before and does nothing since. -/
theorem Passage.sole_workers
    (passage : Passage (Daemon.new s startedAt).startCoordinator past d) :
    (∀ kind id id' v v', d.worker? kind id = some v → d.worker? kind id' = some v' →
      v.path = v'.path → v.stage ≠ .ended → v'.stage ≠ .ended → id = id') ∧
    (∀ e c kind p id, Happens d e → d.coordinator = some c → (c.known kind).get? p = some id →
      ∃ c', e.coordinator = some c' ∧ ((c'.known kind).get? p = some id ∨
        (∃ v, d.worker? kind id = some v ∧ v.stage = .ended) ∧
          ((c'.known kind).get? p = none ∧
              (∃ n rest, d.notices = n :: rest ∧ n.of? kind = some (p, id)) ∨
            ∃ id', (c'.known kind).get? p = some id' ∧ d.nextWorker ≤ id'))) ∧
    ∀ later t earlier id id' p a, past = later ++ t :: earlier → SetsAggregate id p t →
      id' ≠ id → t.1.aggregators.get? id' = some a → a.path = p →
      (∃ u ∈ earlier, DeletesAggregate id' p u) ∧
        ∀ u ∈ later, u.1.step (.aggregator id') = none := by
  refine ⟨?_, ?_, ?_⟩
  · intro kind id id' v v' here here' path lives lives'
    obtain ⟨c, _, _, sound⟩ := passage.crewed.crews
    exact (sound kind).unique here here' path lives lives'
  · intro e c kind p id happens here known
    exact (happens.staff passage.crewed).forgets here known
  · intro later t earlier id id' p a split sets other there path
    exact passage.sets_after split sets other there path

/-! ## A late notice -/

/-- What is attempted can happen. -/
theorem happens_of_attempt {move : Option Move} (made : d.attempt move = some e) :
    Happens d e := by
  cases move with
  | some move => exact .step (step_of_perform made)
  | none =>
    obtain ⟨e, stepped, rfl⟩ := Option.map_eq_some_iff.1 made
    exact .late (List.nil_append _).symm stepped

/-- The passage that is attempted, unless a move cannot be made. -/
def trace (past : List (Daemon × Daemon)) (d : Daemon) :
    List (Option Move) → Option (List (Daemon × Daemon) × Daemon)
  | [] => some (past, d)
  | move :: moves => do
    let e ← d.attempt move
    trace ((d, e) :: past) e moves

/-- What is traced is a passage. -/
theorem passage_of_trace (passage : Passage start past d) {moves : List (Option Move)}
    {reached : List (Daemon × Daemon) × Daemon} (made : trace past d moves = some reached) :
    Passage start reached.1 reached.2 := by
  induction moves generalizing past d with
  | nil =>
    cases made
    exact passage
  | cons move moves ih =>
    obtain ⟨e, moved, made⟩ := Option.bind_eq_some_iff.1 made
    exact ih (passage.next (happens_of_attempt moved)) made

/-- What holds at the end of a passage that is traced is reached. -/
theorem exists_passage_of_trace (moves : List (Option Move))
    {P : List (Daemon × Daemon) → Daemon → Prop}
    (reached : ∃ last, last ∈ trace [] start moves ∧ P last.1 last.2) :
    ∃ past d, Passage start past d ∧ P past d := by
  obtain ⟨last, made, holds⟩ := reached
  exact ⟨last.1, last.2, passage_of_trace .start made, holds⟩

/-- The aggregator of an object ends when the configuration is back; the coordinator sees the
configuration before the notice, and starts the next aggregator, which publishes. -/
def replacedMoves : List (Option Move) :=
  let ends : List Move :=
    [.act .coordinator, configureWeb ["n1"], .act .coordinator] ++ aggregatorMoves 1 4 ++
      [.change (.delConfig webPath)] ++ aggregatorMoves 1 2 ++
      [configureWeb ["n1"], .pass 5, .serve 5, .act (.aggregator 1)]
  ends.map some ++ [none] ++ (aggregatorMoves 2 4).map some

/-- A notice that is late does not remove the aggregator that was started meanwhile; the one that
it is about had deleted the aggregate before the next one published it. -/
theorem sole_workers_of_replaced : ∃ past d, Passage pairNode past d ∧
    d.notices = [.aggregatorDone webPath 1] ∧
    (∀ id v, d.worker? .aggregator id = some v → v.path = webPath → v.stage ≠ .ended → id = 2) ∧
    (∃ e c, d.step .coordinator = some e ∧ e.coordinator = some c ∧
      c.aggregators.get? webPath = some 2) ∧
    ∃ t earlier, past = t :: earlier ∧ SetsAggregate 2 webPath t ∧
      ∃ u ∈ earlier, DeletesAggregate 1 webPath u := by
  obtain ⟨past, d, passage, waits, ⟨a, here, path, runs⟩, ⟨c, there, known⟩, ⟨e, stepped, _⟩,
      t, first, moved, ⟨b, mine, path', publishes⟩, a', gone, path''⟩ :
      ∃ past d, Passage pairNode past d ∧ d.notices = [.aggregatorDone webPath 1] ∧
        (∃ a, a ∈ d.aggregators.get? 2 ∧ a.path = webPath ∧ a.point = .running) ∧
        (∃ c, c ∈ d.coordinator ∧ (c.known .aggregator).get? webPath = some 2) ∧
        (∃ e, e ∈ d.step .coordinator ∧ True) ∧
        ∃ t, t ∈ past.head? ∧ t.1.step (.aggregator 2) = some t.2 ∧
          (∃ b, b ∈ t.1.aggregators.get? 2 ∧ b.path = webPath ∧ b.point = .publishing none) ∧
          ∃ a', a' ∈ t.1.aggregators.get? 1 ∧ a'.path = webPath :=
    exists_passage_of_trace replacedMoves (by decide +kernel)
  obtain ⟨earlier, rfl⟩ := List.head?_eq_some_iff.1 first
  obtain ⟨sole, forgets, sets⟩ := Passage.sole_workers passage
  have present : d.worker? .aggregator 2 = some ⟨webPath, .active⟩ := by
    have found : d.aggregators.get? 2 = some a := here
    rw [worker?, found, Option.map_some, path, runs]
    rfl
  have publishes : SetsAggregate 2 webPath t := ⟨moved, b, none, mine, path', publishes⟩
  refine ⟨_, d, passage, waits, ?_, ?_, t, earlier, rfl, publishes, ?_⟩
  · intro id v there path lives
    exact sole .aggregator id 2 v _ there present path lives WorkerStage.noConfusion
  · obtain ⟨c', there', kept | ⟨⟨v, there'', ended⟩, _⟩⟩ :=
      forgets e c .aggregator webPath 2 (.step (.act stepped)) there known
    · exact ⟨e, c', stepped, there', kept⟩
    · cases present.symm.trans there''
      cases ended
  · exact (sets [] t earlier 2 1 webPath a' rfl publishes (by decide) gone path'').1

end ClusterNode.Daemon
