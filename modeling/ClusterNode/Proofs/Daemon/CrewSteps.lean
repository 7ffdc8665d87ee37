import ClusterNode.Proofs.Daemon.Crews
import ClusterNode.Proofs.Daemon.Staffing

/-!
# What steps make of the crews of a node

`Daemon.crew` is what a node has of a crew, for each of the two kinds of workers. A step is a step
of a worker (`Daemon.Works`), one of the coordinator (`Daemon.Manages`), or it concerns neither
(`Daemon.SameStaff`): `Step.staff` is the inversion. The store may be closed and the node may go
down.
-/

namespace ClusterNode

/-- The kinds of workers. -/
inductive WorkerKind where
  | watcher
  | aggregator
  deriving DecidableEq

/-- How far a watcher is that stands at a point: it cleans up before it finishes. -/
def WatcherPoint.stage : WatcherPoint → WorkerStage
  | .finishing | .draining _ => .retired
  | .done => .ended
  | _ => .active

/-- How far an aggregator is that stands at a point: it deletes the aggregate before it drains. -/
def AggregatorPoint.stage : AggregatorPoint → WorkerStage
  | .draining _ => .retired
  | .done => .ended
  | _ => .active

/-- A watcher has ended exactly if it is done. -/
theorem WatcherPoint.stage_eq_ended_iff {point : WatcherPoint} :
    point.stage = .ended ↔ point = .done := by
  cases point <;> simp [stage]

/-- An aggregator has ended exactly if it is done. -/
theorem AggregatorPoint.stage_eq_ended_iff {point : AggregatorPoint} :
    point.stage = .ended ↔ point = .done := by
  cases point <;> simp [stage]

/-- An aggregator that answers for what the store has of its object has not cleaned up. -/
theorem AggregatorPoint.stage_of_keeps {point : AggregatorPoint} (keeps : point.keeps = true) :
    point.stage = .active := by
  cases point with
  | publishing | running | joining | leaving => rfl
  | starting | tracking | draining | done => cases keeps

/-- The object and the worker that a notice is about, if it is of that kind. -/
def Notice.of? : WorkerKind → Notice → Option (ObjectPath × WorkerId)
  | .watcher, .watcherDone p _ id => some (p, id)
  | .aggregator, .aggregatorDone p id => some (p, id)
  | _, _ => none

/-- The workers of a kind that the coordinator knows. -/
def Coordinator.known (c : Coordinator) : WorkerKind → SortedMap ObjectPath WorkerId
  | .watcher => c.watchers
  | .aggregator => c.aggregators

/-- An object that is about to get its next aggregator has none. -/
def Coordinator.Vacant (c : Coordinator) : Prop :=
  ∀ p, c.point = .restarting p → c.aggregators.get? p = none

namespace Daemon

/-- The worker of a kind and a number. -/
def worker? (d : Daemon) (kind : WorkerKind) (id : WorkerId) : Option Worker :=
  match kind with
  | .watcher => (d.watchers.get? id).map fun w => ⟨w.path, w.point.stage⟩
  | .aggregator => (d.aggregators.get? id).map fun a => ⟨a.path, a.point.stage⟩

/-- The crew of a kind. -/
def crew (d : Daemon) (c : Coordinator) (kind : WorkerKind) : Crew where
  workers := d.worker? kind
  known := c.known kind
  told := d.notices.map (·.of? kind)
  nextWorker := d.nextWorker

variable {d d' e : Daemon} {c c' : Coordinator} {kind : WorkerKind} {id : WorkerId}
  {v v' : Worker}

/-- A record of a watcher that is written is found by its number, and no other one changes. -/
theorem worker?_of_watchers {i : WorkerId} {w : Watcher}
    (made : e.watchers = d.watchers.insert i w) (id : WorkerId) :
    e.worker? .watcher id =
      if id = i then some ⟨w.path, w.point.stage⟩ else d.worker? .watcher id := by
  simp only [worker?, made, SortedMap.get?_insert]
  split <;> rfl

/-- A record of an aggregator that is written is found by its number, and no other one changes. -/
theorem worker?_of_aggregators {i : WorkerId} {a : Aggregator}
    (made : e.aggregators = d.aggregators.insert i a) (id : WorkerId) :
    e.worker? .aggregator id =
      if id = i then some ⟨a.path, a.point.stage⟩ else d.worker? .aggregator id := by
  simp only [worker?, made, SortedMap.get?_insert]
  split <;> rfl

/-- The notices of a kind that the crew was told are those that the node has. -/
theorem mem_told_crew_iff {p : ObjectPath} :
    some (p, id) ∈ (d.crew c kind).told ↔ ∃ n ∈ d.notices, n.of? kind = some (p, id) :=
  List.mem_map

/-- What concerns no worker and not the coordinator. -/
structure SameStaff (d e : Daemon) : Prop where
  workers : ∀ kind, e.worker? kind = d.worker? kind
  coordinator : e.coordinator = d.coordinator
  notices : e.notices = d.notices
  nextWorker : e.nextWorker = d.nextWorker

/-- Who only talks leaves the staff. -/
theorem Talks.sameStaff {own : List Nat} (talks : Talks own d e) : SameStaff d e := by
  obtain ⟨_, _, _, rfl⟩ := talks.rest
  exact ⟨fun _ => rfl, rfl, rfl, rfl⟩

/-- The end of subscriptions leaves the staff. -/
theorem sameStaff_unsubscribe (ids : List Nat) : SameStaff d (d.unsubscribe ids) :=
  (talks_unsubscribe (List.Subset.refl ids)).sameStaff

/-- Where nothing happens the staff is the same. -/
theorem SameStaff.refl (d : Daemon) : SameStaff d d := ⟨fun _ => rfl, rfl, rfl, rfl⟩

/-- Two states with the same staff have the same crews. -/
theorem SameStaff.crew (same : SameStaff d e) (c : Coordinator) (kind : WorkerKind) :
    e.crew c kind = d.crew c kind := by
  simp only [Daemon.crew, same.workers, same.notices, same.nextWorker]

/-! ## Workers -/

/-- A step of a worker. -/
structure Works (kind : WorkerKind) (id : WorkerId) (v v' : Worker) (d e : Daemon) : Prop where
  here : d.worker? kind id = some v
  lives : v.stage ≠ .ended
  path : v'.path = v.path
  after : e.worker? kind id = some v'
  others : ∀ i, i ≠ id → e.worker? kind i = d.worker? kind i
  elsewhere : ∀ kind' ≠ kind, e.worker? kind' = d.worker? kind'
  coordinator : e.coordinator = d.coordinator
  notices : ∀ n ∈ e.notices, n ∈ d.notices ∨ (v'.stage = .ended ∧
    ∀ kind' p i, n.of? kind' = some (p, i) → kind' = kind ∧ i = id)
  nextWorker : e.nextWorker = d.nextWorker

/-- A step of a worker is a turn of its crew. -/
theorem Works.turn (works : Works kind id v v' d e) (c : Coordinator) :
    Crew.Turn id v v' (d.crew c kind) (e.crew c kind) where
  here := works.here
  lives := works.lives
  path := works.path
  after := works.after
  others := works.others
  known := rfl
  told p i told := by
    obtain ⟨n, waits, mine⟩ := mem_told_crew_iff.1 told
    rcases works.notices n waits with before | ⟨ended, about⟩
    · exact .inl (mem_told_crew_iff.2 ⟨n, before, mine⟩)
    · exact .inr ⟨(about kind p i mine).2, ended⟩
  nextWorker := works.nextWorker

/-- The crew of the other kind is not concerned. -/
theorem Works.managed (works : Works kind id v v' d e) (c : Coordinator) {kind' : WorkerKind}
    (other : kind' ≠ kind) : (d.crew c kind').Managed (e.crew c kind') := by
  refine Crew.managed_of_same (works.elsewhere kind' other) rfl (fun p i told => ?_)
    (Nat.le_of_eq works.nextWorker.symm)
  obtain ⟨n, waits, mine⟩ := mem_told_crew_iff.1 told
  rcases works.notices n waits with before | ⟨_, about⟩
  · exact mem_told_crew_iff.2 ⟨n, before, mine⟩
  · exact absurd (about kind' p i mine).1 other

/-- A worker that has ended tells so. -/
theorem Works.notify (works : Works kind id v v' d e) (ended : v'.stage = .ended) {n : Notice}
    (about : ∀ kind' p i, n.of? kind' = some (p, i) → kind' = kind ∧ i = id) :
    Works kind id v v' d (e.notify n) := by
  unfold Daemon.notify
  split
  · refine { works with notices := fun m waits => ?_ }
    rcases List.mem_append.1 waits with before | new
    · exact works.notices m before
    · cases List.mem_singleton.1 new
      exact .inr ⟨ended, about⟩
  · exact works

section Watcher

variable {w w' : Watcher}

/-- A watcher that keeps its record anew. -/
theorem SameStaff.putWatcher (same : SameStaff d d') (here : d.watchers.get? id = some w)
    (lives : w.point ≠ .done) (path : w'.path = w.path) :
    Works .watcher id ⟨w.path, w.point.stage⟩ ⟨w'.path, w'.point.stage⟩ d (d'.putWatcher id w') where
  here := by rw [worker?, here, Option.map_some]
  lives := fun ended => lives (WatcherPoint.stage_eq_ended_iff.1 ended)
  path := path
  after := (worker?_of_watchers rfl id).trans (if_pos rfl)
  others i different := by
    rw [← same.workers]
    exact (worker?_of_watchers rfl i).trans (if_neg different)
  elsewhere kind' other := by
    rw [← same.workers]
    cases kind' with
    | watcher => exact absurd rfl other
    | aggregator => rfl
  coordinator := same.coordinator
  notices n waits := .inl (by rwa [← same.notices])
  nextWorker := same.nextWorker

/-- A watcher that ends tells so. -/
theorem endWatcher_works (here : d.watchers.get? id = some w) (lives : w.point ≠ .done) :
    Works .watcher id ⟨w.path, w.point.stage⟩ ⟨w.path, .ended⟩ d
      ((d.putWatcher id { w with point := .done }).notify (.watcherDone w.path w.filename id)) := by
  have path : ({ w with point := .done } : Watcher).path = w.path := rfl
  refine ((SameStaff.refl d).putWatcher here lives path).notify rfl fun kind' p i mine => ?_
  cases kind' with
  | watcher =>
    cases mine
    exact ⟨rfl, rfl⟩
  | aggregator => cases mine

/-- A step of a check is a step of its watcher. -/
theorem stepCheck_works (here : d.watchers.get? id = some w) (lives : w.point ≠ .done)
    (isFirst : Bool) (point : CheckPoint) :
    ∃ v', Works .watcher id ⟨w.path, w.point.stage⟩ v' d (d.stepCheck id w isFirst point) := by
  have silent := SameStaff.refl d
  cases point with
  | start =>
    simp only [stepCheck]
    split
    · exact ⟨_, silent.putWatcher here lives rfl⟩
    · split <;> exact ⟨_, silent.putWatcher here lives rfl⟩
  | reading modified =>
    simp only [stepCheck]
    split <;> exact ⟨_, silent.putWatcher here lives rfl⟩
  | evaluating modified checksum =>
    simp only [stepCheck]
    split
    · exact ⟨_, silent.putWatcher here lives rfl⟩
    · split <;> exact ⟨_, silent.putWatcher here lives rfl⟩
  | confirming modified checksum scope =>
    simp only [stepCheck]
    split
    · exact ⟨_, silent.putWatcher here lives rfl⟩
    · split
      · exact ⟨_, silent.putWatcher here lives rfl⟩
      · split
        · exact ⟨_, silent.putWatcher here lives rfl⟩
        · split <;> exact ⟨_, silent.putWatcher here lives rfl⟩
  | publishing modified config =>
    have talks : Talks [] d (d.applyLocal (.setConfig w.path config)).1 := talks_applyLocal _
    simp only [stepCheck]
    refine ⟨_, talks.sameStaff.putWatcher here lives ?_⟩
    split <;> rfl

/-- A step of the main loop of a watcher is a step of the watcher. -/
theorem runWatcher_works (here : d.watchers.get? id = some w) (lives : w.point ≠ .done)
    (stepped : d.runWatcher id w = some e) :
    ∃ v', Works .watcher id ⟨w.path, w.point.stage⟩ v' d e := by
  have silent := SameStaff.refl d
  have taken {i : Nat} {event : Event} {d' : Daemon} (received : d.receive i = some (event, d')) :
      SameStaff d d' := (talks_receive (List.mem_singleton_self i) received).sameStaff
  unfold runWatcher at stepped
  split at stepped
  · cases stepped
    exact ⟨_, silent.putWatcher here lives rfl⟩
  · split at stepped
    · cases stepped
      exact ⟨_, silent.putWatcher here lives rfl⟩
    · cases stepped
      exact ⟨_, silent.putWatcher here lives rfl⟩
    · split at stepped
      · rename_i received
        cases stepped
        exact ⟨_, (taken received).putWatcher here lives rfl⟩
      · split at stepped
        · rename_i received
          cases stepped
          exact ⟨_, (taken received).putWatcher here lives rfl⟩
        · obtain ⟨i, _, stepped⟩ := Option.bind_eq_some_iff.1 stepped
          obtain ⟨⟨event, d'⟩, received, stepped⟩ := Option.bind_eq_some_iff.1 stepped
          cases stepped
          exact ⟨_, (taken received).putWatcher here lives rfl⟩

/-- A step of a watcher, whatever becomes of the node. -/
theorem stepWatcher_works (here : d.watchers.get? id = some w)
    (stepped : d.stepWatcher id w = some e) : ∃ v v', Works .watcher id v v' d e := by
  have silent := SameStaff.refl d
  have talked (m : Mutation) : SameStaff d (d.applyLocal m).1 :=
    (talks_applyLocal m : Talks [] d _).sameStaff
  refine ⟨⟨w.path, w.point.stage⟩, ?_⟩
  have lives : w.point ≠ .done := by
    intro ended
    simp only [stepWatcher, ended] at stepped
    cases stepped
  unfold stepWatcher at stepped
  split at stepped
  · cases stepped
    exact ⟨_, silent.putWatcher here lives rfl⟩
  · cases stepped
    exact stepCheck_works here lives _ _
  · cases stepped
    have launched : SameStaff d (d.launchMonitor id w) := ⟨fun _ => rfl, rfl, rfl, rfl⟩
    exact ⟨_, launched.putWatcher here lives rfl⟩
  · exact runWatcher_works here lives stepped
  · split at stepped
    · cases stepped
      exact ⟨_, silent.putWatcher here lives rfl⟩
    · split at stepped
      · cases stepped
      · cases stepped
        -- Its own record stays as it is.
        have cancelled : SameStaff d (d.cancelMonitor id) ∧
            (d.cancelMonitor id).watchers = d.watchers := by
          unfold cancelMonitor
          split <;> exact ⟨⟨fun _ => rfl, rfl, rfl, rfl⟩, rfl⟩
        have put := cancelled.1.putWatcher here lives rfl
        rw [putWatcher_self (by rw [cancelled.2, here])] at put
        exact ⟨_, put⟩
  · cases stepped
    exact ⟨_, (talked _).putWatcher here lives rfl⟩
  · cases stepped
    exact ⟨_, (talked _).putWatcher here lives rfl⟩
  · cases stepped
    exact ⟨_, (sameStaff_unsubscribe _).putWatcher here lives rfl⟩
  · split at stepped
    · cases stepped
      exact ⟨_, silent.putWatcher here lives rfl⟩
    · split at stepped
      · cases stepped
        exact ⟨_, endWatcher_works here lives⟩
      · cases stepped
  · cases stepped

end Watcher

section Aggregator

variable {a a' : Aggregator}

/-- An aggregator that keeps its record anew. -/
theorem SameStaff.putAggregator (same : SameStaff d d') (here : d.aggregators.get? id = some a)
    (lives : a.point ≠ .done) (path : a'.path = a.path) :
    Works .aggregator id ⟨a.path, a.point.stage⟩ ⟨a'.path, a'.point.stage⟩ d
      (d'.putAggregator id a') where
  here := by rw [worker?, here, Option.map_some]
  lives := fun ended => lives (AggregatorPoint.stage_eq_ended_iff.1 ended)
  path := path
  after := (worker?_of_aggregators rfl id).trans (if_pos rfl)
  others i different := by
    rw [← same.workers]
    exact (worker?_of_aggregators rfl i).trans (if_neg different)
  elsewhere kind' other := by
    rw [← same.workers]
    cases kind' with
    | watcher => rfl
    | aggregator => exact absurd rfl other
  coordinator := same.coordinator
  notices n waits := .inl (by rwa [← same.notices])
  nextWorker := same.nextWorker

/-- An aggregator that ends tells so. -/
theorem endAggregator_works (here : d.aggregators.get? id = some a) (lives : a.point ≠ .done) :
    Works .aggregator id ⟨a.path, a.point.stage⟩ ⟨a.path, .ended⟩ d
      ((d.putAggregator id { a with point := .done }).notify (.aggregatorDone a.path id)) := by
  have path : ({ a with point := .done } : Aggregator).path = a.path := rfl
  refine ((SameStaff.refl d).putAggregator here lives path).notify rfl fun kind' p i mine => ?_
  cases kind' with
  | watcher => cases mine
  | aggregator =>
    cases mine
    exact ⟨rfl, rfl⟩

/-- In a step of its main loop an aggregator stays active. -/
theorem runAggregator_works (here : d.aggregators.get? id = some a) (runs : a.point = .running)
    (stepped : d.runAggregator id a = some e) :
    ∃ v', Works .aggregator id ⟨a.path, a.point.stage⟩ v' d e ∧ v'.stage = .active := by
  have silent := SameStaff.refl d
  have lives : a.point ≠ .done := by
    rw [runs]
    exact AggregatorPoint.noConfusion
  have active : a.point.stage = .active := by rw [runs]; rfl
  unfold runAggregator at stepped
  split at stepped
  · cases stepped
    exact ⟨_, silent.putAggregator here lives rfl, rfl⟩
  · split at stepped
    · cases stepped
      exact ⟨_, silent.putAggregator here lives rfl, rfl⟩
    · cases stepped
      exact ⟨_, silent.putAggregator here lives rfl, active⟩
    · obtain ⟨⟨event, d'⟩, received, made⟩ := Option.map_eq_some_iff.1 stepped
      cases made
      obtain ⟨_, _, _, _, rfl⟩ := nextForAggregator_cases received
      obtain ⟨path, _, keeps⟩ := heed_keeps a event runs
      exact ⟨_, SameStaff.putAggregator ⟨fun _ => rfl, rfl, rfl, rfl⟩ here lives path,
        AggregatorPoint.stage_of_keeps keeps⟩

/-- A step of an aggregator, whatever becomes of the node: it cleans up by a step of its own. -/
theorem stepAggregator_works (here : d.aggregators.get? id = some a)
    (stepped : d.stepAggregator id a = some e) :
    ∃ v v', Works .aggregator id v v' d e ∧ (v.stage = .active → v'.stage ≠ .active →
      a.point = .leaving) := by
  have silent := SameStaff.refl d
  refine ⟨⟨a.path, a.point.stage⟩, ?_⟩
  have lives : a.point ≠ .done := by
    intro ended
    simp only [stepAggregator, ended] at stepped
    cases stepped
  unfold stepAggregator at stepped
  split at stepped
  · cases stepped
    have subscribed : SameStaff d (d.subscribeAggregator a.path).2 :=
      ⟨fun _ => rfl, rfl, rfl, rfl⟩
    exact ⟨_, subscribed.putAggregator here lives rfl, fun _ gone => absurd rfl gone⟩
  · cases stepped
    exact ⟨_, silent.putAggregator here lives rfl, fun _ gone => absurd rfl gone⟩
  · cases stepped
    refine ⟨_, silent.putAggregator here lives rfl, fun _ gone => absurd ?_ gone⟩
    dsimp only
    split <;> rfl
  · cases stepped
    exact ⟨_, (talks_setAggregate .. : Talks [] d _).sameStaff.putAggregator here lives rfl,
      fun _ gone => absurd rfl gone⟩
  · rename_i runs
    obtain ⟨v', works, active⟩ := runAggregator_works here runs stepped
    exact ⟨v', works, fun _ gone => absurd active gone⟩
  · cases stepped
    exact ⟨_, silent.putAggregator here lives rfl, fun _ gone => absurd rfl gone⟩
  · rename_i leaving
    cases stepped
    have talks : Talks a.subscriptions.ids d
        ((d.unsubscribe a.subscriptions.ids).delAggregate a.path) :=
      (talks_unsubscribe (List.Subset.refl _)).trans (talks_delAggregate _)
    exact ⟨_, talks.sameStaff.putAggregator here lives rfl, fun _ _ => leaving⟩
  · rename_i draining
    have retired : a.point.stage ≠ .active := by rw [draining]; exact WorkerStage.noConfusion
    split at stepped
    · cases stepped
      exact ⟨_, silent.putAggregator here lives rfl, fun active => absurd active retired⟩
    · split at stepped
      · cases stepped
        exact ⟨_, endAggregator_works here lives, fun active => absurd active retired⟩
      · cases stepped
  · cases stepped

end Aggregator

/-! ## The coordinator -/

/-- A step of the coordinator. -/
structure Manages (c c' : Coordinator) (d e : Daemon) : Prop where
  coordinator : e.coordinator = some c'
  vacant : c'.Vacant
  managed : ∀ kind, (d.crew c kind).Managed (e.crew c' kind)

/-- A coordinator whose record names the same workers. -/
theorem manages_of_same (coordinator : e.coordinator = some c') (vacant : c'.Vacant)
    (workers : ∀ kind, e.worker? kind = d.worker? kind)
    (known : ∀ kind, c'.known kind = c.known kind) (notices : ∀ n ∈ e.notices, n ∈ d.notices)
    (nextWorker : e.nextWorker = d.nextWorker) : Manages c c' d e where
  coordinator := coordinator
  vacant := vacant
  managed kind := by
    refine Crew.managed_of_same (workers kind) (known kind) (fun p i told => ?_)
      (Nat.le_of_eq nextWorker.symm)
    obtain ⟨n, waits, mine⟩ := mem_told_crew_iff.1 told
    exact mem_told_crew_iff.2 ⟨n, notices n waits, mine⟩

/-- After what concerns no worker, the coordinator keeps its record anew. -/
theorem SameStaff.manages (same : SameStaff d d') (known : ∀ kind, c'.known kind = c.known kind)
    (vacant : c'.Vacant) : Manages c c' d (d'.putCoordinator c') :=
  manages_of_same rfl vacant (fun kind => same.workers kind) known
    (fun n waits => by rwa [← same.notices]) same.nextWorker

/-- The coordinator starts an aggregator for an object whose aggregator has ended. -/
theorem SameStaff.beginAggregator (same : SameStaff d d')
    (sound : ∀ kind, (d.crew c kind).Sound) {p : ObjectPath}
    (ended : ∀ i a, c.aggregators.get? p = some i → d'.aggregators.get? i = some a →
      a.point = .done) (scope : List String) :
    Manages c { c with aggregators := c.aggregators.insert p d'.nextWorker, point := .idle } d
      (d'.beginAggregator c p scope) where
  coordinator := rfl
  vacant _ := CoordinatorPoint.noConfusion
  managed kind := by
    have sound := sound kind
    rw [← same.crew c kind] at sound ⊢
    cases kind with
    | watcher => exact Crew.managed_of_same rfl rfl (fun _ _ => id) (Nat.le_succ _)
    | aggregator =>
      have added := worker?_of_aggregators (d := d') (e := d'.beginAggregator c p scope) rfl
      refine sound.hire ?_ ((added _).trans (if_pos rfl))
        (fun i different => (added i).trans (if_neg different)) rfl rfl rfl
      intro i v known there
      obtain ⟨a, found, made⟩ := Option.map_eq_some_iff.1 there
      rw [← made]
      exact AggregatorPoint.stage_eq_ended_iff.2 (ended i a known found)

/-- A watcher that the coordinator knows and that does not watch any more is done. -/
theorem done_of_not_watches {p : ObjectPath} {i : WorkerId} {w : Watcher}
    (idle : d.watches c p = false) (known : c.watchers.get? p = some i)
    (there : d.watchers.get? i = some w) : w.point = .done := by
  rw [watches, known, Option.bind_some, watcher?, there] at idle
  simpa using idle

/-- To take a notice is to manage: what is forgotten has ended. -/
theorem takeNotice_manages (here : d.coordinator = some c) (vacant : c.Vacant)
    (sound : ∀ kind, (d.crew c kind).Sound) {n : Notice} {rest : List Notice}
    (first : d.notices = n :: rest) (restarts : Bool) :
    ∃ c', Manages c c' d ({ d with notices := rest }.takeNotice c restarts n) := by
  -- The other kind, or a worker that is not known: the notice is gone, and that is all.
  have fewer (kind : WorkerKind) :
      (d.crew c kind).Managed (({ d with notices := rest } : Daemon).crew c kind) := by
    refine Crew.managed_of_same rfl rfl (fun p i told => ?_) (Nat.le_refl _)
    obtain ⟨m, waits, mine⟩ := mem_told_crew_iff.1 told
    exact mem_told_crew_iff.2 ⟨m, by rw [first]; exact List.mem_cons_of_mem _ waits, mine⟩
  cases n with
  | watcherDone p filename id =>
    simp only [takeNotice]
    split
    · rename_i known
      refine ⟨_, rfl, fun q point => vacant q point, fun kind => ?_⟩
      cases kind with
      | watcher =>
        have told : (d.crew c .watcher).told =
            some (p, id) :: rest.map (·.of? .watcher) := by
          simp only [crew, first, List.map_cons, Notice.of?]
        exact (sound .watcher).forget told known rfl rfl rfl rfl
      | aggregator => exact fewer .aggregator
    · exact ⟨c, here, vacant, fewer⟩
  | aggregatorDone p id =>
    simp only [takeNotice]
    split
    · rename_i known
      refine ⟨_, rfl, fun q point => ?_, fun kind => ?_⟩
      · rw [SortedMap.get?_erase]
        split
        · rfl
        · rename_i other
          dsimp only at point
          split at point
          · cases point
            exact absurd rfl other
          · exact vacant q point
      · cases kind with
        | watcher => exact fewer .watcher
        | aggregator =>
          have told : (d.crew c .aggregator).told =
              some (p, id) :: rest.map (·.of? .aggregator) := by
            simp only [crew, first, List.map_cons, Notice.of?]
          exact (sound .aggregator).forget told known rfl rfl rfl rfl
    · exact ⟨c, here, vacant, fewer⟩

/-- To heed an event about a configuration is to manage. -/
theorem SameStaff.heedConfig (same : SameStaff d d') (here : d.coordinator = some c)
    (vacant : c.Vacant) (sound : ∀ kind, (d.crew c kind).Sound) (event : Event) :
    ∃ c', Manages c c' d (d'.heedConfig c event) := by
  have nothing : Manages c c d d' :=
    manages_of_same (same.coordinator.trans here) vacant same.workers (fun _ => rfl)
      (fun n waits => by rwa [← same.notices]) same.nextWorker
  unfold Daemon.heedConfig
  split
  · split
    · exact ⟨c, nothing⟩
    · rename_i idle
      exact ⟨_, same.beginAggregator sound
        (fun i a => done_of_not_aggregates (eq_false_of_ne_true idle)) _⟩
  · exact ⟨c, nothing⟩

/-- A step of the main loop of the coordinator is one of managing. -/
theorem runCoordinator_manages (here : d.coordinator = some c) (vacant : c.Vacant)
    (idle : c.point = .idle) (sound : ∀ kind, (d.crew c kind).Sound)
    (stepped : d.runCoordinator c = some e) : ∃ c', Manages c c' d e := by
  have silent := SameStaff.refl d
  have known (kind : WorkerKind) : c.known kind = c.known kind := rfl
  have taken {i : Nat} {event : Event} {d' : Daemon} (received : d.receive i = some (event, d')) :
      SameStaff d d' := (talks_receive (List.mem_singleton_self i) received).sameStaff
  unfold runCoordinator at stepped
  split at stepped
  · cases stepped
    exact ⟨_, silent.manages (by rintro ⟨⟩ <;> rfl) fun _ => CoordinatorPoint.noConfusion⟩
  · split at stepped
    · rename_i first
      cases stepped
      exact takeNotice_manages here vacant sound first true
    · split at stepped
      · rename_i received
        cases stepped
        exact (taken received).heedConfig here vacant sound _
      · split at stepped
        · rename_i received
          cases stepped
          refine ⟨_, (taken received).manages (by rintro ⟨⟩ <;> rfl) fun p point => ?_⟩
          rw [Coordinator.retry, idle] at point
          cases point
        · split at stepped
          · cases stepped
            exact ⟨_, silent.manages (by rintro ⟨⟩ <;> rfl) fun _ => CoordinatorPoint.noConfusion⟩
          · cases stepped

/-- A watcher that is started is the next worker; nothing else becomes of the staff. -/
theorem startWatcher_staff (d : Daemon) (p : ObjectPath) (filename : String) :
    (d.startWatcher p filename).1 = d.nextWorker ∧
      ∃ w, w.path = p ∧ w.point = .starting ∧
        (d.startWatcher p filename).2.watchers = d.watchers.insert d.nextWorker w ∧
        (d.startWatcher p filename).2.aggregators = d.aggregators ∧
        (d.startWatcher p filename).2.notices = d.notices ∧
        (d.startWatcher p filename).2.nextWorker = d.nextWorker + 1 := by
  by_cases isCluster : p.isCluster
  · simp only [startWatcher, isCluster, if_true]
    exact ⟨rfl, _, rfl, rfl, rfl, rfl, rfl, rfl⟩
  · simp only [startWatcher, isCluster]
    exact ⟨rfl, _, rfl, rfl, rfl, rfl, rfl, rfl⟩

/-- A file that is taken is told to its watcher, or gets one. -/
theorem takeFile_managed {p : ObjectPath} {f : ConfigFile}
    (sound : ∀ kind, (d.crew c kind).Sound) (kind : WorkerKind) :
    (d.crew c kind).Managed ((d.takeFile c p f).1.crew (d.takeFile c p f).2 kind) ∧
      (d.takeFile c p f).1.notices = d.notices := by
  by_cases watched : d.watches c p
  · rw [takeFile_told watched]
    exact ⟨by cases kind <;> exact .refl _, rfl⟩
  · obtain ⟨number, w, path, starting, watchers, aggregators, notices, nextWorker⟩ :=
      startWatcher_staff d p f.filename
    have made : d.takeFile c p f = ((d.startWatcher p f.filename).2,
        { c with
          files := c.files.insert p f
          watchers := c.watchers.insert p (d.startWatcher p f.filename).1 }) := if_neg watched
    rw [made, number]
    refine ⟨?_, notices⟩
    have told (kind : WorkerKind) :
        (d.startWatcher p f.filename).2.notices.map (·.of? kind) = d.notices.map (·.of? kind) := by
      rw [notices]
    cases kind with
    | watcher =>
      have added := worker?_of_watchers watchers
      refine (sound .watcher).hire (p := p) ?_ ?_
        (fun i different => (added i).trans (if_neg different)) rfl (told .watcher) nextWorker
      · intro i v known there
        obtain ⟨u, found, same⟩ := Option.map_eq_some_iff.1 there
        rw [← same]
        exact WatcherPoint.stage_eq_ended_iff.2
          (done_of_not_watches (eq_false_of_ne_true watched) known found)
      · refine (added _).trans ((if_pos rfl).trans ?_)
        rw [path, starting]
        rfl
    | aggregator =>
      have same : (d.startWatcher p f.filename).2.worker? .aggregator = d.worker? .aggregator := by
        funext i
        simp only [worker?, aggregators]
      refine Crew.managed_of_same same rfl (fun q i waits => ?_) ?_
      · rwa [crew, told] at waits
      · exact Nat.le_trans (Nat.le_succ _) (Nat.le_of_eq nextWorker.symm)

/-- To apply what a scan found is to manage. -/
theorem applyScan_manages (sound : ∀ kind, (d.crew c kind).Sound)
    (found : SortedMap ObjectPath ConfigFile) :
    ∃ c', Manages c c' d (d.applyScan c found) := by
  have told : Talks [] d (d.publishAll (goneFiles c found)) := talks_publishAll _
  have gone (kind : WorkerKind) : (d.crew c kind).Managed
      ((d.publishAll (goneFiles c found)).crew (c.forgetGone found) kind) := by
    have same : (d.publishAll (goneFiles c found)).crew (c.forgetGone found) kind =
        (d.publishAll (goneFiles c found)).crew c kind := by
      cases kind <;> rfl
    rw [same, told.sameStaff.crew]
    exact .refl _
  obtain ⟨d', c', ⟨managed, _⟩, made⟩ := applyScan_files
    (motive := fun d' c' => (∀ kind, (d.crew c kind).Managed (d'.crew c' kind)) ∧
      d'.notices = d.notices)
    ⟨gone, told.sameStaff.notices⟩
    (by
      intro d' c' p f _ _ ⟨managed, notices⟩
      have sound' (kind : WorkerKind) := (sound kind).managed (managed kind)
      refine ⟨fun kind => ?_, (takeFile_managed sound' .watcher).2.trans notices⟩
      refine (sound kind).managed_trans (managed kind) (takeFile_managed sound' kind).1 ?_
      simp only [crew, notices])
  rw [made]
  refine ⟨_, ⟨rfl, fun _ => CoordinatorPoint.noConfusion, fun kind => ?_⟩⟩
  cases kind <;> exact managed _

/-- A worker that is commanded to end has not ended yet. -/
theorem commandWatcher_staff {i : WorkerId} {command : WorkerCommand}
    (commanded : d.commandWatcher i command = some e) : SameStaff d e := by
  obtain ⟨w, found, commanded⟩ := Option.bind_eq_some_iff.1 commanded
  obtain ⟨mailbox, _, made⟩ := Option.bind_eq_some_iff.1 commanded
  cases made
  have there : d.watchers.get? i = some w := (Option.filter_eq_some_iff.1 found).1
  refine ⟨fun kind => ?_, rfl, rfl, rfl⟩
  cases kind with
  | watcher =>
    funext j
    refine (worker?_of_watchers rfl j).trans ?_
    split
    · rename_i same
      rw [same, worker?, there, Option.map_some]
    · rfl
  | aggregator => rfl

/-- A command in the mailbox of an aggregator leaves the staff. -/
theorem commandAggregator_staff {i : WorkerId} {command : WorkerCommand}
    (commanded : d.commandAggregator i command = some e) : SameStaff d e := by
  obtain ⟨a, found, commanded⟩ := Option.bind_eq_some_iff.1 commanded
  obtain ⟨mailbox, _, made⟩ := Option.bind_eq_some_iff.1 commanded
  cases made
  have there : d.aggregators.get? i = some a := (Option.filter_eq_some_iff.1 found).1
  refine ⟨fun kind => ?_, rfl, rfl, rfl⟩
  cases kind with
  | watcher => rfl
  | aggregator =>
    funext j
    refine (worker?_of_aggregators rfl j).trans ?_
    split
    · rename_i same
      rw [same, worker?, there, Option.map_some]
    · rfl

/-- What leaves the staff twice leaves it. -/
theorem SameStaff.trans {f : Daemon} (first : SameStaff d e) (second : SameStaff e f) :
    SameStaff d f where
  workers kind := (second.workers kind).trans (first.workers kind)
  coordinator := second.coordinator.trans first.coordinator
  notices := second.notices.trans first.notices
  nextWorker := second.nextWorker.trans first.nextWorker

/-- What commands make of a node, where each one may fail. -/
theorem sameStaff_foldl {command : Daemon → WorkerId → Option Daemon}
    (one : ∀ d i e, command d i = some e → SameStaff d e) (ids : List WorkerId) (d : Daemon) :
    SameStaff d (ids.foldl (fun d i => (command d i).getD d) d) := by
  induction ids generalizing d with
  | nil => exact .refl d
  | cons i ids ih =>
    refine SameStaff.trans ?_ (ih _)
    dsimp only
    cases made : command d i with
    | none => exact .refl d
    | some e => exact one d i e made

/-- To tell the workers to end leaves the staff. -/
theorem dismiss_staff (d : Daemon) (c : Coordinator) : SameStaff d (d.dismiss c) :=
  (sameStaff_foldl (fun _ _ _ => commandWatcher_staff) _ d).trans
    (sameStaff_foldl (fun _ _ _ => commandAggregator_staff) _ _)

/-- To wait for the workers to end is to manage. -/
theorem awaitWorkers_manages (here : d.coordinator = some c) (vacant : c.Vacant)
    (sound : ∀ kind, (d.crew c kind).Sound) {deadline : Nat}
    (stepped : d.awaitWorkers c deadline = some e) : ∃ c', Manages c c' d e := by
  have finish : ∃ c', Manages c c' d
      ({ d with takesNotices := false, notices := [] }.putCoordinator { c with point := .done }) :=
    ⟨_, manages_of_same rfl (fun _ => CoordinatorPoint.noConfusion) (fun _ => rfl)
      (by rintro ⟨⟩ <;> rfl) (fun _ waits => by cases waits) rfl⟩
  unfold awaitWorkers at stepped
  dsimp only at stepped
  split at stepped
  · cases stepped
    exact finish
  · split at stepped
    · rename_i first
      cases stepped
      exact takeNotice_manages here vacant sound first false
    · split at stepped
      · cases stepped
        exact finish
      · cases stepped

/-- A step of the coordinator, whatever becomes of the node. -/
theorem stepCoordinator_manages (here : d.coordinator = some c) (vacant : c.Vacant)
    (sound : ∀ kind, (d.crew c kind).Sound) (stepped : d.stepCoordinator c = some e) :
    ∃ c', Manages c c' d e := by
  have silent := SameStaff.refl d
  have goesOn {d' : Daemon} {point : CoordinatorPoint} (same : SameStaff d d')
      (rests : ∀ p, point ≠ .restarting p) :
      ∃ c', Manages c c' d (d'.putCoordinator { c with point }) :=
    ⟨_, same.manages (by rintro ⟨⟩ <;> rfl) fun p restarts => absurd restarts (rests p)⟩
  unfold stepCoordinator at stepped
  split at stepped
  · cases stepped
    have subscribed : SameStaff d ((d.subscribe .configUpdated []).2.subscribe
        .clusterConfigUpdated [.node d.localhost]).2 := ⟨fun _ => rfl, rfl, rfl, rfl⟩
    exact ⟨_, subscribed.manages (by rintro ⟨⟩ <;> rfl) fun _ => CoordinatorPoint.noConfusion⟩
  · rename_i idle
    exact runCoordinator_manages here vacant idle sound stepped
  · split at stepped
    · cases stepped
      exact goesOn silent fun _ => CoordinatorPoint.noConfusion
    · cases stepped
      exact goesOn silent fun _ => CoordinatorPoint.noConfusion
  · cases stepped
    exact applyScan_manages sound _
  · cases stepped
    exact goesOn silent fun _ => CoordinatorPoint.noConfusion
  · cases stepped
    simp only [lookAtStatus]
    split
    · exact goesOn silent fun _ => CoordinatorPoint.noConfusion
    · split
      · exact goesOn silent fun _ => CoordinatorPoint.noConfusion
      · exact ⟨_, silent.manages (by rintro ⟨⟩ <;> rfl) fun _ => CoordinatorPoint.noConfusion⟩
  · cases stepped
    unfold readStatus
    split <;> exact goesOn silent fun _ => CoordinatorPoint.noConfusion
  · cases stepped
    exact goesOn (talks_applyLocal _ : Talks [] d _).sameStaff fun _ => CoordinatorPoint.noConfusion
  · rename_i p restarting
    have none := vacant p restarting
    dsimp only at stepped
    generalize (if d.storeOpen then d.replica.configNodes p else []) = nodes at stepped
    split at stepped
    · cases stepped
      exact goesOn silent fun _ => CoordinatorPoint.noConfusion
    · cases stepped
      exact ⟨_, silent.beginAggregator sound
        (fun i a known => by rw [none] at known; cases known) _⟩
  · cases stepped
    exact goesOn ((sameStaff_unsubscribe _).trans (dismiss_staff _ c))
      fun _ => CoordinatorPoint.noConfusion
  · exact awaitWorkers_manages here vacant sound stepped
  · cases stepped

/-! ## Steps -/

/-- What can happen to a node, from the view of its crews. -/
inductive Staffed (d e : Daemon) : Prop where
  | aside : SameStaff d e → Staffed d e
  | worker {kind : WorkerKind} {id : WorkerId} {v v' : Worker} : Works kind id v v' d e →
      (kind = .aggregator → v.stage = .active → v'.stage ≠ .active →
        d.step (.aggregator id) = some e ∧
          ∃ a, d.aggregators.get? id = some a ∧ a.path = v.path ∧ a.point = .leaving) →
      Staffed d e
  | coordinator {c c' : Coordinator} : d.coordinator = some c → Manages c c' d e → Staffed d e

/-- What can happen to a node whose crews are sound. -/
theorem Step.staff (step : Step d e)
    (sound : ∀ c, d.coordinator = some c → c.Vacant ∧ ∀ kind, (d.crew c kind).Sound) :
    Staffed d e := by
  cases step with
  | @act a _ _ stepped =>
    cases a with
    | store =>
      obtain ⟨d', _, _, talks, rfl⟩ := stepStore_cases stepped
      exact .aside (talks.sameStaff.trans ⟨fun _ => rfl, rfl, rfl, rfl⟩)
    | coordinator =>
      obtain ⟨c, here, stepped⟩ := Option.bind_eq_some_iff.1 stepped
      obtain ⟨vacant, sound⟩ := sound c here
      obtain ⟨c', manages⟩ := stepCoordinator_manages here vacant sound stepped
      exact .coordinator here manages
    | watcher id =>
      obtain ⟨w, here, stepped⟩ := Option.bind_eq_some_iff.1 stepped
      obtain ⟨v, v', works⟩ := stepWatcher_works here stepped
      exact .worker works fun other => nomatch other
    | monitor id =>
      obtain ⟨m, here, stepped⟩ := Option.bind_eq_some_iff.1 stepped
      obtain ⟨d', m', talks, rfl, _⟩ := stepMonitor_cases here stepped
      exact .aside (talks.sameStaff.trans ⟨fun _ => rfl, rfl, rfl, rfl⟩)
    | aggregator id =>
      have moved := stepped
      obtain ⟨a, here, stepped⟩ := Option.bind_eq_some_iff.1 stepped
      obtain ⟨v, v', works, leaves⟩ := stepAggregator_works here stepped
      have path : a.path = v.path := by
        have same := works.here
        rw [worker?, here, Option.map_some] at same
        rw [← Option.some.inj same]
      exact .worker works fun _ active gone => ⟨moved, a, here, path, leaves active gone⟩
  | moveClock | serve | configDirectory | statusFiles | cancel =>
    exact .aside ⟨fun _ => rfl, rfl, rfl, rfl⟩
  | applyLocal m => exact .aside (talks_applyLocal m : Talks [] d _).sameStaff
  | applyRemote node g ms => exact .aside (talks_applyRemote node g ms : Talks [] d _).sameStaff
  | applyMessage m => exact .aside (talks_applyMessage m : Talks [] d _).sameStaff
  | publish p => exact .aside (talks_publish p : Talks [] d _).sameStaff
  | closeStore =>
    have closed : SameStaff d { d with storeOpen := false } := ⟨fun _ => rfl, rfl, rfl, rfl⟩
    exact .aside (closed.trans (sameStaff_unsubscribe _))

end Daemon

end ClusterNode
