import ClusterNode.Proofs.Daemon.AggregatorMoves
import ClusterNode.Proofs.Daemon.Run
import ClusterNode.Proofs.Daemon.StaffMoves

/-!
# Lives of a node

A `Daemon.Life` is a run of a node that nobody asks to go down, with or without a
coordinator. Whoever publishes anything may do so, but only the store speaks of records. The
notices of workers that have ended may be late, so that the coordinator goes on as if they had
said nothing yet: it finds an aggregator closed of which it has no notice, starts the next one
for a configuration, and takes the notice of the first one when it is stale.

`Goes.turn` is the inversion of a step from the view of the aggregators: it is a step of one
of them, of the coordinator, or it passes them by. In each case what is published tells what
became of the records, and every actor apart from the one that steps hears it.
-/

namespace ClusterNode.Daemon

/-- What can happen to a node that does not go down. -/
inductive Goes (d : Daemon) : Daemon → Prop where
  | act {input : MonitorInput} {a : Actor} {e : Daemon} : d.stepTaking input a = some e → Goes d e
  /-- The coordinator steps while the latest notices are on their way. A worker has ended before
  its notice arrives. -/
  | late {seen late : List Notice} {e : Daemon} : d.notices = seen ++ late →
      ({ d with notices := seen } : Daemon).step .coordinator = some e →
      Goes d { e with notices := e.notices ++ late }
  | moveClock (ms : Nat) : Goes d (d.moveClock ms)
  | serve {time : Nat} : time ≤ d.clock → Goes d (d.serveTo time)
  | configDirectory (c : ConfigDirectory) : Goes d { d with configDirectory := c }
  | statusFiles (files : SortedMap String StatusEntry) : Goes d { d with statusFiles := files }
  | applyLocal (m : Mutation) : Goes d (d.applyLocal m).1
  | applyRemote (node : String) (g : Generation) (ms : List Mutation) :
      Goes d (d.applyRemote node g ms).1
  | applyMessage (m : Message) : Goes d (d.applyMessage m).1
  /-- Records are not spoken of. -/
  | publish {p : Publication} : p.event.change? = none → Goes d (d.publish p)

/-- A life: the states that were passed through, latest first, and the state reached. -/
inductive Life (start : Daemon) : List Daemon → Daemon → Prop where
  | start : Life start [start] start
  | step {past : List Daemon} {d e : Daemon} :
      Life start past d → Goes d e → Life start (e :: past) e

variable {d e : Daemon}

/-- What every life keeps whatever happens. -/
structure Tidy (d : Daemon) : Prop where
  apart : d.Apart
  stays : d.cancelled = false
  isOpen : d.storeOpen = true
  takesNotices : d.takesNotices = true
  silent : d.replica.Silent
  given : ∀ id a, d.aggregators.get? id = some a → id < d.nextWorker
  coordinator : ∀ c, d.coordinator = some c → c.point = .starting ∨ c.point.works

/-- The notices play no part in what every life keeps. -/
theorem Tidy.withNotices (tidy : d.Tidy) (notices : List Notice) : { d with notices }.Tidy where
  apart := tidy.apart.of_same rfl rfl
  stays := tidy.stays
  isOpen := tidy.isOpen
  takesNotices := tidy.takesNotices
  silent := tidy.silent
  given := tidy.given
  coordinator := tidy.coordinator

/-- A node whose coordinator is there is steady. -/
theorem Tidy.steady (tidy : d.Tidy) {c : Coordinator} (here : d.coordinator = some c) : d.Steady :=
  ⟨tidy.apart, tidy.stays, tidy.isOpen, tidy.takesNotices, c, here, tidy.coordinator c here⟩

/-- What changes no aggregator, no aggregate and nothing of the coordinator; notices of
watchers may be new. -/
structure Bypasses (a : Actor) (news : List Publication) (d e : Daemon) : Prop where
  passes : Passes (d.owned a) news d e
  coordinator : e.coordinator = d.coordinator
  notices : ∃ ended, e.notices = d.notices ++ ended ∧
    ∀ n ∈ ended, ∀ p id, n ≠ Notice.aggregatorDone p id

/-- What can happen, from the view of the aggregators. -/
inductive Turn (news : List Publication) (d e : Daemon) : Prop where
  | aside {a : Actor} : a ≠ .coordinator → (∀ id, a ≠ .aggregator id) →
      Bypasses a news d e → Turn news d e
  | aggregator {id : WorkerId} {a a' : Aggregator} : d.aggregators.get? id = some a →
      a.point ≠ .done → AggregatorMove d a a' e → Aggregates id a a' news d e → Turn news d e
  | coordinator {c c' : Coordinator} : d.coordinator = some c → StaffMove d c news c' e →
      Staffs c c' news d e → Turn news d e

/-! ## Single steps -/

/-- What talks and tells of the records passes the aggregators by, monitors and messages of
the store beside. -/
theorem Talks.bypasses {own : List Nat} {a : Actor} {d' : Daemon} (talks : Talks own d d')
    (mine : own ⊆ d.owned a)
    (made : ∃ nextMessage outbox monitors, e = { d' with nextMessage, outbox, monitors })
    (told : ∃ news, Recounts news d e) : ∃ news, Bypasses a news d e := by
  obtain ⟨news, recounts⟩ := told
  obtain ⟨news', leaves⟩ := talks.spares
  obtain ⟨_, _, _, rfl⟩ := talks.rest
  obtain ⟨_, _, _, made⟩ := made
  have leaves : Leaves (d.owned a) news' d e :=
    (leaves.mono mine).andThen (by rw [made]) (by rw [made])
  cases leaves.news_eq recounts.toReports
  subst made
  exact ⟨news, ⟨recounts, leaves, rfl, Nat.le_refl _⟩, rfl, [], (List.append_nil _).symm,
    fun _ new => by cases new⟩

/-- What changes nothing that the aggregators see passes them by. -/
theorem bypasses_of_same (a : Actor) (published : e.published = d.published)
    (bus : e.bus = d.bus) (replica : e.replica = d.replica) (cancelled : e.cancelled = d.cancelled)
    (storeOpen : e.storeOpen = d.storeOpen) (aggregators : e.aggregators = d.aggregators)
    (nextWorker : e.nextWorker = d.nextWorker) (coordinator : e.coordinator = d.coordinator)
    (notices : e.notices = d.notices) : ∃ news, Bypasses a news d e :=
  ⟨[], ⟨recounts_of_same published replica cancelled storeOpen, leaves_of_bus bus published,
    aggregators, Nat.le_of_eq nextWorker.symm⟩, coordinator, [],
    by rw [notices, List.append_nil], fun _ new => by cases new⟩

/-- A watcher that ends is no aggregator. -/
theorem Turns.bypasses {id : WorkerId} {w w' : Watcher} (turns : Turns id w w' d e)
    (here : d.watchers.get? id = some w) (takes : d.takesNotices = true)
    (told : ∃ news, Recounts news d e) : ∃ news, Bypasses (.watcher id) news d e := by
  obtain ⟨news, recounts⟩ := told
  obtain ⟨news', leaves⟩ := turns.spares
  cases leaves.news_eq recounts.toReports
  refine ⟨news, ⟨recounts, ?_, turns.aggregators, Nat.le_of_eq turns.nextWorker.symm⟩,
    turns.coordinator, ?_⟩
  · rw [owned_watcher here]
    exact leaves
  · rcases turns.notices with ⟨_, same⟩ | ⟨_, ended⟩
    · exact ⟨[], by rw [same, List.append_nil], fun _ new => by cases new⟩
    · refine ⟨_, ended takes, fun n new p id' => ?_⟩
      rw [List.mem_singleton.1 new]
      exact Notice.noConfusion

/-- What an actor does, from the view of the aggregators. -/
theorem step_turn (tidy : d.Tidy) {input : MonitorInput} {a : Actor}
    (stepped : d.stepTaking input a = some e) : ∃ news, Turn news d e := by
  have aside {b : Actor} (notCoordinator : b ≠ .coordinator)
      (notAggregator : ∀ id, b ≠ .aggregator id) (bypasses : ∃ news, Bypasses b news d e) :
      ∃ news, Turn news d e := by
    obtain ⟨news, bypasses⟩ := bypasses
    exact ⟨news, .aside notCoordinator notAggregator bypasses⟩
  cases a with
  | store =>
    obtain ⟨d', nextMessage, outbox, talks, made⟩ := stepStore_cases stepped
    exact aside Actor.noConfusion (fun _ => Actor.noConfusion)
      (talks.bypasses (a := .store) (fun _ mine => mine) ⟨nextMessage, outbox, d'.monitors, made⟩
        (stepStore_recounts stepped))
  | coordinator =>
    obtain ⟨c, here, stepped⟩ := Option.bind_eq_some_iff.1 stepped
    obtain ⟨c', news, move, staffs⟩ := stepCoordinator_staffs tidy.apart here tidy.stays
      tidy.isOpen (tidy.coordinator c here) stepped
    exact ⟨news, .coordinator here move staffs⟩
  | watcher id =>
    obtain ⟨w, here, stepped⟩ := Option.bind_eq_some_iff.1 stepped
    obtain ⟨_, w', _, turns⟩ := stepWatcher_cases here tidy.isOpen stepped
    exact aside Actor.noConfusion (fun _ => Actor.noConfusion)
      (turns.bypasses here tidy.takesNotices (stepWatcher_recounts stepped))
  | monitor id =>
    obtain ⟨m, here, stepped⟩ := Option.bind_eq_some_iff.1 stepped
    obtain ⟨d', m', talks, made, keeps⟩ := stepMonitor_cases here stepped
    exact aside Actor.noConfusion (fun _ => Actor.noConfusion)
      (talks.bypasses (a := .monitor id) (by simp [owned, here])
        ⟨d'.nextMessage, d'.outbox, _, made⟩ (stepMonitor_recounts stepped))
  | aggregator id =>
    obtain ⟨a, here, stepped⟩ := Option.bind_eq_some_iff.1 stepped
    obtain ⟨lives, a', news, move, frame⟩ := stepAggregator_moves tidy.apart.numbered tidy.stays
      tidy.isOpen tidy.takesNotices stepped
    exact ⟨news, .aggregator here lives move frame⟩

/-- What can happen, from the view of the aggregators, where the keys of the records are
written object paths. -/
theorem Goes.turn (goes : Goes d e) (tidy : d.Tidy) (keyed : d.replica.Keyed)
    (keyed' : e.replica.Keyed) : ∃ news, Turn news d e := by
  -- What the world does is nobody's step: the store stands for it, with nothing taken.
  have aside (bypasses : ∃ news, Bypasses .store news d e) : ∃ news, Turn news d e := by
    obtain ⟨news, bypasses⟩ := bypasses
    exact ⟨news, .aside Actor.noConfusion (fun _ => Actor.noConfusion) bypasses⟩
  have talked (talks : Talks [] d e) (told : ∃ news, Recounts news d e) :
      ∃ news, Turn news d e :=
    aside (talks.bypasses (List.nil_subset _) ⟨e.nextMessage, e.outbox, e.monitors, rfl⟩ told)
  cases goes with
  | act stepped => exact step_turn tidy stepped
  | late waits stepped =>
    obtain ⟨c, here, stepped⟩ := Option.bind_eq_some_iff.1 stepped
    obtain ⟨c', news, move, staffs⟩ := stepCoordinator_staffs (tidy.withNotices _).apart here
      tidy.stays tidy.isOpen (tidy.coordinator c here) stepped
    exact ⟨news, .coordinator here (move.late waits) staffs.late⟩
  | moveClock | serve | configDirectory | statusFiles =>
    exact aside (bypasses_of_same .store rfl rfl rfl rfl rfl rfl rfl rfl rfl)
  | applyLocal m => exact talked (talks_applyLocal m) (applyLocal_recounts d m)
  | applyRemote node g ms =>
    exact talked (talks_applyRemote node g ms) (applyRemote_recounts tidy.silent node g ms)
  | applyMessage m =>
    exact talked (talks_applyMessage m) (applyMessage_recounts tidy.silent m keyed keyed')
  | publish mute => exact talked (talks_publish _) ⟨_, recounts_publish mute⟩

/-- Whatever happens, what was published tells of the records. -/
theorem Turn.reports {news : List Publication} (turn : Turn news d e) : Reports news d e := by
  cases turn with
  | aside _ _ bypasses => exact bypasses.passes.recounts.toReports
  | aggregator _ _ _ frame => exact frame.reports
  | coordinator _ _ staffs => exact staffs.recounts.toReports

/-! ## What every step keeps -/

/-- What the steps of a life need of a node, apart from its store. -/
structure Orderly (d : Daemon) : Prop where
  apart : d.Apart
  takesNotices : d.takesNotices = true

/-- What every life keeps is more than its steps need. -/
theorem Tidy.orderly (tidy : d.Tidy) : d.Orderly := ⟨tidy.apart, tidy.takesNotices⟩

/-- A step that leaves the bystanders, and takes no subscription from others, stays orderly. -/
theorem Orderly.bystands {a : Actor} {own : List Nat} (orderly : d.Orderly)
    (frame : Bystands own d e ∧ Grants a d e) : e.Orderly where
  apart := orderly.apart.grants frame.2
  takesNotices := frame.1.takesNotices.trans orderly.takesNotices

/-- What can happen to a node leaves it orderly, while it is up. -/
theorem Goes.orderly (goes : Goes d e) (tidy : d.Tidy) (stays : e.cancelled = false)
    (isOpen : e.storeOpen = true) : e.Orderly := by
  have orderly := tidy.orderly
  have aside (aside : Aside d e) : e.Orderly := by
    obtain ⟨_, _, _, frame⟩ := aside
    exact orderly.bystands frame
  cases goes with
  | @act _ a _ stepped =>
    cases a with
    | store => exact orderly.bystands (stepStore_bystands stepped)
    | coordinator =>
      obtain ⟨c, here, _⟩ := Option.bind_eq_some_iff.1 stepped
      have steady := (tidy.steady here).step (.act stepped) stays isOpen
      exact ⟨steady.apart, steady.takesNotices⟩
    | watcher id =>
      obtain ⟨w, here, stepped⟩ := Option.bind_eq_some_iff.1 stepped
      obtain ⟨_, w', _, turns⟩ := stepWatcher_cases here tidy.isOpen stepped
      exact ⟨tidy.apart.grants (turns.grants here),
        turns.takesNotices.trans tidy.takesNotices⟩
    | monitor id =>
      obtain ⟨m, here, stepped⟩ := Option.bind_eq_some_iff.1 stepped
      exact orderly.bystands (stepMonitor_bystands here stepped)
    | aggregator id =>
      obtain ⟨a, here, stepped⟩ := Option.bind_eq_some_iff.1 stepped
      exact orderly.bystands (stepAggregator_bystands here stepped)
  | late waits stepped =>
    obtain ⟨c, here, _⟩ := Option.bind_eq_some_iff.1 stepped
    have steady := ((tidy.withNotices _).steady here).step (.act stepped) stays isOpen
    exact ⟨steady.apart.of_same rfl rfl, steady.takesNotices⟩
  | moveClock | serve | statusFiles => exact aside (aside_of_clock ⟨_, _, _, rfl⟩)
  | configDirectory files =>
    exact ⟨tidy.apart.of_same rfl rfl, tidy.takesNotices⟩
  | applyLocal m => exact aside (talks_applyLocal m).aside
  | applyRemote node g ms => exact aside (talks_applyRemote node g ms).aside
  | applyMessage m => exact aside (talks_applyMessage m).aside
  | publish _ => exact aside (talks_publish _).aside

/-- Where an aggregator is after a step of another actor. -/
theorem Turn.given {news : List Publication} (turn : Turn news d e) (tidy : d.Tidy) :
    ∀ id a, e.aggregators.get? id = some a → id < e.nextWorker := by
  intro id a there
  cases turn with
  | aside _ _ bypasses =>
    rw [bypasses.passes.aggregators] at there
    exact Nat.lt_of_lt_of_le (tidy.given id a there) bypasses.passes.nextWorker
  | @aggregator id' b b' here _ _ frame =>
    rw [frame.nextWorker]
    rw [frame.aggregators, SortedMap.get?_insert] at there
    split at there
    · rename_i same
      rw [same]
      exact tidy.given id' b here
    · exact tidy.given id a there
  | coordinator _ move staffs =>
    have before (same : e.aggregators = d.aggregators) : id < e.nextWorker := by
      rw [same] at there
      exact Nat.lt_of_lt_of_le (tidy.given id a there) staffs.nextWorker
    have hired {p : ObjectPath} {b : Aggregator} (hires : Hires p b d e) : id < e.nextWorker := by
      rw [hires.nextWorker]
      rw [hires.aggregators, SortedMap.get?_insert] at there
      split at there
      · rename_i same
        rw [same]
        exact Nat.lt_succ_self _
      · exact Nat.lt_succ_of_lt (tidy.given id a there)
    cases move with
    | begin _ _ _ _ _ same | release _ _ _ _ same | ignore _ _ _ _ same | dispense _ _ _ same =>
      exact before same
    | proceed _ _ _ _ _ _ same => exact before same
    | hire _ _ _ _ hires | rehire _ _ hires => exact hired hires

/-- What every life keeps is kept by every step. -/
theorem Tidy.turn {news : List Publication} (tidy : d.Tidy) (goes : Goes d e)
    (turn : Turn news d e) : e.Tidy := by
  have reports := turn.reports
  have stays : e.cancelled = false := reports.cancelled.trans tidy.stays
  have isOpen : e.storeOpen = true := reports.storeOpen.trans tidy.isOpen
  have orderly := goes.orderly tidy stays isOpen
  refine ⟨orderly.apart, stays, isOpen, orderly.takesNotices,
    reports.silent tidy.silent, turn.given tidy, fun c here => ?_⟩
  cases turn with
  | aside _ _ bypasses => exact tidy.coordinator c (bypasses.coordinator.symm.trans here)
  | aggregator _ _ _ frame => exact tidy.coordinator c (frame.coordinator.symm.trans here)
  | coordinator _ _ staffs =>
    cases staffs.coordinator.symm.trans here
    exact .inr staffs.works

/-! ## Beginnings -/

/-- A node with nothing but its store is tidy. -/
theorem tidy_new (s : DaemonSettings) (startedAt : Timestamp) : (Daemon.new s startedAt).Tidy where
  apart := apart_new s startedAt
  stays := rfl
  isOpen := rfl
  takesNotices := rfl
  silent := Replica.silent_new _ _ _ _
  given _ _ there := by cases there
  coordinator _ here := by cases here

/-- A node whose coordinator was just started is tidy. -/
theorem tidy_start (s : DaemonSettings) (startedAt : Timestamp) :
    (Daemon.new s startedAt).startCoordinator.Tidy :=
  have steady := steady_start s startedAt
  { apart := steady.apart
    stays := rfl
    isOpen := rfl
    takesNotices := rfl
    silent := Replica.silent_new _ _ _ _
    given := fun _ _ there => by cases there
    coordinator := fun _ here => by
      cases here
      exact .inl rfl }

/-- An aggregator that is started by hand leaves a node tidy. -/
theorem Tidy.startAggregator (tidy : d.Tidy) (p : ObjectPath) (scope : List String) :
    (d.startAggregator p scope).2.Tidy where
  apart := by
    refine tidy.apart.grants (a := .aggregator d.nextWorker)
      ((Talks.refl [] d).grantsWith rfl ?_ ?_)
    · intro i mine
      left
      simpa [owned, Daemon.startAggregator, AggregatorSubscriptions.ids] using mine
    · intro b different i has
      right
      cases b with
      | aggregator k =>
        have other : k ≠ d.nextWorker := fun same => different (by rw [same])
        simpa [owned, Daemon.startAggregator, SortedMap.get?_insert_of_ne _ _ other] using has
      | _ => exact has
  stays := tidy.stays
  isOpen := tidy.isOpen
  takesNotices := tidy.takesNotices
  silent := tidy.silent
  given id a there := by
    change (d.aggregators.insert d.nextWorker _).get? id = some a at there
    change id < d.nextWorker + 1
    rw [SortedMap.get?_insert] at there
    split at there
    · rename_i same
      rw [same]
      exact Nat.lt_succ_self _
    · exact Nat.lt_succ_of_lt (tidy.given id a there)
  coordinator := tidy.coordinator

/-! ## Lives -/

section Life

variable {start : Daemon} {past : List Daemon}

/-- The state that a life has reached is one of those that it passed through. -/
theorem Life.mem (life : Life start past d) : d ∈ past := by
  cases life <;> simp

/-- A life has its state at hand first. -/
theorem Life.head (life : Life start past d) : ∃ before, past = d :: before := by
  cases life with
  | start => exact ⟨[], rfl⟩
  | step _ _ => exact ⟨_, rfl⟩

/-- The keys of the records are written object paths in every state that was passed through. -/
def KeyedIn (past : List Daemon) : Prop := ∀ s ∈ past, s.replica.Keyed

instance (past : List Daemon) : Decidable (KeyedIn past) :=
  inferInstanceAs (Decidable (∀ _ ∈ _, _))

/-- What holds at the beginning of a life and is kept by every turn holds throughout it; a turn
may rely on all that was passed through. -/
theorem Life.induction {motive : List Daemon → Daemon → Prop} (life : Life start past d)
    (tidy : start.Tidy) (keyed : KeyedIn past) (begins : motive [start] start)
    (goes : ∀ past d e news, Life start past d → KeyedIn (e :: past) → d.Tidy → e.Tidy →
      Turn news d e → motive past d → motive (e :: past) e) : d.Tidy ∧ motive past d := by
  induction life with
  | start => exact ⟨tidy, begins⟩
  | @step past d e before going ih =>
    obtain ⟨was, holds⟩ := ih fun s member => keyed s (List.mem_cons_of_mem _ member)
    obtain ⟨news, turn⟩ := going.turn was (keyed d (List.mem_cons_of_mem _ before.mem))
      (keyed e (List.mem_cons_self ..))
    have is := was.turn going turn
    exact ⟨is, goes past d e news before keyed was is turn holds⟩

/-- Every state that was passed through was reached. -/
theorem Life.upTo (life : Life start past d) (member : e ∈ past) :
    ∃ before, Life start before e ∧ ∀ s ∈ before, s ∈ past := by
  induction life with
  | start =>
    cases List.mem_singleton.1 member
    exact ⟨_, .start, fun _ member => member⟩
  | @step past d f before going ih =>
    rcases List.mem_cons.1 member with rfl | member
    · exact ⟨_, before.step going, fun _ member => member⟩
    · obtain ⟨earlier, reached, sub⟩ := ih member
      exact ⟨earlier, reached, fun s member => List.mem_cons_of_mem _ (sub s member)⟩

end Life

/-! ## Lives that can be computed -/

/-- A move does not take a node down. -/
theorem goes_of_perform {move : Move} (made : d.perform move = some e) : Goes d e := by
  cases move with
  | act a => exact .act made
  | pass ms =>
    cases made
    exact .moveClock ms
  | serve time =>
    simp only [perform] at made
    split at made
    · rename_i due
      cases made
      exact .serve due
    · cases made
  | write files =>
    cases made
    exact .configDirectory files
  | change m =>
    cases made
    exact .applyLocal m

/-- The coordinator steps and sees no notice. -/
def overlook (d : Daemon) : Option Daemon :=
  (({ d with notices := [] } : Daemon).step .coordinator).map fun e =>
    { e with notices := e.notices ++ d.notices }

/-- The node after a move, or after a step of the coordinator that sees no notice. -/
def attempt (d : Daemon) : Option Move → Option Daemon
  | some move => d.perform move
  | none => d.overlook

/-- What is attempted does not take a node down. -/
theorem goes_of_attempt {move : Option Move} (made : d.attempt move = some e) : Goes d e := by
  cases move with
  | some move => exact goes_of_perform made
  | none =>
    obtain ⟨e, stepped, rfl⟩ := Option.map_eq_some_iff.1 made
    exact .late (List.nil_append _).symm stepped

/-- The life that is attempted, unless a move cannot be made. -/
def pursue (past : List Daemon) (d : Daemon) : List (Option Move) → Option (List Daemon × Daemon)
  | [] => some (past, d)
  | move :: moves => do
    let e ← d.attempt move
    pursue (e :: past) e moves

/-- What is pursued is a life. -/
theorem life_of_pursue {start : Daemon} {past : List Daemon} (life : Life start past d)
    {moves : List (Option Move)} {later : List Daemon × Daemon}
    (made : pursue past d moves = some later) : Life start later.1 later.2 := by
  induction moves generalizing past d with
  | nil =>
    cases made
    exact life
  | cons move moves ih =>
    obtain ⟨e, performed, made⟩ := Option.bind_eq_some_iff.1 made
    exact ih (life.step (goes_of_attempt performed)) made

/-- What holds at the end of a life that is pursued is reached. -/
theorem exists_life_of_pursue {start : Daemon} (moves : List (Option Move))
    {P : List Daemon → Daemon → Prop}
    (reached : ∃ later, later ∈ pursue [start] start moves ∧ P later.1 later.2) :
    ∃ past d, Life start past d ∧ P past d := by
  obtain ⟨later, made, holds⟩ := reached
  exact ⟨later.1, later.2, life_of_pursue .start made, holds⟩

end ClusterNode.Daemon
