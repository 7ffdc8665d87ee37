import ClusterNode.Proofs.Daemon.Attendance
import ClusterNode.Proofs.Daemon.CrewSteps
import ClusterNode.Proofs.Daemon.WatcherRuns

/-!
# What a watcher keeps of what it is told

`LastPublished` and `announcedTo` are about the steps that a node made, not about the record of a
watcher: the configuration that the watcher published last, and the changes of the membership that
it took from its subscription.

The record of a watcher that has not given up agrees with them. It recalls what it published
(`Recalls`), goes by the members that it was told last (`GoesBy`), and takes everything that is
announced, unless it missed some (`Accounts`). When it was told that its file changed, the event
waits for it or it looks at the file as it is (`Pending`).

Each of these has two lemmas: `spoken`, where others go on around the watcher, and `deed`, where
the watcher makes a step.
-/

namespace ClusterNode.Daemon

/-- A watcher publishes a configuration. -/
def PublishesConfig (id : WorkerId) (c : InstanceConfig) (t : Daemon × Daemon) : Prop :=
  t.1.step (.watcher id) = some t.2 ∧ ∃ w isFirst m, t.1.watchers.get? id = some w ∧
    w.point = .checking isFirst (.publishing m c)

/-- The configuration that a watcher published last, in steps of which the latest comes first. -/
inductive LastPublished (id : WorkerId) (c : InstanceConfig) : List (Daemon × Daemon) → Prop where
  | now {t : Daemon × Daemon} {past : List (Daemon × Daemon)} :
      PublishesConfig id c t → LastPublished id c (t :: past)
  | before {t : Daemon × Daemon} {past : List (Daemon × Daemon)} :
      (∀ c', ¬ PublishesConfig id c' t) → LastPublished id c past → LastPublished id c (t :: past)

/-- The events that were taken from a subscription, oldest first. -/
def delivered (i : Nat) : List (Daemon × Daemon) → List Event
  | [] => []
  | t :: past => delivered i past ++
      if t.2.bus.queue i = (t.1.bus.queue i).tail then (t.1.bus.next? i).toList else []

/-- What was announced of the membership to who has some subscriptions. -/
def announcedTo (s : WatcherSubscriptions) (past : List (Daemon × Daemon)) : List Event :=
  match s.cluster with
  | some i => delivered i past
  | none => []

/-- A watcher begins, and reads the members that the store has. -/
def ReadsMembers (id : WorkerId) (members : List String) (t : Daemon × Daemon) : Prop :=
  t.1.step (.watcher id) = some t.2 ∧ t.1.replica.members = members ∧
    ∃ w, t.1.watchers.get? id = some w ∧ w.point = .starting

/-- A watcher looks at its file for the first time. -/
def LooksFirst (id : WorkerId) (t : Daemon × Daemon) : Prop :=
  t.1.step (.watcher id) = some t.2 ∧
    ∃ w, t.1.watchers.get? id = some w ∧ w.point = .checking true .start

/-- It is told that the file of an object changed. -/
def NotifiesOf (p : ObjectPath) (t : Daemon × Daemon) : Prop :=
  ∃ news, t.2.published = news.reverse ++ t.1.published ∧ Tells news .configFileUpdated p

/-- A watcher has nothing to do: it waits, and not for a monitor that it told to end. -/
structure WatcherRests (id : WorkerId) (d : Daemon) : Prop where
  waits : d.step (.watcher id) = none
  monitor : ∀ m, d.monitors.get? id = some m → m.cancelled = true → m.point = .ended

/-- A watcher that has not given up is subscribed. -/
structure Subscribed (d : Daemon) (w : Watcher) : Prop where
  updated : ∃ s, d.bus.find? w.subscriptions.updated = some s ∧
    s.IsFor .configFileUpdated [.path w.path]
  cluster : ∀ i, w.subscriptions.cluster = some i → ∃ s, d.bus.find? i = some s ∧
    s.IsFor .clusterConfigUpdated [.node d.localhost]

/-- What was announced to a watcher, and what it has not taken, is all that was announced since a
state, unless it missed something. -/
def Accounts (start : Daemon) (past : List (Daemon × Daemon)) (d : Daemon) (w : Watcher) : Prop :=
  ∀ i s, w.subscriptions.cluster = some i → d.bus.find? i = some s → s.dropped = 0 →
    start.announcements ++ (delivered i past ++ s.queue) = d.announcements

/-- The members that a watcher goes by are those announced last, or those that it read. -/
def GoesBy (id : WorkerId) (past : List (Daemon × Daemon)) (w : Watcher) : Prop :=
  (w.point = .starting → announcedTo w.subscriptions past = []) ∧
    (w.point ≠ .starting → ∃ members, (∃ t ∈ past, ReadsMembers id members t) ∧
      w.clusterNodes = (announcedTo w.subscriptions past).foldl Event.members members)

/-- It is on the way to the watcher that its file changed, or it looks at the file as it is. -/
def Pending (d : Daemon) (w : Watcher) : Prop :=
  d.bus.queue w.subscriptions.updated ≠ [] ∨ w.Regards d

/-- What a watcher says it has published is what it published last. -/
def Recalls (id : WorkerId) (past : List (Daemon × Daemon)) (w : Watcher) : Prop :=
  ∀ c, LastPublished id c past ↔ w.published = true ∧ w.config = c

variable {id : WorkerId} {start d e : Daemon} {past : List (Daemon × Daemon)} {w w' : Watcher}
  {c c' : InstanceConfig} {t : Daemon × Daemon} {i : Nat} {own : List Nat}
  {news : List Publication} {was : FileVersion → Prop}

/-! ## What was published last -/

/-- A step publishes one configuration at most. -/
theorem PublishesConfig.unique (one : PublishesConfig id c t) (other : PublishesConfig id c' t) :
    c = c' := by
  obtain ⟨_, w, _, _, here, point⟩ := one
  obtain ⟨_, w', _, _, here', point'⟩ := other
  cases here.symm.trans here'
  rw [point] at point'
  cases point'
  rfl

/-- After a step that publishes a configuration, this one is the last. -/
theorem lastPublished_cons_of_publishes (publishes : PublishesConfig id c t) :
    LastPublished id c' (t :: past) ↔ c = c' := by
  constructor
  · intro last
    cases last with
    | now again => exact publishes.unique again
    | before none _ => exact absurd publishes (none c)
  · rintro rfl
    exact .now publishes

/-- After a step that publishes none, the last configuration is the one from before. -/
theorem lastPublished_cons_of_silent (silent : ∀ c, ¬ PublishesConfig id c t) :
    LastPublished id c (t :: past) ↔ LastPublished id c past := by
  constructor
  · intro last
    cases last with
    | now publishes => exact absurd publishes (silent c)
    | before _ last => exact last
  · exact .before silent

/-! ## What was delivered -/

/-- Nothing is taken where a queue only grows. -/
theorem delivered_cons_of_grows (grows : t.1.bus.queue i <+: t.2.bus.queue i) :
    delivered i (t :: past) = delivered i past := by
  rw [delivered]
  split
  · rename_i shorter
    rw [shorter] at grows
    have empty : t.1.bus.queue i = [] := by
      cases queue : t.1.bus.queue i with
      | nil => rfl
      | cons event rest =>
        rw [queue] at grows
        exact absurd grows.length_le (by simp)
    rw [Bus.next?, empty, List.head?_nil, Option.toList_none, List.append_nil]
  · rw [List.append_nil]

/-- An event that is taken is delivered behind those before it. -/
theorem delivered_cons_of_take {event : Event} (next : t.1.bus.next? i = some event)
    (bus : t.2.bus = t.1.bus.take i) :
    delivered i (t :: past) = delivered i past ++ [event] := by
  have taken : t.2.bus.queue i = (t.1.bus.queue i).tail := by
    rw [bus, Bus.queue, Bus.queue, Bus.find?_take]
    cases t.1.bus.find? i <;> simp
  rw [delivered, if_pos taken, next, Option.toList_some]

/-- A subscriber that takes nothing leaves its queue, and more may come. -/
theorem Leaves.queue_grows (leaves : Leaves own news d e) {s : Subscriber}
    (found : d.bus.find? i = some s) (other : i ∉ own) : d.bus.queue i <+: e.bus.queue i := by
  obtain ⟨t, there, hears⟩ := leaves.hears i s found other
  simp only [Bus.queue, found, there, Option.map_some, Option.getD_some]
  exact hears.kept

/-- The queue of a subscriber that stays as it is has not shrunk. -/
theorem queue_prefix_of_same (same : e.bus.find? i = d.bus.find? i) :
    d.bus.queue i <+: e.bus.queue i := by
  have queue : e.bus.queue i = d.bus.queue i := by rw [Bus.queue, Bus.queue, same]
  exact queue ▸ List.prefix_refl _

/-! ## Own steps -/

/-- Of a watcher that has given up nothing is to be known. -/
theorem knows_of_gone (gone : w.point.attends = false) : w.Knows was d := by
  unfold Watcher.Knows
  generalize w.point = point at gone
  cases point with
  | starting | checking | launching | running => cases gone
  | _ => trivial

/-- A watcher that has given up need not regard its file. -/
theorem regards_of_gone (gone : w.point.attends = false) : w.Regards d := by
  unfold Watcher.Regards
  generalize w.point = point at gone
  cases point with
  | starting | checking | launching | running => cases gone
  | _ => trivial

/-- A watcher that has given up does not look at its file again. -/
theorem Deed.attends_before (deed : Deed d w w' e) (stays : w'.point.attends = true) :
    w.point.attends = true := by
  cases deed with
  | leave gone =>
    rw [gone] at stays
    cases stays
  | begin here _ => rw [here]; rfl
  | check here _ _ => rw [here]; rfl
  | launch here _ => rw [here]; rfl
  | refresh here _ _ => rw [here]; rfl
  | heedFile here _ _ => rw [here]; rfl
  | heedMembers here _ _ _ _ => rw [here]; rfl

/-- A step of a watcher keeps what it knows. -/
theorem Deed.knows (deed : Deed d w w' e) (knows : w.Knows was d)
    (now : ∀ v, d.fileOf w = some v → was v) : w'.Knows was d := by
  cases deed with
  | leave gone => exact knows_of_gone gone
  | begin here _ =>
    have none : w.lastModified = none := by
      unfold Watcher.Knows at knows
      rwa [here] at knows
    refine ⟨fun m last => ?_, fun _ m last => ?_⟩
    · cases none.symm.trans last
    · cases none.symm.trans last
  | check here evaluation _ => exact knows.evaluation now here evaluation
  | launch here _ =>
    unfold Watcher.Knows at knows
    rw [here] at knows
    exact knows
  | refresh here _ _ | heedMembers here _ _ _ _ =>
    exact ⟨fun m last => (knows.of_running here m last).1, nofun⟩
  | heedFile here _ _ =>
    exact ⟨fun m last => (knows.of_running here m last).1, fun _ => knows.of_running here⟩

/-- What a watcher that goes on takes from the bus: nothing, or one event. -/
theorem Deed.takes (deed : Deed d w w' e) (stays : w'.point.attends = true) :
    Spares [] d e ∨
      (e.bus = d.bus.take w.subscriptions.updated ∧ e.published = d.published) ∨
      ∃ i event, w.subscriptions.cluster = some i ∧ d.bus.next? i = some event ∧
        e.bus = d.bus.take i ∧ e.published = d.published := by
  cases deed with
  | leave gone =>
    rw [gone] at stays
    cases stays
  | begin _ spares | check _ _ spares | launch _ spares => exact .inl spares
  | refresh _ bus published => exact .inl (spares_of_bus bus published)
  | heedFile _ bus published => exact .inr (.inl ⟨bus, published⟩)
  | heedMembers _ cluster next bus published =>
    exact .inr (.inr ⟨_, _, cluster, next, bus, published⟩)

/-! ## Subscriptions -/

/-- The subscription to the news of the file is among those of the watcher. -/
theorem mem_ids_updated (w : Watcher) : w.subscriptions.updated ∈ w.subscriptions.ids := by
  simp [WatcherSubscriptions.ids]

/-- The subscription to the membership is among those of the watcher, if it has one. -/
theorem mem_ids_cluster (cluster : w.subscriptions.cluster = some i) :
    i ∈ w.subscriptions.ids := by
  simp [WatcherSubscriptions.ids, cluster]

/-- What was published while a watcher takes nothing of it. -/
structure Spoken (w : Watcher) (own : List Nat) (news : List Publication) (d e : Daemon) :
    Prop where
  leaves : Leaves own news d e
  others : ∀ i ∈ w.subscriptions.ids, ∀ s, d.bus.find? i = some s → i ∉ own
  settings : e.settings = d.settings

/-- What was announced depends on the publications and on the name of the node alone. -/
theorem announcements_of_same (published : e.published = d.published)
    (settings : e.settings = d.settings) : e.announcements = d.announcements := by
  rw [announcements, announcements, published, localhost, localhost, settings]

/-- What is published around a watcher leaves it subscribed. -/
theorem Subscribed.spoken (subscribed : Subscribed d w) (spoken : Spoken w own news d e)
    (subscriptions : w'.subscriptions = w.subscriptions) (path : w'.path = w.path) :
    Subscribed e w' where
  updated := by
    obtain ⟨s, found, isFor⟩ := subscribed.updated
    obtain ⟨t, there, hears⟩ := spoken.leaves.hears _ s found
      (spoken.others _ (mem_ids_updated w) s found)
    rw [subscriptions, path]
    exact ⟨t, there, isFor.hears hears⟩
  cluster i cluster := by
    rw [subscriptions] at cluster
    obtain ⟨s, found, isFor⟩ := subscribed.cluster i cluster
    obtain ⟨t, there, hears⟩ := spoken.leaves.hears i s found
      (spoken.others i (mem_ids_cluster cluster) s found)
    rw [localhost, spoken.settings]
    exact ⟨t, there, isFor.hears hears⟩

/-- A watcher that takes an event of its file leaves the membership. -/
theorem Subscribed.find?_cluster (subscribed : Subscribed d w)
    (bus : e.bus = d.bus.take w.subscriptions.updated) (cluster : w.subscriptions.cluster = some i) :
    e.bus.find? i = d.bus.find? i := by
  obtain ⟨s, found, isFor⟩ := subscribed.updated
  obtain ⟨t, there, isFor'⟩ := subscribed.cluster i cluster
  rw [bus, isFor.find?_take found isFor' there EventKind.noConfusion, there]

/-- A watcher that goes on keeps its subscriptions. -/
theorem Subscribed.deed (subscribed : Subscribed d w) (deed : Deed d w w' e)
    (turns : Turns id w w' d e) (stays : w'.point.attends = true) : Subscribed e w' := by
  have localhost : e.localhost = d.localhost := congrArg DaemonSettings.localhost turns.settings
  obtain ⟨s, found, isFor⟩ := subscribed.updated
  rcases deed.takes stays with ⟨news, leaves⟩ | ⟨bus, _⟩ | ⟨i, _, cluster, _, bus, _⟩
  · exact subscribed.spoken ⟨leaves, fun _ _ _ _ => List.not_mem_nil, turns.settings⟩
      turns.subscriptions turns.path
  · constructor
    · rw [turns.subscriptions, turns.path, bus]
      exact ⟨_, Bus.find?_take_self d.bus found, isFor⟩
    · intro i cluster
      rw [turns.subscriptions] at cluster
      rw [subscribed.find?_cluster bus cluster, localhost]
      exact subscribed.cluster i cluster
  · obtain ⟨t, there, isFor'⟩ := subscribed.cluster i cluster
    constructor
    · rw [turns.subscriptions, turns.path, bus]
      exact ⟨s, isFor'.find?_take there isFor found EventKind.noConfusion, isFor⟩
    · intro j cluster'
      rw [turns.subscriptions] at cluster'
      cases cluster.symm.trans cluster'
      rw [bus, localhost]
      exact ⟨_, Bus.find?_take_self d.bus there, isFor'⟩

/-! ## The membership -/

/-- What was announced to a watcher is as before where it takes nothing of the membership. -/
theorem announcedTo_cons {s : WatcherSubscriptions}
    (grows : ∀ i, s.cluster = some i → t.1.bus.queue i <+: t.2.bus.queue i) :
    announcedTo s (t :: past) = announcedTo s past := by
  unfold announcedTo
  split
  · rename_i i cluster
    exact delivered_cons_of_grows (grows i cluster)
  · rfl

/-- What is published around a watcher takes nothing from its queue of announcements. -/
theorem Spoken.grows (spoken : Spoken w own news d e) (subscribed : Subscribed d w) :
    ∀ i, w.subscriptions.cluster = some i → d.bus.queue i <+: e.bus.queue i := by
  intro i cluster
  obtain ⟨s, found, _⟩ := subscribed.cluster i cluster
  exact spoken.leaves.queue_grows found (spoken.others i (mem_ids_cluster cluster) s found)

/-- What is published around a watcher is accounted for by what its queue holds. -/
theorem Accounts.spoken (accounts : Accounts start past d w) (subscribed : Subscribed d w)
    (spoken : Spoken w own news d e) (subscriptions : w'.subscriptions = w.subscriptions) :
    Accounts start ((d, e) :: past) e w' := by
  intro i t cluster there missed
  rw [subscriptions] at cluster
  obtain ⟨s, found, isFor⟩ := subscribed.cluster i cluster
  obtain ⟨t', there', hears⟩ := spoken.leaves.hears i s found
    (spoken.others i (mem_ids_cluster cluster) s found)
  cases there.symm.trans there'
  have nothing : s.dropped = 0 := Nat.le_zero.1 (missed ▸ hears.dropped)
  have before := accounts i s cluster found nothing
  rw [delivered_cons_of_grows (spoken.grows subscribed i cluster), hears.queue missed,
    spoken.leaves.announcements spoken.settings isFor, ← before]
  simp only [List.append_assoc]

/-- What a watcher takes of the membership was announced to it. -/
theorem Accounts.deed (accounts : Accounts start past d w) (subscribed : Subscribed d w)
    (deed : Deed d w w' e) (turns : Turns id w w' d e) (stays : w'.point.attends = true) :
    Accounts start ((d, e) :: past) e w' := by
  obtain ⟨s, found, isFor⟩ := subscribed.updated
  rcases deed.takes stays with
    ⟨news, leaves⟩ | ⟨bus, published⟩ | ⟨i, event, cluster, next, bus, published⟩
  · exact accounts.spoken subscribed
      ⟨leaves, fun _ _ _ _ => List.not_mem_nil, turns.settings⟩ turns.subscriptions
  · intro i t cluster there missed
    rw [turns.subscriptions] at cluster
    have same := subscribed.find?_cluster bus cluster
    rw [delivered_cons_of_grows (queue_prefix_of_same same),
      announcements_of_same published turns.settings]
    exact accounts i t cluster (same.symm.trans there) missed
  · intro j t cluster' there missed
    rw [turns.subscriptions] at cluster'
    cases cluster.symm.trans cluster'
    obtain ⟨t', there', _⟩ := subscribed.cluster i cluster
    rw [bus, Bus.find?_take_self d.bus there'] at there
    cases there
    have before := accounts i t' cluster there' missed
    have first : t'.queue.head? = some event := by
      simpa [Bus.next?, Bus.queue, there'] using next
    obtain ⟨rest, queue⟩ := List.head?_eq_some_iff.1 first
    rw [delivered_cons_of_take next bus, announcements_of_same published turns.settings, ← before,
      queue]
    simp

/-- A watcher that has begun goes on with the members that it knows. -/
theorem GoesBy.goesOn (goesBy : GoesBy id past w) (before : w.point ≠ .starting)
    (after : w'.point ≠ .starting) (clusterNodes : w'.clusterNodes = w.clusterNodes)
    (subscriptions : w'.subscriptions = w.subscriptions)
    (same : announcedTo w.subscriptions (t :: past) = announcedTo w.subscriptions past) :
    GoesBy id (t :: past) w' := by
  refine ⟨fun starting => absurd starting after, fun _ => ?_⟩
  obtain ⟨members, ⟨u, member, reads⟩, known⟩ := goesBy.2 before
  rw [subscriptions, same, clusterNodes]
  exact ⟨members, ⟨u, List.mem_cons_of_mem _ member, reads⟩, known⟩

/-- What is published around a watcher leaves the members that it goes by. -/
theorem GoesBy.spoken (goesBy : GoesBy id past w) (subscribed : Subscribed d w)
    (spoken : Spoken w own news d e) (point : w'.point = w.point)
    (clusterNodes : w'.clusterNodes = w.clusterNodes)
    (subscriptions : w'.subscriptions = w.subscriptions) : GoesBy id ((d, e) :: past) w' := by
  have same : announcedTo w.subscriptions ((d, e) :: past) = announcedTo w.subscriptions past :=
    announcedTo_cons (spoken.grows subscribed)
  by_cases starting : w.point = .starting
  · refine ⟨fun _ => ?_, fun begun => absurd (point.trans starting) begun⟩
    rw [subscriptions, same]
    exact goesBy.1 starting
  · exact goesBy.goesOn starting (point ▸ starting) clusterNodes subscriptions same

/-- A watcher goes by what it takes of the membership. -/
theorem GoesBy.deed (goesBy : GoesBy id past w) (subscribed : Subscribed d w)
    (here : d.watchers.get? id = some w) (stepped : d.step (.watcher id) = some e)
    (deed : Deed d w w' e) (turns : Turns id w w' d e) (stays : w'.point.attends = true) :
    GoesBy id ((d, e) :: past) w' := by
  have quiet (spares : Spares [] d e) :
      announcedTo w.subscriptions ((d, e) :: past) = announcedTo w.subscriptions past := by
    obtain ⟨news, leaves⟩ := spares
    have spoken : Spoken w [] news d e := ⟨leaves, fun _ _ _ _ => List.not_mem_nil, turns.settings⟩
    exact announcedTo_cons (spoken.grows subscribed)
  cases deed with
  | leave gone =>
    rw [gone] at stays
    cases stays
  | begin starting spares =>
    have none : announcedTo w.subscriptions ((d, e) :: past) = [] :=
      (quiet spares).trans (goesBy.1 starting)
    refine ⟨WatcherPoint.noConfusion, fun _ => ⟨d.replica.members, ⟨(d, e), ?_, ?_⟩, ?_⟩⟩
    · exact List.mem_cons_self ..
    · exact ⟨stepped, rfl, w, here, starting⟩
    · dsimp only
      rw [none]
      rfl
  | check point evaluation spares =>
    obtain ⟨clusterNodes, begun⟩ := evaluation.keeps
    exact goesBy.goesOn (by simp [point]) begun clusterNodes turns.subscriptions (quiet spares)
  | launch point spares =>
    exact goesBy.goesOn (by simp [point]) WatcherPoint.noConfusion rfl rfl (quiet spares)
  | refresh point bus published =>
    exact goesBy.goesOn (by simp [point]) WatcherPoint.noConfusion rfl rfl
      (quiet (spares_of_bus bus published))
  | heedFile point bus _ =>
    exact goesBy.goesOn (by simp [point]) WatcherPoint.noConfusion rfl rfl
      (announcedTo_cons fun i cluster =>
        queue_prefix_of_same (subscribed.find?_cluster bus cluster))
  | heedMembers point cluster next bus _ =>
    refine ⟨WatcherPoint.noConfusion, fun _ => ?_⟩
    obtain ⟨members, ⟨t, member, reads⟩, known⟩ := goesBy.2 (by simp [point])
    refine ⟨members, ⟨t, List.mem_cons_of_mem _ member, reads⟩, ?_⟩
    have taken : delivered _ ((d, e) :: past) = _ := delivered_cons_of_take next bus
    simp only [announcedTo, cluster] at known
    simp only [recheck, announcedTo, cluster, taken, List.foldl_append, List.foldl_cons,
      List.foldl_nil, known]

/-! ## The file -/

/-- A queue that holds something and grows holds something. -/
theorem queue_ne_nil_of_grows (grows : d.bus.queue i <+: e.bus.queue i)
    (waits : d.bus.queue i ≠ []) : e.bus.queue i ≠ [] :=
  fun none => waits (List.prefix_nil.1 (none ▸ grows))

/-- A queue that holds something is that of a subscriber. -/
theorem exists_of_queue (waits : d.bus.queue i ≠ []) : ∃ s, d.bus.find? i = some s := by
  cases found : d.bus.find? i with
  | none =>
    rw [Bus.queue, found] at waits
    exact absurd rfl waits
  | some s => exact ⟨s, rfl⟩

/-- Others leave it pending that a file changed, as long as it stays as it is. -/
theorem Pending.spoken (pending : Pending d w) (spoken : Spoken w own news d e)
    (file : e.fileOf w = d.fileOf w) : Pending e w := by
  rcases pending with waits | regards
  · obtain ⟨s, found⟩ := exists_of_queue waits
    exact .inl (queue_ne_nil_of_grows
      (spoken.leaves.queue_grows found (spoken.others _ (mem_ids_updated w) s found)) waits)
  · exact .inr (regards.same file)

/-- A watcher that takes the last event of its file looks at it as it is. -/
theorem Pending.deed (pending : Pending d w) (deed : Deed d w w' e) (turns : Turns id w w' d e) :
    Pending e w' := by
  have file (u : Watcher) : e.fileOf u = d.fileOf u := by
    rw [fileOf, fileOf, turns.configDirectory]
  have goesOn (spares : Spares [] d e) (regards : w.Regards d → w'.Regards d) : Pending e w' := by
    rcases pending with waits | before
    · obtain ⟨s, found⟩ := exists_of_queue waits
      obtain ⟨_, leaves⟩ := spares
      refine .inl ?_
      rw [turns.subscriptions]
      exact queue_ne_nil_of_grows (leaves.queue_grows found List.not_mem_nil) waits
    · exact .inr ((regards before).same (file w'))
  cases deed with
  | leave gone => exact .inr (regards_of_gone gone)
  | begin _ _ => exact .inr trivial
  | check here evaluation spares =>
    exact goesOn spares fun before => before.evaluation here evaluation
  | launch here spares =>
    refine goesOn spares fun before => ?_
    unfold Watcher.Regards at before
    rw [here] at before
    exact before
  | refresh _ _ _ => exact .inr trivial
  | heedFile _ _ _ => exact .inr trivial
  | heedMembers _ _ _ _ _ => exact .inr trivial

/-- Who is told that its file changed has something to take. -/
theorem Spoken.rings (spoken : Spoken w own news d e) (room : 0 < d.bus.queueSize)
    (subscribed : Subscribed d w) (notifies : NotifiesOf w.path (d, e)) :
    e.bus.queue w.subscriptions.updated ≠ [] := by
  obtain ⟨news', published, tells⟩ := notifies
  have same : news' = news :=
    List.reverse_inj.1 (List.append_cancel_right (published.symm.trans spoken.leaves.published))
  obtain ⟨s, found, isFor⟩ := subscribed.updated
  have other := spoken.others _ (mem_ids_updated w) s found
  obtain ⟨t, there, _⟩ := spoken.leaves.hears _ s found other
  rw [Bus.queue, there]
  exact spoken.leaves.rings room _ s t found there other (isFor.heard_ne_nil (same ▸ tells))

/-- A step of a watcher that itself tells of the file leaves something to look at. -/
theorem Deed.rings (deed : Deed d w w' e) (turns : Turns id w w' d e)
    (room : 0 < d.bus.queueSize) (subscribed : w.point.attends = true → Subscribed d w)
    (notifies : NotifiesOf w.path (d, e)) : Pending e w' := by
  have told (spares : Spares [] d e) (attends : w.point.attends = true) : Pending e w' := by
    obtain ⟨_, leaves⟩ := spares
    have spoken := Spoken.mk (w := w) leaves (fun _ _ _ _ => List.not_mem_nil) turns.settings
    refine .inl ?_
    rw [turns.subscriptions]
    exact spoken.rings room (subscribed attends) notifies
  cases deed with
  | leave gone => exact .inr (regards_of_gone gone)
  | begin _ _ => exact .inr trivial
  | check here _ spares => exact told spares (by rw [here]; rfl)
  | launch here spares => exact told spares (by rw [here]; rfl)
  | refresh _ _ _ => exact .inr trivial
  | heedFile _ _ _ => exact .inr trivial
  | heedMembers _ _ _ _ _ => exact .inr trivial

/-! ## What was published -/

/-- A configuration is published by giving it to the store. -/
theorem PublishesConfig.replica (publishes : PublishesConfig id c t) :
    ∃ w, t.1.watchers.get? id = some w ∧
      t.2.replica = (t.1.applyLocal (.setConfig w.path c)).1.replica := by
  obtain ⟨stepped, w, isFirst, m, here, point⟩ := publishes
  refine ⟨w, here, ?_⟩
  simp only [step, stepTaking, here, Option.bind_some, stepWatcher, point, stepCheck,
    Option.some.injEq] at stepped
  rw [← stepped]
  rfl

/-- What another actor does publishes nothing. -/
theorem not_publishesConfig (other : d.step (.watcher id) ≠ some e) :
    ∀ c, ¬ PublishesConfig id c (d, e) :=
  fun _ publishes => other publishes.1

/-- A step that publishes no configuration leaves the watcher recalling the last one. -/
theorem Recalls.silent (recalls : Recalls id past w) (silent : ∀ c, ¬ PublishesConfig id c t)
    (published : w'.published = w.published) (config : w'.config = w.config) :
    Recalls id (t :: past) w' := by
  intro c
  rw [lastPublished_cons_of_silent silent, published, config]
  exact recalls c

/-- A watcher that goes on keeps in mind what it publishes. -/
theorem Recalls.deed (recalls : Recalls id past w) (here : d.watchers.get? id = some w)
    (stepped : d.step (.watcher id) = some e) (deed : Deed d w w' e)
    (stays : w'.point.attends = true) : Recalls id ((d, e) :: past) w' := by
  have silent (other : ∀ isFirst m c, w.point ≠ .checking isFirst (.publishing m c)) :
      ∀ c, ¬ PublishesConfig id c (d, e) := by
    rintro c ⟨_, u, isFirst, m, there, point⟩
    cases here.symm.trans there
    exact other isFirst m c point
  cases deed with
  | leave gone =>
    rw [gone] at stays
    cases stays
  | @check isFirst point _ _ checking evaluation _ =>
    by_cases publishing : ∃ m c, point = .publishing m c
    · obtain ⟨m, config, rfl⟩ := publishing
      cases evaluation with
      | giveUp => cases isFirst <;> cases stays
      | publish =>
        intro c
        rw [lastPublished_cons_of_publishes ⟨stepped, w, isFirst, m, here, checking⟩]
        simp only [true_and]
    · have point_ne : ∀ m c, point ≠ .publishing m c := fun m c same => publishing ⟨m, c, same⟩
      obtain ⟨published, config⟩ := evaluation.published point_ne
      refine recalls.silent (silent fun isFirst' m c same => ?_) published config
      rw [checking] at same
      exact point_ne m c (WatcherPoint.checking.inj same).2
  | begin point _ | launch point _ | refresh point _ _ | heedFile point _ _
  | heedMembers point _ _ _ _ =>
    refine recalls.silent (silent fun _ _ _ same => ?_) rfl rfl
    rw [point] at same
    cases same

end ClusterNode.Daemon
