import ClusterNode.Proofs.Bus
import ClusterNode.Daemon.Schedule

/-!
# What the subscribers of a node hear

`Daemon.Leaves` is the frame of the bus of a node: between two states, certain events
were published, and every subscriber heard those it accepts, except for some that took
events or ended. Every operation has a lemma for it, and every step of an actor leaves
the subscribers that are not its own.

The operations change nothing but the bus, what was published and the replica; the
equations at the beginning say so, and the other fields follow from them.
-/

namespace ClusterNode.Daemon

variable (d : Daemon)

/-! ## The operations as updates -/

/-- Publications go to the bus one after the other, and are kept. -/
theorem publishAll_eq (ps : List Publication) :
    d.publishAll ps =
      { d with bus := d.bus.publishAll ps, published := ps.reverse ++ d.published } := by
  induction ps generalizing d with
  | nil => rfl
  | cons p ps ih =>
    unfold publishAll at ih ⊢
    rw [List.foldl_cons, ih]
    simp [publish, Bus.publishAll]

/-- What an operation of the store makes is put in place, and its publications go out. -/
theorem commit_eq (result : Replica × List Publication) :
    d.commit result =
      { d with
        replica := result.1
        bus := d.bus.publishAll result.2
        published := result.2.reverse ++ d.published } :=
  publishAll_eq ..

/-! ## The frame -/

/-- From one state to a later one: these events were published, and every subscriber
heard what it accepts of them, except for some. -/
structure Leaves (own : List Nat) (news : List Publication) (d e : Daemon) : Prop where
  published : e.published = news.reverse ++ d.published
  nextId : d.bus.nextId ≤ e.bus.nextId
  queueSize : e.bus.queueSize = d.bus.queueSize
  numbered : d.bus.Numbered → e.bus.Numbered
  hears : ∀ i s, d.bus.find? i = some s → i ∉ own →
    ∃ t, e.bus.find? i = some t ∧ s.Hears t news
  /-- Where queues hold something, who accepts an event has something to take. -/
  rings : 0 < d.bus.queueSize → ∀ i s t, d.bus.find? i = some s → e.bus.find? i = some t →
    i ∉ own → s.heard news ≠ [] → t.queue ≠ []

/-- Some events were published, and every subscriber heard them, except for some. -/
def Spares (own : List Nat) (d e : Daemon) : Prop := ∃ news, Leaves own news d e

variable {d} {e f : Daemon} {own : List Nat} {news later : List Publication}

/-- What leaves the bus alone leaves its subscribers. -/
theorem leaves_of_bus (bus : e.bus = d.bus) (published : e.published = d.published) :
    Leaves own [] d e where
  published := by simpa using published
  nextId := Nat.le_of_eq (by rw [bus])
  queueSize := by rw [bus]
  numbered := by rw [bus]; exact id
  hears i s found _ := ⟨s, by rw [bus]; exact found, .refl s⟩
  rings _ _ _ _ _ _ _ heard := absurd rfl heard

/-- What was heard in two spans of time was heard in both together. -/
theorem Leaves.trans (first : Leaves own news d e) (second : Leaves own later e f) :
    Leaves own (news ++ later) d f where
  published := by rw [second.published, first.published, List.reverse_append, List.append_assoc]
  nextId := Nat.le_trans first.nextId second.nextId
  queueSize := second.queueSize.trans first.queueSize
  numbered before := second.numbered (first.numbered before)
  hears i s found other := by
    obtain ⟨t, kept, heard⟩ := first.hears i s found other
    obtain ⟨u, kept, more⟩ := second.hears i t kept other
    exact ⟨u, kept, heard.trans more⟩
  rings room i s u found there other heard := by
    obtain ⟨t, between, hears⟩ := first.hears i s found other
    by_cases silent : s.heard news = []
    · rw [Subscriber.heard_append, silent, List.nil_append, ← hears.heard] at heard
      exact second.rings (first.queueSize ▸ room) i t u between there other heard
    · have waits := first.rings room i s t found between other silent
      obtain ⟨_, there', more⟩ := second.hears i t between other
      cases there.symm.trans there'
      exact fun none => waits (List.prefix_nil.1 (none ▸ more.kept))

/-- More subscribers may be excepted. -/
theorem Leaves.mono {more : List Nat} (leaves : Leaves own news d e) (sub : own ⊆ more) :
    Leaves more news d e :=
  { leaves with
    hears := fun i s found other => leaves.hears i s found fun mine => other (sub mine)
    rings := fun room i s t found there other =>
      leaves.rings room i s t found there fun mine => other (sub mine) }

/-- What follows without touching the bus changes nothing for subscribers. -/
theorem Leaves.andThen (first : Leaves own news d e) (bus : f.bus = e.bus)
    (published : f.published = e.published) : Leaves own news d f := by
  have both := first.trans (leaves_of_bus bus published)
  rwa [List.append_nil] at both

/-- Who was spared twice was spared. -/
theorem Spares.trans (first : Spares own d e) (second : Spares own e f) : Spares own d f := by
  obtain ⟨_, first⟩ := first
  obtain ⟨_, second⟩ := second
  exact ⟨_, first.trans second⟩

/-- Where the bus and the publications are the same, everybody was spared. -/
theorem spares_of_bus (bus : e.bus = d.bus) (published : e.published = d.published) :
    Spares own d e :=
  ⟨[], leaves_of_bus bus published⟩

/-- What follows an operation without touching the bus changes nothing for subscribers. -/
theorem Spares.andThen (first : Spares own d e) (bus : f.bus = e.bus)
    (published : f.published = e.published) : Spares own d f :=
  first.trans (spares_of_bus bus published)

/-! ## Single operations -/

/-- Every subscriber hears a publication. -/
theorem leaves_publish (p : Publication) : Leaves own [p] d (d.publish p) where
  published := rfl
  nextId := Nat.le_refl _
  queueSize := rfl
  numbered before := before.publish p
  hears i s found _ := by
    refine ⟨Bus.offer d.bus.queueSize p s, ?_, Subscriber.hears_offer ..⟩
    rw [publish, Bus.find?_publish, found]
    rfl
  rings room i s t found there _ heard := by
    rw [publish, Bus.find?_publish, found] at there
    cases there
    exact Subscriber.queue_offer_ne_nil room heard

/-- Every subscriber hears some publications. -/
theorem leaves_publishAll (ps : List Publication) : Leaves own ps d (d.publishAll ps) := by
  induction ps generalizing d with
  | nil => exact leaves_of_bus rfl rfl
  | cons p ps ih => exact (leaves_publish p).trans ih

/-- Every subscriber hears what an operation of the store publishes. -/
theorem leaves_commit (result : Replica × List Publication) :
    Leaves own result.2 d (d.commit result) := by
  have kept : Leaves own [] d { d with replica := result.1 } := leaves_of_bus rfl rfl
  exact kept.trans (leaves_publishAll result.2)

/-- A new subscription takes nothing from the others. -/
theorem leaves_subscribe (kind : EventKind) (filter : List Label) :
    Leaves own [] d (d.subscribe kind filter).2 where
  published := rfl
  nextId := Nat.le_succ _
  queueSize := rfl
  numbered before := before.subscribe kind filter
  rings _ _ _ _ _ _ _ heard := absurd rfl heard
  hears i s found _ := by
    refine ⟨s, ?_, .refl s⟩
    change (d.bus.subscribe kind filter).2.find? i = some s
    rw [Bus.find?_subscribe, found, Option.some_or]

/-- A subscription more leaves the ids in order. -/
theorem numbered_subscribe (numbered : d.bus.Numbered) (kind : EventKind)
    (filter : List Label) : (d.subscribe kind filter).2.bus.Numbered :=
  numbered.subscribe kind filter

/-- The end of some subscriptions concerns no other one. -/
theorem leaves_unsubscribe {ids : List Nat} (mine : ids ⊆ own) :
    Leaves own [] d (d.unsubscribe ids) := by
  induction ids generalizing d with
  | nil => exact leaves_of_bus rfl rfl
  | cons i ids ih =>
    have first : Leaves own [] d { d with bus := d.bus.stop i } :=
      { published := rfl
        nextId := Nat.le_refl _
        queueSize := rfl
        numbered := fun before => before.stop i
        rings := fun _ _ _ _ _ _ _ heard => absurd rfl heard
        hears := fun j s found other => by
          refine ⟨s, ?_, .refl s⟩
          have different : j ≠ i := fun same => other (same ▸ mine (List.mem_cons_self ..))
          rw [Bus.find?_stop, if_neg different]
          exact found }
    exact first.trans (ih fun j later => mine (List.mem_cons_of_mem _ later))

/-- An event that is taken from a subscription is taken from no other one. -/
theorem leaves_receive {i : Nat} {event : Event} (mine : i ∈ own)
    (received : d.receive i = some (event, e)) : Leaves own [] d e := by
  obtain ⟨_, _, made⟩ := Option.map_eq_some_iff.1 received
  cases made
  refine ⟨rfl, Nat.le_refl _, rfl, fun before => before.take i, ?_,
    fun _ _ _ _ _ _ _ heard => absurd rfl heard⟩
  intro j s found other
  have different : j ≠ i := fun same => other (same ▸ mine)
  exact ⟨s, by rw [Bus.find?_take_of_ne d.bus different]; exact found, .refl s⟩

/-! ## Operations that only talk -/

/-- Nothing but the bus, what was published and the replica changed, and some subscribers
apart every one heard what was published. -/
structure Talks (own : List Nat) (d e : Daemon) : Prop where
  spares : Spares own d e
  rest : ∃ bus published replica, e = { d with bus, published, replica }

/-- Where nothing happens nobody talks. -/
theorem Talks.refl (own : List Nat) (d : Daemon) : Talks own d d :=
  ⟨spares_of_bus rfl rfl, d.bus, d.published, d.replica, rfl⟩

/-- Who only talks twice only talks. -/
theorem Talks.trans (first : Talks own d e) (second : Talks own e f) : Talks own d f := by
  refine ⟨first.spares.trans second.spares, ?_⟩
  obtain ⟨_, _, _, rfl⟩ := first.rest
  obtain ⟨bus, published, replica, rfl⟩ := second.rest
  exact ⟨bus, published, replica, rfl⟩

/-- To publish is to talk only. -/
theorem talks_publish (p : Publication) : Talks own d (d.publish p) :=
  ⟨⟨_, leaves_publish p⟩, d.bus.publish p, p :: d.published, d.replica, rfl⟩

/-- To publish some events is to talk only. -/
theorem talks_publishAll (ps : List Publication) : Talks own d (d.publishAll ps) :=
  ⟨⟨_, leaves_publishAll ps⟩, _, _, d.replica, publishAll_eq ..⟩

/-- To put an operation of the store in place is to talk only. -/
theorem talks_commit (result : Replica × List Publication) : Talks own d (d.commit result) :=
  ⟨⟨_, leaves_commit result⟩, d.bus.publishAll result.2, result.2.reverse ++ d.published,
    result.1, commit_eq ..⟩

/-- To subscribe is to talk only. -/
theorem talks_subscribe (kind : EventKind) (filter : List Label) :
    Talks own d (d.subscribe kind filter).2 :=
  ⟨⟨_, leaves_subscribe kind filter⟩, _, d.published, d.replica, rfl⟩

/-- To end own subscriptions is to talk only. -/
theorem talks_unsubscribe {ids : List Nat} (mine : ids ⊆ own) :
    Talks own d (d.unsubscribe ids) :=
  ⟨⟨_, leaves_unsubscribe mine⟩, _, d.published, d.replica, rfl⟩

/-- To take an event of an own subscription is to talk only. -/
theorem talks_receive {i : Nat} {event : Event} (mine : i ∈ own)
    (received : d.receive i = some (event, e)) : Talks own d e := by
  refine ⟨⟨_, leaves_receive mine received⟩, ?_⟩
  obtain ⟨_, _, made⟩ := Option.map_eq_some_iff.1 received
  cases made
  exact ⟨_, d.published, d.replica, rfl⟩

/-- An own mutation only talks. -/
theorem talks_applyLocal (m : Mutation) : Talks own d (d.applyLocal m).1 := by
  unfold applyLocal
  split
  · exact talks_commit _
  · exact .refl own d

/-- The mutations of a peer only talk. -/
theorem talks_applyRemote (node : String) (g : Generation) (ms : List Mutation) :
    Talks own d (d.applyRemote node g ms).1 := by
  unfold applyRemote
  split
  · exact (talks_commit _).trans (talks_commit _)
  · exact .refl own d

/-- A message only talks. -/
theorem talks_applyMessage (m : Message) : Talks own d (d.applyMessage m).1 := by
  unfold applyMessage
  split
  · exact talks_commit _
  · exact .refl own d

/-- To set an aggregate is to talk only. -/
theorem talks_setAggregate (p : ObjectPath) (value : ObjectStatus) (source : Option String) :
    Talks own d (d.setAggregate p value source) := by
  unfold setAggregate
  split
  · exact talks_commit _
  · exact .refl own d

/-- To delete an aggregate is to talk only. -/
theorem talks_delAggregate (p : ObjectPath) : Talks own d (d.delAggregate p) := by
  unfold delAggregate
  split
  · exact talks_commit _
  · exact .refl own d

end ClusterNode.Daemon
