import ClusterNode.Bus

/-!
# What subscribers hear

A subscriber that takes nothing hears, in order, whatever it accepts of what is
published; `Subscriber.Hears` says so of any span of time. What it missed because its
queue was full is counted, and then nothing is said of its queue.

The lemmas beside it say what each operation of the bus leaves of each subscriber.
-/

namespace ClusterNode

/-! ## Subscribers -/

namespace Subscriber

/-- The events that a subscriber accepts of what was published, oldest first. -/
def heard (s : Subscriber) (news : List Publication) : List Event :=
  (news.filter fun p => s.accepts p.event.kind p.labels).map (·.event)

/-- A subscriber some time later, if it took nothing: it has what it had, and what was
published since, unless it missed something. -/
structure Hears (s t : Subscriber) (news : List Publication) : Prop where
  kind : t.kind = s.kind
  filter : t.filter = s.filter
  dropped : s.dropped ≤ t.dropped
  kept : s.queue <+: t.queue
  queue : t.dropped = 0 → t.queue = s.queue ++ s.heard news

variable {s t u : Subscriber} {news later : List Publication}

/-- What is heard of a longer list is what is heard of its parts, one after the other. -/
theorem heard_append : s.heard (news ++ later) = s.heard news ++ s.heard later := by
  simp [heard]

/-- What a subscriber accepts depends on its kind and its filter alone. -/
theorem Hears.heard (hears : s.Hears t news) (ps : List Publication) : t.heard ps = s.heard ps := by
  simp only [Subscriber.heard, accepts, hears.kind, hears.filter]

/-- Nothing is published. -/
theorem Hears.refl (s : Subscriber) : s.Hears s [] where
  kind := rfl
  filter := rfl
  dropped := Nat.le_refl _
  kept := List.prefix_refl _
  queue _ := by simp [Subscriber.heard]

/-- One span of time after the other. -/
theorem Hears.trans (first : s.Hears t news) (second : t.Hears u later) :
    s.Hears u (news ++ later) where
  kind := second.kind.trans first.kind
  filter := second.filter.trans first.filter
  dropped := Nat.le_trans first.dropped second.dropped
  kept := first.kept.trans second.kept
  queue nothing := by
    have before : t.dropped = 0 := Nat.le_zero.1 (nothing ▸ second.dropped)
    rw [second.queue nothing, first.queue before, first.heard, heard_append, List.append_assoc]

/-- An event is heard, not accepted, or missed. -/
theorem hears_offer (size : Nat) (p : Publication) (s : Subscriber) :
    s.Hears (Bus.offer size p s) [p] := by
  unfold Bus.offer
  by_cases accepted : s.accepts p.event.kind p.labels
  · by_cases room : s.queue.length < size
    · rw [if_pos accepted, if_pos room]
      exact ⟨rfl, rfl, Nat.le_refl _, List.prefix_append _ _,
        fun _ => by simp [Subscriber.heard, accepted]⟩
    · rw [if_pos accepted, if_neg room]
      exact ⟨rfl, rfl, Nat.le_succ _, List.prefix_refl _,
        fun nothing => absurd nothing (Nat.succ_ne_zero _)⟩
  · rw [if_neg accepted]
    exact ⟨rfl, rfl, Nat.le_refl _, List.prefix_refl _,
      fun _ => by simp [Subscriber.heard, accepted]⟩

/-- Who accepts an event has something to take after it, whether or not it had room. -/
theorem queue_offer_ne_nil {size : Nat} (room : 0 < size) {p : Publication}
    (heard : s.heard [p] ≠ []) : (Bus.offer size p s).queue ≠ [] := by
  have accepted : s.accepts p.event.kind p.labels := by
    by_cases accepted : s.accepts p.event.kind p.labels
    · exact accepted
    · exact absurd (by simp [Subscriber.heard, accepted]) heard
  rw [Bus.offer, if_pos accepted]
  split
  · exact List.append_ne_nil_of_right_ne_nil _ (List.cons_ne_nil _ _)
  · rename_i full
    intro none
    rw [none] at full
    exact full room

end Subscriber

/-! ## Operations of the bus -/

namespace Bus

variable (b : Bus) (i j : Nat)

/-- An offer keeps the id of a subscriber. -/
@[simp] theorem offer_id (size : Nat) (p : Publication) (s : Subscriber) :
    (offer size p s).id = s.id := by
  unfold offer
  split
  · split <;> rfl
  · rfl

/-- A publication is offered to every subscriber. -/
theorem find?_publish (p : Publication) :
    (b.publish p).find? i = (b.find? i).map (offer b.queueSize p) := by
  unfold publish find?
  rw [List.find?_map]
  congr 1
  congr 1
  funext s
  simp

/-- What one subscriber takes concerns no other one. -/
theorem find?_take :
    (b.take i).find? j =
      (b.find? j).map fun s => if j = i then { s with queue := s.queue.tail } else s := by
  unfold take find?
  rw [List.find?_map]
  have same : ((fun s : Subscriber => s.id == j) ∘ fun s : Subscriber =>
      if s.id == i then { s with queue := s.queue.tail } else s) = fun s => s.id == j := by
    funext s
    by_cases mine : s.id = i <;> simp [mine]
  rw [same]
  cases found : b.subscribers.find? (fun s => s.id == j) with
  | none => rfl
  | some s =>
    have id : s.id = j := by simpa using List.find?_some found
    simp [id]

/-- Who takes an event is left with the others. -/
theorem find?_take_self {i : Nat} {s : Subscriber} (found : b.find? i = some s) :
    (b.take i).find? i = some { s with queue := s.queue.tail } := by
  simp [find?_take, found]

/-- What one subscriber takes leaves every other one. -/
theorem find?_take_of_ne {i j : Nat} (different : j ≠ i) : (b.take i).find? j = b.find? j := by
  simp [find?_take, different]

/-- A subscription that ends leaves every other one. -/
theorem find?_stop : (b.stop i).find? j = if j = i then none else b.find? j := by
  unfold stop find?
  rw [List.find?_filter]
  by_cases same : j = i
  · rw [if_pos same, List.find?_eq_none]
    intro s _
    simp [same]
  · rw [if_neg same]
    congr 1
    funext s
    by_cases mine : s.id = j
    · simp [mine, same]
    · simp [mine]

/-- A new subscriber is the one that is found by its id, unless another one was. -/
theorem find?_subscribe (kind : EventKind) (filter : List Label) :
    (b.subscribe kind filter).2.find? i =
      (b.find? i).or
        (if i = b.nextId then some ⟨b.nextId, kind, filter, [], 0⟩ else none) := by
  unfold subscribe find?
  rw [List.find?_append]
  congr 1
  by_cases same : i = b.nextId
  · simp [same]
  · simp [same, Ne.symm same]

/-- Ids that were given, and none else, are registered. -/
def Numbered (b : Bus) : Prop := 0 < b.nextId ∧ ∀ i s, b.find? i = some s → 0 < i ∧ i < b.nextId

variable {b i}

/-- The next id is not registered yet. -/
theorem Numbered.find?_nextId (numbered : b.Numbered) : b.find? b.nextId = none := by
  rw [Option.eq_none_iff_forall_not_mem]
  intro s there
  have bound := (numbered.2 _ s there).2
  omega

/-- A new subscriber has nothing to take yet. -/
theorem find?_subscribe_new (numbered : b.Numbered) (kind : EventKind) (filter : List Label) :
    (b.subscribe kind filter).2.find? b.nextId = some ⟨b.nextId, kind, filter, [], 0⟩ := by
  rw [find?_subscribe, numbered.find?_nextId]
  simp

/-- A new subscriber leaves every other one. -/
theorem find?_subscribe_of_some {s : Subscriber} (found : b.find? i = some s) (kind : EventKind)
    (filter : List Label) : (b.subscribe kind filter).2.find? i = some s := by
  rw [find?_subscribe, found, Option.some_or]

/-- A new bus has no subscriber, and its next id is above zero. -/
theorem numbered_new (size : Nat) : (new size).Numbered :=
  ⟨Nat.one_pos, fun _ _ found => by cases found⟩

/-- A publication registers nobody. -/
theorem Numbered.publish (numbered : b.Numbered) (p : Publication) : (b.publish p).Numbered := by
  refine ⟨numbered.1, fun j s found => ?_⟩
  rw [find?_publish] at found
  obtain ⟨t, before, _⟩ := Option.map_eq_some_iff.1 found
  exact numbered.2 j t before

/-- Taking an event registers nobody. -/
theorem Numbered.take (numbered : b.Numbered) (i : Nat) : (b.take i).Numbered := by
  refine ⟨numbered.1, fun j s found => ?_⟩
  rw [find?_take] at found
  obtain ⟨t, before, _⟩ := Option.map_eq_some_iff.1 found
  exact numbered.2 j t before

/-- The end of a subscription registers nobody. -/
theorem Numbered.stop (numbered : b.Numbered) (i : Nat) : (b.stop i).Numbered := by
  refine ⟨numbered.1, fun j s found => ?_⟩
  rw [find?_stop] at found
  split at found
  · cases found
  · exact numbered.2 j s found

/-- The id of a new subscription was the next one. -/
theorem Numbered.subscribe (numbered : b.Numbered) (kind : EventKind) (filter : List Label) :
    (b.subscribe kind filter).2.Numbered := by
  refine ⟨Nat.succ_pos _, fun j s found => ?_⟩
  change 0 < j ∧ j < b.nextId + 1
  rw [find?_subscribe, Option.or_eq_some_iff] at found
  rcases found with before | ⟨_, new⟩
  · have bounds := numbered.2 j s before
    omega
  · have positive := numbered.1
    split at new
    · omega
    · cases new

end Bus

end ClusterNode
