import ClusterNode.Proofs.Bus
import ClusterNode.Proofs.Replication.Records

/-!
# One record of an instance

A `Facet` is one of the three records of an instance: how it is read, which news tell of it,
and the kinds of events that bring them. What publications make of the record of one instance
is what the last of them says that tells of it.

`Records.Tells` is read here for one facet of one instance: a record that changed was told of
as it is now, and whoever subscribed to the object heard it.
-/

namespace ClusterNode

/-- One of the records of an instance. -/
structure Facet (α : Type) where
  get : Instance → Option α
  /-- What news say the record is now, if they tell of it. -/
  now? : RecordNews → Option (Option α)
  updated : EventKind
  deleted : EventKind
  get_apply : ∀ i news, get (news.apply i) = (now? news).getD (get i)
  kind_of_change : ∀ (e : Event) c now, e.change? = some c → now? c.news = some now →
    e.kind = if now.isSome then updated else deleted

namespace Facet

/-- The configuration of an instance. -/
def config : Facet InstanceConfig where
  get i := i.config
  now?
    | .config now => some now
    | _ => none
  updated := .configUpdated
  deleted := .configDeleted
  get_apply i news := by cases news <;> rfl
  kind_of_change e c now told said := by cases e <;> cases told <;> cases said <;> rfl

/-- The status of an instance. -/
def status : Facet InstanceStatus where
  get i := i.status
  now?
    | .status now => some now
    | _ => none
  updated := .instanceStatusUpdated
  deleted := .instanceStatusDeleted
  get_apply i news := by cases news <;> rfl
  kind_of_change e c now told said := by cases e <;> cases told <;> cases said <;> rfl

/-- The monitor record of an instance. -/
def monitor : Facet InstanceMonitor where
  get i := i.monitor
  now?
    | .monitor now => some now
    | _ => none
  updated := .instanceMonitorUpdated
  deleted := .instanceMonitorDeleted
  get_apply i news := by cases news <;> rfl
  kind_of_change e c now told said := by cases e <;> cases told <;> cases said <;> rfl

variable {α : Type} (f : Facet α) (key node : String)

/-- What an event says that the record of an instance is now, if it tells of it. -/
def now (e : Event) : Option (Option α) :=
  e.change?.bind fun c => if c.path.toString = key ∧ c.node = node then f.now? c.news else none

/-- The value that an event says the record of an instance has now. -/
def told (e : Event) : Option α := (f.now key node e).join

/-- The value told last of an instance, among publications from the latest on. -/
def lastTold (latestFirst : List Publication) : Option α :=
  latestFirst.findSome? fun p => f.told key node p.event

variable {f key node} {t u : Records} {e : Event} {news : List Publication} {now : Option α}

/-- An event that tells of a record is about the instance. -/
theorem now_eq_some_iff : f.now key node e = some now ↔
    ∃ c, e.change? = some c ∧ c.path.toString = key ∧ c.node = node ∧ f.now? c.news = some now := by
  simp only [Facet.now, Option.bind_eq_some_iff, Option.ite_none_right_eq_some, and_assoc]

/-- An event tells a value if it says that the record is this value now. -/
theorem told_eq_some_iff {w : α} : f.told key node e = some w ↔
    f.now key node e = some (some w) := by
  unfold told
  exact Option.join_eq_some_iff

/-- An event that does not tell of a record tells no value of it. -/
theorem told_of_now_none (silent : f.now key node e = none) : f.told key node e = none := by
  rw [told, silent]
  rfl

/-- An event that tells of a record is of the kind for updates or of that for deletions. -/
theorem kind_of_now (said : f.now key node e = some now) :
    e.kind = if now.isSome then f.updated else f.deleted := by
  obtain ⟨c, told, _, _, said⟩ := now_eq_some_iff.1 said
  exact f.kind_of_change e c now told said

/-- The events that tell of a configuration. -/
theorem config_now_eq_some_iff {now : Option InstanceConfig} :
    config.now key node e = some now ↔ ∃ p : ObjectPath, p.toString = key ∧
      e = match now with
        | some value => .configUpdated p node value
        | none => .configDeleted p node := by
  rw [now_eq_some_iff]
  constructor
  · rintro ⟨c, told, path, rfl, said⟩
    cases e <;> cases told <;> cases said <;> exact ⟨_, path, rfl⟩
  · rintro ⟨p, path, rfl⟩
    cases now <;> exact ⟨⟨p, node, _⟩, rfl, path, rfl, rfl⟩

/-! ## Replaying -/

/-- What one event makes of the record of an instance. -/
theorem get_tell : f.get (t.tell e node key) = (f.now key node e).getD (f.get (t node key)) := by
  unfold Records.tell Facet.now
  cases e.change? with
  | none => rfl
  | some c =>
    change f.get (t.change c node key) = _
    unfold Records.change
    by_cases here : c.path.toString = key ∧ c.node = node
    · obtain ⟨rfl, rfl⟩ := here
      rw [Records.set_self, f.get_apply]
      simp
    · rw [Records.set_of_ne]
      · simp [here]
      · rcases Classical.not_and_iff_not_or_not.1 here with path | at_node
        · exact .inr (Ne.symm path)
        · exact .inl (Ne.symm at_node)

/-- What publications make of the record of an instance is what the last of them says that
tells of it. -/
theorem get_replay : f.get (t.replay news node key) =
    (news.reverse.findSome? fun p => f.now key node p.event).getD (f.get (t node key)) := by
  induction news generalizing t with
  | nil => rfl
  | cons p news ih =>
    change f.get ((t.tell p.event).replay news node key) = _
    rw [ih, get_tell, List.reverse_cons, List.findSome?_append, Option.getD_or]
    cases said : f.now key node p.event <;> simp [said]

/-- A record that changed was told of as it is now. -/
theorem exists_now_of_ne (tells : t.Tells news u)
    (changed : f.get (u node key) ≠ f.get (t node key)) :
    ∃ p ∈ news, f.now key node p.event = some (f.get (u node key)) := by
  rw [← tells.replay, get_replay] at changed ⊢
  cases found : news.reverse.findSome? fun p => f.now key node p.event with
  | none =>
    rw [found] at changed
    exact absurd rfl changed
  | some now =>
    obtain ⟨p, new, said⟩ := List.exists_of_findSome?_eq_some found
    exact ⟨p, List.mem_reverse.1 new, said⟩

/-- A record that is there is what was told last, or what it was when nothing was told. -/
theorem lastTold_or_get (tells : t.Tells news u) {w : α} (there : f.get (u node key) = some w) :
    (f.lastTold key node news.reverse).or (f.get (t node key)) = some w := by
  rw [← tells.replay, get_replay] at there
  unfold lastTold
  generalize news.reverse = latestFirst at there ⊢
  induction latestFirst with
  | nil => exact there
  | cons p latestFirst ih =>
    rw [List.findSome?_cons] at there ⊢
    cases said : f.now key node p.event with
    | none =>
      rw [said] at there
      rw [told_of_now_none said]
      exact ih there
    | some now =>
      rw [said] at there
      cases (there : now = some w)
      rw [told_eq_some_iff.2 said]
      rfl

end Facet

/-! ## Subscribers of an object -/

/-- Whether an event tells of a record of an object. -/
def Event.IsAbout (e : Event) (key : String) : Prop :=
  ∃ c, e.change? = some c ∧ c.path.toString = key

/-- The kinds of events that tell of the records of instances. -/
def EventKind.tellsOfRecords : EventKind → Bool
  | .configUpdated | .configDeleted | .instanceStatusUpdated | .instanceStatusDeleted
  | .instanceMonitorUpdated | .instanceMonitorDeleted => true
  | _ => false

/-- The events of a kind about an object, among publications. -/
def eventsFor (kind : EventKind) (p : ObjectPath) (news : List Publication) : List Event :=
  (⟨0, kind, [.path p], [], 0⟩ : Subscriber).heard news

variable {t u : Records} {news : List Publication} {kind : EventKind} {p : ObjectPath} {e : Event}

/-- What is heard of an object is of the kind subscribed to, and about the object. -/
theorem Records.Tells.about (tells : t.Tells news u) (speaks : kind.tellsOfRecords = true)
    (heard : e ∈ eventsFor kind p news) : e.kind = kind ∧ e.IsAbout p.toString := by
  simp only [eventsFor, Subscriber.heard, List.mem_map, List.mem_filter, Subscriber.accepts,
    Bool.and_eq_true, beq_iff_eq, List.all_cons, List.all_nil, Bool.and_true,
    List.contains_iff_mem] at heard
  obtain ⟨q, ⟨new, rfl, labels⟩, rfl⟩ := heard
  refine ⟨rfl, ?_⟩
  obtain ⟨c, told⟩ : ∃ c, q.event.change? = some c := by
    cases is : q.event <;> rw [is] at speaks <;> first | exact ⟨_, rfl⟩ | cases speaks
  refine ⟨c, told, ?_⟩
  rw [tells.labelled q new c told] at labels
  simpa [Label.path, Label.node, eq_comm] using labels

/-- A publication that tells of a record is accepted by who subscribed to the object. -/
theorem Facet.accepts_of_now {α : Type} {f : Facet α} {node : String} (now : Option α)
    (tells : t.Tells news u) {q : Publication} (new : q ∈ news)
    (said : f.now p.toString node q.event = some now) :
    (⟨0, if now.isSome then f.updated else f.deleted, [.path p], [], 0⟩ : Subscriber).accepts
      q.event.kind q.labels = true := by
  obtain ⟨c, told, path, _, _⟩ := now_eq_some_iff.1 said
  have label : Label.path c.path = Label.path p := by rw [Label.path, Label.path, path]
  simp [Subscriber.accepts, kind_of_now said, tells.labelled q new c told, label]

/-- A publication that tells of a record is heard by who subscribed to the object. -/
theorem Facet.mem_eventsFor {α : Type} {f : Facet α} {node : String} (now : Option α)
    (tells : t.Tells news u) {q : Publication} (new : q ∈ news)
    (said : f.now p.toString node q.event = some now) :
    q.event ∈ eventsFor (if now.isSome then f.updated else f.deleted) p news :=
  List.mem_map_of_mem (f := (·.event)) (List.mem_filter.2 ⟨new, accepts_of_now now tells new said⟩)

/-- What a search passes over may as well be left out. -/
private theorem findSome?_filter_of_some {β γ : Type} {g : β → Option γ} {keep : β → Bool}
    {l : List β} (kept : ∀ x ∈ l, ∀ y, g x = some y → keep x = true) :
    (l.filter keep).findSome? g = l.findSome? g := by
  induction l with
  | nil => rfl
  | cons x l ih =>
    have rest := ih fun x' later => kept x' (List.mem_cons_of_mem _ later)
    cases found : g x with
    | none =>
      rw [List.findSome?_cons, found, List.filter_cons]
      split
      · rw [List.findSome?_cons, found]
        exact rest
      · exact rest
    | some y =>
      rw [List.filter_cons_of_pos (kept x (List.mem_cons_self ..) y found), List.findSome?_cons,
        List.findSome?_cons, found]

/-- Who subscribed to the updates of a record hears the value that is told last. -/
theorem Facet.findSome?_eventsFor {α : Type} {f : Facet α} {node : String}
    (tells : t.Tells news u) :
    (eventsFor f.updated p news).reverse.findSome? (f.told p.toString node) =
      f.lastTold p.toString node news.reverse := by
  unfold lastTold eventsFor Subscriber.heard
  rw [← List.map_reverse, List.findSome?_map, ← List.filter_reverse]
  refine findSome?_filter_of_some fun q late w said => ?_
  exact accepts_of_now (some w) tells (List.mem_reverse.1 late) (told_eq_some_iff.1 said)

end ClusterNode
