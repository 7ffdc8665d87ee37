import ClusterNode.Proofs.Bus

/-!
# What a subscription delivers

A run of the bus is a list of steps from a bus without subscribers. A subscription made
in it hears of the rest of the run by its signals alone: what is published and when its
holder asks, until it ends. `Account` keeps the books from those signals, without a bus.

`delivery` says that every subscription of every run receives what its account says, so
that the other subscribers make no difference to it, and that the subscriptions counted
are those that have not ended.
-/

namespace ClusterNode.Bus

/-! ## Runs -/

/-- What publishers and the holders of subscriptions do. -/
inductive Act where
  | subscribe (kind : EventKind) (filter : List Label)
  | publish (p : Publication)
  /-- The holder of a subscription asks for an event. -/
  | receive (id : Nat)
  | stop (id : Nat)
  | drop (id : Nat)

/-- The bus after a step. A subscription that is dropped is stopped. -/
def perform (b : Bus) : Act → Bus
  | .subscribe kind filter => (b.subscribe kind filter).2
  | .publish p => b.publish p
  | .receive id => b.take id
  | .stop id => b.stop id
  | .drop id => b.stop id

/-- The bus after some steps. -/
def performAll (b : Bus) (acts : List Act) : Bus := acts.foldl perform b

/-- What a step hands to the holder of a subscription. -/
def handed (b : Bus) (id : Nat) : Act → List Event
  | .receive i => if i = id then (b.next? id).toList else []
  | _ => []

/-- What the holder of a subscription receives in some steps, oldest first. -/
def received (id : Nat) : Bus → List Act → List Event
  | _, [] => []
  | b, a :: acts => b.handed id a ++ received id (b.perform a) acts

/-- Whether a step ends a subscription. -/
def Act.ends (id : Nat) : Act → Bool
  | .stop i => i == id
  | .drop i => i == id
  | _ => false

/-- How many subscriptions that are made in some steps do not end in them; `next` is the
id of the next one. -/
def standing : Nat → List Act → Nat
  | _, [] => 0
  | next, .subscribe _ _ :: acts =>
    (if acts.any (Act.ends next) then 0 else 1) + standing (next + 1) acts
  | next, _ :: acts => standing next acts

/-! ## The account of one subscription -/

/-- What concerns a subscription: an event is published, or its holder asks for one. -/
inductive Signal where
  | published (p : Publication)
  | asked

/-- The signal that a step is to a subscription, if it is one. -/
def Act.signal? (id : Nat) : Act → Option Signal
  | .publish p => some (.published p)
  | .receive i => if i = id then some .asked else none
  | _ => none

/-- The signals to a subscription until it ends. -/
def signals (id : Nat) (acts : List Act) : List Signal :=
  (acts.takeWhile fun a => !a.ends id).filterMap (Act.signal? id)

/-- An event of the subscribed kind that carries every label of the filter. -/
def Wanted (kind : EventKind) (filter : List Label) (p : Publication) : Prop :=
  p.event.kind = kind ∧ ∀ label ∈ filter, label ∈ p.labels

instance (kind : EventKind) (filter : List Label) (p : Publication) :
    Decidable (Wanted kind filter p) :=
  inferInstanceAs (Decidable (_ ∧ _))

/-- The books of a subscription. -/
structure Account where
  /-- The events that were wanted when there was room, in the order of publication. -/
  given : List Event
  /-- How many of them were taken. -/
  taken : Nat

namespace Account

/-- An event is given if it is wanted and fewer than `size` given ones are not taken; who
asks takes one, if there is one left. -/
def note (size : Nat) (kind : EventKind) (filter : List Label) (account : Account) :
    Signal → Account
  | .published p =>
    if Wanted kind filter p ∧ account.given.length - account.taken < size then
      { account with given := account.given ++ [p.event] }
    else account
  | .asked => { account with taken := min (account.taken + 1) account.given.length }

/-- The books after some signals. -/
def ofSignals (size : Nat) (kind : EventKind) (filter : List Label) (all : List Signal) : Account :=
  all.foldl (note size kind filter) ⟨[], 0⟩

/-- What was received. -/
def received (account : Account) : List Event := account.given.take account.taken

/-- What was not taken. -/
def left (account : Account) : List Event := account.given.drop account.taken

variable {size : Nat} {kind : EventKind} {filter : List Label} {account : Account}

/-- Who asks receives the oldest event that is left, if there is one. -/
theorem note_asked_received (bound : account.taken ≤ account.given.length) :
    (account.note size kind filter .asked).received =
      account.received ++ account.left.head?.toList := by
  simp only [note, received, left, List.head?_drop]
  by_cases more : account.taken < account.given.length
  · rw [Nat.min_eq_left more, List.take_add_one]
  · have all : account.taken = account.given.length := by omega
    simp [all]

/-- Who asks leaves what comes behind the oldest event. -/
theorem note_asked_left (bound : account.taken ≤ account.given.length) :
    (account.note size kind filter .asked).left = account.left.tail := by
  simp only [note, left, List.tail_drop]
  by_cases more : account.taken < account.given.length
  · rw [Nat.min_eq_left more]
  · have all : account.taken = account.given.length := by omega
    simp [all]

/-- A publication adds nothing to what was received. -/
theorem note_published_received (bound : account.taken ≤ account.given.length) (p : Publication) :
    (account.note size kind filter (.published p)).received = account.received := by
  simp only [note, received]
  split
  · exact List.take_append_of_le_length bound
  · rfl

/-- No signal lets more be taken than was given. -/
theorem note_bound (bound : account.taken ≤ account.given.length) (signal : Signal) :
    (account.note size kind filter signal).taken ≤
      (account.note size kind filter signal).given.length := by
  cases signal with
  | published p =>
    simp only [note]
    split
    · simpa using Nat.le_succ_of_le bound
    · exact bound
  | asked => exact Nat.min_le_right ..

end Account

/-! ## A subscription follows its account -/

/-- A subscriber accepts the events that its kind and its filter want. -/
theorem accepts_iff (s : Subscriber) (p : Publication) :
    s.accepts p.event.kind p.labels = true ↔ Wanted s.kind s.filter p := by
  rw [Subscriber.accepts, Wanted, Bool.and_eq_true, beq_iff_eq, List.all_eq_true,
    eq_comm (b := p.event.kind)]
  simp only [List.contains_iff_mem]

/-- The subscription of an id is there, and its queue is what its account has left. -/
structure Follows (b : Bus) (id : Nat) (kind : EventKind) (filter : List Label)
    (account : Account) : Prop where
  given : id < b.nextId
  here : ∃ missed, b.find? id = some ⟨id, kind, filter, account.left, missed⟩
  bound : account.taken ≤ account.given.length

/-- The subscription of an id was there and has ended. -/
def Ended (b : Bus) (id : Nat) : Prop := id < b.nextId ∧ b.find? id = none

variable {b : Bus} {id : Nat} {kind : EventKind} {filter : List Label} {account : Account}

/-- No step changes the size of the queues. -/
theorem perform_queueSize (a : Act) : (b.perform a).queueSize = b.queueSize := by
  cases a <;> rfl

/-- Ids are given in increasing order. -/
theorem nextId_le_perform (a : Act) : b.nextId ≤ (b.perform a).nextId := by
  cases a with
  | subscribe => exact Nat.le_succ _
  | _ => exact Nat.le_refl _

/-- What is published reaches the queue of a subscription as it reaches its account. -/
theorem Follows.publish (follows : b.Follows id kind filter account) (p : Publication) :
    (b.publish p).Follows id kind filter (account.note b.queueSize kind filter (.published p)) := by
  obtain ⟨missed, here⟩ := follows.here
  refine ⟨follows.given, ?_, Account.note_bound follows.bound _⟩
  rw [find?_publish, here, Option.map_some]
  have length : account.left.length = account.given.length - account.taken := List.length_drop ..
  simp only [offer, accepts_iff, length, Account.note]
  by_cases wanted : Wanted kind filter p
  · by_cases room : account.given.length - account.taken < b.queueSize
    · simp only [if_pos wanted, if_pos room, if_pos (And.intro wanted room)]
      exact ⟨missed, by simp only [Account.left, List.drop_append_of_le_length follows.bound]⟩
    · simp only [if_pos wanted, if_neg room, if_neg fun both : _ ∧ _ => room both.2]
      exact ⟨missed + 1, rfl⟩
  · simp only [if_neg wanted, if_neg fun both : _ ∧ _ => wanted both.1]
    exact ⟨missed, rfl⟩

/-- Who asks is handed the oldest event that its account has left. -/
theorem Follows.take (follows : b.Follows id kind filter account) :
    (b.take id).Follows id kind filter (account.note b.queueSize kind filter .asked) := by
  obtain ⟨missed, here⟩ := follows.here
  refine ⟨follows.given, ⟨missed, ?_⟩, Account.note_bound follows.bound _⟩
  rw [find?_take_self _ here, Account.note_asked_left follows.bound]

/-- The next event of a subscription is the oldest one that its account has left. -/
theorem Follows.next? (follows : b.Follows id kind filter account) :
    b.next? id = account.left.head? := by
  obtain ⟨missed, here⟩ := follows.here
  simp [Bus.next?, queue, here]

/-- A step that is no signal to a subscription and does not end it leaves it as it is. -/
theorem Follows.bystander (follows : b.Follows id kind filter account) {a : Act}
    (lives : a.ends id = false) (silent : a.signal? id = none) :
    (b.perform a).Follows id kind filter account ∧ b.handed id a = [] := by
  obtain ⟨missed, here⟩ := follows.here
  have given := Nat.lt_of_lt_of_le follows.given (nextId_le_perform a)
  cases a with
  | subscribe =>
    exact ⟨⟨given, ⟨missed, find?_subscribe_of_some here _ _⟩, follows.bound⟩, rfl⟩
  | publish => cases silent
  | receive i =>
    have other : i ≠ id := fun same => by simp [Act.signal?, same] at silent
    refine ⟨⟨given, ⟨missed, ?_⟩, follows.bound⟩, if_neg other⟩
    rw [perform, find?_take_of_ne _ other.symm, here]
  | stop i | drop i =>
    have other : id ≠ i := fun same => by simp [Act.ends, same] at lives
    refine ⟨⟨given, ⟨missed, ?_⟩, follows.bound⟩, rfl⟩
    rw [perform, find?_stop, if_neg other, here]

/-- A signal reaches a subscription and its account alike. -/
theorem Follows.signal (follows : b.Follows id kind filter account) {a : Act} {signal : Signal}
    (loud : a.signal? id = some signal) :
    (b.perform a).Follows id kind filter (account.note b.queueSize kind filter signal) ∧
      (account.note b.queueSize kind filter signal).received =
        account.received ++ b.handed id a := by
  cases a with
  | publish p =>
    cases loud
    refine ⟨follows.publish p, ?_⟩
    rw [Account.note_published_received follows.bound, handed, List.append_nil]
    nofun
  | receive i =>
    obtain ⟨rfl, asked⟩ : i = id ∧ some Signal.asked = some signal := by
      simpa [Act.signal?] using loud
    cases asked
    refine ⟨follows.take, ?_⟩
    rw [Account.note_asked_received follows.bound, handed, if_pos rfl, follows.next?]
  | subscribe => cases loud
  | stop => cases loud
  | drop => cases loud

/-- A step that ends a subscription leaves it ended, and hands nothing to its holder. -/
theorem Follows.ended (follows : b.Follows id kind filter account) {a : Act} (ends : a.ends id) :
    (b.perform a).Ended id ∧ b.handed id a = [] := by
  cases a with
  | stop i | drop i =>
    have mine : i = id := by simpa [Act.ends] using ends
    subst mine
    exact ⟨⟨follows.given, by rw [perform, find?_stop, if_pos rfl]⟩, rfl⟩
  | _ => cases ends

/-- An id is not given again. -/
theorem Ended.perform (ended : b.Ended id) (a : Act) :
    (b.perform a).Ended id ∧ b.handed id a = [] := by
  have given := Nat.lt_of_lt_of_le ended.1 (nextId_le_perform a)
  cases a with
  | subscribe =>
    refine ⟨⟨given, ?_⟩, rfl⟩
    rw [Bus.perform, find?_subscribe, ended.2, if_neg (Nat.ne_of_lt ended.1), Option.or_none]
  | publish p => exact ⟨⟨given, by rw [Bus.perform, find?_publish, ended.2, Option.map_none]⟩, rfl⟩
  | receive i =>
    refine ⟨⟨given, by rw [Bus.perform, find?_take, ended.2, Option.map_none]⟩, ?_⟩
    simp [handed, Bus.next?, queue, ended.2]
  | stop i | drop i => exact ⟨⟨given, by rw [Bus.perform, find?_stop, ended.2, ite_self]⟩, rfl⟩

/-- A subscription that has ended stays so, and nothing is received by it. -/
theorem Ended.performAll (ended : b.Ended id) (acts : List Act) :
    (b.performAll acts).Ended id ∧ b.received id acts = [] := by
  induction acts generalizing b with
  | nil => exact ⟨ended, rfl⟩
  | cons a acts ih =>
    obtain ⟨next, nothing⟩ := ended.perform a
    obtain ⟨last, rest⟩ := ih next
    exact ⟨last, by rw [Bus.received, nothing, rest, List.append_nil]⟩

/-! ## The rest of a run -/

section

variable {a : Act} (acts : List Act)

/-- The end of a subscription is the end of its signals. -/
theorem signals_of_ends (ends : a.ends id = true) : signals id (a :: acts) = [] := by
  simp [signals, ends]

/-- A step that is no signal to a subscription adds nothing to its signals. -/
theorem signals_of_silent (lives : a.ends id = false) (silent : a.signal? id = none) :
    signals id (a :: acts) = signals id acts := by
  simp [signals, lives, silent]

/-- A signal to a subscription that lives on is the first of its signals. -/
theorem signals_of_loud {signal : Signal} (lives : a.ends id = false)
    (loud : a.signal? id = some signal) :
    signals id (a :: acts) = signal :: signals id acts := by
  simp [signals, lives, loud]

end

/-- The queue of a subscription is what its account has left. -/
theorem Follows.queue (follows : b.Follows id kind filter account) : b.queue id = account.left := by
  obtain ⟨missed, here⟩ := follows.here
  simp [Bus.queue, here]

/-- A subscription that has ended has no queue. -/
theorem Ended.queue (ended : b.Ended id) : b.queue id = [] := by simp [Bus.queue, ended.2]

/-- A subscription receives what its account received in the meantime, and has in its
queue what its account has left, unless it ended. -/
theorem Follows.performAll (follows : b.Follows id kind filter account) (acts : List Act) :
    let later := (signals id acts).foldl (Account.note b.queueSize kind filter) account
    account.received ++ b.received id acts = later.received ∧
      (b.performAll acts).queue id = if acts.any (Act.ends id) then [] else later.left := by
  induction acts generalizing b account with
  | nil => exact ⟨List.append_nil _, follows.queue⟩
  | cons a acts ih =>
    have size := perform_queueSize (b := b) a
    cases lives : a.ends id with
    | true =>
      obtain ⟨ended, nothing⟩ := follows.ended lives
      obtain ⟨last, rest⟩ := ended.performAll acts
      rw [signals_of_ends acts lives, received, nothing, rest, List.any_cons, lives]
      exact ⟨List.append_nil _, last.queue⟩
    | false =>
      rw [received, List.any_cons, lives, Bool.false_or]
      cases heard : a.signal? id with
      | none =>
        obtain ⟨follows, nothing⟩ := follows.bystander lives heard
        rw [signals_of_silent acts lives heard, nothing, List.nil_append, ← size]
        exact ih follows
      | some signal =>
        obtain ⟨follows, more⟩ := follows.signal heard
        rw [signals_of_loud acts lives heard, List.foldl_cons, ← List.append_assoc, ← more, ← size]
        rw [← size] at follows
        exact ih follows

/-- A new subscription begins with empty books. -/
theorem follows_subscribe (numbered : b.Numbered) (kind : EventKind) (filter : List Label) :
    (b.subscribe kind filter).2.Follows b.nextId kind filter ⟨[], 0⟩ :=
  ⟨Nat.lt_succ_self _, ⟨0, find?_subscribe_new numbered kind filter⟩, Nat.le_refl _⟩

/-- Every step keeps the ids in order. -/
theorem Numbered.perform (numbered : b.Numbered) (a : Act) : (b.perform a).Numbered := by
  cases a with
  | subscribe => exact numbered.subscribe _ _
  | publish => exact numbered.publish _
  | receive => exact numbered.take _
  | stop | drop => exact numbered.stop _

/-- A whole run keeps the ids in order. -/
theorem Numbered.performAll (numbered : b.Numbered) (acts : List Act) :
    (b.performAll acts).Numbered := by
  induction acts generalizing b with
  | nil => exact numbered
  | cons a acts ih => exact ih (numbered.perform a)

/-- A whole run does not change the size of the queues. -/
theorem performAll_queueSize (acts : List Act) : (b.performAll acts).queueSize = b.queueSize := by
  induction acts generalizing b with
  | nil => rfl
  | cons a acts ih => exact ih.trans (perform_queueSize a)

/-! ## Counting subscriptions -/

/-- Whether a subscriber does not end in some steps. -/
def stays (acts : List Act) (s : Subscriber) : Bool := !acts.any (Act.ends s.id)

/-- Who survives the first step stays if it survives the others. -/
theorem stays_cons_of_lives {a : Act} {s : Subscriber} (acts : List Act)
    (lives : a.ends s.id = false) : stays (a :: acts) s = stays acts s := by
  rw [stays, List.any_cons, lives, Bool.false_or, stays]

/-- Steps that keep ids keep who stays. -/
theorem countP_stays_map {f : Subscriber → Subscriber} (same : ∀ s, (f s).id = s.id)
    (acts : List Act) (all : List Subscriber) :
    (all.map f).countP (stays acts) = all.countP (stays acts) := by
  rw [List.countP_map]
  exact List.countP_congr fun s _ => by simp [stays, same]

/-- What ends a subscription takes it out of the registry. -/
theorem countP_stays_stop {a : Act} {i : Nat} (ends : ∀ j, a.ends j = (i == j)) (acts : List Act)
    (all : List Subscriber) :
    (all.filter (·.id != i)).countP (stays acts) = all.countP (stays (a :: acts)) := by
  rw [List.countP_filter]
  refine List.countP_congr fun s _ => ?_
  rw [stays, stays, List.any_cons, ends, Bool.not_or, Bool.and_comm, bne, Bool.beq_comm]

/-- A step moves its own part of what is to stand to the registry, or out of it. -/
theorem standing_perform (b : Bus) (a : Act) (acts : List Act) :
    (b.perform a).subscribers.countP (stays acts) + standing (b.perform a).nextId acts =
      b.subscribers.countP (stays (a :: acts)) + standing b.nextId (a :: acts) := by
  cases a with
  | subscribe kind filter =>
    have others : b.subscribers.countP (stays (.subscribe kind filter :: acts)) =
        b.subscribers.countP (stays acts) :=
      List.countP_congr fun s _ => by rw [stays_cons_of_lives acts rfl]
    simp only [perform, subscribe, standing, List.countP_append, List.countP_singleton, others,
      stays]
    by_cases ends : acts.any (Act.ends b.nextId) = true <;> simp [ends, Nat.add_assoc]
  | publish p =>
    exact congrArg (· + standing b.nextId acts)
      (countP_stays_map (offer_id b.queueSize p) acts b.subscribers)
  | receive i =>
    exact congrArg (· + standing b.nextId acts)
      (countP_stays_map (fun s => by split <;> rfl) acts b.subscribers)
  | stop i | drop i =>
    exact congrArg (· + standing b.nextId acts)
      (countP_stays_stop (fun _ => rfl) acts b.subscribers)

/-- The registry holds the subscribers that were there or came, and did not end. -/
theorem count_performAll (b : Bus) (acts : List Act) :
    (b.performAll acts).count = b.subscribers.countP (stays acts) + standing b.nextId acts := by
  induction acts generalizing b with
  | nil =>
    have all : b.subscribers.countP (stays []) = b.subscribers.length :=
      List.countP_eq_length.2 fun _ _ => rfl
    rw [all]
    rfl
  | cons a acts ih => exact (ih (b.perform a)).trans (standing_perform b a acts)

/-! ## Whole runs -/

/-- A subscription of a run receives what its account received, and has in its queue what
its account has left, unless it ended. -/
theorem account_of_run (size : Nat) (kind : EventKind) (filter : List Label)
    (earlier later : List Act) :
    let before := (new size).performAll earlier
    let made := before.perform (.subscribe kind filter)
    let account := Account.ofSignals (max size 1) kind filter (signals before.nextId later)
    made.received before.nextId later = account.received ∧
      (made.performAll later).queue before.nextId =
        if later.any (Act.ends before.nextId) then [] else account.left := by
  intro before made account
  have numbered : before.Numbered := (numbered_new size).performAll earlier
  have follows : made.Follows before.nextId kind filter ⟨[], 0⟩ :=
    follows_subscribe numbered kind filter
  have capacity : made.queueSize = max size 1 :=
    (perform_queueSize _).trans (performAll_queueSize earlier)
  have books := follows.performAll later
  rw [capacity] at books
  exact books

/-- In every run of the bus, as many subscriptions are counted as were made and not ended;
and every subscription receives, in the order of publication and once each, the wanted
events that were published until it ended while its queue had room, as far as it asked for
them. What it did not take is in its queue, or was discarded when it ended. Another run
with the same signals, whatever its other subscribers do, hands it the same. -/
theorem delivery (size : Nat) (run : List Act) :
    ((new size).performAll run).count = standing 1 run ∧
    ∀ earlier kind filter later, run = earlier ++ .subscribe kind filter :: later →
      let before := (new size).performAll earlier
      let made := before.perform (.subscribe kind filter)
      let account := Account.ofSignals (max size 1) kind filter (signals before.nextId later)
      made.received before.nextId later = account.received ∧
      ((new size).performAll run).queue before.nextId =
        (if later.any (Act.ends before.nextId) then [] else account.left) ∧
      ∀ earlier' later',
        let other := (new size).performAll earlier'
        signals other.nextId later' = signals before.nextId later →
        (other.perform (.subscribe kind filter)).received other.nextId later' =
          made.received before.nextId later := by
  refine ⟨?_, ?_⟩
  · have counted := count_performAll (new size) run
    simpa [new] using counted
  · rintro earlier kind filter later rfl
    intro before made account
    obtain ⟨taken, left⟩ := account_of_run size kind filter earlier later
    refine ⟨taken, ?_, ?_⟩
    · rw [← left, performAll, List.foldl_append]
      rfl
    · intro earlier' later' other same
      obtain ⟨theirs, _⟩ := account_of_run size kind filter earlier' later'
      rw [theirs, taken, same]

/-- A subscriber with one place misses the second event while another one, which asks in
between, gets both; alone on the bus it receives the same. -/
theorem delivery_of_two :
    let news (n : Nat) : Publication := .ofNode (.resyncRequested "n2" 0 (.ofNat n)) "n2"
    let kind := EventKind.resyncRequested
    let filter := [Label.node "n2"]
    let run : List Act :=
      [.subscribe kind [], .subscribe kind filter, .publish (news 1), .receive 1, .publish (news 2),
        .receive 1, .receive 2, .publish (news 3), .drop 1, .stop 2, .receive 2]
    let alone : List Act :=
      [.publish (news 1), .publish (news 2), .receive 1, .publish (news 3), .stop 1, .receive 1]
    ((new 1).performAll run).count = 0 ∧
      ((new 1).subscribe kind filter).2.received 1 alone = [(news 1).event] := by
  intro news kind filter run alone
  obtain ⟨counted, all⟩ := delivery 1 run
  obtain ⟨taken, _, independent⟩ := all [.subscribe kind []] kind filter (run.drop 2) rfl
  refine ⟨counted.trans (by decide), ?_⟩
  exact (independent [] alone rfl).trans (taken.trans (by decide))

end ClusterNode.Bus
