import ClusterNode.Proofs.Heartbeat.Reassembly
import ClusterNode.Proofs.Since

/-!
# Any fragments whatever

A sender may put anything into a fragment. `Run` lists what a reassembler was made to do, with
what it gave out, whichever of the stalest messages went each time that room was made; the running
functions make such a run (`run_moves`). Three things carry over each step: the buffer is bounded
and its counters are right (`Sound`), what it holds came in (`Sourced`), and what was given out is
remembered until a purge at least the idle time later (`Remembers`).

`withstands_run` puts together what follows for every run. That a message given out is what one
sender meant is not claimed: whoever knows an id can supply chunks under it.
-/

namespace ClusterNode

/-! ## Counters -/

namespace Partial

/-- An incomplete message has a slot for each of its chunks, at least two and as many as are
allowed at most; as many of them are filled as were received, and not all. -/
structure Sound (p : Partial) (maxFragments : Nat) : Prop where
  sized : p.slots.length = p.total.toNat
  several : 2 ≤ p.slots.length
  fits : p.slots.length ≤ maxFragments
  counted : p.received = p.slots.countP (·.isSome)
  missing : p.received < p.slots.length

variable {p : Partial} {maxFragments slot now : Nat} {chunk : Bytes} {total : UInt64}

/-- A message that begins with at least two chunks to come, and no more than are allowed, is sound.
-/
theorem sound_begin (several : 2 ≤ total.toNat) (fits : total.toNat ≤ maxFragments) :
    (begin total now).Sound maxFragments := by
  have sized : (begin total now).slots.length = total.toNat := List.length_replicate
  refine ⟨sized, sized ▸ several, sized ▸ fits, ?_, ?_⟩
  · simp [begin, List.countP_replicate]
  · rw [sized]
    exact Nat.lt_of_lt_of_le Nat.zero_lt_two several

/-- A chunk that leaves a slot empty leaves the counters right. -/
theorem Sound.add (sound : p.Sound maxFragments) (empty : p.slots[slot]? = some none)
    (missing : p.received + 1 < p.total.toNat) :
    (p.add slot chunk now).Sound maxFragments := by
  have sized : (p.add slot chunk now).slots.length = p.slots.length := List.length_set
  refine ⟨sized.trans sound.sized, sized ▸ sound.several, sized ▸ sound.fits, ?_, ?_⟩
  · exact (congrArg (· + 1) sound.counted).trans
      (Reassembler.countP_set_some empty chunk).symm
  · rw [sized, sound.sized]
    exact missing

/-- The chunk that is counted as the last one fills the last slot. -/
theorem Sound.full (sound : p.Sound maxFragments) (empty : p.slots[slot]? = some none)
    (full : p.total.toNat ≤ p.received + 1) :
    ∃ chunks : List Bytes, chunks.length = p.total.toNat ∧
      (p.add slot chunk now).slots = chunks.map some ∧
      (p.add slot chunk now).content = chunks.flatten := by
  have filled : (p.slots.set slot (some chunk)).countP (·.isSome) =
      (p.slots.set slot (some chunk)).length := by
    have counted := sound.counted
    have sized := sound.sized
    have missing := sound.missing
    rw [Reassembler.countP_set_some empty, List.length_set]
    omega
  have whole : ((p.slots.set slot (some chunk)).filterMap id).map some =
      p.slots.set slot (some chunk) := by
    rw [List.map_filterMap_some_eq_filter_map_isSome, List.map_id]
    exact List.filter_eq_self.2 (List.countP_eq_length.1 filled)
  refine ⟨(p.slots.set slot (some chunk)).filterMap id, ?_, whole.symm, rfl⟩
  rw [← sound.sized, ← List.length_map some, whole, List.length_set]

end Partial

namespace Reassembler

/-! ## Runs -/

/-- A step that was made, and the message that it gave out. -/
structure Move where
  act : Act
  given : Option Bytes

/-- When a move was made. -/
def Move.time (m : Move) : Nat := m.act.time

/-- A step; for a fragment that opens a message room is made first. -/
inductive Step (r : Reassembler) : Move → Reassembler → Prop
  | opening {f : Fragment} {now : Nat} {base : Reassembler} (opens : r.opens f = true)
    (makes : r.MakesRoom base) :
    Step r ⟨.push f now, (base.push f now).2⟩ (base.push f now).1
  | other {f : Fragment} {now : Nat} (known : r.opens f = false) :
    Step r ⟨.push f now, (r.push f now).2⟩ (r.push f now).1
  | purge {now : Nat} : Step r ⟨.purge now, none⟩ (r.purge now).1

/-- The moves made from a state, and the state they led to. -/
inductive Run (start : Reassembler) : List Move → Reassembler → Prop
  | start : Run start [] start
  | next {history : List Move} {r r' : Reassembler} {m : Move} (run : Run start history r)
    (step : r.Step m r') : Run start (history ++ [m]) r'

variable {start r r' base : Reassembler} {history : List Move} {m : Move} {f : Fragment}
  {now : Nat} {id : String} {p : Partial} {given : Option Bytes}

/-- Every move of a run was a step from where the moves before it led. -/
theorem Run.step_of_split {before after : List Move} (run : Run start history r)
    (split : history = before ++ m :: after) : ∃ s s', Run start before s ∧ s.Step m s' := by
  induction run generalizing after with
  | start => exact absurd split.symm (List.append_ne_nil_of_right_ne_nil _ (List.cons_ne_nil _ _))
  | next run step ih =>
    rcases concat_eq_append_cons_iff.1 split with ⟨rfl, rfl, -⟩ | ⟨earlier, -, split⟩
    · exact ⟨_, _, run, step⟩
    · exact ih split

/-- A fragment does what it can do where room was made for it. -/
theorem Step.received (step : r.Step ⟨.push f now, given⟩ r') :
    ∃ base, (base = r ∨ r.opens f = true ∧ r.MakesRoom base) ∧ base.Received f now r' given := by
  cases step with
  | opening opens makes =>
    obtain ⟨-, -, room, -⟩ := makes.frame
    exact ⟨_, .inr ⟨opens, makes⟩, received_push fun _ => room⟩
  | other known => exact ⟨r, .inl rfl, received_push fun opens => absurd (known ▸ opens) nofun⟩

/-- No step changes the limits. -/
theorem Step.limits (step : r.Step m r') : r'.limits = r.limits := by
  obtain ⟨_ | _, given⟩ := m
  · obtain ⟨base, rfl | ⟨-, makes⟩, received⟩ := step.received
    · exact received.limits
    · exact received.limits.trans makes.frame.1
  · cases step
    rfl

/-- The limits of a run are those that it started with. -/
theorem Run.limits (run : Run start history r) : r.limits = start.limits := by
  induction run with
  | start => rfl
  | next _ step ih => exact step.limits.trans ih

/-! ## The buffer -/

/-- The buffer is bounded, and so is each incomplete message in it. -/
structure Sound (r : Reassembler) : Prop where
  positive : 0 < r.maxPending
  bounded : r.pending ≤ r.maxPending
  each : ∀ id p, r.partials.get? id = some p → p.Sound r.maxFragments

/-- A new reassembler is sound. -/
theorem sound_new (idle maxFragments maxPending : Nat) :
    (new idle maxFragments maxPending).Sound := by
  refine ⟨Nat.lt_of_lt_of_le Nat.one_pos (Nat.le_max_right ..), Nat.zero_le _, fun id p found => ?_⟩
  cases found

/-- The message that a fragment goes to is sound. -/
theorem Goes.sound (goes : r.Goes f now p) (sound : r.Sound) : p.Sound r.maxFragments := by
  cases goes with
  | held _ found => exact sound.each _ _ found
  | opened _ _ several fits => exact Partial.sound_begin several fits

/-- The message that a fragment goes to has its place in the buffer. -/
theorem Goes.sound_insert {p' : Partial} (goes : r.Goes f now p) (sound : r.Sound)
    (right : p'.Sound r.maxFragments) :
    Sound { r with partials := r.partials.insert f.messageId p' } := by
  refine ⟨sound.positive, ?_, fun id q found => ?_⟩
  · cases goes with
    | held _ found =>
      exact Nat.le_trans (Nat.le_of_eq (SortedMap.size_insert_of_get? p' found)) sound.bounded
    | opened _ _ _ _ room => exact Nat.le_trans (SortedMap.size_insert_le ..) room
  · rw [SortedMap.get?_insert] at found
    split at found
    · exact Option.some.inj found ▸ right
    · exact sound.each id q found

/-- Whatever a fragment does, the reassembler stays sound. -/
theorem Received.sound (received : r.Received f now r' given) (sound : r.Sound) : r'.Sound := by
  cases received with
  | passed => exact sound
  | single => exact ⟨sound.positive, sound.bounded, sound.each⟩
  | @touched p goes =>
    obtain ⟨sized, several, fits, counted, missing⟩ := goes.sound sound
    exact goes.sound_insert sound ⟨sized, several, fits, counted, missing⟩
  | added goes empty missing =>
    exact goes.sound_insert sound ((goes.sound sound).add empty missing)
  | completed =>
    refine ⟨sound.positive, Nat.le_trans (SortedMap.size_erase_le ..) sound.bounded,
      fun id q found => ?_⟩
    rw [SortedMap.get?_erase] at found
    split at found
    · cases found
    · exact sound.each id q found

/-- Making room leaves the reassembler sound. -/
theorem MakesRoom.sound (makes : r.MakesRoom base) (sound : r.Sound) : base.Sound := by
  obtain ⟨limits, -, room, among⟩ := makes.frame
  obtain ⟨-, fragments, -⟩ := limits_eq_iff.1 limits
  refine ⟨Nat.lt_of_le_of_lt (Nat.zero_le _) room, Nat.le_of_lt room, fun id p found => ?_⟩
  exact fragments ▸ sound.each id p (among id p found)

/-- A purge leaves the reassembler sound. -/
theorem sound_purge (sound : r.Sound) (now : Nat) : (r.purge now).1.Sound := by
  refine ⟨sound.positive, Nat.le_trans (SortedMap.size_filter_le ..) sound.bounded,
    fun id p found => ?_⟩
  rw [purge, SortedMap.get?_filter] at found
  exact sound.each id p (Option.filter_eq_some_iff.1 found).1

/-- Every step leaves the reassembler sound. -/
theorem Step.sound (step : r.Step m r') (sound : r.Sound) : r'.Sound := by
  obtain ⟨f | now, given⟩ := m
  · obtain ⟨base, rfl | ⟨-, makes⟩, received⟩ := step.received
    · exact received.sound sound
    · exact received.sound (makes.sound sound)
  · cases step
    exact sound_purge sound now

/-- Along a run the reassembler is sound. -/
theorem Run.sound (run : Run start history r) (sound : start.Sound) : r.Sound := by
  induction run with
  | start => exact sound
  | next _ step ih => exact step.sound ih

/-! ## The running functions -/

/-- What a step gives out. -/
def answer (r : Reassembler) : Act → Option Bytes
  | .push f now => (r.push f now).2
  | .purge _ => none

/-- The steps that are made, with what they give out. -/
def moves (r : Reassembler) : List Act → List Move
  | [] => []
  | a :: acts => ⟨a, r.answer a⟩ :: moves (r.perform a) acts

/-- A fragment that opens a message is taken where room was made. -/
theorem push_makeRoom (opens : r.opens f = true) (makes : r.MakesRoom r.makeRoom) :
    r.makeRoom.push f now = r.push f now := by
  obtain ⟨limits, completed, room, among⟩ := makes.frame
  obtain ⟨-, fragments, -⟩ := limits_eq_iff.1 limits
  obtain ⟨⟨⟨admitted, unfinished⟩, several⟩, unknown⟩ : ((r.admits f = true ∧
      r.completed.contains f.messageId = false) ∧ f.total ≠ 1) ∧
      r.partials.get? f.messageId = none := by
    simpa [Reassembler.opens, SortedMap.contains] using opens
  have still : r.makeRoom.partials.get? f.messageId = none := by
    refine Option.eq_none_iff_forall_ne_some.2 fun p found => ?_
    rw [among _ p found] at unknown
    cases unknown
  have fits : r.makeRoom.admits f = true := by
    rw [admits, fragments]
    exact admitted
  rw [push, push, fits, admitted, completed, unfinished, still, unknown, makeRoom_of_room room]
  simp [several]

/-- What a sound reassembler does in a step is one of its moves. -/
theorem step_perform (sound : r.Sound) (a : Act) : r.Step ⟨a, r.answer a⟩ (r.perform a) := by
  cases a with
  | purge now => exact .purge
  | push f now =>
    cases opens : r.opens f with
    | false => exact .other opens
    | true =>
      have makes := makesRoom_makeRoom sound.bounded sound.positive
      rw [answer, perform, ← push_makeRoom opens makes]
      exact .opening opens makes

/-- What the running functions do is a run. -/
theorem run_moves (sound : r.Sound) (acts : List Act) :
    Run r (r.moves acts) (r.performAll acts) := by
  -- what was done before is kept general: the steps to come start where it led
  suffices ∀ {past : List Move} {s : Reassembler}, Run r past s →
      Run r (past ++ s.moves acts) (s.performAll acts) from this .start
  induction acts with
  | nil =>
    intro past s run
    rw [moves, List.append_nil]
    exact run
  | cons a acts ih =>
    intro past s run
    rw [moves, List.append_cons]
    exact ih (run.next (step_perform (run.sound sound) a))

/-! ## Where the chunks come from -/

/-- A chunk came in, in a slot of a message with an id and a number of chunks. -/
def CameIn (history : List Move) (id : String) (total : UInt64) (slot : Nat) (chunk : Bytes) :
    Prop :=
  ∃ f now given, ⟨.push f now, given⟩ ∈ history ∧ f.messageId = id ∧ f.total = total ∧
    f.index.toNat = slot + 1 ∧ f.chunk = chunk

/-- A message is made of chunks that came in under its id and number, one for each place, in the
order of the places. -/
def Assembled (history : List Move) (id : String) (total : UInt64) (payload : Bytes) : Prop :=
  ∃ chunks : List Bytes, chunks.length = total.toNat ∧ chunks.flatten = payload ∧
    ∀ slot chunk, chunks[slot]? = some chunk → CameIn history id total slot chunk

/-- Everything that is held of a message came in for it. -/
def Sourced (history : List Move) (r : Reassembler) : Prop :=
  ∀ id p, r.partials.get? id = some p → ∀ slot chunk, p.slots[slot]? = some (some chunk) →
    CameIn history id p.total slot chunk

/-- A new reassembler holds nothing. -/
theorem sourced_new (idle maxFragments maxPending : Nat) :
    Sourced [] (new idle maxFragments maxPending) := by
  intro id p found
  cases found

/-- A chunk that came in has come in later too. -/
theorem CameIn.next {total : UInt64} {slot : Nat} {chunk : Bytes}
    (came : CameIn history id total slot chunk) : CameIn (history ++ [m]) id total slot chunk := by
  obtain ⟨f, now, given, member, rest⟩ := came
  exact ⟨f, now, given, List.mem_append_left _ member, rest⟩

/-- The chunk of a fragment that was just pushed came in. -/
theorem cameIn_last (placed : f.isPlaced = true) :
    CameIn (history ++ [⟨.push f now, given⟩]) f.messageId f.total f.slot f.chunk :=
  ⟨f, now, given, List.mem_append_right _ (List.mem_singleton_self _), rfl, rfl,
    (Fragment.slot_of_isPlaced placed).1, rfl⟩

/-- What a message that a fragment goes to holds came in for it. -/
theorem Goes.sourced {slot : Nat} {chunk : Bytes} (goes : r.Goes f now p)
    (sourced : Sourced history r) (filled : p.slots[slot]? = some (some chunk)) :
    CameIn (history ++ [m]) f.messageId f.total slot chunk := by
  cases goes with
  | held _ found same => exact same ▸ (sourced _ _ found slot chunk filled).next
  | opened =>
    have empty := List.mem_of_getElem? filled
    rw [Partial.begin, List.mem_replicate] at empty
    cases empty.2

/-- Together with its own chunk. -/
theorem Goes.sourced_add {slot : Nat} {chunk : Bytes} (goes : r.Goes f now p)
    (sourced : Sourced history r)
    (filled : (p.add f.slot f.chunk now).slots[slot]? = some (some chunk)) :
    CameIn (history ++ [⟨.push f now, given⟩]) f.messageId f.total slot chunk := by
  rw [Partial.add, List.getElem?_set] at filled
  split at filled
  · rename_i mine
    split at filled
    · rw [← mine, ← Option.some.inj (Option.some.inj filled)]
      exact cameIn_last goes.placed
    · cases filled
  · exact goes.sourced sourced filled

/-- A message whose chunks came in may be put among the others. -/
theorem Sourced.insert {p' : Partial} (sourced : Sourced history r)
    (filled : ∀ slot chunk, p'.slots[slot]? = some (some chunk) →
      CameIn history id p'.total slot chunk) :
    Sourced history { r with partials := r.partials.insert id p' } := by
  intro id' q found
  rw [SortedMap.get?_insert] at found
  split at found
  · rename_i mine
    cases found
    exact mine ▸ filled
  · exact sourced id' q found

/-- Whatever a fragment does, what is held of a message came in for it. -/
theorem Received.sourced (received : r.Received f now r' given) (sourced : Sourced history r) :
    Sourced (history ++ [⟨.push f now, given⟩]) r' := by
  have before : Sourced (history ++ [⟨.push f now, given⟩]) r :=
    fun id p found slot chunk filled => (sourced id p found slot chunk filled).next
  cases received with
  | passed => exact before
  | single => exact before
  | @touched p goes =>
    refine before.insert fun slot chunk filled => ?_
    show CameIn _ _ p.total _ _
    rw [goes.total]
    exact goes.sourced sourced filled
  | @added p goes =>
    refine before.insert fun slot chunk filled => ?_
    show CameIn _ _ p.total _ _
    rw [goes.total]
    exact goes.sourced_add sourced filled
  | completed =>
    intro id q found
    rw [SortedMap.get?_erase] at found
    split at found
    · cases found
    · exact before id q found

/-- After every step what is held of a message came in for it. -/
theorem Step.sourced (step : r.Step m r') (sourced : Sourced history r) :
    Sourced (history ++ [m]) r' := by
  obtain ⟨f | now, given⟩ := m
  · obtain ⟨base, rfl | ⟨-, makes⟩, received⟩ := step.received
    · exact received.sourced sourced
    · obtain ⟨-, -, -, among⟩ := makes.frame
      exact received.sourced fun id p found => sourced id p (among id p found)
  · cases step
    intro id p found slot chunk filled
    rw [Reassembler.purge, SortedMap.get?_filter] at found
    exact (sourced id p (Option.filter_eq_some_iff.1 found).1 slot chunk filled).next

/-- Along a run what is held of a message came in for it. -/
theorem Run.sourced (run : Run start history r) (sourced : Sourced [] start) :
    Sourced history r := by
  induction run with
  | start => exact sourced
  | next _ step ih => exact step.sourced ih

/-- A message that is given out is made of chunks that came in, the last one just now. -/
theorem Received.assembled {payload : Bytes} (received : r.Received f now r' (some payload))
    (sound : r.Sound) (sourced : Sourced history r) :
    Assembled (history ++ [⟨.push f now, some payload⟩]) f.messageId f.total payload := by
  generalize answered : some payload = given at received ⊢
  cases received with
  | passed => cases answered
  | touched => cases answered
  | added => cases answered
  | single _ one first =>
    cases answered
    refine ⟨[f.chunk], by rw [one]; rfl, List.append_nil _, fun slot chunk there => ?_⟩
    obtain ⟨rfl, rfl⟩ : slot = 0 ∧ f.chunk = chunk := by
      simpa [List.getElem?_singleton] using there
    exact ⟨f, now, _, List.mem_append_right _ (List.mem_singleton_self _), rfl, rfl,
      by rw [first]; rfl, rfl⟩
  | completed goes _ empty full =>
    cases answered
    obtain ⟨chunks, length, slots, content⟩ := (goes.sound sound).full empty full
    refine ⟨chunks, goes.total ▸ length, content.symm, fun slot chunk there => ?_⟩
    refine goes.sourced_add sourced ?_
    rw [slots, List.getElem?_map, there, Option.map_some]

/-! ## What is remembered -/

/-- A move gave out a message with an id at a time. -/
def Move.Gives (id : String) (at' : Nat) (m : Move) : Prop :=
  ∃ f payload, m = ⟨.push f at', some payload⟩ ∧ f.messageId = id

/-- A purge that comes the idle time after a time at the earliest. -/
def Move.Forgets (idle at' : Nat) (m : Move) : Prop :=
  ∃ now, m = ⟨.purge now, none⟩ ∧ at' + idle ≤ now

/-- A message that was given out is known until a late purge. -/
def Remembers (history : List Move) (r : Reassembler) : Prop :=
  ∀ id at' m, Since (·.Gives id at') (·.Forgets r.idle at') history m →
    r.completed.get? id = some at'

/-- Whether a message is given out or not is all that matters. -/
theorem Received.completed_cases (received : r.Received f now r' given) :
    given = none ∧ r'.completed = r.completed ∨
      ∃ payload, given = some payload ∧ r.completed.get? f.messageId = none ∧
        r'.completed = r.completed.insert f.messageId now := by
  cases received with
  | passed => exact .inl ⟨rfl, rfl⟩
  | single fresh => exact .inr ⟨_, rfl, fresh, rfl⟩
  | touched => exact .inl ⟨rfl, rfl⟩
  | added => exact .inl ⟨rfl, rfl⟩
  | completed _ fresh => exact .inr ⟨_, rfl, fresh, rfl⟩

/-- A fragment gives out nothing and completes nothing, or gives out a message that was not complete
and is noted as such. -/
theorem Step.completed_cases (step : r.Step ⟨.push f now, given⟩ r') :
    given = none ∧ r'.completed = r.completed ∨
      ∃ payload, given = some payload ∧ r.completed.get? f.messageId = none ∧
        r'.completed = r.completed.insert f.messageId now := by
  obtain ⟨base, rfl | ⟨-, makes⟩, received⟩ := step.received
  · exact received.completed_cases
  · obtain ⟨-, completed, -, -⟩ := makes.frame
    exact completed ▸ received.completed_cases

/-- No step changes the idle time. -/
theorem Step.idle (step : r.Step m r') : r'.idle = r.idle :=
  (limits_eq_iff.1 step.limits).1

/-- A step in the order of time leaves a message that was given out known until a late purge. -/
theorem Step.remembers (step : r.Step m r') (remembers : Remembers history r)
    (ordered : ∀ earlier ∈ history, earlier.time ≤ m.time) : Remembers (history ++ [m]) r' := by
  intro id at' given since
  rw [step.idle] at since
  rcases since_concat.1 since with ⟨⟨f, payload, rfl, rfl⟩, -⟩ | ⟨lasts, before⟩
  · rcases step.completed_cases with ⟨none, -⟩ | ⟨_, -, -, completed⟩
    · cases none
    · rw [completed, SortedMap.get?_insert_self]
  -- a remembered id is passed over, so its time stays unless a purge takes it
  · have known := remembers id at' given before
    obtain ⟨f | now, answered⟩ := m
    · rcases step.completed_cases with ⟨-, completed⟩ | ⟨_, -, fresh, completed⟩
      · rw [completed, known]
      · have other : id ≠ f.messageId := fun same => by
          rw [same, fresh] at known
          cases known
        rw [completed, SortedMap.get?_insert_of_ne _ _ other, known]
    · cases step
      have later : at' ≤ now := by
        obtain ⟨past, after, rfl, ⟨g, payload, rfl, -⟩, -⟩ := before
        exact ordered _ (List.mem_append_right _ (List.mem_cons_self ..))
      have soon : now - at' < r.idle := by
        have early : ¬at' + r.idle ≤ now := fun late => lasts ⟨now, rfl, late⟩
        omega
      simp [Reassembler.purge, SortedMap.get?_filter, known, soon]

/-- Along a run in the order of time a message that was given out is known until a late purge. -/
theorem Run.remembers (run : Run start history r)
    (ordered : history.Pairwise fun a b => a.time ≤ b.time) : Remembers history r := by
  induction run with
  | start => exact fun _ _ _ since => absurd since not_since_nil
  | next _ step ih =>
    obtain ⟨past, -, last⟩ := List.pairwise_append.1 ordered
    exact step.remembers (ih past) fun earlier member =>
      last earlier member _ (List.mem_singleton_self _)

/-! ## What becomes of an incomplete message -/

/-- What a step can make of an incomplete message: it is left as it was, hears of a fragment and
loses no chunk, is given out, is purged after the idle time, or goes from a full buffer to make
room for a new message, when no other one was silent longer. -/
inductive Fate (r : Reassembler) (id : String) (p : Partial) : Move → Reassembler → Prop
  | kept {m : Move} {r' : Reassembler} (held : r'.partials.get? id = some p) : Fate r id p m r'
  | grew {f : Fragment} {now : Nat} {r' : Reassembler} {p' : Partial} (mine : f.messageId = id)
    (ofTotal : f.total = p.total) (held : r'.partials.get? id = some p')
    (total : p'.total = p.total) (seen : p'.lastSeen = now)
    (chunks : ∀ (slot : Nat) chunk, p.slots[slot]? = some (some chunk) →
      p'.slots[slot]? = some (some chunk)) : Fate r id p ⟨.push f now, none⟩ r'
  | given {f : Fragment} {now : Nat} {payload : Bytes} {r' : Reassembler}
    (mine : f.messageId = id) (ofTotal : f.total = p.total) :
    Fate r id p ⟨.push f now, some payload⟩ r'
  | purged {now : Nat} {r' : Reassembler} (silent : r.idle ≤ now - p.lastSeen) :
    Fate r id p ⟨.purge now, none⟩ r'
  | evicted {f : Fragment} {now : Nat} {given : Option Bytes} {r' : Reassembler}
    (other : f.messageId ≠ id) (opens : r.opens f = true) (full : r.maxPending ≤ r.pending)
    (stalest : ∀ id' q, r.partials.get? id' = some q → p.lastSeen ≤ q.lastSeen) :
    Fate r id p ⟨.push f now, given⟩ r'

/-- Where there is room, a fragment has an effect on its own message only. -/
theorem Received.fate (received : base.Received f now r' given)
    (held : base.partials.get? id = some p) : Fate r id p ⟨.push f now, given⟩ r' := by
  by_cases mine : f.messageId = id
  · subst mine
    cases received with
    | passed => exact .kept held
    | single => exact .kept held
    | touched goes =>
      obtain rfl := goes.eq_of_held held
      exact .grew rfl goes.total.symm (SortedMap.get?_insert_self ..) rfl rfl
        fun _ _ filled => filled
    | added goes empty =>
      obtain rfl := goes.eq_of_held held
      refine .grew rfl goes.total.symm (SortedMap.get?_insert_self ..) rfl rfl
        fun slot chunk filled => ?_
      have other : f.slot ≠ slot := fun same => by
        rw [same, filled] at empty
        cases empty
      rw [Partial.add, List.getElem?_set, if_neg other, filled]
    | completed goes =>
      obtain rfl := goes.eq_of_held held
      exact .given rfl goes.total.symm
  · exact .kept ((received.of_ne (Ne.symm mine)).1.trans held)

/-- A step makes of an incomplete message one of the things that it can. -/
theorem Step.fate (step : r.Step m r') (bounded : r.pending ≤ r.maxPending)
    (held : r.partials.get? id = some p) : Fate r id p m r' := by
  obtain ⟨f | now, given⟩ := m
  · obtain ⟨base, rfl | ⟨opens, makes⟩, received⟩ := step.received
    · exact received.fate held
    · rcases makes.held_or_stalest bounded held with still | ⟨full, stalest⟩
      · exact received.fate still
      · refine .evicted (fun mine => ?_) opens full stalest
        subst mine
        simp [Reassembler.opens, SortedMap.contains, held] at opens
  · cases step
    by_cases soon : now - p.lastSeen < r.idle
    · exact .kept (by simp [Reassembler.purge, SortedMap.get?_filter, held, soon])
    · exact .purged (Nat.not_lt.1 soon)

/-! ## Whole runs -/

/-- How a reassembler stands up to whatever was pushed into it. -/
structure Withstands (idle maxFragments maxPending : Nat) (history : List Move)
    (r : Reassembler) : Prop where
  settings : r.idle = idle ∧ r.maxFragments = maxFragments ∧ r.maxPending = max maxPending 1
  bounded : r.pending ≤ max maxPending 1
  sound : ∀ id p, r.partials.get? id = some p → p.Sound maxFragments
  /-- A fragment that goes to an incomplete message finds its slot. -/
  indexed : ∀ (f : Fragment) p, f.isPlaced = true → r.partials.get? f.messageId = some p →
    p.total = f.total → f.slot < p.slots.length
  /-- A message is given out again under an id only after a purge that much later. -/
  again : ∀ before f first v between g second w after,
    history = before ++ ⟨.push f first, some v⟩ :: between ++ ⟨.push g second, some w⟩ :: after →
      f.messageId = g.messageId → ∃ purged, ⟨.purge purged, none⟩ ∈ between ∧
        first + idle ≤ purged
  assembled : ∀ before g now w after, history = before ++ ⟨.push g now, some w⟩ :: after →
    Assembled (before ++ [⟨.push g now, some w⟩]) g.messageId g.total w
  fate : ∀ m r', r.Step m r' → ∀ id p, r.partials.get? id = some p → Fate r id p m r'

/-- A message is given out while its id is not remembered. -/
theorem Step.fresh {v : Bytes} (step : r.Step ⟨.push f now, some v⟩ r') :
    r.completed.get? f.messageId = none := by
  rcases step.completed_cases with ⟨none, -⟩ | ⟨_, -, fresh, -⟩
  · cases none
  · exact fresh

/-- Between two messages given out under one id there is a late purge. -/
theorem Run.forgets {before between after : List Move} {g : Fragment} {first second : Nat}
    {v w : Bytes} (run : Run start history r)
    (ordered : history.Pairwise fun a b => a.time ≤ b.time)
    (split : history =
      before ++ ⟨.push f first, some v⟩ :: between ++ ⟨.push g second, some w⟩ :: after)
    (same : f.messageId = g.messageId) :
    ∃ purged, ⟨.purge purged, none⟩ ∈ between ∧ first + start.idle ≤ purged := by
  obtain ⟨s, s', past, step⟩ := run.step_of_split split
  rw [split] at ordered
  have remembers := past.remembers (List.pairwise_append.1 ordered).1
  have idle : s.idle = start.idle := (limits_eq_iff.1 past.limits).1
  refine Classical.byContradiction fun never => ?_
  have since : Since (·.Gives g.messageId first) (·.Forgets s.idle first)
      (before ++ ⟨.push f first, some v⟩ :: between) ⟨.push f first, some v⟩ := by
    refine ⟨before, between, rfl, ⟨f, v, rfl, same⟩, ?_⟩
    rintro _ member ⟨now, rfl, late⟩
    exact never ⟨now, member, idle ▸ late⟩
  have known := remembers _ _ _ since
  rw [step.fresh] at known
  cases known

/-- What is given out in a run is made of chunks that came in by then. -/
theorem Run.assembled {before after : List Move} {v : Bytes} (run : Run start history r)
    (sound : start.Sound) (sourced : Sourced [] start)
    (split : history = before ++ ⟨.push f now, some v⟩ :: after) :
    Assembled (before ++ [⟨.push f now, some v⟩]) f.messageId f.total v := by
  obtain ⟨s, s', past, step⟩ := run.step_of_split split
  obtain ⟨base, rfl | ⟨-, makes⟩, received⟩ := step.received
  · exact received.assembled (past.sound sound) (past.sourced sourced)
  · obtain ⟨-, -, -, among⟩ := makes.frame
    exact received.assembled (makes.sound (past.sound sound))
      fun id p found => past.sourced sourced id p (among id p found)

/-- Whatever is pushed into a reassembler and whenever it is purged, its buffer stays within its
bounds with every counter right, no message is given out twice without a late purge in between,
each one given out is made of chunks under its own id and number, and an incomplete one is lost
only by a purge or as one of the stalest in a full buffer. -/
theorem withstands_run {idle maxFragments maxPending : Nat} {history : List Move}
    {r : Reassembler} (run : Run (new idle maxFragments maxPending) history r)
    (ordered : history.Pairwise fun a b => a.time ≤ b.time) :
    Withstands idle maxFragments maxPending history r := by
  have start := sound_new idle maxFragments maxPending
  have sound := run.sound start
  have settings : r.idle = idle ∧ r.maxFragments = maxFragments ∧
      r.maxPending = max maxPending 1 := limits_eq_iff.1 run.limits
  have bounded := settings.2.2 ▸ sound.bounded
  have each := settings.2.1 ▸ sound.each
  refine ⟨settings, bounded, each, ?_, ?_, ?_, ?_⟩
  · intro f p placed held same
    rw [(each _ p held).sized, same]
    exact (Fragment.slot_of_isPlaced placed).2
  · intro before f first v between g second w after split same
    exact run.forgets ordered split same
  · intro before g now w after split
    exact run.assembled start (sourced_new _ _ _) split
  · intro m r' step id p held
    exact step.fate sound.bounded held

/-- Fragments that contradict each other, have no place or are of too many come in where two
messages have room: the fragments of one go to make room for another, an id is taken a second time
without effect, and once more after a purge. -/
theorem withstands_run_of_forged :
    let acts : List Act :=
      [.push ⟨"a", 1, 2, [1]⟩ 0, .push ⟨"b", 1, 3, [9]⟩ 10, .push ⟨"a", 2, 3, [7]⟩ 20,
        .push ⟨"c", 1, 1, [5]⟩ 30, .push ⟨"c", 1, 1, [6]⟩ 40, .push ⟨"d", 2, 2, [4]⟩ 50,
        .push ⟨"a", 2, 2, [2]⟩ 60, .push ⟨"d", 1, 2, [3]⟩ 70, .push ⟨"e", 4, 3, []⟩ 80,
        .push ⟨"e", 1, 4, []⟩ 90, .purge 130, .push ⟨"c", 1, 1, [8]⟩ 140]
    let r := new 100 3 2
    (r.moves acts).map (·.given) = [none, none, none, some [5], none, none, none, some [3, 4],
        none, none, none, some [8]] ∧
      (r.moves acts).Pairwise (fun a b => a.time ≤ b.time) ∧
      Withstands 100 3 2 (r.moves acts) (r.performAll acts) := by
  intro acts r
  have given : (r.moves acts).map (·.given) = [none, none, none, some [5], none, none, none,
      some [3, 4], none, none, none, some [8]] := by decide +kernel
  have ordered : (r.moves acts).Pairwise (fun a b => a.time ≤ b.time) := by decide +kernel
  exact ⟨given, ordered, withstands_run (run_moves (sound_new ..) acts) ordered⟩

end Reassembler

end ClusterNode
