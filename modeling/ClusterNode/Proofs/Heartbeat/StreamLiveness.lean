import ClusterNode.Proofs.Heartbeat.PeerModes
import ClusterNode.Proofs.Since

/-!
# A stream is alive while its latest success is recent

The table of peers keeps a deadline and a state for each stream and moves them forward with every
command. `Recalled` says what they have to do with the history: the deadline belongs to the latest
success since the driver was last unregistered, and a stream is stale only if some check came after
that deadline. Every move keeps this, so that a check, made no earlier than all that came before,
leaves each watched stream in the state that its latest success alone decides:
`liveness_is_recency`.
-/

namespace ClusterNode.PeerTable

namespace Move

/-- When a move is made. -/
def time : Move → Nat
  | .command now _ => now
  | .check now => now

/-- The move begins to watch a stream. -/
def Registers (key : StreamKey) (m : Move) : Prop :=
  ∃ now direction, m = .command now (.register key direction)

/-- The move records a success on a stream. -/
def Answers (key : StreamKey) (m : Move) : Prop :=
  ∃ now direction, m = .command now (.success key direction)

/-- The move unregisters the driver of a stream. -/
def Forgets (key : StreamKey) (m : Move) : Prop :=
  ∃ now, m = .command now (.unregister key.id)

end Move

/-! ## Histories -/

section

variable {moves : List Move} {m x : Move} {key : StreamKey}

/-- A stream was registered or answered, and its driver was not unregistered since. -/
def Followed (key : StreamKey) (moves : List Move) : Prop :=
  ∃ m, Since (fun m => m.Registers key ∨ m.Answers key) (·.Forgets key) moves m

/-- The latest success on a stream since its driver was last unregistered, by its time. -/
def LatestSuccess (key : StreamKey) (moves : List Move) (s : Nat) : Prop :=
  ∃ m, Since (·.Answers key) (fun m => m.Answers key ∨ m.Forgets key) moves m ∧ m.time = s

/-- A stream is followed after one more move if this one registers or answers it, or if it was
followed and is not forgotten. -/
theorem followed_concat :
    Followed key (moves ++ [x]) ↔
      (x.Registers key ∨ x.Answers key) ∨ ¬x.Forgets key ∧ Followed key moves := by
  simp only [Followed, since_concat, exists_or, exists_eq_right, exists_and_left]

/-- The latest success after one more move is that move, or the one before it unless the stream was
forgotten. -/
theorem latestSuccess_concat {s : Nat} :
    LatestSuccess key (moves ++ [x]) s ↔
      x.Answers key ∧ x.time = s ∨
        ¬x.Answers key ∧ ¬x.Forgets key ∧ LatestSuccess key moves s := by
  simp only [LatestSuccess, since_concat]
  grind

/-- A stream that had a success is followed. -/
theorem LatestSuccess.followed {s : Nat} (latest : LatestSuccess key moves s) :
    Followed key moves := by
  obtain ⟨m, ⟨before, after, whole, answers, lasts⟩, -⟩ := latest
  exact ⟨m, before, after, whole, .inr answers, fun later member forgets =>
    lasts later member (.inr forgets)⟩

/-- There is one latest success. -/
theorem LatestSuccess.unique {s s' : Nat} (latest : LatestSuccess key moves s)
    (also : LatestSuccess key moves s') : s = s' := by
  obtain ⟨m, since, rfl⟩ := latest
  obtain ⟨m', also, rfl⟩ := also
  rw [since_unique (fun _ => .inl) since also]

end

/-! ## What a table recalls -/

/-- What a table keeps of one stream, in step with a history. -/
inductive Recalled (timeout : Nat) (moves : List Move) (key : StreamKey) :
    Option StreamWatch → Prop
  | unwatched (new : ¬Followed key moves) : Recalled timeout moves key none
  | unheard {w : StreamWatch} (followed : Followed key moves)
    (never : ∀ s, ¬LatestSuccess key moves s) (unknown : w.state = .unknown) :
    Recalled timeout moves key (some w)
  | heard {w : StreamWatch} {s : Nat} (latest : LatestSuccess key moves s)
    (deadline : w.deadline = some (s + timeout)) (alive : w.state = .alive) :
    Recalled timeout moves key (some w)
  | silent {w : StreamWatch} {s : Nat} (latest : LatestSuccess key moves s)
    (past : ∃ m ∈ moves, s + timeout ≤ m.time) (stale : w.state = .stale) :
    Recalled timeout moves key (some w)

section

variable {timeout now : Nat} {moves : List Move} {key : StreamKey} {w? : Option StreamWatch}
  {w : StreamWatch} {x : Move}

/-- A watched stream is followed. -/
theorem Recalled.followed (recalled : Recalled timeout moves key (some w)) :
    Followed key moves := by
  cases recalled with
  | unheard followed => exact followed
  | heard latest => exact latest.followed
  | silent latest => exact latest.followed

/-- The table has a stream exactly if it is followed. -/
theorem Recalled.isSome_iff (recalled : Recalled timeout moves key w?) :
    w?.isSome ↔ Followed key moves := by
  cases w? with
  | none =>
    cases recalled with
    | unwatched new => simp [new]
  | some w => simp [recalled.followed]

/-- A move that neither answers nor unregisters a stream, and does not begin to watch it, leaves
what is kept of it. -/
theorem Recalled.pass (recalled : Recalled timeout moves key w?)
    (registers : x.Registers key → Followed key moves) (answers : ¬x.Answers key)
    (forgets : ¬x.Forgets key) : Recalled timeout (moves ++ [x]) key w? := by
  have same {s : Nat} : LatestSuccess key (moves ++ [x]) s ↔ LatestSuccess key moves s := by
    simp [latestSuccess_concat, answers, forgets]
  have still : Followed key (moves ++ [x]) ↔ Followed key moves := by
    simp only [followed_concat, answers, forgets, or_false, not_false_iff, true_and]
    exact or_iff_right_of_imp registers
  cases recalled with
  | unwatched new => exact .unwatched (mt still.1 new)
  | unheard followed never unknown =>
    exact .unheard (still.2 followed) (fun s latest => never s (same.1 latest)) unknown
  | heard latest deadline alive => exact .heard (same.2 latest) deadline alive
  | silent latest past stale =>
    obtain ⟨m, member, passed⟩ := past
    exact .silent (same.2 latest) ⟨m, List.mem_append_left _ member, passed⟩ stale

/-- A stream is watched from its registration on, as it was if it was watched already. -/
theorem Recalled.register (recalled : Recalled timeout moves key w?) (direction : Direction) :
    Recalled timeout (moves ++ [.command now (.register key direction)]) key
      (some (w?.getD ⟨direction, .unknown, none⟩)) := by
  cases w? with
  | none =>
    cases recalled with
    | unwatched new =>
      refine .unheard (followed_concat.2 (.inl (.inl ⟨now, direction, rfl⟩)))
        (fun s latest => ?_) rfl
      rcases latestSuccess_concat.1 latest with ⟨⟨_, _, other⟩, _⟩ | ⟨_, _, latest⟩
      · cases other
      · exact new latest.followed
  | some w =>
    refine recalled.pass (fun _ => recalled.followed) ?_ ?_
    · rintro ⟨_, _, other⟩
      cases other
    · rintro ⟨_, other⟩
      cases other

/-- A check leaves what is kept of a stream, or marks that its deadline has passed. -/
theorem Recalled.check (recalled : Recalled timeout moves key w?) :
    Recalled timeout (moves ++ [.check now]) key (w?.map (expire now)) := by
  have passed : Recalled timeout (moves ++ [.check now]) key w? := by
    refine recalled.pass ?_ ?_ ?_
    · rintro ⟨_, _, other⟩
      cases other
    · rintro ⟨_, _, other⟩
      cases other
    · rintro ⟨_, other⟩
      cases other
  cases w? with
  | none => exact passed
  | some w =>
    rw [Option.map_some, expire]
    split
    · rename_i overdue
      cases passed with
      | unheard _ _ unknown => simp [isOverdue, unknown] at overdue
      | silent _ _ stale => simp [isOverdue, stale] at overdue
      | heard latest deadline alive =>
        refine .silent latest ⟨.check now, by simp, ?_⟩ rfl
        simpa [isOverdue, alive, deadline, Move.time] using overdue
    · exact passed

/-- Nothing is left of a stream whose driver is unregistered. -/
theorem Recalled.unregister :
    Recalled timeout (moves ++ [.command now (.unregister key.id)]) key none := by
  refine .unwatched fun followed => ?_
  rcases followed_concat.1 followed with begins | ⟨stays, -⟩
  · simp [Move.Registers, Move.Answers] at begins
  · exact stays ⟨now, rfl⟩

/-- A success is the latest one, and moves the deadline. -/
theorem Recalled.success (direction direction' : Direction) :
    Recalled timeout (moves ++ [.command now (.success key direction)]) key
      (some ⟨direction', .alive, some (now + timeout)⟩) :=
  .heard (latestSuccess_concat.2 (.inl ⟨⟨now, direction, rfl⟩, rfl⟩)) rfl rfl

/-- A check that is made no earlier than the moves before it leaves a stream in the state that
its latest success decides. -/
theorem Recalled.expire (recalled : Recalled timeout moves key (some w))
    (later : ∀ m ∈ moves, m.time ≤ now) :
    (∀ s, ¬LatestSuccess key moves s) ∧ (expire now w).state = .unknown ∨
    ∃ s, LatestSuccess key moves s ∧ (now < s + timeout ∧ (expire now w).state = .alive ∨
      s + timeout ≤ now ∧ (expire now w).state = .stale) := by
  cases recalled with
  | unheard followed never unknown =>
    refine .inl ⟨never, ?_⟩
    simp [PeerTable.expire, isOverdue, unknown]
  | @heard w s latest deadline alive =>
    refine .inr ⟨s, latest, ?_⟩
    by_cases late : s + timeout ≤ now
    · exact .inr ⟨late, by simp [PeerTable.expire, isOverdue, alive, deadline, late]⟩
    · exact .inl ⟨by omega, by simp [PeerTable.expire, isOverdue, alive, deadline, late]⟩
  | @silent w s latest past stale =>
    obtain ⟨m, member, passed⟩ := past
    refine .inr ⟨s, latest, .inr ⟨Nat.le_trans passed (later m member), ?_⟩⟩
    simp [PeerTable.expire, isOverdue, stale]

end

/-! ## Tables along a history -/

variable {t : PeerTable} {key : StreamKey} {now : Nat}

/-- Registering a stream of another node begins to watch it, and leaves the others. -/
theorem get?_register (foreign : key.node ≠ t.localhost) (key' : StreamKey)
    (direction : Direction) :
    (t.register key' direction).1.streams.get? key =
      if key = key' then some (t.watch key direction) else t.streams.get? key := by
  unfold register
  split
  · rename_i own
    have other : key ≠ key' := fun same => foreign (same ▸ own)
    rw [if_neg other]
  · refine (SortedMap.get?_insert ..).trans ?_
    split
    · rename_i same
      rw [same]
    · rfl

/-- Unregistering a driver takes its streams out and leaves the others. -/
theorem get?_unregister (id : String) :
    (t.unregister id).1.streams.get? key = if key.id = id then none else t.streams.get? key := by
  refine (SortedMap.get?_filter ..).trans ?_
  cases t.streams.get? key <;> by_cases same : key.id = id <;> simp [Option.filter, same]

/-- A success sets the deadline of its stream, whether that was alive or not. -/
theorem get?_success (foreign : key.node ≠ t.localhost) (key' : StreamKey)
    (direction : Direction) :
    (t.success key' direction now).1.streams.get? key =
      if key = key' then
        some ⟨(t.watch key direction).direction, .alive, some (now + t.timeout)⟩
      else t.streams.get? key := by
  unfold success
  split
  · rename_i own
    have other : key ≠ key' := fun same => foreign (same ▸ own)
    rw [if_neg other]
  · have set : ((t.streams.insert key' ⟨(t.watch key' direction).direction, .alive,
        some (now + t.timeout)⟩).get? key) = _ := SortedMap.get?_insert ..
    dsimp only
    split
    all_goals
      refine set.trans ?_
      split
      · rename_i same
        rw [same]
      · rfl

/-- A check lets expire every stream that is overdue. -/
theorem get?_check :
    (t.check now).1.streams.get? key = (t.streams.get? key).map (expire now) := by
  unfold check
  dsimp only
  split
  · rename_i none
    cases found : t.streams.get? key with
    | none => rfl
    | some w =>
      have kept : isOverdue now w = false := by
        have absent := SortedMap.get?_filter t.streams (fun _ w => isOverdue now w) key
        rw [SortedMap.isEmpty_iff.1 none, found] at absent
        simpa [Option.filter] using absent
      simp [expire, kept]
  · exact SortedMap.get?_mapValues t.streams (expire now) key

/-- What a table keeps of each stream of another node, in step with a history. -/
structure Recalls (localhost : String) (timeout : Nat) (moves : List Move) (t : PeerTable) :
    Prop where
  named : t.localhost = localhost
  lasting : t.timeout = timeout
  streams : ∀ key, key.node ≠ localhost → Recalled timeout moves key (t.streams.get? key)

variable {localhost : String} {timeout : Nat} {moves : List Move}

/-- A new table keeps nothing. -/
theorem recalls_new : Recalls localhost timeout [] (new localhost timeout) where
  named := rfl
  lasting := rfl
  streams _ _ := .unwatched fun ⟨_, since⟩ => not_since_nil since

/-- Whatever a move does, the name and the timeout of a table stay. -/
theorem Happens.settings {t' : PeerTable} {events : List Publication}
    (happens : Happens t t' events) : t'.localhost = t.localhost ∧ t'.timeout = t.timeout := by
  cases happens <;> exact ⟨rfl, rfl⟩

/-- Every move keeps a table in step with its history. -/
theorem Recalls.perform (recalls : Recalls localhost timeout moves t) (x : Move) :
    Recalls localhost timeout (moves ++ [x]) (t.perform x).1 := by
  obtain ⟨named, lasting⟩ := (perform_happens t x).settings
  refine ⟨named.trans recalls.named, lasting.trans recalls.lasting, fun key foreign => ?_⟩
  have recalled := recalls.streams key foreign
  have foreign' : key.node ≠ t.localhost := recalls.named ▸ foreign
  cases x with
  | check now =>
    rw [PeerTable.perform, get?_check]
    exact recalled.check
  | command now c =>
    cases c with
    | register key' direction =>
      rw [PeerTable.perform, obey, get?_register foreign']
      by_cases same : key = key'
      · subst same
        rw [if_pos rfl]
        exact recalled.register direction
      · rw [if_neg same]
        exact recalled.pass (by simp [Move.Registers, Ne.symm same]) (by simp [Move.Answers])
          (by simp [Move.Forgets])
    | unregister id =>
      rw [PeerTable.perform, obey, get?_unregister]
      by_cases same : key.id = id
      · subst same
        rw [if_pos rfl]
        exact .unregister
      · rw [if_neg same]
        exact recalled.pass (by simp [Move.Registers]) (by simp [Move.Answers])
          (by simp [Move.Forgets, Ne.symm same])
    | success key' direction =>
      rw [PeerTable.perform, obey, get?_success foreign']
      by_cases same : key = key'
      · subst same
        rw [if_pos rfl, recalls.lasting]
        exact .success direction _
      · rw [if_neg same]
        exact recalled.pass (by simp [Move.Registers]) (by simp [Move.Answers, Ne.symm same])
          (by simp [Move.Forgets])

/-- Along a run a table is in step with its history. -/
theorem Recalls.performAll {past : List Move} (recalls : Recalls localhost timeout past t)
    (moves : List Move) :
    Recalls localhost timeout (past ++ moves) (t.performAll moves).1 := by
  induction moves generalizing past t with
  | nil => exact (List.append_nil past).symm ▸ recalls
  | cons x moves ih =>
    have later := ih (recalls.perform x)
    rwa [List.append_assoc] at later

/-! ## The events of a check -/

/-- A stream whose deadline has passed falls silent with a check. -/
theorem stateOf_overdue {w : StreamWatch} (found : t.streams.get? key = some w)
    (overdue : isOverdue now w = true) :
    t.stateOf key = .alive ∧ (t.check now).1.stateOf key = .stale := by
  have alive : w.state = .alive := by
    rw [isOverdue, Bool.and_eq_true, beq_iff_eq] at overdue
    exact overdue.1
  unfold stateOf
  rw [get?_check, found]
  exact ⟨alive, by simp [expire, overdue]⟩

/-- A check changes the state of no other stream. -/
theorem stateOf_check_ne :
    t.stateOf key ≠ (t.check now).1.stateOf key ↔
      ∃ w, t.streams.get? key = some w ∧ isOverdue now w = true := by
  constructor
  · intro changed
    unfold stateOf at changed
    rw [get?_check] at changed
    cases found : t.streams.get? key with
    | none => simp [found] at changed
    | some w =>
      refine ⟨w, rfl, Decidable.byContradiction fun recent => ?_⟩
      simp [found, expire, recent] at changed
  · rintro ⟨w, found, overdue⟩
    obtain ⟨alive, stale⟩ := stateOf_overdue found overdue
    simp [alive, stale]

/-- The streams that are overdue are those whose state a check changes. -/
theorem keys_overdue :
    (t.streams.filter fun _ w => isOverdue now w).keys =
      t.streams.keys.filter fun key => t.stateOf key ≠ (t.check now).1.stateOf key := by
  rw [SortedMap.keys, SortedMap.keys, SortedMap.filter, List.filter_map]
  refine congrArg _ (List.filter_congr fun e member => ?_)
  have found := SortedMap.get?_eq_some_iff.2 member
  rw [Function.comp_apply, Bool.eq_iff_iff, decide_eq_true_iff, stateOf_check_ne, found]
  simp

/-- A check tells of each stream that falls silent, and then of modes only. -/
theorem check_tells (t : PeerTable) (now : Nat) :
    ∃ modes, (t.check now).2 =
        (t.streams.keys.filter fun key => t.stateOf key ≠ (t.check now).1.stateOf key).map
          (streamEvent · .alive .stale) ++ modes ∧
      ∀ p ∈ modes, (modeNode? p).isSome := by
  rw [← keys_overdue, check]
  dsimp only
  split
  · rename_i none
    refine ⟨[], ?_, List.forall_mem_nil _⟩
    rw [SortedMap.isEmpty_iff.1 none]
    rfl
  · refine ⟨_, rfl, fun p member => ?_⟩
    obtain ⟨node, joined, rfl, -⟩ := refresh_tells member
    rfl

/-- After a check each watched stream is in the state that its latest success since its driver was
last unregistered decides: alive if that is more recent than the timeout, stale if it is not, and
unknown if there is none. The check tells of each stream that fell silent with it, and of no other
one. -/
theorem liveness_is_recency (localhost : String) (timeout : Nat) (moves : List Move) (now : Nat)
    (ordered : List.Pairwise (·.time ≤ ·.time) (moves ++ [.check now])) :
    let t := ((new localhost timeout).performAll moves).1
    let t' := (t.check now).1
    (∀ key, t'.streams.contains key = true ↔ key.node ≠ localhost ∧ Followed key moves) ∧
    (∀ key, t'.streams.contains key = true →
      (t'.stateOf key = .alive ↔ ∃ s, LatestSuccess key moves s ∧ now < s + timeout) ∧
      (t'.stateOf key = .stale ↔ ∃ s, LatestSuccess key moves s ∧ s + timeout ≤ now) ∧
      (t'.stateOf key = .unknown ↔ ∀ s, ¬LatestSuccess key moves s)) ∧
    (∀ key, t.stateOf key ≠ t'.stateOf key → t.stateOf key = .alive ∧ t'.stateOf key = .stale) ∧
    ∃ modes, (t.check now).2 =
        (t.streams.keys.filter fun key => t.stateOf key ≠ t'.stateOf key).map
          (streamEvent · .alive .stale) ++ modes ∧
      ∀ p ∈ modes, (modeNode? p).isSome := by
  intro t t'
  have recalls : Recalls localhost timeout moves t := recalls_new.performAll moves
  have faithful := (Faithful.new localhost timeout).performAll moves
  have later : ∀ m ∈ moves, m.time ≤ now := fun m member =>
    (List.pairwise_append.1 ordered).2.2 m member _ (List.mem_singleton_self _)
  have kept (key : StreamKey) : t'.streams.contains key = t.streams.contains key := by
    rw [SortedMap.contains, get?_check, Option.isSome_map]
    rfl
  have foreign (key : StreamKey) (watched : t.streams.contains key = true) :
      key.node ≠ localhost := faithful.foreign key.node ⟨key, watched, rfl⟩
  refine ⟨fun key => ?_, fun key watched => ?_, fun key changed => ?_, check_tells t now⟩
  · rw [kept]
    constructor
    · intro watched
      exact ⟨foreign key watched, (recalls.streams key (foreign key watched)).isSome_iff.1 watched⟩
    · rintro ⟨other, followed⟩
      exact (recalls.streams key other).isSome_iff.2 followed
  · rw [kept] at watched
    obtain ⟨w, found⟩ := SortedMap.contains_iff.1 watched
    have recalled := recalls.streams key (foreign key watched)
    have state : t'.stateOf key = (expire now w).state := by
      rw [stateOf, get?_check, found]
      rfl
    rw [found] at recalled
    rw [state]
    rcases recalled.expire later with ⟨never, unknown⟩ | ⟨s, latest, verdict⟩
    · simp [unknown, never]
    · have only (s' : Nat) : LatestSuccess key moves s' ↔ s' = s :=
        ⟨fun also => also.unique latest, fun same => same ▸ latest⟩
      simp only [only, exists_eq_left]
      rcases verdict with ⟨recent, alive⟩ | ⟨late, stale⟩
      · simp [alive, recent]
      · simp [stale, late]
  · obtain ⟨w, found, overdue⟩ := stateOf_check_ne.1 changed
    exact stateOf_overdue found overdue

/-- A stream that fell silent and was heard again is alive, one that was last heard long ago is
stale although its peer was heard on another one, and one whose driver was unregistered and came
back is unknown. -/
theorem liveness_is_recency_of_revived :
    let heard (node id : String) (now : Nat) : Move := .command now (.success ⟨node, id⟩ .receive)
    let moves : List Move := [heard "n2" "rx" 0, heard "n3" "rx" 1, heard "n3" "old" 2, .check 10,
      heard "n2" "rx" 12, .command 13 (.unregister "old"),
      .command 14 (.register ⟨"n3", "old"⟩ .receive)]
    let t' := (((new "n1" 10).performAll moves).1.check 20).1
    List.Pairwise (·.time ≤ ·.time) (moves ++ [.check 20]) ∧
      (LatestSuccess ⟨"n2", "rx"⟩ moves 12 ∧ t'.stateOf ⟨"n2", "rx"⟩ = .alive) ∧
      (LatestSuccess ⟨"n3", "rx"⟩ moves 1 ∧ t'.stateOf ⟨"n3", "rx"⟩ = .stale) ∧
      (∀ s, ¬LatestSuccess ⟨"n3", "old"⟩ moves s) ∧ t'.stateOf ⟨"n3", "old"⟩ = .unknown := by
  intro heard moves t'
  have ordered : List.Pairwise (·.time ≤ ·.time) (moves ++ [.check 20]) := by decide
  obtain ⟨-, state, -⟩ := liveness_is_recency "n1" 10 moves 20 ordered
  have revived : LatestSuccess ⟨"n2", "rx"⟩ moves 12 := by
    refine ⟨heard "n2" "rx" 12, ⟨moves.take 4, moves.drop 5, rfl, ⟨12, .receive, rfl⟩, ?_⟩, rfl⟩
    simp [moves, Move.Answers, Move.Forgets]
  have silent : LatestSuccess ⟨"n3", "rx"⟩ moves 1 := by
    refine ⟨heard "n3" "rx" 1, ⟨moves.take 1, moves.drop 2, rfl, ⟨1, .receive, rfl⟩, ?_⟩, rfl⟩
    simp [moves, heard, Move.Answers, Move.Forgets]
  have unknown : t'.stateOf ⟨"n3", "old"⟩ = .unknown := by decide +kernel
  refine ⟨ordered, ⟨revived, ?_⟩, ⟨silent, ?_⟩, ?_, unknown⟩
  · exact (state ⟨"n2", "rx"⟩ (by decide +kernel)).1.2 ⟨12, revived, by decide⟩
  · exact (state ⟨"n3", "rx"⟩ (by decide +kernel)).2.1.2 ⟨1, silent, by decide⟩
  · exact (state ⟨"n3", "old"⟩ (by decide +kernel)).2.2.1 unknown

end ClusterNode.PeerTable
