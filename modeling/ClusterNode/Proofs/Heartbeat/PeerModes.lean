import ClusterNode.Heartbeat.PeerTable
import ClusterNode.Proofs.SortedMap

/-!
# The modes of peers and the events that tell of them

The modes of peers are kept beside their streams and are worked out again only where a stream
may have changed. They always are what the streams say, and whoever puts together the events
that were published knows them: `PeerTable.modes_follow`.

What a move does to a table is said once, in `perform_happens`: either no stream changed in a
way that counts, or the modes are worked out again.
-/

namespace ClusterNode

/-- The changes of a stream's state. -/
inductive PeerState.LeadsTo : PeerState → PeerState → Prop
  | answers : LeadsTo .unknown .alive
  | expires : LeadsTo .alive .stale
  | returns : LeadsTo .stale .alive

/-- A stream that answers comes alive. -/
theorem PeerState.leadsTo_alive {s : PeerState} (other : s ≠ .alive) : LeadsTo s .alive := by
  cases s with
  | unknown => exact .answers
  | alive => exact absurd rfl other
  | stale => exact .returns

namespace PeerTable

variable {t t' : PeerTable} {node : String}

/-! ## Runs -/

/-- What happens to a table at a time. -/
inductive Move where
  | command (now : Nat) (c : PeerCommand)
  | check (now : Nat)
  deriving DecidableEq, Repr

/-- Make a move. -/
def perform (t : PeerTable) : Move → PeerTable × List Publication
  | .command now c => t.obey now c
  | .check now => t.check now

/-- The table after some moves, and all that was told on the way. -/
def performAll (t : PeerTable) : List Move → PeerTable × List Publication
  | [] => (t, [])
  | move :: rest =>
    let (t, told) := t.perform move
    let (t, more) := t.performAll rest
    (t, told ++ more)

/-! ## What streams and modes say -/

/-- The mode of a peer. -/
def mode (t : PeerTable) (node : String) : PeerMode := (t.modes.get? node).getD .full

/-- The state of a stream, unknown if it is not watched. -/
def stateOf (t : PeerTable) (key : StreamKey) : PeerState :=
  ((t.streams.get? key).map (·.state)).getD .unknown

/-- A stream that receives from a peer is alive. -/
def Hears (t : PeerTable) (node : String) : Prop :=
  ∃ key w, t.streams.get? key = some w ∧ key.node = node ∧ w.direction = .receive ∧
    w.state = .alive

/-- Some stream of a peer is watched. -/
def Watches (t : PeerTable) (node : String) : Prop :=
  ∃ key, t.streams.contains key = true ∧ key.node = node

/-- The modes as far as some streams tell. -/
def noteStream (modes : SortedMap String PeerMode) (e : StreamKey × StreamWatch) :
    SortedMap String PeerMode :=
  modes.insert e.1.node <|
    if e.2.direction = .receive ∧ e.2.state = .alive then .patch
    else (modes.get? e.1.node).getD .full

/-- The modes are worked out stream by stream. -/
theorem currentModes_eq : t.currentModes = t.streams.entries.foldl noteStream ∅ := rfl

/-- A stream puts its peer in patch mode if it receives and is alive, and leaves every other peer.
-/
theorem noteStream_patch {modes : SortedMap String PeerMode} {e : StreamKey × StreamWatch} :
    ((noteStream modes e).get? node).getD .full = .patch ↔
      (modes.get? node).getD .full = .patch ∨
        e.1.node = node ∧ e.2.direction = .receive ∧ e.2.state = .alive := by
  rw [noteStream, SortedMap.get?_insert]
  by_cases mine : e.1.node = node
  · subst mine
    by_cases heard : e.2.direction = .receive ∧ e.2.state = .alive
    · simp [heard]
    · simp [heard]
  · have other : node ≠ e.1.node := Ne.symm mine
    simp [mine, other]

/-- Some streams put in patch mode the peers of which one receives and is alive. -/
theorem foldl_noteStream_patch (entries : List (StreamKey × StreamWatch))
    (modes : SortedMap String PeerMode) :
    ((entries.foldl noteStream modes).get? node).getD .full = .patch ↔
      (modes.get? node).getD .full = .patch ∨
        ∃ e ∈ entries, e.1.node = node ∧ e.2.direction = .receive ∧ e.2.state = .alive := by
  induction entries generalizing modes with
  | nil => simp
  | cons e entries ih =>
    rw [List.foldl_cons, ih, noteStream_patch]
    simp only [List.mem_cons, exists_eq_or_imp, or_assoc]

/-- Some streams list the peers that they are of. -/
theorem foldl_noteStream_contains (entries : List (StreamKey × StreamWatch))
    (modes : SortedMap String PeerMode) :
    (entries.foldl noteStream modes).contains node = true ↔
      modes.contains node = true ∨ ∃ e ∈ entries, e.1.node = node := by
  induction entries generalizing modes with
  | nil => simp
  | cons e entries ih =>
    rw [List.foldl_cons, ih, noteStream, SortedMap.contains_insert]
    simp only [Bool.or_eq_true, decide_eq_true_eq, List.mem_cons, exists_eq_or_imp]
    rw [eq_comm, or_comm (a := e.1.node = node), or_assoc]

/-- The modes that are worked out are patch where a receiving stream is alive. -/
theorem currentModes_patch :
    (t.currentModes.get? node).getD .full = .patch ↔ t.Hears node := by
  rw [currentModes_eq, foldl_noteStream_patch, SortedMap.get?_empty]
  constructor
  · rintro (none | ⟨e, member, mine, heard⟩)
    · cases none
    · exact ⟨e.1, e.2, SortedMap.get?_eq_some_iff.2 member, mine, heard⟩
  · rintro ⟨key, w, found, mine, heard⟩
    exact .inr ⟨(key, w), SortedMap.get?_eq_some_iff.1 found, mine, heard⟩

/-- Peers without a watched stream have no mode that is worked out. -/
theorem currentModes_contains : t.currentModes.contains node = true ↔ t.Watches node := by
  rw [currentModes_eq, foldl_noteStream_contains]
  constructor
  · rintro (none | ⟨e, member, mine⟩)
    · cases none
    · exact ⟨e.1, SortedMap.contains_iff.2 ⟨e.2, SortedMap.get?_eq_some_iff.2 member⟩, mine⟩
  · rintro ⟨key, found, mine⟩
    obtain ⟨w, found⟩ := SortedMap.contains_iff.1 found
    exact .inr ⟨(key, w), SortedMap.get?_eq_some_iff.1 found, mine⟩

/-! ## Events of modes -/

/-- The modes that a listener knows after an event. -/
def heedMode (modes : String → PeerMode) (p : Publication) : String → PeerMode :=
  match p.event with
  | .modeUpdated node _ after _ => fun n => if n = node then after else modes n
  | _ => modes

/-- The modes that a listener knows who took every peer to be in full mode. -/
def replay (told : List Publication) : String → PeerMode := told.foldl heedMode fun _ => .full

/-- The peer whose mode an event tells of. -/
def modeNode? (p : Publication) : Option String :=
  match p.event with
  | .modeUpdated node .. => some node
  | _ => none

/-- An event is told of a peer exactly if its mode changed. -/
theorem modeEvent_eq_some {before after : SortedMap String PeerMode} {p : Publication} :
    modeEvent before after node = some p ↔
      (before.get? node).getD .full ≠ (after.get? node).getD .full ∧
        p = .ofNode (.modeUpdated node ((before.get? node).getD .full)
          ((after.get? node).getD .full) (joined after)) node := by
  simp only [modeEvent]
  split
  · rename_i same
    simp [same]
  · rename_i differ
    simp [differ, eq_comm]

/-- The peers in patch mode are listed in order. -/
theorem joined_pairwise (modes : SortedMap String PeerMode) :
    (joined modes).Pairwise fun a b => compare a b = .lt :=
  List.pairwise_map.2 (modes.sorted.sublist List.filter_sublist)

/-- The list of an event has the peers in patch mode. -/
theorem mem_joined {modes : SortedMap String PeerMode} :
    node ∈ joined modes ↔ (modes.get? node).getD .full = .patch := by
  simp only [joined, List.mem_map, List.mem_filter, beq_iff_eq]
  constructor
  · rintro ⟨⟨n, mode⟩, ⟨member, patch⟩, rfl⟩
    rw [SortedMap.get?_eq_some_iff.2 member]
    exact patch
  · intro patch
    cases found : modes.get? node with
    | none => rw [found] at patch; cases patch
    | some mode =>
      rw [found] at patch
      exact ⟨(node, mode), ⟨SortedMap.get?_eq_some_iff.1 found, patch⟩, rfl⟩

/-- A listener that knew the modes of some peers knows them after the events about these. -/
theorem foldl_heedMode {before after : SortedMap String PeerMode} {nodes : List String}
    (distinct : nodes.Nodup) {modes : String → PeerMode}
    (known : ∀ n ∈ nodes, modes n = (before.get? n).getD .full) :
    (nodes.filterMap (modeEvent before after)).foldl heedMode modes node =
      if node ∈ nodes then (after.get? node).getD .full else modes node := by
  induction nodes generalizing modes with
  | nil => rfl
  | cons n nodes ih =>
    obtain ⟨new, distinct⟩ := List.nodup_cons.1 distinct
    have first := known n (List.mem_cons_self ..)
    have others := fun m member => known m (List.mem_cons_of_mem _ member)
    cases event : modeEvent before after n with
    | none =>
      have same : (before.get? n).getD .full = (after.get? n).getD .full := by
        simpa [modeEvent] using event
      rw [List.filterMap_cons_none event, ih distinct others]
      by_cases mine : node = n
      · subst mine
        rw [if_neg new, if_pos (List.mem_cons_self ..), first, same]
      · simp [mine]
    | some p =>
      obtain ⟨-, rfl⟩ := modeEvent_eq_some.1 event
      have untouched : ∀ m ∈ nodes, m ≠ n := fun m member same => new (same ▸ member)
      rw [List.filterMap_cons_some event, List.foldl_cons, ih distinct fun m member => by
        simpa [heedMode, Publication.ofNode, untouched m member] using others m member]
      by_cases mine : node = n
      · subst mine
        rw [if_neg new, if_pos (List.mem_cons_self ..)]
        exact if_pos rfl
      · simp [heedMode, Publication.ofNode, mine]

/-- Each peer has one event at most. -/
theorem modeNode?_sublist (before after : SortedMap String PeerMode) (nodes : List String) :
    ((nodes.filterMap (modeEvent before after)).filterMap modeNode?).Sublist nodes := by
  induction nodes with
  | nil => exact .slnil
  | cons n nodes ih =>
    cases event : modeEvent before after n with
    | none =>
      rw [List.filterMap_cons_none event]
      exact ih.cons n
    | some p =>
      obtain ⟨-, rfl⟩ := modeEvent_eq_some.1 event
      rw [List.filterMap_cons_some event]
      exact ih.cons_cons n

/-! ## Working out the modes -/

/-- An event of a mode: it tells the mode before and after, and who is in patch mode then. -/
def TellsMode (t t' : PeerTable) (p : Publication) : Prop :=
  ∃ node joined, p = .ofNode (.modeUpdated node (t.mode node) (t'.mode node) joined) node ∧
    t.mode node ≠ t'.mode node ∧ joined.Pairwise (fun a b => compare a b = .lt) ∧
    ∀ n, n ∈ joined ↔ t'.mode n = .patch

/-- Working out the modes puts in patch mode the peers of which a live stream receives. -/
theorem refresh_mode : t.refresh.1.mode node = .patch ↔ t.Hears node := currentModes_patch

/-- What is told when the modes are worked out are events of modes. -/
theorem refresh_tells {p : Publication} (told : p ∈ t.refresh.2) :
    TellsMode t t.refresh.1 p := by
  obtain ⟨node, -, event⟩ := List.mem_filterMap.1 told
  obtain ⟨differ, rfl⟩ := modeEvent_eq_some.1 event
  exact ⟨node, joined t.currentModes, rfl, differ, joined_pairwise _, fun _ => mem_joined⟩

/-- Working out the modes tells of every peer once at most. -/
theorem refresh_once : (t.refresh.2.filterMap modeNode?).Nodup :=
  (SortedMap.nodup_keys _).sublist (modeNode?_sublist _ _ _)

/-- A listener that knew the modes knows those that were worked out. -/
theorem refresh_heeded : t.refresh.2.foldl heedMode t.mode = t.refresh.1.mode := by
  funext node
  refine (foldl_heedMode (SortedMap.nodup_keys _) fun _ _ => rfl).trans ?_
  split
  · rfl
  · rename_i absent
    -- a peer that is not asked about has no mode, neither before nor after
    rw [SortedMap.mem_keys_iff_contains, SortedMap.contains, SortedMap.get?_foldl_keys,
      SortedMap.get?_mapValues] at absent
    split at absent
    · exact absurd rfl absent
    · rename_i after
      have before : t.modes.get? node = none := by simpa using absent
      have after : t.currentModes.get? node = none := by
        simpa [SortedMap.contains] using after
      show t.mode node = (t.currentModes.get? node).getD .full
      rw [mode, before, after]

/-! ## Moves -/

/-- An event of a stream: it tells the state before and after. -/
def TellsStream (t t' : PeerTable) (p : Publication) : Prop :=
  ∃ key before after, p = streamEvent key before after ∧ t.stateOf key = before ∧
    t'.stateOf key = after ∧ before.LeadsTo after

/-- What a move may do: leave alone what the streams say of their peers, or change streams,
tell of it and work out the modes again. -/
inductive Happens (t : PeerTable) : PeerTable → List Publication → Prop
  | quiet {streams : SortedMap StreamKey StreamWatch}
      (hears : ∀ node, { t with streams }.Hears node ↔ t.Hears node)
      (watches : ∀ node, { t with streams }.Watches node ↔ t.Watches node) :
      Happens t { t with streams } []
  | refreshes {streams : SortedMap StreamKey StreamWatch} (told : List Publication)
      (tells : ∀ p ∈ told, TellsStream t { t with streams } p)
      (foreign : ∀ node, { t with streams }.Watches node → t.Watches node ∨ node ≠ t.localhost) :
      Happens t { t with streams }.refresh.1 (told ++ { t with streams }.refresh.2)

/-- Nothing may happen. -/
theorem happens_nothing : Happens t t [] := .quiet (fun _ => .rfl) fun _ => .rfl

variable {key : StreamKey} {direction : Direction} {now : Nat}

/-- A stream that is put adds its peer to those that are watched. -/
theorem watches_insert {w : StreamWatch} :
    { t with streams := t.streams.insert key w }.Watches node ↔
      t.Watches node ∨ key.node = node := by
  simp only [Watches, SortedMap.contains_insert, Bool.or_eq_true, decide_eq_true_eq]
  constructor
  · rintro ⟨k, rfl | old, mine⟩
    · exact .inr mine
    · exact .inl ⟨k, old, mine⟩
  · rintro (⟨k, old, mine⟩ | mine)
    · exact ⟨k, .inr old, mine⟩
    · exact ⟨key, .inl rfl, mine⟩

/-- Registering a stream does what a move may do. -/
theorem register_happens :
    Happens t (t.register key direction).1 (t.register key direction).2 := by
  unfold register
  split
  · exact happens_nothing
  · rename_i other
    refine .refreshes [] (List.forall_mem_nil _) fun node watched => ?_
    rcases watches_insert.1 watched with old | rfl
    · exact .inl old
    · exact .inr other

/-- Unregistering a driver does what a move may do. -/
theorem unregister_happens (id : String) :
    Happens t (t.unregister id).1 (t.unregister id).2 := by
  refine .refreshes [] (List.forall_mem_nil _) fun node => ?_
  rintro ⟨key, kept, mine⟩
  obtain ⟨w, found⟩ := SortedMap.contains_iff.1 kept
  rw [SortedMap.get?_filter, Option.filter_eq_some_iff] at found
  exact .inl ⟨key, SortedMap.contains_iff.2 ⟨w, found.1⟩, mine⟩

/-- The watch of a stream has its state. -/
theorem state_watch : (t.watch key direction).state = t.stateOf key := by
  unfold watch stateOf
  cases t.streams.get? key <;> rfl

/-- A success does what a move may do. -/
theorem success_happens :
    Happens t (t.success key direction now).1 (t.success key direction now).2 := by
  unfold success
  split
  · exact happens_nothing
  rename_i other
  dsimp only
  split
  · rename_i alive
    -- the stream is watched, or it would be unknown, and only its deadline moves
    have watched : ∃ w, t.streams.get? key = some w ∧ t.watch key direction = w := by
      cases found : t.streams.get? key with
      | none => rw [watch, found] at alive; cases alive
      | some w => exact ⟨w, rfl, by rw [watch, found]; rfl⟩
    obtain ⟨w, found, same⟩ := watched
    rw [same] at alive ⊢
    refine .quiet (fun node => ?_) fun node => ?_
    · constructor
      · rintro ⟨k, v, there, mine, heard⟩
        dsimp only at there
        by_cases this : k = key
        · subst this
          rw [SortedMap.get?_insert_self] at there
          cases there
          exact ⟨k, w, found, mine, heard.1, alive⟩
        · rw [SortedMap.get?_insert_of_ne _ _ this] at there
          exact ⟨k, v, there, mine, heard⟩
      · rintro ⟨k, v, there, mine, heard⟩
        by_cases this : k = key
        · subst this
          cases found.symm.trans there
          exact ⟨k, _, SortedMap.get?_insert_self .., mine, heard.1, rfl⟩
        · exact ⟨k, v, (SortedMap.get?_insert_of_ne _ _ this).trans there, mine, heard⟩
    · rw [watches_insert, or_iff_left_of_imp]
      exact fun mine => ⟨key, SortedMap.contains_iff.2 ⟨w, found⟩, mine⟩
  · rename_i silent
    refine .refreshes [_] (fun p told => ?_) fun node watched => ?_
    · obtain rfl := List.mem_singleton.1 told
      refine ⟨key, _, _, rfl, state_watch.symm, ?_, PeerState.leadsTo_alive silent⟩
      simp only [stateOf, SortedMap.get?_insert_self]
      rfl
    · rcases watches_insert.1 watched with old | rfl
      · exact .inl old
      · exact .inr other

/-- A check does what a move may do. -/
theorem check_happens : Happens t (t.check now).1 (t.check now).2 := by
  unfold check
  dsimp only
  split
  · exact happens_nothing
  · refine .refreshes _ (fun p told => ?_) fun node => ?_
    · obtain ⟨key, late, rfl⟩ := List.mem_map.1 told
      obtain ⟨w, found⟩ := SortedMap.mem_keys_iff.1 late
      rw [SortedMap.get?_filter, Option.filter_eq_some_iff] at found
      obtain ⟨found, overdue⟩ := found
      have alive : w.state = .alive := by
        rw [isOverdue, Bool.and_eq_true, beq_iff_eq] at overdue
        exact overdue.1
      refine ⟨key, _, _, rfl, ?_, ?_, .expires⟩
      · rw [stateOf, found]
        exact alive
      · simp only [stateOf, SortedMap.get?_mapValues, found, Option.map_some, expire, overdue,
          if_true, Option.getD_some]
    · rintro ⟨key, kept, mine⟩
      rw [SortedMap.contains, SortedMap.get?_mapValues, Option.isSome_map] at kept
      exact .inl ⟨key, kept, mine⟩

/-- Every move does what a move may do. -/
theorem perform_happens (t : PeerTable) (move : Move) :
    Happens t (t.perform move).1 (t.perform move).2 := by
  cases move with
  | command now c =>
    cases c with
    | register key direction => exact register_happens
    | unregister id => exact unregister_happens id
    | success key direction => exact success_happens
  | check now => exact check_happens

/-! ## The modes along a run -/

/-- What holds of the table of a node and of all that it told. -/
structure Faithful (localhost : String) (told : List Publication) (t : PeerTable) : Prop where
  named : t.localhost = localhost
  modes : ∀ node, t.mode node = .patch ↔ t.Hears node
  /-- Only peers with a stream are listed. -/
  listed : ∀ node, t.modes.contains node = true → t.Watches node
  foreign : ∀ node, t.Watches node → node ≠ localhost
  replayed : replay told = t.mode

/-- An event of a move: it is about a stream or about a mode. -/
def Tells (t t' : PeerTable) (p : Publication) : Prop := TellsStream t t' p ∨ TellsMode t t' p

variable {localhost : String} {told events : List Publication}

/-- The table of a new node is faithful. -/
theorem Faithful.new (localhost : String) (timeout : Nat) :
    Faithful localhost [] (new localhost timeout) where
  named := rfl
  modes node := by
    constructor
    · intro patch
      cases patch
    · rintro ⟨key, w, found, -⟩
      cases found
  listed node := nofun
  foreign node := by
    rintro ⟨key, found, -⟩
    cases found
  replayed := rfl

/-- Events of streams tell nothing of modes. -/
theorem foldl_heedMode_streams (tells : ∀ p ∈ events, TellsStream t t' p)
    (modes : String → PeerMode) : events.foldl heedMode modes = modes := by
  induction events with
  | nil => rfl
  | cons p events ih =>
    obtain ⟨key, before, after, rfl, -⟩ := tells p (List.mem_cons_self ..)
    exact ih fun q member => tells q (List.mem_cons_of_mem _ member)

/-- Events of streams tell of no mode. -/
theorem filterMap_modeNode?_streams (tells : ∀ p ∈ events, TellsStream t t' p) :
    events.filterMap modeNode? = [] := by
  refine List.filterMap_eq_nil_iff.2 fun p member => ?_
  obtain ⟨key, before, after, rfl, -⟩ := tells p member
  rfl

/-- A move keeps the modes and the events in step. -/
theorem Faithful.happens (faithful : Faithful localhost told t) (happens : Happens t t' events) :
    Faithful localhost (told ++ events) t' := by
  cases happens with
  | quiet hears watches =>
    rw [List.append_nil]
    exact {
      named := faithful.named
      modes := fun node => (faithful.modes node).trans (hears node).symm
      listed := fun node kept => (watches node).2 (faithful.listed node kept)
      foreign := fun node watched => faithful.foreign node ((watches node).1 watched)
      replayed := faithful.replayed }
  | @refreshes streams events tells foreign =>
    have worked := refresh_heeded (t := { t with streams })
    exact {
      named := faithful.named
      modes := fun node => refresh_mode
      listed := fun node => currentModes_contains.1
      foreign := fun node watched => by
        rcases foreign node watched with old | other
        · exact faithful.foreign node old
        · exact faithful.named ▸ other
      replayed := by
        have heard := faithful.replayed
        unfold replay at heard ⊢
        rw [List.foldl_append, List.foldl_append, heard, foldl_heedMode_streams tells]
        exact worked }

/-- Every event of a move tells of a stream or of a mode, and no mode is told twice. -/
theorem Happens.tells (happens : Happens t t' events) :
    (∀ p ∈ events, Tells t t' p) ∧ (events.filterMap modeNode?).Nodup := by
  cases happens with
  | quiet => exact ⟨List.forall_mem_nil _, .nil⟩
  | refreshes events tells =>
    refine ⟨fun p member => ?_, ?_⟩
    · rcases List.mem_append.1 member with stream | mode
      · exact .inl (tells p stream)
      · exact .inr (refresh_tells mode)
    · rw [List.filterMap_append, filterMap_modeNode?_streams tells, List.nil_append]
      exact refresh_once

/-- Along a run the table is faithful. -/
theorem Faithful.performAll (faithful : Faithful localhost told t) (moves : List Move) :
    Faithful localhost (told ++ (t.performAll moves).2) (t.performAll moves).1 := by
  induction moves generalizing told t with
  | nil => exact (List.append_nil told).symm ▸ faithful
  | cons move rest ih =>
    have later := ih (faithful.happens (perform_happens t move))
    rwa [List.append_assoc] at later

/-- After every move of a run a peer is in patch mode exactly while a stream that receives from it
is alive. The events so far tell the modes, and each event of the move tells a change that it
made: of a stream that was heard of or fell silent, or of a mode, once at most for each peer and
with all the peers that are in patch mode then. Of the node itself nothing is kept or told. -/
theorem modes_follow (localhost : String) (timeout : Nat) (past : List Move) (move : Move) :
    let (t, told) := (new localhost timeout).performAll past
    let (t', events) := t.perform move
    (∀ node, t'.mode node = .patch ↔ t'.Hears node) ∧
    (¬t'.Watches localhost ∧ t'.modes.contains localhost = false) ∧
    replay (told ++ events) = t'.mode ∧
    (∀ p ∈ events, Tells t t' p) ∧
    (events.filterMap modeNode?).Nodup := by
  dsimp only
  have happens := perform_happens ((new localhost timeout).performAll past).1 move
  have before := (Faithful.new localhost timeout).performAll past
  have faithful := before.happens happens
  obtain ⟨tells, once⟩ := happens.tells
  have unwatched : ¬_ := fun watched => faithful.foreign localhost watched rfl
  have unlisted := Bool.eq_false_iff.2 fun kept => unwatched (faithful.listed localhost kept)
  exact ⟨faithful.modes, ⟨unwatched, unlisted⟩, faithful.replayed, tells, once⟩

end PeerTable

end ClusterNode
