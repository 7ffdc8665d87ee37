import ClusterNode.Proofs.Heartbeat.Fragments
import ClusterNode.Proofs.Heartbeat.Reception

/-!
# Reassembly in any order

A run of a reassembler is a list of fragments taken and of purges, each at a time. As long
as no more messages are incomplete than there is room for, what happens to other messages
leaves a message alone; and as long as its idle time since the first fragment does not pass,
purges leave it too. `Progress` says what the reassembler then knows of the message, by the
places that came in.

`reassembles_once` says that a message all of whose fragments come in is given out once,
with the fragment that supplied its last missing place.
-/

namespace ClusterNode.Reassembler

/-! ## Runs -/

/-- What a receiver does to its reassembler. -/
inductive Act where
  | push (f : Fragment) (now : Nat)
  | purge (now : Nat)

/-- When a step is made. -/
def Act.time : Act → Nat
  | .push _ now => now
  | .purge now => now

/-- The reassembler after a step. -/
def perform (r : Reassembler) : Act → Reassembler
  | .push f now => (r.push f now).1
  | .purge now => (r.purge now).1

/-- The reassembler after some steps. -/
def performAll (r : Reassembler) (acts : List Act) : Reassembler := acts.foldl perform r

/-- How many messages are incomplete in a step if none is pushed out. -/
def crowd (r : Reassembler) : Act → Nat
  | .push f _ => r.pending + (if r.opens f then 1 else 0)
  | .purge _ => r.pending

/-- No more messages are incomplete at once in some steps than there is room for. -/
def Roomy : Reassembler → List Act → Prop
  | _, [] => True
  | r, a :: acts => r.crowd a ≤ r.maxPending ∧ (r.perform a).Roomy acts

instance decidableRoomy : (r : Reassembler) → (acts : List Act) → Decidable (r.Roomy acts)
  | _, [] => .isTrue trivial
  | r, a :: acts =>
    have := decidableRoomy (r.perform a) acts
    inferInstanceAs (Decidable (_ ∧ _))

/-- The place that a step supplies to a message. -/
def Act.supplies? (id : String) : Act → Option UInt64
  | .push f _ => if f.messageId = id then some f.index else none
  | .purge _ => none

/-- The places that some steps supply to a message, each as often as it comes. -/
def supplied (id : String) (acts : List Act) : List UInt64 := acts.filterMap (Act.supplies? id)

/-- When the first fragment of a message comes. -/
def firstTime? (id : String) (acts : List Act) : Option Nat :=
  (acts.find? fun a => (a.supplies? id).isSome).map Act.time

/-- Every place of a message is among these. -/
def Covers (frags : List Fragment) (places : List UInt64) : Prop :=
  ∀ f ∈ frags, f.index ∈ places

instance (frags : List Fragment) (places : List UInt64) : Decidable (Covers frags places) :=
  inferInstanceAs (Decidable (∀ f ∈ frags, _))

/-- A place was the only one that a message still missed. -/
def LastMissing (frags : List Fragment) (places : List UInt64) (place : UInt64) : Prop :=
  place ∉ places ∧ Covers frags (places ++ [place])

/-! ## Frames -/

variable {r : Reassembler} {id : String} {f : Fragment} {now : Nat}

/-- A fragment that begins a message where nobody is pushed out finds room. -/
theorem room_of_crowd (room : r.crowd (.push f now) ≤ r.maxPending) (opens : r.opens f = true) :
    r.pending < r.maxPending := by
  rwa [crowd, opens, if_pos rfl] at room

/-- A step that pushes nobody out leaves the limits. -/
theorem limits_perform {a : Act} (room : r.crowd a ≤ r.maxPending) :
    (r.perform a).limits = r.limits := by
  cases a with
  | purge => rfl
  | push => exact (received_push (room_of_crowd room)).limits

/-- A message that is not the one whose fragment comes in is left alone. -/
theorem push_of_ne (room : r.crowd (.push f now) ≤ r.maxPending) (other : id ≠ f.messageId) :
    (r.push f now).1.partials.get? id = r.partials.get? id ∧
      (r.push f now).1.completed.get? id = r.completed.get? id :=
  (received_push (room_of_crowd room)).of_ne other

/-! ## Filling a slot -/

/-- A chunk whose slot is filled is passed over. -/
theorem fill_known {p : Partial} {chunk : Bytes} (known : p.slots[f.slot]? = some (some chunk)) :
    r.fill f p now =
      ({ r with partials := r.partials.insert f.messageId { p with lastSeen := now } }, none) := by
  rw [fill, known]

/-- A chunk whose slot is empty is added, and the message given out if it is complete. -/
theorem fill_new {p : Partial} (new : p.slots[f.slot]? = some none) :
    r.fill f p now =
      let p := p.add f.slot f.chunk now
      if p.received < p.total.toNat then
        ({ r with partials := r.partials.insert f.messageId p }, none)
      else
        ({ r with
          partials := r.partials.erase f.messageId
          completed := r.completed.insert f.messageId now }, some p.content) := by
  rw [fill, new]

/-! ## What is known of a message -/

section

variable {payload : Bytes} {frags : List Fragment}

/-- The slots of a message of which some places came in. -/
def slotsOf (frags : List Fragment) (places : List UInt64) : List (Option Bytes) :=
  frags.map fun f => if f.index ∈ places then some f.chunk else none

/-- A message of which some places came in, the last one at a time. -/
def gathered (frags : List Fragment) (places : List UInt64) (seen : Nat) : Partial :=
  ⟨.ofNat frags.length, slotsOf frags places, (slotsOf frags places).countP (·.isSome), seen⟩

variable (cut : IsCut id payload frags) {places : List UInt64} {seen : Nat}
include cut

/-- Of a message of which nothing came in nothing is gathered. -/
theorem gathered_nil : gathered frags [] now = .begin (.ofNat frags.length) now := by
  have none : slotsOf frags [] = List.replicate frags.length none := by
    simp [slotsOf, List.map_const']
  rw [gathered, none, Partial.begin, UInt64.toNat_ofNat_of_lt' cut.small, List.countP_replicate]
  rfl

/-- Every fragment stands in its slot. -/
theorem getElem?_slot (member : f ∈ frags) : frags[f.slot]? = some f := by
  obtain ⟨i, inside, rfl⟩ := List.getElem_of_mem member
  rw [Fragment.slot, cut.index_getElem inside, Nat.add_sub_cancel]
  exact List.getElem?_eq_getElem inside

/-- A slot is filled if its place is one of them. -/
theorem getElem?_slotsOf (member : f ∈ frags) :
    (slotsOf frags places)[f.slot]? = some (if f.index ∈ places then some f.chunk else none) := by
  rw [slotsOf, List.getElem?_map, getElem?_slot cut member, Option.map_some]

/-- A chunk that comes in fills its slot. -/
theorem set_slotsOf (member : f ∈ frags) :
    (slotsOf frags places).set f.slot (some f.chunk) = slotsOf frags (places ++ [f.index]) := by
  refine List.ext_getElem? fun i => ?_
  rw [List.getElem?_set]
  by_cases mine : f.slot = i
  · subst mine
    have inside : f.slot < (slotsOf frags places).length :=
      (List.getElem?_eq_some_iff.1 (getElem?_slotsOf cut member)).1
    rw [if_pos rfl, if_pos inside, getElem?_slotsOf cut member]
    simp
  · rw [if_neg mine, slotsOf, slotsOf, List.getElem?_map, List.getElem?_map]
    cases found : frags[i]? with
    | none => rfl
    | some g =>
      have other : g.index ≠ f.index := by
        intro same
        rw [cut.eq_of_index_eq (List.mem_of_getElem? found) member same] at found
        exact mine (by rw [Fragment.slot, (cut.getElem?_eq_some_iff.1 found).2, Nat.add_sub_cancel])
      simp [other]

/-- One more slot is filled by a chunk that comes in for the first time. -/
theorem add_gathered (member : f ∈ frags) (new : f.index ∉ places) :
    (gathered frags places seen).add f.slot f.chunk now =
      gathered frags (places ++ [f.index]) now := by
  have empty : (slotsOf frags places)[f.slot]? = _ := getElem?_slotsOf cut member
  rw [if_neg new] at empty
  have count := countP_set_some empty f.chunk
  rw [set_slotsOf cut member] at count
  rw [gathered, gathered, Partial.add, set_slotsOf cut member, count]

/-- All slots are filled when their places are all among these. -/
theorem received_lt_iff :
    (gathered frags places seen).received < (gathered frags places seen).total.toNat ↔
      ¬Covers frags places := by
  have total : (UInt64.ofNat frags.length).toNat = frags.length :=
    UInt64.toNat_ofNat_of_lt' cut.small
  have length : (slotsOf frags places).length = frags.length := List.length_map _
  have full : (slotsOf frags places).countP (·.isSome) = frags.length ↔ Covers frags places := by
    rw [← length, List.countP_eq_length]
    simp [slotsOf, Covers]
  have most := List.countP_le_length (p := (·.isSome)) (l := slotsOf frags places)
  rw [← full]
  show (slotsOf frags places).countP (·.isSome) < (UInt64.ofNat frags.length).toNat ↔ _
  rw [total]
  omega

/-- All chunks make up the message. -/
theorem content_gathered (covers : Covers frags places) :
    (gathered frags places seen).content = payload := by
  have filled : slotsOf frags places = frags.map fun f => some f.chunk :=
    List.map_congr_left fun f member => if_pos (covers f member)
  rw [Partial.content, gathered, filled, List.filterMap_map]
  have whole := cut.whole
  rwa [← List.filterMap_eq_map] at whole

end

section

variable {payload : Bytes} {frags : List Fragment} {places : List UInt64} {seen start : Nat}

/-- A chunk that comes in again fills no slot. -/
theorem gathered_of_mem (known : f.index ∈ places) :
    { gathered frags places seen with lastSeen := now } =
      gathered frags (places ++ [f.index]) now := by
  have same : slotsOf frags (places ++ [f.index]) = slotsOf frags places := by
    refine List.map_congr_left fun g _ => ?_
    have among : g.index ∈ places ++ [f.index] ↔ g.index ∈ places := by
      rw [List.mem_append, List.mem_singleton]
      exact or_iff_left_of_imp fun same => same ▸ known
    simp only [among]
  rw [gathered, gathered, same]

/-- What is known of a message when some places of it came in, the first one at a time. -/
inductive Progress (id : String) (frags : List Fragment) (r : Reassembler) (start : Nat) :
    List UInt64 → Prop where
  | unknown (nothing : r.partials.get? id = none) (never : r.completed.get? id = none) :
    Progress id frags r start []
  | partly {places : List UInt64} {seen : Nat} (several : frags.length ≠ 1)
    (missing : ¬Covers frags places)
    (held : r.partials.get? id = some (gathered frags places seen))
    (recent : start ≤ seen) (never : r.completed.get? id = none) : Progress id frags r start places
  | wholly {places : List UInt64} {seen : Nat} (covers : Covers frags places)
    (done : r.completed.get? id = some seen) (recent : start ≤ seen) :
    Progress id frags r start places

/-- Who knows as much of a message has made as much progress. -/
theorem Progress.congr {r' : Reassembler} (progress : Progress id frags r start places)
    (partials : r'.partials.get? id = r.partials.get? id)
    (completed : r'.completed.get? id = r.completed.get? id) :
    Progress id frags r' start places := by
  cases progress with
  | unknown nothing never => exact .unknown (partials.trans nothing) (completed.trans never)
  | partly several missing held recent never =>
    exact .partly several missing (partials.trans held) recent (completed.trans never)
  | wholly covers done recent => exact .wholly covers (completed.trans done) recent

/-- A purge forgets nothing of a message within its idle time. -/
theorem Progress.purge (progress : Progress id frags r start places) (lasting : 0 < r.idle)
    (soon : now < start + r.idle) : Progress id frags (r.purge now).1 start places := by
  have kept {seen : Nat} (recent : start ≤ seen) : now - seen < r.idle := by omega
  cases progress with
  | unknown nothing never =>
    exact .unknown (by simp [Reassembler.purge, SortedMap.get?_filter, nothing])
      (by simp [Reassembler.purge, SortedMap.get?_filter, never])
  | partly several missing held recent never =>
    refine .partly several missing ?_ recent ?_
    · simp [Reassembler.purge, SortedMap.get?_filter, held, gathered, kept recent]
    · simp [Reassembler.purge, SortedMap.get?_filter, never]
  | wholly covers done recent =>
    refine .wholly covers ?_ recent
    simp [Reassembler.purge, SortedMap.get?_filter, done, kept recent]

/-- What a fragment of a message does to what is known of it: one more place is filled,
and the message is given out if that was the last one missing. -/
structure Advances (id : String) (payload : Bytes) (frags : List Fragment) (r : Reassembler)
    (f : Fragment) (start now : Nat) (places : List UInt64) : Prop where
  progress : Progress id frags (r.push f now).1 start (places ++ [f.index])
  whole : LastMissing frags places f.index → (r.push f now).2 = some payload
  none : ¬LastMissing frags places f.index → (r.push f now).2 = none

/-- No places cover no message. -/
theorem not_covers_nil (cut : IsCut id payload frags) : ¬Covers frags [] := fun covers => by
  obtain ⟨f, member⟩ := List.exists_mem_of_ne_nil _ cut.some
  cases covers f member

/-- A message that is covered is covered by more places. -/
theorem Covers.append (covers : Covers frags places) (place : UInt64) :
    Covers frags (places ++ [place]) :=
  fun f member => List.mem_append_left _ (covers f member)

/-- A place that came in before covers nothing new. -/
theorem covers_append_of_mem {place : UInt64} (known : place ∈ places) :
    Covers frags (places ++ [place]) ↔ Covers frags places := by
  simp only [Covers, List.mem_append, List.mem_singleton]
  refine forall_congr' fun f => imp_congr_right fun _ => ⟨fun there => ?_, .inl⟩
  rcases there with there | rfl
  · exact there
  · exact known

variable (cut : IsCut id payload frags)
include cut

/-- A chunk that is added to a message of which some places came in. -/
theorem advances_fill (seen : Nat) (mine : f ∈ frags) (several : frags.length ≠ 1)
    (missing : ¬Covers frags places) (later : start ≤ now)
    (never : r.completed.get? id = none)
    (pushed : r.push f now = r.fill f (gathered frags places seen) now) :
    Advances id payload frags r f start now places := by
  have ofMessage := cut.ofMessage f mine
  have slot : (slotsOf frags places)[f.slot]? = _ := getElem?_slotsOf cut mine
  by_cases known : f.index ∈ places
  · have still : ¬Covers frags (places ++ [f.index]) := by rwa [covers_append_of_mem known]
    rw [if_pos known] at slot
    rw [fill_known slot, ofMessage, gathered_of_mem known] at pushed
    refine ⟨.partly several still ?_ later ?_, ?_, ?_⟩
    · rw [pushed, SortedMap.get?_insert_self]
    · rw [pushed]
      exact never
    · exact fun last => absurd known last.1
    · rw [pushed]
      exact fun _ => rfl
  · rw [if_neg known] at slot
    rw [fill_new slot, ofMessage, add_gathered cut mine known] at pushed
    dsimp only at pushed
    by_cases covers : Covers frags (places ++ [f.index])
    · rw [if_neg (mt (received_lt_iff cut).1 (not_not_intro covers)),
        content_gathered cut covers] at pushed
      refine ⟨.wholly covers ?_ later, ?_, ?_⟩
      · rw [pushed, SortedMap.get?_insert_self]
      · rw [pushed]
        exact fun _ => rfl
      · exact fun not => absurd ⟨known, covers⟩ not
    · rw [if_pos ((received_lt_iff cut).2 covers)] at pushed
      refine ⟨.partly several covers ?_ later ?_, ?_, ?_⟩
      · rw [pushed, SortedMap.get?_insert_self]
      · rw [pushed]
        exact never
      · exact fun last => absurd last.2 covers
      · rw [pushed]
        exact fun _ => rfl

/-- A message of one fragment is given out at once. -/
theorem advances_single (mine : f ∈ frags) (single : frags.length = 1) (later : start ≤ now)
    (pushed : r.push f now =
      ({ r with completed := r.completed.insert id now }, some f.chunk)) :
    Advances id payload frags r f start now [] := by
  obtain ⟨g, rfl⟩ := List.length_eq_one_iff.1 single
  obtain rfl := List.mem_singleton.1 mine
  have covers : Covers [f] ([] ++ [f.index]) := fun g member => by
    rw [List.mem_singleton.1 member]
    exact List.mem_singleton_self _
  refine ⟨.wholly covers ?_ later, fun _ => ?_, fun not => ?_⟩
  · rw [pushed, SortedMap.get?_insert_self]
  · rw [pushed]
    have whole := cut.whole
    simpa using whole
  · exact absurd ⟨List.not_mem_nil, covers⟩ not

/-- A fragment of a message advances it. -/
theorem Progress.push (progress : Progress id frags r start places) (mine : f ∈ frags)
    (fits : frags.length ≤ r.maxFragments) (room : r.crowd (.push f now) ≤ r.maxPending)
    (later : start ≤ now) : Advances id payload frags r f start now places := by
  have ofMessage := cut.ofMessage f mine
  have ofTotal := cut.ofTotal f mine
  have total := cut.total mine
  have admitted : r.admits f = true := by
    rw [admits, cut.placed mine, total]
    simpa using fits
  have one : f.total = 1 ↔ frags.length = 1 := by
    rw [← total, ← UInt64.toNat_inj]
    rfl
  cases progress with
  | unknown nothing never =>
    have fresh : r.completed.contains id = false := by rw [SortedMap.contains, never]; rfl
    by_cases single : frags.length = 1
    · refine advances_single cut mine single later ?_
      rw [Reassembler.push, admitted, ofMessage, fresh, if_neg (by simp), if_pos (one.2 single)]
    · have opening : r.opens f = true := by
        have new : r.partials.contains id = false := by rw [SortedMap.contains, nothing]; rfl
        simp [opens, admitted, ofMessage, fresh, mt one.1 single, new]
      rw [crowd, opening, if_pos rfl] at room
      refine advances_fill cut now mine single (not_covers_nil cut) later never ?_
      rw [Reassembler.push, admitted, ofMessage, fresh, if_neg (by simp), if_neg (mt one.1 single),
        nothing, makeRoom_of_room room, ofTotal, gathered_nil cut]
  | @partly _ seen several missing held recent never =>
    have fresh : r.completed.contains id = false := by rw [SortedMap.contains, never]; rfl
    refine advances_fill cut seen mine several missing later never ?_
    rw [Reassembler.push, admitted, ofMessage, fresh, if_neg (by simp), if_neg (mt one.1 several),
      held]
    exact if_pos ofTotal.symm
  | wholly covers done recent =>
    have known : r.completed.contains id = true := by rw [SortedMap.contains, done]; rfl
    have pushed : r.push f now = (r, none) := by
      rw [Reassembler.push, ofMessage, known, Bool.or_true, if_pos rfl]
    refine ⟨?_, fun last => absurd (covers f mine) last.1, fun _ => by rw [pushed]⟩
    rw [pushed]
    exact .wholly (covers.append _) done recent

/-! ## Steady runs -/

/-- Some steps that do a message no harm: its fragments come in from a time on, nothing
waits longer than the idle time from then, and there is room for every message. -/
structure Steady (r : Reassembler) (id : String) (frags : List Fragment) (start : Nat)
    (acts : List Act) : Prop where
  fits : frags.length ≤ r.maxFragments
  lasting : 0 < r.idle
  own : ∀ f now, .push f now ∈ acts → f.messageId = id → f ∈ frags ∧ start ≤ now
  soon : ∀ a ∈ acts, a.time < start + r.idle
  roomy : r.Roomy acts

omit cut in
/-- What does a message no harm goes on so after the first step. -/
theorem Steady.perform {a : Act} {acts : List Act} (steady : Steady r id frags start (a :: acts)) :
    Steady (r.perform a) id frags start acts := by
  obtain ⟨idle, fragments, pending⟩ := limits_eq_iff.1 (limits_perform steady.roomy.1)
  refine ⟨fragments ▸ steady.fits, idle ▸ steady.lasting, fun f now member => ?_,
    fun b member => ?_, steady.roomy.2⟩
  · exact steady.own f now (List.mem_cons_of_mem _ member)
  · rw [idle]
    exact steady.soon b (List.mem_cons_of_mem _ member)

/-- A step of a steady run fills the place that it supplies, if any. -/
theorem Steady.step {a : Act} {acts : List Act} (steady : Steady r id frags start (a :: acts))
    (progress : Progress id frags r start places) :
    Progress id frags (r.perform a) start (places ++ (a.supplies? id).toList) := by
  cases a with
  | purge now =>
    rw [Act.supplies?, Option.toList_none, List.append_nil]
    exact progress.purge steady.lasting (steady.soon _ (List.mem_cons_self ..))
  | push f now =>
    by_cases mine : f.messageId = id
    · obtain ⟨member, later⟩ := steady.own f now (List.mem_cons_self ..) mine
      rw [Act.supplies?, if_pos mine]
      exact (progress.push cut member steady.fits steady.roomy.1 later).progress
    · obtain ⟨partials, completed⟩ := push_of_ne steady.roomy.1 (Ne.symm mine)
      rw [Act.supplies?, if_neg mine, Option.toList_none, List.append_nil]
      exact progress.congr partials completed

omit cut in
/-- The places of the first step come before those of the others. -/
theorem supplied_cons (a : Act) (acts : List Act) :
    supplied id (a :: acts) = (a.supplies? id).toList ++ supplied id acts := by
  cases here : a.supplies? id <;> simp [supplied, here]

/-- After the first steps of a steady run, the places they supply are filled. -/
theorem Steady.performAll {before after : List Act}
    (steady : Steady r id frags start (before ++ after))
    (progress : Progress id frags r start places) :
    Progress id frags (r.performAll before) start (places ++ supplied id before) ∧
      Steady (r.performAll before) id frags start after := by
  induction before generalizing r places with
  | nil =>
    rw [supplied, List.filterMap_nil, List.append_nil]
    exact ⟨progress, steady⟩
  | cons a before ih =>
    rw [supplied_cons, ← List.append_assoc]
    exact ih steady.perform (steady.step cut progress)

/-- A fragment that comes in during a steady run supplies its place. -/
theorem Steady.advances {before after : List Act}
    (steady : Steady r id frags start (before ++ .push f now :: after))
    (progress : Progress id frags r start []) (mine : f.messageId = id) :
    Advances id payload frags (r.performAll before) f start now (supplied id before) := by
  obtain ⟨progress, rest⟩ := steady.performAll cut progress
  obtain ⟨member, later⟩ := rest.own f now (List.mem_cons_self ..) mine
  exact progress.push cut member rest.fits rest.roomy.1 later

end

/-! ## The last missing place -/

section

variable {frags : List Fragment} {acts : List Act}

/-- If some places are missing and all are supplied in the end, one step supplies the last
missing one. -/
theorem exists_lastMissing {places : List UInt64} (missing : ¬Covers frags places)
    (covers : Covers frags (places ++ supplied id acts)) :
    ∃ before f now after, acts = before ++ .push f now :: after ∧ f.messageId = id ∧
      LastMissing frags (places ++ supplied id before) f.index := by
  induction acts generalizing places with
  | nil => exact absurd (by simpa [supplied] using covers) missing
  | cons a acts ih =>
    rw [supplied_cons, ← List.append_assoc] at covers
    by_cases done : Covers frags (places ++ (a.supplies? id).toList)
    · cases a with
      | purge now => exact absurd (by simpa [Act.supplies?] using done) missing
      | push f now =>
        by_cases mine : f.messageId = id
        · rw [Act.supplies?, if_pos mine] at done
          refine ⟨[], f, now, acts, rfl, mine, ?_⟩
          rw [supplied, List.filterMap_nil, List.append_nil]
          exact ⟨fun known => missing ((covers_append_of_mem known).1 done), done⟩
        · exact absurd (by simpa [Act.supplies?, mine] using done) missing
    · obtain ⟨before, f, now, after, rfl, mine, last⟩ := ih done covers
      refine ⟨a :: before, f, now, after, rfl, mine, ?_⟩
      rwa [supplied_cons, ← List.append_assoc]

/-- Nothing is missing after the last missing place was supplied. -/
theorem not_lastMissing_after {before more : List Act} {g : Fragment} (mine : f.messageId = id)
    (other : g ∈ frags) (last : LastMissing frags (supplied id before) f.index) :
    ¬LastMissing frags (supplied id (before ++ .push f now :: more)) g.index := by
  intro also
  have filled : supplied id (before ++ .push f now :: more) =
      supplied id before ++ [f.index] ++ supplied id more := by
    rw [List.append_assoc, supplied, List.filterMap_append, ← supplied, ← supplied, supplied_cons,
      Act.supplies?, if_pos mine]
    rfl
  rw [filled] at also
  exact also.1 (List.mem_append_left _ (last.2 g other))

/-- Only one step supplies the last missing place. -/
theorem lastMissing_unique {before after before' after' : List Act} {g : Fragment} {now' : Nat}
    (split : before ++ .push f now :: after = before' ++ .push g now' :: after')
    (mine : f.messageId = id) (theirs : g.messageId = id) (member : f ∈ frags) (other : g ∈ frags)
    (last : LastMissing frags (supplied id before) f.index)
    (also : LastMissing frags (supplied id before') g.index) : before' = before := by
  rcases List.append_eq_append_iff.1 split with ⟨more, rfl, rest⟩ | ⟨more, rfl, rest⟩
  · cases more with
    | nil => exact List.append_nil before
    | cons a more =>
      obtain ⟨rfl, _⟩ := List.cons.inj rest
      exact absurd also (not_lastMissing_after mine other last)
  · cases more with
    | nil => exact (List.append_nil before').symm
    | cons a more =>
      obtain ⟨rfl, _⟩ := List.cons.inj rest
      exact absurd last (not_lastMissing_after theirs member also)

end

/-! ## Whole runs -/

/-- A reassembler that does not know a message takes all its fragments, in any order and as
often as they come: no message with its id is another one, no step is as late as the idle
time after its first fragment, and there is room for every incomplete message. -/
structure Receives (r : Reassembler) (id : String) (frags : List Fragment) (acts : List Act) :
    Prop where
  fits : frags.length ≤ r.maxFragments
  nothing : r.partials.get? id = none
  never : r.completed.get? id = none
  ordered : acts.Pairwise fun a b => a.time ≤ b.time
  own : ∀ f now, .push f now ∈ acts → f.messageId = id → f ∈ frags
  every : ∀ f ∈ frags, ∃ now, .push f now ∈ acts
  soon : ∀ start, firstTime? id acts = some start → ∀ a ∈ acts, a.time < start + r.idle
  roomy : r.Roomy acts

section

variable {payload : Bytes} {frags : List Fragment} {acts : List Act}

/-- Fragments that come in supply their places. -/
theorem covers_of_every (cut : IsCut id payload frags)
    (every : ∀ f ∈ frags, ∃ now, .push f now ∈ acts) : Covers frags (supplied id acts) := by
  intro f member
  obtain ⟨now, comes⟩ := every f member
  refine List.mem_filterMap.2 ⟨_, comes, ?_⟩
  rw [Act.supplies?, if_pos (cut.ofMessage f member)]

/-- No fragment of a message comes before the first one. -/
theorem exists_firstTime (ordered : acts.Pairwise fun a b => a.time ≤ b.time)
    (comes : .push f now ∈ acts) (mine : f.messageId = id) :
    ∃ start, firstTime? id acts = some start ∧
      ∀ g later, .push g later ∈ acts → g.messageId = id → start ≤ later := by
  have supplies {g : Fragment} {later : Nat} (theirs : g.messageId = id) :
      ((Act.push g later).supplies? id).isSome = true := by
    rw [Act.supplies?, if_pos theirs]
    rfl
  have some : (acts.find? fun a => (a.supplies? id).isSome).isSome = true :=
    List.find?_isSome.2 ⟨_, comes, supplies mine⟩
  obtain ⟨a, found⟩ := Option.isSome_iff_exists.1 some
  obtain ⟨_, before, after, rfl, none⟩ := List.find?_eq_some_iff_append.1 found
  refine ⟨a.time, by rw [firstTime?, found, Option.map_some], fun g later member theirs => ?_⟩
  rcases List.mem_append.1 member with early | late
  · have not := none _ early
    rw [supplies theirs] at not
    cases not
  · have behind := (List.pairwise_append.1 ordered).2.1
    rcases List.mem_cons.1 late with rfl | late
    · exact Nat.le_refl _
    · exact (List.pairwise_cons.1 behind).1 _ late

/-- A reassembler that takes all fragments of a message is not harmed by the others. -/
theorem Receives.steady (receives : Receives r id frags acts) (cut : IsCut id payload frags) :
    ∃ start, Steady r id frags start acts := by
  obtain ⟨f, member⟩ := List.exists_mem_of_ne_nil _ cut.some
  obtain ⟨now, comes⟩ := receives.every f member
  obtain ⟨start, first, earliest⟩ :=
    exists_firstTime receives.ordered comes (cut.ofMessage f member)
  have soon := receives.soon start first
  have later := earliest f now comes (cut.ofMessage f member)
  have within : now < start + r.idle := soon _ comes
  exact ⟨start, receives.fits, by omega,
    fun g time comes mine => ⟨receives.own g time comes mine, earliest g time comes mine⟩, soon,
    receives.roomy⟩

/-- A message that is cut, and whose fragments a reassembler takes in any order and any
number of times among those of other messages, is given out once: by the fragment that
supplies its last missing place, as it was before it was cut. -/
theorem reassembles_once {datagramSize : Nat} {limit : UInt64}
    (ok : fragment id payload datagramSize limit.toNat = .ok frags)
    (receives : Receives r id frags acts) :
    ∃ before f now after, acts = before ++ .push f now :: after ∧ f.messageId = id ∧
      LastMissing frags (supplied id before) f.index ∧
      ((r.performAll before).push f now).2 = some payload ∧
      ∀ before' g now' after', acts = before' ++ .push g now' :: after' → g.messageId = id →
        before' ≠ before → ((r.performAll before').push g now').2 = none := by
  have cut := isCut_of_fragment ok
  obtain ⟨start, steady⟩ := receives.steady cut
  have unknown : Progress id frags r start [] := .unknown receives.nothing receives.never
  obtain ⟨before, f, now, after, rfl, mine, last⟩ :=
    exists_lastMissing (not_covers_nil cut) (covers_of_every cut receives.every)
  refine ⟨before, f, now, after, rfl, mine, last, (steady.advances cut unknown mine).whole last, ?_⟩
  intro before' g now' after' split theirs other
  rw [split] at steady
  refine (steady.advances cut unknown theirs).none fun also => other ?_
  refine lastMissing_unique split mine theirs ?_ ?_ last also
  · exact receives.own f now (by simp) mine
  · exact receives.own g now' (by simp [split]) theirs

end

/-- The fragments of a message of seven bytes come in last one first and twice, around
fragments of another message, one of which has no place, and a purge. -/
theorem reassembles_scattered :
    let payload : Bytes := [1, 2, 3, 4, 5, 6, 7]
    let first : Fragment := ⟨"m", 1, 3, [1, 2, 3]⟩
    let second : Fragment := ⟨"m", 2, 3, [4, 5, 6]⟩
    let third : Fragment := ⟨"m", 3, 3, [7]⟩
    let acts : List Act :=
      [.push third 10, .push ⟨"k", 2, 2, [9]⟩ 20, .push third 30, .purge 40, .push first 50,
        .push ⟨"k", 0, 2, [9]⟩ 60, .push second 70, .push first 80]
    let r := new 100 3 2
    fragment "m" payload 132 4 = .ok [first, second, third] ∧
      r.Receives "m" [first, second, third] acts ∧
      ∃ before f now after, acts = before ++ .push f now :: after ∧ f.messageId = "m" ∧
        LastMissing [first, second, third] (supplied "m" before) f.index ∧
        ((r.performAll before).push f now).2 = some payload ∧
        ∀ before' g now' after', acts = before' ++ .push g now' :: after' → g.messageId = "m" →
          before' ≠ before → ((r.performAll before').push g now').2 = none := by
  intro payload first second third acts r
  have ok : fragment "m" payload 132 (4 : UInt64).toNat = .ok [first, second, third] := by
    cbv
  have receives : r.Receives "m" [first, second, third] acts := by
    refine ⟨by decide, rfl, rfl, by decide, fun f now member mine => ?_, ?_, fun start found => ?_,
      by decide +kernel⟩
    · simp only [acts, List.mem_cons, Act.push.injEq, List.not_mem_nil, or_false,
        reduceCtorEq, false_or] at member
      rcases member with ⟨rfl, _⟩ | ⟨rfl, _⟩ | ⟨rfl, _⟩ | ⟨rfl, _⟩ | ⟨rfl, _⟩ | ⟨rfl, _⟩ | ⟨rfl, _⟩
      all_goals first | (exact absurd mine (by decide)) | simp [first, second, third]
    · simp [acts, first, second, third]
    · have start10 : start = 10 := by
        have given : firstTime? "m" acts = some 10 := by decide +kernel
        exact Option.some.inj (found.symm.trans given)
      subst start10
      decide
  exact ⟨ok, receives, reassembles_once ok receives⟩

end ClusterNode.Reassembler
