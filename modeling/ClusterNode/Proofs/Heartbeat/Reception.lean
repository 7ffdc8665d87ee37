import ClusterNode.Heartbeat.Reassembler
import ClusterNode.Proofs.SortedMap

/-!
# What a fragment does to a reassembler

`Received` says once what a fragment can do where there is room for its message: nothing, be a
message by itself, or go to an incomplete message (`Goes`), which it completes or not. Nothing is
assumed of the fragment.

`MakesRoom` is how room is made: as long as the buffer is full a message goes that no other one
outstayed in silence. Where several were silent for as long, any of them may go; the running
`makeRoom` takes the first by its id (`makesRoom_makeRoom`).
-/

namespace ClusterNode

/-- The slot of a fragment in its place is one of its message. -/
theorem Fragment.slot_of_isPlaced {f : Fragment} (placed : f.isPlaced = true) :
    f.index.toNat = f.slot + 1 ∧ f.slot < f.total.toNat := by
  simp only [isPlaced, Bool.and_eq_true, bne_iff_ne, decide_eq_true_eq,
    UInt64.le_iff_toNat_le] at placed
  obtain ⟨⟨-, first⟩, last⟩ := placed
  have positive : f.index.toNat ≠ 0 := fun zero => first (UInt64.toNat_inj.1 zero)
  unfold slot
  omega

namespace Reassembler

variable {r r' base : Reassembler} {f : Fragment} {now : Nat} {id : String} {p : Partial}
  {given : Option Bytes}

/-- Whether a fragment begins a message that is then incomplete. -/
def opens (r : Reassembler) (f : Fragment) : Bool :=
  r.admits f && !r.completed.contains f.messageId && f.total != 1 &&
    !r.partials.contains f.messageId

/-- What a reassembler was set up with. -/
def limits (r : Reassembler) : Nat × Nat × Nat := (r.idle, r.maxFragments, r.maxPending)

/-- The limits are the idle time and the two bounds. -/
theorem limits_eq_iff {s : Reassembler} :
    r.limits = s.limits ↔
      r.idle = s.idle ∧ r.maxFragments = s.maxFragments ∧ r.maxPending = s.maxPending := by
  simp [limits]

/-- Nothing is pushed out as long as there is room. -/
theorem makeRoom_of_room (room : r.pending < r.maxPending) : r.makeRoom = r := by
  rw [makeRoom, Nat.sub_eq_zero_of_le (by omega)]
  rfl

/-- A chunk in an empty slot is one more that is filled. -/
theorem countP_set_some {slots : List (Option Bytes)} {slot : Nat}
    (empty : slots[slot]? = some none) (chunk : Bytes) :
    (slots.set slot (some chunk)).countP (·.isSome) = slots.countP (·.isSome) + 1 := by
  obtain ⟨inside, empty⟩ := List.getElem?_eq_some_iff.1 empty
  rw [List.countP_set inside, empty]
  simp

/-! ## Taking a fragment -/

/-- The incomplete message that a fragment goes to: the one with its id if that has its number of
fragments, or a new one. -/
inductive Goes (r : Reassembler) (f : Fragment) (now : Nat) : Partial → Prop
  | held {p : Partial} (placed : f.isPlaced = true) (found : r.partials.get? f.messageId = some p)
    (same : p.total = f.total) : Goes r f now p
  | opened (placed : f.isPlaced = true) (unknown : r.partials.get? f.messageId = none)
    (several : 2 ≤ f.total.toNat) (fits : f.total.toNat ≤ r.maxFragments)
    (room : r.pending < r.maxPending) : Goes r f now (.begin f.total now)

/-- What a fragment can do: the reassembler after it and the message given out. -/
inductive Received (r : Reassembler) (f : Fragment) (now : Nat) :
    Reassembler → Option Bytes → Prop
  | passed : Received r f now r none
  | single (fresh : r.completed.get? f.messageId = none) (one : f.total = 1)
    (first : f.index = 1) :
    Received r f now { r with completed := r.completed.insert f.messageId now } (some f.chunk)
  | touched {p : Partial} (goes : r.Goes f now p) :
    Received r f now
      { r with partials := r.partials.insert f.messageId { p with lastSeen := now } } none
  | added {p : Partial} (goes : r.Goes f now p) (empty : p.slots[f.slot]? = some none)
    (missing : p.received + 1 < p.total.toNat) :
    Received r f now
      { r with partials := r.partials.insert f.messageId (p.add f.slot f.chunk now) } none
  | completed {p : Partial} (goes : r.Goes f now p)
    (fresh : r.completed.get? f.messageId = none) (empty : p.slots[f.slot]? = some none)
    (full : p.total.toNat ≤ p.received + 1) :
    Received r f now
      { r with
        partials := r.partials.erase f.messageId
        completed := r.completed.insert f.messageId now }
      (some (p.add f.slot f.chunk now).content)

/-- A fragment that goes to a message has its place there. -/
theorem Goes.placed (goes : r.Goes f now p) : f.isPlaced = true := by
  cases goes with
  | held placed => exact placed
  | opened placed => exact placed

/-- A fragment goes to a message of its own number of fragments. -/
theorem Goes.total (goes : r.Goes f now p) : p.total = f.total := by
  cases goes with
  | held _ _ same => exact same
  | opened => rfl

/-- The message that a fragment goes to is what was held, if it was. -/
theorem Goes.eq_of_held {q : Partial} (goes : r.Goes f now p)
    (found : r.partials.get? f.messageId = some q) : p = q := by
  cases goes with
  | held _ held => exact Option.some.inj (held.symm.trans found)
  | opened _ unknown => exact absurd (unknown.symm.trans found) nofun

/-- To fill a place of a message is one of the things that a fragment can do. -/
theorem received_fill (goes : r.Goes f now p) (fresh : r.completed.get? f.messageId = none) :
    r.Received f now (r.fill f p now).1 (r.fill f p now).2 := by
  unfold fill
  split
  · rename_i empty
    dsimp only
    split
    · rename_i missing
      exact .added goes empty missing
    · rename_i full
      exact .completed goes fresh empty (Nat.not_lt.1 full)
  · exact .touched goes

/-- Whatever the fragment, it does one of these if there is room for a new message. -/
theorem received_push (room : r.opens f = true → r.pending < r.maxPending) :
    r.Received f now (r.push f now).1 (r.push f now).2 := by
  unfold push
  split
  · exact .passed
  · rename_i taken
    simp only [Bool.or_eq_true, not_or, Bool.not_eq_true, Bool.not_eq_false'] at taken
    obtain ⟨admitted, unfinished⟩ := taken
    have fresh : r.completed.get? f.messageId = none := by
      simpa [SortedMap.contains] using unfinished
    obtain ⟨placed, fits⟩ : f.isPlaced = true ∧ f.total.toNat ≤ r.maxFragments := by
      simpa [admits] using admitted
    obtain ⟨place, inside⟩ := Fragment.slot_of_isPlaced placed
    split
    · rename_i one
      refine .single fresh one ?_
      have only : f.index.toNat = (1 : UInt64).toNat := by
        rw [one] at inside
        have first : f.slot < 1 := inside
        rw [place, Nat.lt_one_iff.1 first]
        rfl
      exact UInt64.toNat_inj.1 only
    · rename_i several
      split
      · rename_i p found
        split
        · rename_i same
          exact received_fill (.held placed found same) fresh
        · exact .passed
      · rename_i unknown
        have opening : r.opens f = true := by
          simp [opens, admitted, several, SortedMap.contains, unknown, fresh]
        have more : f.total.toNat ≠ 1 := fun one => several (UInt64.toNat_inj.1 one)
        rw [makeRoom_of_room (room opening)]
        exact received_fill (.opened placed unknown (by omega) fits (room opening)) fresh

/-- Whatever a fragment does, the limits stay. -/
theorem Received.limits (received : r.Received f now r' given) : r'.limits = r.limits := by
  cases received <;> rfl

/-- A message that is not the one whose fragment comes in is left alone. -/
theorem Received.of_ne (received : r.Received f now r' given) (other : id ≠ f.messageId) :
    r'.partials.get? id = r.partials.get? id ∧ r'.completed.get? id = r.completed.get? id := by
  cases received with
  | passed => exact ⟨rfl, rfl⟩
  | single => exact ⟨rfl, SortedMap.get?_insert_of_ne _ _ other⟩
  | touched => exact ⟨SortedMap.get?_insert_of_ne _ _ other, rfl⟩
  | added => exact ⟨SortedMap.get?_insert_of_ne _ _ other, rfl⟩
  | completed =>
    exact ⟨by rw [SortedMap.get?_erase, if_neg other], SortedMap.get?_insert_of_ne _ _ other⟩

/-! ## Making room -/

/-- As long as the buffer is full, a message goes that was silent for as long as any other. -/
inductive MakesRoom : Reassembler → Reassembler → Prop
  | roomy {r : Reassembler} (room : r.pending < r.maxPending) : MakesRoom r r
  | drops {r base : Reassembler} {id : String} {p : Partial} (full : r.maxPending ≤ r.pending)
    (held : r.partials.get? id = some p)
    (stalest : ∀ other q, r.partials.get? other = some q → p.lastSeen ≤ q.lastSeen)
    (rest : MakesRoom { r with partials := r.partials.erase id } base) : MakesRoom r base

/-- Making room changes nothing but that messages go. -/
theorem MakesRoom.frame (makes : r.MakesRoom base) :
    base.limits = r.limits ∧ base.completed = r.completed ∧ base.pending < base.maxPending ∧
      ∀ id p, base.partials.get? id = some p → r.partials.get? id = some p := by
  induction makes with
  | roomy room => exact ⟨rfl, rfl, room, fun _ _ held => held⟩
  | @drops r base gone _ full held stalest rest ih =>
    obtain ⟨limits, completed, room, among⟩ := ih
    refine ⟨limits, completed, room, fun id p found => ?_⟩
    have before := among id p found
    rw [SortedMap.get?_erase] at before
    split at before
    · cases before
    · exact before

/-- A message that goes to make room was silent for as long as any other in a full buffer. -/
theorem MakesRoom.held_or_stalest (makes : r.MakesRoom base) (bounded : r.pending ≤ r.maxPending)
    (held : r.partials.get? id = some p) :
    base.partials.get? id = some p ∨
      r.maxPending ≤ r.pending ∧
        ∀ other q, r.partials.get? other = some q → p.lastSeen ≤ q.lastSeen := by
  cases makes with
  | roomy => exact .inl held
  | @drops _ _ gone q full found stalest rest =>
    by_cases same : id = gone
    · subst same
      obtain rfl := Option.some.inj (held.symm.trans found)
      exact .inr ⟨full, stalest⟩
    · have less : (r.partials.erase gone).size < r.maxPending :=
        Nat.lt_of_lt_of_le (SortedMap.size_erase_lt found) bounded
      cases rest with
      | roomy => exact .inl (by rw [SortedMap.get?_erase, if_neg same, held])
      | drops full => exact absurd less (Nat.not_lt.2 full)

/-! ## The room that is made -/

/-- The stalest of some messages is one of them, and no other one is staler. -/
theorem foldl_staler (entries : List (String × Partial)) (best : String × Nat) :
    ∃ stalest, entries.foldl staler (some best) = some stalest ∧
      (stalest = best ∨ ∃ e ∈ entries, stalest = (e.1, e.2.lastSeen)) ∧ stalest.2 ≤ best.2 ∧
      ∀ e ∈ entries, stalest.2 ≤ e.2.lastSeen := by
  induction entries generalizing best with
  | nil => exact ⟨best, rfl, .inl rfl, Nat.le_refl _, List.forall_mem_nil _⟩
  | cons e entries ih =>
    rw [List.foldl_cons, staler]
    by_cases older : e.2.lastSeen < best.2
    · rw [if_pos older]
      obtain ⟨stalest, found, source, least, others⟩ := ih (e.1, e.2.lastSeen)
      refine ⟨stalest, found, .inr ?_, Nat.le_trans least (Nat.le_of_lt older),
        List.forall_mem_cons.2 ⟨least, others⟩⟩
      rcases source with rfl | ⟨e', member, rfl⟩
      · exact ⟨e, List.mem_cons_self .., rfl⟩
      · exact ⟨e', List.mem_cons_of_mem _ member, rfl⟩
    · rw [if_neg older]
      obtain ⟨stalest, found, source, least, others⟩ := ih best
      refine ⟨stalest, found, ?_, least,
        List.forall_mem_cons.2 ⟨Nat.le_trans least (Nat.not_lt.1 older), others⟩⟩
      exact source.imp_right fun ⟨e', member, same⟩ => ⟨e', List.mem_cons_of_mem _ member, same⟩

/-- Of some incomplete messages the stalest is found. -/
theorem exists_stalest (some : 0 < r.pending) :
    ∃ id p, r.stalest? = Option.some id ∧ r.partials.get? id = Option.some p ∧
      ∀ other q, r.partials.get? other = Option.some q → p.lastSeen ≤ q.lastSeen := by
  unfold stalest?
  simp only [SortedMap.get?_eq_some_iff]
  unfold pending SortedMap.size at some
  cases entries : r.partials.entries with
  | nil =>
    rw [entries] at some
    cases some
  | cons e rest =>
    obtain ⟨stalest, found, source, least, others⟩ := foldl_staler rest (e.1, e.2.lastSeen)
    obtain ⟨e', member, rfl⟩ : ∃ e' ∈ e :: rest, stalest = (e'.1, e'.2.lastSeen) := by
      rcases source with rfl | ⟨e', member, same⟩
      · exact ⟨e, List.mem_cons_self .., rfl⟩
      · exact ⟨e', List.mem_cons_of_mem _ member, same⟩
    refine ⟨e'.1, e'.2, ?_, member, fun other q listed => ?_⟩
    · rw [List.foldl_cons, staler, found]
      rfl
    · rcases List.mem_cons.1 listed with rfl | later
      · exact least
      · exact others (other, q) later

/-- The running function makes room. -/
theorem makesRoom_makeRoom (bounded : r.pending ≤ r.maxPending) (positive : 0 < r.maxPending) :
    r.MakesRoom r.makeRoom := by
  by_cases room : r.pending < r.maxPending
  · rw [makeRoom_of_room room]
    exact .roomy room
  · have full : r.maxPending ≤ r.pending := Nat.not_lt.1 room
    obtain ⟨id, p, stalest, held, oldest⟩ := exists_stalest (Nat.lt_of_lt_of_le positive full)
    have once : r.makeRoom = { r with partials := r.partials.erase id } := by
      rw [makeRoom, show r.pending + 1 - r.maxPending = 1 by omega, evict, stalest]
      rfl
    rw [once]
    refine .drops full held oldest (.roomy ?_)
    exact Nat.lt_of_lt_of_le (SortedMap.size_erase_lt held) bounded

end Reassembler

end ClusterNode
