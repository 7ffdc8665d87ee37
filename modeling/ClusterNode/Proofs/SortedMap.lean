import ClusterNode.SortedMap

/-!
# Lookups in derived maps

`SortedMap.get?` is the view of a map. Each operation that the laws beside the
definition leave out gets its equation here: values changed in place, keys set or
removed one after the other, and a key placed behind all others, which is the one
case where the listing of a map matters.
-/

namespace ClusterNode.SortedMap

universe u v

variable {κ : Type u} {α : Type v} [Ord κ] [Std.LawfulEqOrd κ]

omit [Std.LawfulEqOrd κ] in
/-- Membership of a key is having a value. -/
theorem contains_iff {m : SortedMap κ α} {k : κ} :
    m.contains k = true ↔ ∃ v, m.get? k = some v := by
  rw [contains, Option.isSome_iff_exists]

/-- A map is empty if it has nothing for any key. -/
theorem isEmpty_eq_false_iff {m : SortedMap κ α} :
    m.isEmpty = false ↔ ∃ k, m.contains k = true := by
  simp only [isEmpty, List.isEmpty_eq_false_iff_exists_mem, contains, Option.isSome_iff_exists,
    get?_eq_some_iff, Prod.exists]

omit [Std.LawfulEqOrd κ] in
/-- A map is empty if it is the empty one. -/
theorem isEmpty_iff {m : SortedMap κ α} : m.isEmpty = true ↔ m = ∅ := by
  constructor
  · intro none
    obtain ⟨entries, sorted⟩ := m
    obtain rfl : entries = [] := List.isEmpty_iff.1 none
    rfl
  · rintro rfl
    rfl

/-- A key is listed exactly when it has a value. -/
theorem mem_keys_iff {m : SortedMap κ α} {k : κ} : k ∈ m.keys ↔ ∃ v, m.get? k = some v := by
  simp only [keys, List.mem_map, Prod.exists, exists_and_right, exists_eq_right,
    get?_eq_some_iff]

/-- A key is listed exactly when the map contains it. -/
theorem mem_keys_iff_contains {m : SortedMap κ α} {k : κ} : k ∈ m.keys ↔ m.contains k = true := by
  rw [mem_keys_iff, contains_iff]

/-- A value is listed exactly when some key has it. -/
theorem mem_values_iff {m : SortedMap κ α} {v : α} : v ∈ m.values ↔ ∃ k, m.get? k = some v := by
  simp only [values, List.mem_map, Prod.exists, exists_eq_right, get?_eq_some_iff]

/-- No key is listed twice. -/
theorem nodup_keys (m : SortedMap κ α) : m.keys.Nodup := by
  refine List.Pairwise.map _ (fun e e' lower same => ?_) m.sorted
  rw [same, Std.ReflOrd.compare_self] at lower
  cases lower

/-- What is said of every lookup can be tested: it is said of every entry. -/
instance (m : SortedMap κ α) (P : κ → α → Prop) [∀ k v, Decidable (P k v)] :
    Decidable (∀ k v, m.get? k = some v → P k v) :=
  decidable_of_iff (∀ entry ∈ m.entries, P entry.1 entry.2) <| by
    constructor
    · intro all k v found
      exact all (k, v) (get?_eq_some_iff.1 found)
    · intro all entry member
      exact all entry.1 entry.2 (get?_eq_some_iff.2 member)

omit [Std.LawfulEqOrd κ] in
/-- Changing every value changes every lookup and no key. -/
theorem get?_mapValues {β : Type v} (m : SortedMap κ α) (f : α → β) (k : κ) :
    (m.mapValues f).get? k = (m.get? k).map f := by
  simp only [get?, mapValues, List.find?_map, Option.map_map]
  rfl

omit [Std.LawfulEqOrd κ] in
/-- A map whose values are left is the same. -/
theorem mapValues_id (m : SortedMap κ α) : m.mapValues id = m := by
  obtain ⟨entries, sorted⟩ := m
  simp only [mapValues, id, List.map_id']

/-- For every key of a map, what a function gives for it. -/
def tabulate {β : Type v} (m : SortedMap κ α) (f : κ → β) : SortedMap κ β :=
  ⟨m.entries.map fun e => (e.1, f e.1), List.pairwise_map.2 m.sorted⟩

/-- A tabulated map has at its keys what the function gives. -/
theorem get?_tabulate {β : Type v} (m : SortedMap κ α) (f : κ → β) (k : κ) :
    (m.tabulate f).get? k = (m.get? k).map fun _ => f k := by
  ext v
  simp only [get?_eq_some_iff, Option.map_eq_some_iff]
  simp only [tabulate, List.mem_map, Prod.mk.injEq, Prod.exists]
  constructor
  · rintro ⟨k', w, member, rfl, rfl⟩
    exact ⟨w, member, rfl⟩
  · rintro ⟨w, member, rfl⟩
    exact ⟨k, w, member, rfl, rfl⟩

/-- What a function gives for other keys does not matter. -/
theorem tabulate_congr {β : Type v} {m : SortedMap κ α} {f g : κ → β}
    (same : ∀ k, m.contains k = true → f k = g k) : m.tabulate f = m.tabulate g := by
  simp only [tabulate, SortedMap.mk.injEq]
  refine List.map_congr_left fun entry member => ?_
  rw [same entry.1 (contains_iff.2 ⟨entry.2, get?_eq_some_iff.2 member⟩)]

section Transitive

variable [Std.TransOrd κ] [DecidableEq κ]

omit [DecidableEq κ] in
/-- A map that has, for the keys of another one, what a function gives for them. -/
theorem eq_tabulate {β : Type v} {m : SortedMap κ α} {m' : SortedMap κ β} {f : κ → β}
    (keys : ∀ k, m'.contains k = m.contains k) (values : ∀ k v, m'.get? k = some v → v = f k) :
    m' = m.tabulate f := by
  refine ext_get? fun k => ?_
  have same := keys k
  rw [get?_tabulate]
  unfold contains at same
  cases here : m'.get? k with
  | none =>
    rw [here] at same
    rw [Option.isSome_eq_false_iff.1 same.symm |> Option.isNone_iff_eq_none.1]
    rfl
  | some v =>
    rw [here] at same
    obtain ⟨w, there⟩ := Option.isSome_iff_exists.1 same.symm
    rw [there, values k v here]
    rfl

/-- The value just set is found. -/
@[simp] theorem get?_insert_self (m : SortedMap κ α) (k : κ) (v : α) :
    (m.insert k v).get? k = some v := by
  simp [get?_insert]

/-- Setting a key leaves every other lookup. -/
theorem get?_insert_of_ne (m : SortedMap κ α) {k k' : κ} (v : α) (different : k' ≠ k) :
    (m.insert k v).get? k' = m.get? k' := by
  simp [get?_insert, different]

/-- Setting a key to the value it has changes nothing. -/
theorem insert_get? {m : SortedMap κ α} {k : κ} {v : α} (found : m.get? k = some v) :
    m.insert k v = m := by
  apply ext_get?
  intro k'
  by_cases same : k' = k
  · subst same
    rw [get?_insert_self, found]
  · rw [get?_insert_of_ne m v same]

/-- After an insertion the key is there, and every other one as before. -/
theorem contains_insert (m : SortedMap κ α) (k k' : κ) (v : α) :
    (m.insert k v).contains k' = (decide (k' = k) || m.contains k') := by
  by_cases same : k' = k
  · simp [contains, same]
  · simp [contains, get?_insert_of_ne m v same, same]

omit [Std.TransOrd κ] in
/-- After an erasure the key is gone, and every other one as before. -/
theorem contains_erase (m : SortedMap κ α) (k k' : κ) :
    (m.erase k).contains k' = (!decide (k' = k) && m.contains k') := by
  by_cases same : k' = k
  · simp [contains, get?_erase, same]
  · simp [contains, get?_erase, same]

/-! ## Keys set or removed one after the other -/

omit [Std.TransOrd κ] in
/-- A lookup behind a list of removals. -/
theorem get?_foldl_erase (keys : List κ) (m : SortedMap κ α) (k : κ) :
    (keys.foldl erase m).get? k = if k ∈ keys then none else m.get? k := by
  induction keys generalizing m with
  | nil => simp
  | cons first rest ih =>
    rw [List.foldl_cons, ih, get?_erase]
    by_cases later : k ∈ rest
    · simp [later]
    · by_cases same : k = first
      · simp [same]
      · simp [same, later]

omit [Std.LawfulEqOrd κ] [Std.TransOrd κ] [DecidableEq κ] in
/-- An ordered list has no second entry of its first key. -/
private theorem find?_rest_of_pairwise {e : κ × α} {rest : List (κ × α)}
    (ordered : (e :: rest).Pairwise fun a b => compare a.1 b.1 = .lt) :
    (rest.find? fun e' => compare e.1 e'.1 == .eq) = none := by
  rw [List.find?_eq_none]
  intro e' member
  have less := (List.pairwise_cons.1 ordered).1 e' member
  simp [less]

/-- A lookup behind the entries of an ordered list, each set in turn. -/
private theorem get?_foldl_insert_entries {β : Type v} (f : κ × β → α) {l : List (κ × β)}
    (ordered : l.Pairwise fun a b => compare a.1 b.1 = .lt) (m : SortedMap κ α) (k : κ) :
    (l.foldl (fun t e => t.insert e.1 (f e)) m).get? k =
      (((l.find? fun e => compare k e.1 == .eq).map f).or (m.get? k)) := by
  induction l generalizing m with
  | nil => simp
  | cons e rest ih =>
    rw [List.foldl_cons, ih (List.pairwise_cons.1 ordered).2, get?_insert]
    by_cases same : k = e.1
    · subst same
      rw [find?_rest_of_pairwise ordered]
      simp
    · have different : (compare k e.1 == Ordering.eq) = false := by
        simpa [Std.LawfulEqCmp.compare_eq_iff_eq] using same
      simp [different, same]

/-- Setting every entry of one map in another: the entries of the first win. -/
theorem get?_foldl_insert {β : Type v} (f : κ × β → α) (source : SortedMap κ β)
    (m : SortedMap κ α) (k : κ) :
    (source.entries.foldl (fun t e => t.insert e.1 (f e)) m).get? k =
      (((source.get? k).map fun v => f (k, v)).or (m.get? k)) := by
  have view : source.get? k =
      (source.entries.find? fun e => compare k e.1 == .eq).map (·.2) := rfl
  rw [get?_foldl_insert_entries f source.sorted, view]
  cases found : source.entries.find? fun e => compare k e.1 == .eq with
  | none => simp
  | some e =>
    have equal := List.find?_some found
    have same : k = e.1 := by simpa using equal
    subst same
    simp

/-- Setting every key of one map to a value in another. -/
theorem get?_foldl_keys {β : Type v} (v : α) (source : SortedMap κ β) (m : SortedMap κ α)
    (k : κ) :
    (source.keys.foldl (fun t k => t.insert k v) m).get? k =
      if source.contains k then some v else m.get? k := by
  rw [keys, List.foldl_map, get?_foldl_insert (fun _ => v), contains]
  cases source.get? k <;> simp

/-- The entries of a map make it up. -/
theorem ofList_entries (m : SortedMap κ α) : ofList m.entries = m := by
  refine ext_get? fun k => ?_
  have built := get?_foldl_insert (·.2) m ∅ k
  rw [get?_empty, Option.or_none, Option.map_id'] at built
  exact built

end Transitive

/-! ## Sizes -/

section Sizes

omit [Std.LawfulEqOrd κ] in
/-- A filter leaves no more entries than there were. -/
theorem size_filter_le (m : SortedMap κ α) (p : κ → α → Bool) : (m.filter p).size ≤ m.size :=
  List.length_filter_le ..

omit [Std.LawfulEqOrd κ] in
/-- An erasure leaves no more entries than there were. -/
theorem size_erase_le (m : SortedMap κ α) (k : κ) : (m.erase k).size ≤ m.size :=
  List.length_filter_le ..

/-- Removing a key that has a value makes a map smaller. -/
theorem size_erase_lt {m : SortedMap κ α} {k : κ} {v : α} (found : m.get? k = some v) :
    (m.erase k).size < m.size :=
  List.length_filter_lt_length_iff_exists.2 ⟨(k, v), get?_eq_some_iff.1 found, by simp⟩

omit [Std.LawfulEqOrd κ] in
/-- Putting an entry in its place adds one at most. -/
private theorem length_insertEntry_le (k : κ) (v : α) (l : List (κ × α)) :
    (insertEntry k v l).length ≤ l.length + 1 := by
  fun_induction insertEntry k v l with
  | case1 => exact Nat.le_refl _
  | case2 => exact Nat.le_refl _
  | case3 => exact Nat.le_succ _
  | case4 e rest behind ih => exact Nat.succ_le_succ ih

variable [Std.TransOrd κ]

omit [Std.LawfulEqOrd κ] in
/-- An insertion adds one entry at most. -/
theorem size_insert_le (m : SortedMap κ α) (k : κ) (v : α) : (m.insert k v).size ≤ m.size + 1 :=
  length_insertEntry_le k v m.entries

/-- Maps with the same keys are of one size. -/
theorem size_congr {m m' : SortedMap κ α} (same : ∀ k, m.contains k = m'.contains k) :
    m.size = m'.size := by
  have shape : m.mapValues (fun _ => PUnit.unit) = m'.mapValues (fun _ => PUnit.unit) := by
    refine ext_get? fun k => ?_
    have here := same k
    unfold contains at here
    rw [get?_mapValues, get?_mapValues]
    cases found : m.get? k <;> cases found' : m'.get? k <;> simp [found, found'] at here ⊢
  have length := congrArg size shape
  simpa [size, mapValues] using length

/-- Setting a key that has a value does not make a map larger. -/
theorem size_insert_of_get? [DecidableEq κ] {m : SortedMap κ α} {k : κ} {v : α} (w : α)
    (found : m.get? k = some v) : (m.insert k w).size = m.size := by
  refine size_congr fun k' => ?_
  rw [contains_insert]
  by_cases same : k' = k
  · rw [same, contains, found]
    simp
  · simp [same]

end Sizes

/-! ## The greatest key -/

omit [Std.LawfulEqOrd κ] in
/-- A key behind all others is placed at the end of the listing. -/
theorem insertEntry_of_all_lt {k : κ} (v : α) {l : List (κ × α)}
    (behind : ∀ e ∈ l, compare k e.1 = .gt) : insertEntry k v l = l ++ [(k, v)] := by
  induction l with
  | nil => rfl
  | cons e rest ih =>
    have first := behind e (List.mem_cons_self ..)
    have others : ∀ e' ∈ rest, compare k e'.1 = .gt :=
      fun e' member => behind e' (List.mem_cons_of_mem _ member)
    simp only [insertEntry, first, ih others, List.cons_append]

omit [Std.LawfulEqOrd κ] in
/-- The listing of a map after a key behind all others was set. -/
theorem entries_insert_of_all_lt [Std.TransOrd κ] {m : SortedMap κ α} {k : κ} (v : α)
    (behind : ∀ e ∈ m.entries, compare k e.1 = .gt) :
    (m.insert k v).entries = m.entries ++ [(k, v)] :=
  insertEntry_of_all_lt v behind

end ClusterNode.SortedMap
