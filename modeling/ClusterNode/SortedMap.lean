/-!
# Finite maps in key order

`SortedMap.entries` is authoritative: a strictly increasing list of keyed
values. Two maps with the same lookups are equal (`SortedMap.ext_get?`), so a
statement about a whole tree may compare maps with `=`, and every listing of a
map is in key order.
-/

namespace ClusterNode

universe u v

/-- A finite map whose entries are listed by strictly increasing key. -/
structure SortedMap (κ : Type u) (α : Type v) [Ord κ] where
  entries : List (κ × α)
  sorted : entries.Pairwise fun a b => compare a.1 b.1 = .lt
  deriving DecidableEq

namespace SortedMap

variable {κ : Type u} {α : Type v} [Ord κ]

/-- The map without entries. -/
def empty : SortedMap κ α := ⟨[], .nil⟩

instance : EmptyCollection (SortedMap κ α) := ⟨empty⟩

instance : Inhabited (SortedMap κ α) := ⟨empty⟩

/-- The value at a key. -/
def get? (m : SortedMap κ α) (k : κ) : Option α :=
  (m.entries.find? fun e => compare k e.1 == .eq).map (·.2)

/-- Whether a key has a value. -/
def contains (m : SortedMap κ α) (k : κ) : Bool := (m.get? k).isSome

/-- Whether no key has a value. -/
def isEmpty (m : SortedMap κ α) : Bool := m.entries.isEmpty

/-- The number of keys. -/
def size (m : SortedMap κ α) : Nat := m.entries.length

/-- The keys, in order. -/
def keys (m : SortedMap κ α) : List κ := m.entries.map (·.1)

/-- The values, in key order. -/
def values (m : SortedMap κ α) : List α := m.entries.map (·.2)

/-- Place a value at its key in an ordered list, over an older one. -/
def insertEntry (k : κ) (v : α) : List (κ × α) → List (κ × α)
  | [] => [(k, v)]
  | e :: rest =>
    match compare k e.1 with
    | .lt => (k, v) :: e :: rest
    | .eq => (k, v) :: rest
    | .gt => e :: insertEntry k v rest

theorem mem_insertEntry {k : κ} {v : α} {l : List (κ × α)} {x : κ × α}
    (h : x ∈ insertEntry k v l) : x = (k, v) ∨ x ∈ l := by
  induction l with
  | nil => simpa [insertEntry] using h
  | cons e rest ih =>
    simp only [insertEntry] at h
    split at h
    · simpa using h
    · simp only [List.mem_cons] at h ⊢
      exact h.imp id Or.inr
    · simp only [List.mem_cons] at h ⊢
      rcases h with rfl | h
      · exact .inr (.inl rfl)
      · exact (ih h).imp id .inr

variable [Std.TransOrd κ]

theorem sorted_insertEntry (k : κ) (v : α) {l : List (κ × α)}
    (h : l.Pairwise fun a b => compare a.1 b.1 = .lt) :
    (insertEntry k v l).Pairwise fun a b => compare a.1 b.1 = .lt := by
  induction l with
  | nil => simp [insertEntry]
  | cons e rest ih =>
    have ⟨he, hr⟩ := List.pairwise_cons.1 h
    simp only [insertEntry]
    split
    next hlt =>
      refine List.pairwise_cons.2 ⟨fun x hx => ?_, h⟩
      rcases List.mem_cons.1 hx with rfl | hx
      · exact hlt
      · exact Std.TransCmp.lt_trans hlt (he x hx)
    next heq =>
      refine List.pairwise_cons.2 ⟨fun x hx => ?_, hr⟩
      exact Std.TransCmp.lt_of_eq_of_lt heq (he x hx)
    next hgt =>
      refine List.pairwise_cons.2 ⟨fun x hx => ?_, ih hr⟩
      rcases mem_insertEntry hx with rfl | hx
      · exact Std.OrientedCmp.gt_iff_lt.1 hgt
      · exact he x hx

/-- Set the value at a key. -/
def insert (m : SortedMap κ α) (k : κ) (v : α) : SortedMap κ α :=
  ⟨insertEntry k v m.entries, sorted_insertEntry k v m.sorted⟩

omit [Std.TransOrd κ] in
theorem sorted_filter {l : List (κ × α)} (p : κ × α → Bool)
    (h : l.Pairwise fun a b => compare a.1 b.1 = .lt) :
    (l.filter p).Pairwise fun a b => compare a.1 b.1 = .lt :=
  h.sublist List.filter_sublist

/-- Keep the entries that pass a test. -/
def filter (m : SortedMap κ α) (p : κ → α → Bool) : SortedMap κ α :=
  ⟨m.entries.filter fun e => p e.1 e.2, sorted_filter _ m.sorted⟩

/-- Remove a key. -/
def erase (m : SortedMap κ α) (k : κ) : SortedMap κ α :=
  ⟨m.entries.filter fun e => compare k e.1 != .eq, sorted_filter _ m.sorted⟩

/-- Remove the least key. -/
def eraseFirst (m : SortedMap κ α) : SortedMap κ α :=
  ⟨m.entries.tail, m.sorted.sublist (List.tail_sublist _)⟩

/-- Collect keyed values; of a repeated key the last value stays. -/
def ofList (l : List (κ × α)) : SortedMap κ α :=
  l.foldl (fun m e => m.insert e.1 e.2) ∅

omit [Std.TransOrd κ] in
theorem sorted_mapValues {β : Type v} {l : List (κ × α)} (f : α → β)
    (h : l.Pairwise fun a b => compare a.1 b.1 = .lt) :
    (l.map fun e => (e.1, f e.2)).Pairwise fun a b => compare a.1 b.1 = .lt :=
  List.pairwise_map.2 h

/-- Change every value and no key. -/
def mapValues {β : Type v} (m : SortedMap κ α) (f : α → β) : SortedMap κ β :=
  ⟨m.entries.map fun e => (e.1, f e.2), sorted_mapValues f m.sorted⟩

/-! ## Lookup laws -/

omit [Std.TransOrd κ] in
@[simp] theorem get?_empty (k : κ) : (∅ : SortedMap κ α).get? k = none := rfl

variable [Std.LawfulEqOrd κ]

omit [Std.TransOrd κ] in
theorem find?_insertEntry [DecidableEq κ] (k k' : κ) (v : α) {l : List (κ × α)}
    (h : l.Pairwise fun a b => compare a.1 b.1 = .lt) :
    ((insertEntry k v l).find? fun e => compare k' e.1 == .eq).map (·.2) =
      if k' = k then some v
      else (l.find? fun e => compare k' e.1 == .eq).map (·.2) := by
  induction l with
  | nil =>
    by_cases hk : k' = k
    · simp [insertEntry, hk]
    · simp [insertEntry, hk, Std.LawfulEqCmp.compare_eq_iff_eq]
  | cons e rest ih =>
    have ⟨he, hr⟩ := List.pairwise_cons.1 h
    simp only [insertEntry]
    split
    next hlt =>
      by_cases hk : k' = k
      · simp [hk]
      · simp [hk, Std.LawfulEqCmp.compare_eq_iff_eq]
    next heq =>
      have heq := Std.LawfulEqCmp.eq_of_compare heq
      subst heq
      by_cases hk : k' = e.1
      · simp [hk]
      · simp [hk, Std.LawfulEqCmp.compare_eq_iff_eq]
    next hgt =>
      by_cases hk : k' = k
      · subst hk
        have hne : ¬ compare k' e.1 = .eq := by simp [hgt]
        simpa [List.find?_cons, hgt] using ih hr
      · by_cases hke : k' = e.1
        · subst hke
          simp [hk]
        · have hne : (compare k' e.1 == Ordering.eq) = false := by
            simpa [Std.LawfulEqCmp.compare_eq_iff_eq] using hke
          simpa [List.find?_cons, hne, hk] using ih hr

/-- Setting a key changes that key alone. -/
theorem get?_insert [DecidableEq κ] (m : SortedMap κ α) (k k' : κ) (v : α) :
    (m.insert k v).get? k' = if k' = k then some v else m.get? k' :=
  find?_insertEntry k k' v m.sorted

omit [Std.TransOrd κ] in
/-- Removing a key changes that key alone. -/
theorem get?_erase [DecidableEq κ] (m : SortedMap κ α) (k k' : κ) :
    (m.erase k).get? k' = if k' = k then none else m.get? k' := by
  simp only [get?, erase]
  induction m.entries with
  | nil => simp
  | cons e rest ih =>
    by_cases hke : k = e.1
    · subst hke
      by_cases hk : k' = e.1
      · subst hk
        simp
      · have hne : (compare k' e.1 == Ordering.eq) = false := by
          simpa [Std.LawfulEqCmp.compare_eq_iff_eq] using hk
        simpa [List.find?_cons, hne, hk] using ih
    · have hke' : (compare k e.1 != Ordering.eq) = true := by
        simpa [Std.LawfulEqCmp.compare_eq_iff_eq] using hke
      by_cases hk : k' = e.1
      · subst hk
        have : e.1 ≠ k := fun h => hke h.symm
        simp [hke', this]
      · have hne : (compare k' e.1 == Ordering.eq) = false := by
          simpa [Std.LawfulEqCmp.compare_eq_iff_eq] using hk
        simpa [List.filter_cons, hke', List.find?_cons, hne] using ih

omit [Std.TransOrd κ] in
/-- Lookup finds exactly the listed entries. -/
theorem get?_eq_some_iff {m : SortedMap κ α} {k : κ} {v : α} :
    m.get? k = some v ↔ (k, v) ∈ m.entries := by
  have hs := m.sorted
  unfold get?
  generalize m.entries = l at hs
  induction l with
  | nil => simp
  | cons e rest ih =>
    have ⟨he, hr⟩ := List.pairwise_cons.1 hs
    by_cases hk : k = e.1
    · subst hk
      have : ∀ v', (e.1, v') ∉ rest := fun v' hm => by
        have := he _ hm
        simp at this
      simp only [List.find?_cons, Std.ReflCmp.compare_self, BEq.rfl, Option.map_some,
        Option.some.injEq, List.mem_cons, this, or_false]
      exact ⟨fun h => by rw [← h], fun h => by rw [← h]⟩
    · have hne : (compare k e.1 == Ordering.eq) = false := by
        simpa [Std.LawfulEqCmp.compare_eq_iff_eq] using hk
      have : (k, v) ≠ e := fun h => hk (by rw [← h])
      simpa [List.find?_cons, hne, this] using ih hr

/-- Two ordered lists with the same members are equal. -/
theorem entries_ext {l l' : List (κ × α)}
    (h : l.Pairwise fun a b => compare a.1 b.1 = .lt)
    (h' : l'.Pairwise fun a b => compare a.1 b.1 = .lt)
    (hm : ∀ x, x ∈ l ↔ x ∈ l') : l = l' := by
  induction l generalizing l' with
  | nil =>
    cases l' with
    | nil => rfl
    | cons e rest => exact absurd ((hm e).2 (by simp)) (by simp)
  | cons e rest ih =>
    cases l' with
    | nil => exact absurd ((hm e).1 (by simp)) (by simp)
    | cons e' rest' =>
      have ⟨he, hr⟩ := List.pairwise_cons.1 h
      have ⟨he', hr'⟩ := List.pairwise_cons.1 h'
      have hee : e = e' := by
        rcases List.mem_cons.1 ((hm e).1 (by simp)) with h1 | h1
        · exact h1
        · rcases List.mem_cons.1 ((hm e').2 (by simp)) with h2 | h2
          · exact h2.symm
          · exact absurd (Std.TransCmp.lt_trans (he _ h2) (he' _ h1)) (by simp)
      subst hee
      congr 1
      refine ih hr hr' fun x => ?_
      have hx := hm x
      simp only [List.mem_cons] at hx
      constructor
      · intro hx1
        rcases hx.1 (.inr hx1) with rfl | h2
        · simpa using he _ hx1
        · exact h2
      · intro hx1
        rcases hx.2 (.inr hx1) with rfl | h2
        · simpa using he' _ hx1
        · exact h2

/-- Maps with the same lookups are equal. -/
theorem ext_get? {m m' : SortedMap κ α} (h : ∀ k, m.get? k = m'.get? k) : m = m' := by
  have : m.entries = m'.entries :=
    entries_ext m.sorted m'.sorted fun x => by
      rw [show x = (x.1, x.2) from rfl, ← get?_eq_some_iff, ← get?_eq_some_iff, h]
  cases m
  cases m'
  simpa using this

omit [Std.TransOrd κ] in
/-- Keeping the entries that pass a test keeps just those lookups. -/
theorem get?_filter (m : SortedMap κ α) (p : κ → α → Bool) (k : κ) :
    (m.filter p).get? k = (m.get? k).filter (p k) := by
  apply Option.ext
  intro v
  rw [get?_eq_some_iff]
  simp only [filter, List.mem_filter, Option.filter_eq_some_iff, get?_eq_some_iff]

end SortedMap

end ClusterNode
