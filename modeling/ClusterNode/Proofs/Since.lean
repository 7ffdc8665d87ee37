/-!
# What happened and did not end

In a history, listed from its beginning, `Since happens ends` picks the entries that made
something happen and that none of the later ones ended. It goes entry by entry
(`since_concat`), which is how a state that is changed entry by entry can be said to know it.
-/

namespace ClusterNode

universe u

variable {α : Type u} {happens ends : α → Prop} {history : List α} {m x : α}

/-- An entry of a history made something happen that none of the later ones ended. -/
def Since (happens ends : α → Prop) (history : List α) (m : α) : Prop :=
  ∃ before after, history = before ++ m :: after ∧ happens m ∧ ∀ later ∈ after, ¬ends later

/-- In an empty history nothing happened. -/
theorem not_since_nil : ¬Since happens ends [] m := by
  rintro ⟨before, after, whole, -⟩
  exact List.append_ne_nil_of_right_ne_nil before (List.cons_ne_nil m after) whole.symm

/-- A history that goes on is split at its last entry or within what it was before. -/
theorem concat_eq_append_cons_iff {before after : List α} :
    history ++ [x] = before ++ m :: after ↔
      history = before ∧ x = m ∧ after = [] ∨
        ∃ earlier, after = earlier ++ [x] ∧ history = before ++ m :: earlier := by
  constructor
  · intro whole
    rcases List.eq_nil_or_concat after with rfl | ⟨earlier, y, rfl⟩
    · obtain ⟨rfl, last⟩ := List.append_inj' whole rfl
      exact .inl ⟨rfl, (List.cons.inj last).1, rfl⟩
    · rw [List.concat_eq_append, ← List.cons_append, ← List.append_assoc] at whole
      obtain ⟨rfl, last⟩ := List.append_inj' whole rfl
      rw [List.concat_eq_append, (List.cons.inj last).1]
      exact .inr ⟨earlier, rfl, rfl⟩
  · rintro (⟨rfl, rfl, rfl⟩ | ⟨earlier, rfl, rfl⟩)
    · rfl
    · simp

/-- What has happened since is due to the last entry, or was so before it and is not ended by
it. -/
theorem since_concat :
    Since happens ends (history ++ [x]) m ↔
      happens x ∧ m = x ∨ ¬ends x ∧ Since happens ends history m := by
  simp only [Since, concat_eq_append_cons_iff]
  constructor
  · rintro ⟨before, after, ⟨-, rfl, -⟩ | ⟨earlier, rfl, whole⟩, happened, lasts⟩
    · exact .inl ⟨happened, rfl⟩
    · refine .inr ⟨lasts x (by simp), before, earlier, whole, happened, fun later member => ?_⟩
      exact lasts later (List.mem_append_left _ member)
  · rintro (⟨happened, rfl⟩ | ⟨goesOn, before, after, whole, happened, lasts⟩)
    · exact ⟨history, [], .inl ⟨rfl, rfl, rfl⟩, happened, List.forall_mem_nil _⟩
    · refine ⟨before, after ++ [x], .inr ⟨after, rfl, whole⟩, happened, fun later member => ?_⟩
      rcases List.mem_append.1 member with earlier | last
      · exact lasts later earlier
      · exact List.mem_singleton.1 last ▸ goesOn

/-- If each time that something happens ends the one before, the last one is the only one. -/
theorem since_unique {m' : α} (renews : ∀ m, happens m → ends m)
    (since : Since happens ends history m) (also : Since happens ends history m') : m = m' := by
  obtain ⟨before, after, rfl, happened, lasts⟩ := since
  obtain ⟨before', after', same, happened', lasts'⟩ := also
  rcases List.append_eq_append_iff.1 same with ⟨more, rfl, rest⟩ | ⟨more, rfl, rest⟩
  · cases more with
    | nil => exact (List.cons.inj rest).1
    | cons y more =>
      obtain ⟨rfl, rfl⟩ := List.cons.inj rest
      exact absurd (renews m' happened') (lasts m' (by simp))
  · cases more with
    | nil => exact (List.cons.inj rest).1.symm
    | cons y more =>
      obtain ⟨rfl, rfl⟩ := List.cons.inj rest
      exact absurd (renews m happened) (lasts' m (by simp))

end ClusterNode
