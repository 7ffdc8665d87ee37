import ClusterNode.Daemon.State
import ClusterNode.Proofs.SortedMap

/-!
# Crews

Watchers and aggregators are staffed by one rule: the coordinator knows one worker for an object,
starts another one only when that one has ended, and forgets it when it takes its notice. A `Crew`
is what this rule is about, the same for both kinds of workers.

`Crew.Sound` is the invariant: a worker that has not ended is the one known for its object, so that
an object has one such worker at most. A worker that steps (`Crew.Turn`) and what the coordinator
does (`Crew.Managed`) both keep it. `Crew.Managed.keeps` says when a worker is forgotten.
-/

namespace ClusterNode

/-- How far a worker is. -/
inductive WorkerStage where
  | active
  /-- It has cleaned up behind itself. -/
  | retired
  | ended
  deriving DecidableEq

/-- What the coordinator has to do with of a worker. -/
structure Worker where
  path : ObjectPath
  stage : WorkerStage
  deriving DecidableEq

/-- The workers of one kind, and what the coordinator knows of them. -/
structure Crew where
  workers : WorkerId → Option Worker
  known : SortedMap ObjectPath WorkerId
  /-- The notices that are not taken, oldest first; none for those of other workers. -/
  told : List (Option (ObjectPath × WorkerId))
  nextWorker : WorkerId

namespace Crew

/-- What the coordinator knows fits the workers that there are. -/
structure Sound (k : Crew) : Prop where
  live : ∀ id v, k.workers id = some v → v.stage ≠ .ended → k.known.get? v.path = some id
  known : ∀ p id, k.known.get? p = some id → ∃ v, k.workers id = some v ∧ v.path = p
  told : ∀ p id, some (p, id) ∈ k.told → ∃ v, k.workers id = some v ∧ v.stage = .ended
  fresh : ∀ id, k.nextWorker ≤ id → k.workers id = none

/-- A worker steps. -/
structure Turn (id : WorkerId) (v v' : Worker) (k k' : Crew) : Prop where
  here : k.workers id = some v
  lives : v.stage ≠ .ended
  path : v'.path = v.path
  after : k'.workers id = some v'
  others : ∀ i, i ≠ id → k'.workers i = k.workers i
  known : k'.known = k.known
  told : ∀ p i, some (p, i) ∈ k'.told → some (p, i) ∈ k.told ∨ i = id ∧ v'.stage = .ended
  nextWorker : k'.nextWorker = k.nextWorker

/-- The coordinator leaves the workers that there are, and starts others; it forgets a worker only
when it has ended, by its own notice or for another worker. -/
structure Managed (k k' : Crew) : Prop where
  stays : ∀ id v, k.workers id = some v → k'.workers id = some v
  starts : ∀ id v, k'.workers id = some v → k.workers id = some v ∨
    k.nextWorker ≤ id ∧ id < k'.nextWorker ∧ v.stage = .active ∧ k'.known.get? v.path = some id
  keeps : ∀ p id, k.known.get? p = some id → k'.known.get? p = some id ∨
    (∃ v, k.workers id = some v ∧ v.stage = .ended) ∧
      (k'.known.get? p = none ∧ k.told.head? = some (some (p, id)) ∨
        ∃ id', k'.known.get? p = some id' ∧ k.nextWorker ≤ id')
  knows : ∀ p id, k'.known.get? p = some id → k.known.get? p = some id ∨
    k.nextWorker ≤ id ∧ ∃ v, k'.workers id = some v ∧ v.path = p
  told : ∀ p id, some (p, id) ∈ k'.told → some (p, id) ∈ k.told
  nextWorker : k.nextWorker ≤ k'.nextWorker

variable {k k' k'' : Crew} {id id' : WorkerId} {v v' : Worker} {p : ObjectPath}

/-- An object has one worker at most that has not ended. -/
theorem Sound.unique (sound : k.Sound) (here : k.workers id = some v)
    (here' : k.workers id' = some v') (path : v.path = v'.path) (lives : v.stage ≠ .ended)
    (lives' : v'.stage ≠ .ended) : id = id' := by
  have mine := sound.live id v here lives
  have theirs := sound.live id' v' here' lives'
  rw [path, theirs] at mine
  exact (Option.some.inj mine).symm

/-! ## A worker steps -/

/-- The other workers are as before, and every worker has its object. -/
theorem Turn.paths (turn : Turn id v v' k k') {i : WorkerId} {u : Worker}
    (there : k.workers i = some u) : ∃ u', k'.workers i = some u' ∧ u'.path = u.path := by
  by_cases same : i = id
  · subst same
    cases turn.here.symm.trans there
    exact ⟨v', turn.after, turn.path⟩
  · exact ⟨u, (turn.others i same).trans there, rfl⟩

/-- A turn of a worker leaves what the coordinator knows fitting. -/
theorem Sound.turn (sound : k.Sound) (turn : Turn id v v' k k') : k'.Sound where
  live i u there lives := by
    rw [turn.known]
    by_cases same : i = id
    · subst same
      cases turn.after.symm.trans there
      rw [turn.path]
      exact sound.live i v turn.here turn.lives
    · exact sound.live i u ((turn.others i same).symm.trans there) lives
  known p i known := by
    rw [turn.known] at known
    obtain ⟨u, there, path⟩ := sound.known p i known
    obtain ⟨u', there', path'⟩ := turn.paths there
    exact ⟨u', there', path'.trans path⟩
  told p i told := by
    rcases turn.told p i told with before | ⟨rfl, ended⟩
    · -- A worker of which there was a notice had ended, so it is not the one that steps.
      obtain ⟨u, there, ended⟩ := sound.told p i before
      have different : i ≠ id := by
        rintro rfl
        cases turn.here.symm.trans there
        exact turn.lives ended
      exact ⟨u, (turn.others i different).trans there, ended⟩
    · exact ⟨v', turn.after, ended⟩
  fresh i later := by
    rw [turn.nextWorker] at later
    have none := sound.fresh i later
    have different : i ≠ id := by
      rintro rfl
      cases turn.here.symm.trans none
    exact (turn.others i different).trans none

/-! ## The coordinator -/

/-- A step of the coordinator leaves what it knows fitting. -/
theorem Sound.managed (sound : k.Sound) (managed : k.Managed k') : k'.Sound where
  live i u there lives := by
    rcases managed.starts i u there with before | ⟨_, _, _, known⟩
    · rcases managed.keeps u.path i (sound.live i u before lives) with kept | ⟨⟨u', there', ended⟩, _⟩
      · exact kept
      · cases before.symm.trans there'
        exact absurd ended lives
    · exact known
  known p i known := by
    rcases managed.knows p i known with before | new
    · obtain ⟨u, there, path⟩ := sound.known p i before
      exact ⟨u, managed.stays i u there, path⟩
    · exact new.2
  told p i told := by
    obtain ⟨u, there, ended⟩ := sound.told p i (managed.told p i told)
    exact ⟨u, managed.stays i u there, ended⟩
  fresh i later := by
    cases there : k'.workers i with
    | none => rfl
    | some u =>
      rcases managed.starts i u there with before | ⟨_, below, _⟩
      · cases (sound.fresh i (Nat.le_trans managed.nextWorker later)).symm.trans before
      · exact absurd below (Nat.not_lt.2 later)

/-- The workers and what is known of them are left. -/
theorem managed_of_same (workers : k'.workers = k.workers) (known : k'.known = k.known)
    (told : ∀ p id, some (p, id) ∈ k'.told → some (p, id) ∈ k.told)
    (nextWorker : k.nextWorker ≤ k'.nextWorker) : k.Managed k' where
  stays id v here := by rw [workers, here]
  starts id v here := .inl (by rw [← workers, here])
  keeps p id here := .inl (by rw [known, here])
  knows p id here := .inl (by rw [← known, here])
  told := told
  nextWorker := nextWorker

/-- A coordinator that does nothing manages. -/
theorem Managed.refl (k : Crew) : k.Managed k :=
  managed_of_same rfl rfl (fun _ _ => id) (Nat.le_refl _)

/-- The coordinator takes the notice of a worker that it knows. -/
theorem Sound.forget (sound : k.Sound) {rest : List (Option (ObjectPath × WorkerId))}
    (first : k.told = some (p, id) :: rest) (mine : k.known.get? p = some id)
    (workers : k'.workers = k.workers) (known : k'.known = k.known.erase p)
    (told : k'.told = rest) (nextWorker : k'.nextWorker = k.nextWorker) : k.Managed k' where
  stays id v here := by rw [workers, here]
  starts id v here := .inl (by rw [← workers, here])
  keeps q i here := by
    rw [known, SortedMap.get?_erase]
    by_cases same : q = p
    · subst same
      cases mine.symm.trans here
      rw [if_pos rfl]
      refine .inr ⟨sound.told q id ?_, .inl ⟨rfl, by rw [first, List.head?_cons]⟩⟩
      rw [first]
      exact List.mem_cons_self ..
    · rw [if_neg same]
      exact .inl here
  knows q i here := by
    rw [known, SortedMap.get?_erase] at here
    split at here
    · cases here
    · exact .inl here
  told q i here := by
    rw [told] at here
    rw [first]
    exact List.mem_cons_of_mem _ here
  nextWorker := Nat.le_of_eq nextWorker.symm

/-- The coordinator starts a worker for an object whose known worker, if there is one, has
ended. -/
theorem Sound.hire (sound : k.Sound)
    (vacant : ∀ id v, k.known.get? p = some id → k.workers id = some v → v.stage = .ended)
    (new : k'.workers k.nextWorker = some ⟨p, .active⟩)
    (others : ∀ i, i ≠ k.nextWorker → k'.workers i = k.workers i)
    (known : k'.known = k.known.insert p k.nextWorker) (told : k'.told = k.told)
    (nextWorker : k'.nextWorker = k.nextWorker + 1) : k.Managed k' where
  stays i v here := by
    rw [others i, here]
    rintro rfl
    cases (sound.fresh _ (Nat.le_refl _)).symm.trans here
  starts i v here := by
    by_cases same : i = k.nextWorker
    · subst same
      cases new.symm.trans here
      refine .inr ⟨Nat.le_refl _, by rw [nextWorker]; exact Nat.lt_succ_self _, rfl, ?_⟩
      rw [known, SortedMap.get?_insert_self]
    · exact .inl ((others i same).symm.trans here)
  keeps q i here := by
    rw [known, SortedMap.get?_insert]
    by_cases same : q = p
    · subst same
      obtain ⟨v, there, _⟩ := sound.known q i here
      rw [if_pos rfl]
      exact .inr ⟨⟨v, there, vacant i v here there⟩, .inr ⟨_, rfl, Nat.le_refl _⟩⟩
    · rw [if_neg same]
      exact .inl here
  knows q i here := by
    rw [known, SortedMap.get?_insert] at here
    split at here
    · rename_i same
      cases here
      exact .inr ⟨Nat.le_refl _, _, new, same.symm⟩
    · exact .inl here
  told q i here := by rwa [told] at here
  nextWorker := by
    rw [nextWorker]
    exact Nat.le_succ _

/-- One after the other, if the first one takes no notice. -/
theorem Sound.managed_trans (sound : k.Sound) (first : k.Managed k') (second : k'.Managed k'')
    (told : k'.told = k.told) : k.Managed k'' where
  stays id v here := second.stays id v (first.stays id v here)
  starts i v here := by
    rcases second.starts i v here with before | ⟨later, below, active, known⟩
    · rcases first.starts i v before with old | ⟨later, below, active, known⟩
      · exact .inl old
      · refine .inr ⟨later, Nat.lt_of_lt_of_le below second.nextWorker, active, ?_⟩
        rcases second.keeps v.path i known with kept | ⟨⟨u, there, ended⟩, _⟩
        · exact kept
        · cases before.symm.trans there
          rw [active] at ended
          cases ended
    · exact .inr ⟨Nat.le_trans first.nextWorker later, below, active, known⟩
  keeps q i here := by
    rcases first.keeps q i here with kept | ⟨ended, gone | ⟨id', known, later⟩⟩
    · rcases second.keeps q i kept with kept' | ⟨⟨u, there, ended⟩, next⟩
      · exact .inl kept'
      · rcases first.starts i u there with before | ⟨_, _, active, _⟩
        · refine .inr ⟨⟨u, before, ended⟩, ?_⟩
          rw [told] at next
          rcases next with gone | ⟨id', known, later⟩
          · exact .inl gone
          · exact .inr ⟨id', known, Nat.le_trans first.nextWorker later⟩
        · rw [active] at ended
          cases ended
    · cases after : k''.known.get? q with
      | none => exact .inr ⟨ended, .inl ⟨rfl, gone.2⟩⟩
      | some id' =>
        rcases second.knows q id' after with before | ⟨later, _⟩
        · cases gone.1.symm.trans before
        · exact .inr ⟨ended, .inr ⟨id', rfl, Nat.le_trans first.nextWorker later⟩⟩
    · rcases second.keeps q id' known with kept | ⟨⟨u, there, ended'⟩, _⟩
      · exact .inr ⟨ended, .inr ⟨id', kept, later⟩⟩
      · -- The worker that took over has just been started, so it has not ended.
        rcases first.starts id' u there with before | ⟨_, _, active, _⟩
        · cases (sound.fresh id' later).symm.trans before
        · rw [active] at ended'
          cases ended'
  knows q i here := by
    rcases second.knows q i here with before | new
    · rcases first.knows q i before with old | ⟨later, v, there, path⟩
      · exact .inl old
      · exact .inr ⟨later, v, second.stays i v there, path⟩
    · exact .inr ⟨Nat.le_trans first.nextWorker new.1, new.2⟩
  told q i here := first.told q i (second.told q i here)
  nextWorker := Nat.le_trans first.nextWorker second.nextWorker

end Crew

end ClusterNode
