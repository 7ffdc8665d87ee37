import ClusterNode.Proofs.Daemon.Run

/-!
# The watchers that the coordinator knows

`Roster` relates what the coordinator knows of its watchers with the watchers that there
are. A watcher that has not ended is the one known for its object, so that an object has
one such watcher at most; a known watcher that has ended has a notice on its way.

The coordinator is a parameter of its own, because a scan that is applied changes what it
knows before it keeps its record.
-/

namespace ClusterNode.Daemon

/-- What the coordinator knows of its watchers fits the watchers that there are. -/
structure Roster (d : Daemon) (c : Coordinator) : Prop where
  live : ∀ id w, d.watchers.get? id = some w → w.point ≠ .done → c.watchers.get? w.path = some id
  known : ∀ p id, c.watchers.get? p = some id → ∃ w, d.watchers.get? id = some w ∧ w.path = p ∧
    (w.point = .done → ∃ filename, Notice.watcherDone p filename id ∈ d.notices)
  ended : ∀ p filename id, Notice.watcherDone p filename id ∈ d.notices →
    ∃ w, d.watchers.get? id = some w ∧ w.point = .done
  fresh : ∀ id, d.nextWorker ≤ id → d.watchers.get? id = none

variable {d e : Daemon} {c c' : Coordinator} {id : WorkerId} {w w' : Watcher}
  {p : ObjectPath} {f : ConfigFile}

/-- A known watcher has not ended exactly if the coordinator watches the object. -/
theorem watches_iff :
    d.watches c p ↔ ∃ id w, c.watchers.get? p = some id ∧ d.watchers.get? id = some w ∧
      w.point ≠ .done := by
  unfold watches watcher?
  rw [Option.isSome_iff_exists]
  constructor
  · rintro ⟨w, found⟩
    obtain ⟨id, known, found⟩ := Option.bind_eq_some_iff.1 found
    obtain ⟨found, lives⟩ := Option.filter_eq_some_iff.1 found
    exact ⟨id, w, known, found, by simpa using lives⟩
  · rintro ⟨id, w, known, found, lives⟩
    refine ⟨w, Option.bind_eq_some_iff.2 ⟨id, known, ?_⟩⟩
    exact Option.filter_eq_some_iff.2 ⟨found, by simpa using lives⟩

/-- Where nothing is watched no watcher lives. -/
theorem Roster.watches_of_live (roster : Roster d c) (here : d.watchers.get? id = some w)
    (lives : w.point ≠ .done) : d.watches c w.path :=
  watches_iff.2 ⟨id, w, roster.live id w here lives, here, lives⟩

/-! ## What keeps it -/

/-- What a step that is aside leaves. -/
theorem Roster.aside {own : List Nat} (roster : Roster d c) (bystands : Bystands own d e) :
    Roster e c := by
  obtain ⟨ended, notices, kind⟩ := bystands.notices
  constructor
  · rw [bystands.watchers]
    exact roster.live
  · rw [bystands.watchers]
    intro p id known
    obtain ⟨w, here, path, done⟩ := roster.known p id known
    refine ⟨w, here, path, fun point => ?_⟩
    obtain ⟨filename, pending⟩ := done point
    exact ⟨filename, notices ▸ List.mem_append_left _ pending⟩
  · rw [bystands.watchers, notices]
    intro p filename id pending
    rcases List.mem_append.1 pending with before | new
    · exact roster.ended p filename id before
    · obtain ⟨_, _, other⟩ := kind _ new
      cases other
  · rw [bystands.watchers, bystands.nextWorker]
    exact roster.fresh

/-- A watcher that steps stays known, and tells when it has ended. -/
theorem Roster.turns (roster : Roster d c) (here : d.watchers.get? id = some w)
    (lives : w.point ≠ .done) (takes : d.takesNotices = true) (turns : Turns id w w' d e) :
    Roster e c := by
  have mine : e.watchers.get? id = some w' := by
    rw [turns.watchers]
    exact SortedMap.get?_insert_self ..
  have others (k : WorkerId) (different : k ≠ id) : e.watchers.get? k = d.watchers.get? k := by
    rw [turns.watchers]
    exact SortedMap.get?_insert_of_ne _ _ different
  have grows {n : Notice} (pending : n ∈ d.notices) : n ∈ e.notices := by
    rcases turns.notices with ⟨_, same⟩ | ⟨_, told⟩
    · rwa [same]
    · rw [told takes]
      exact List.mem_append_left _ pending
  constructor
  · intro k v there lives'
    by_cases same : k = id
    · subst same
      rw [mine] at there
      cases there
      rw [turns.path]
      exact roster.live k w here lives
    · rw [others k same] at there
      exact roster.live k v there lives'
  · intro p k known
    obtain ⟨v, there, path, done⟩ := roster.known p k known
    by_cases same : k = id
    · subst same
      rw [here] at there
      cases there
      refine ⟨w', mine, turns.path.trans path, fun point => ?_⟩
      rcases turns.notices with ⟨other, _⟩ | ⟨_, told⟩
      · exact absurd point other
      · exact ⟨w.filename, by rw [told takes, ← path]; simp⟩
    · refine ⟨v, by rw [others k same]; exact there, path, fun point => ?_⟩
      obtain ⟨filename, pending⟩ := done point
      exact ⟨filename, grows pending⟩
  · intro p filename k pending
    -- A notice that was pending is of a watcher that had ended, so not of this one.
    have before (pending : Notice.watcherDone p filename k ∈ d.notices) :
        ∃ v, e.watchers.get? k = some v ∧ v.point = .done := by
      obtain ⟨v, there, done⟩ := roster.ended p filename k pending
      have different : k ≠ id := by
        rintro rfl
        rw [here] at there
        cases there
        exact lives done
      exact ⟨v, by rw [others k different]; exact there, done⟩
    rcases turns.notices with ⟨_, same⟩ | ⟨done, told⟩
    · exact before (same ▸ pending)
    · rw [told takes] at pending
      rcases List.mem_append.1 pending with old | new
      · exact before old
      · cases List.mem_singleton.1 new
        exact ⟨w', mine, done⟩
  · intro k later
    rw [turns.nextWorker] at later
    have none := roster.fresh k later
    rw [others k (by rintro rfl; rw [here] at none; cases none)]
    exact none

/-- What the coordinator does apart from scans: it may forget a watcher that has ended. -/
theorem Roster.moves (roster : Roster d c) (move : CoordinatorMove d c c' e)
    (directs : Directs c c' d e) : Roster e c' := by
  have fresh : ∀ id, e.nextWorker ≤ id → e.watchers.get? id = none := by
    intro id later
    rw [directs.watchers]
    exact roster.fresh id (Nat.le_trans directs.nextWorker later)
  -- What follows when the coordinator knows the same watchers as before.
  have same (watchers : c'.watchers = c.watchers)
      (notices : e.notices = d.notices ∨ ∃ n, d.notices = n :: e.notices ∧
        ∀ p filename id, n = .watcherDone p filename id → c.watchers.get? p ≠ some id) :
      Roster e c' := by
    refine ⟨?_, ?_, ?_, fresh⟩
    · rw [directs.watchers, watchers]
      exact roster.live
    · rw [directs.watchers, watchers]
      intro p id known
      obtain ⟨w, here, path, done⟩ := roster.known p id known
      refine ⟨w, here, path, fun point => ?_⟩
      obtain ⟨filename, pending⟩ := done point
      refine ⟨filename, ?_⟩
      rcases notices with same | ⟨n, first, other⟩
      · rwa [same]
      · rw [first] at pending
        rcases List.mem_cons.1 pending with rfl | later
        · exact absurd known (other p filename id rfl)
        · exact later
    · rw [directs.watchers]
      intro p filename id pending
      refine roster.ended p filename id ?_
      rcases notices with same | ⟨n, first, _⟩
      · rwa [← same]
      · rw [first]
        exact List.mem_cons_of_mem _ pending
  cases move with
  | begin _ _ watchers _ notices => exact same watchers (.inl notices)
  | retry _ _ notices _ => exact same rfl (.inl notices)
  | look _ _ notices _ => exact same rfl (.inl notices)
  | proceed _ _ watchers _ _ notices _ => exact same watchers notices
  | forget _ first known notices _ =>
    rename_i p filename id rest _ _
    subst notices
    obtain ⟨gone, there, done⟩ := roster.ended p filename id (first ▸ List.mem_cons_self ..)
    refine ⟨?_, ?_, ?_, fresh⟩
    · rw [directs.watchers]
      intro k v here lives
      have mine := roster.live k v here lives
      have different : v.path ≠ p := by
        intro same
        rw [same, known] at mine
        cases mine
        rw [there] at here
        cases here
        exact lives done
      simpa [SortedMap.get?_erase, different] using mine
    · rw [directs.watchers]
      intro q k known'
      have known' : q ≠ p ∧ c.watchers.get? q = some k := by
        simpa [SortedMap.get?_erase] using known'
      obtain ⟨v, here, path, done⟩ := roster.known q k known'.2
      refine ⟨v, here, path, fun point => ?_⟩
      obtain ⟨filename', pending⟩ := done point
      refine ⟨filename', ?_⟩
      rw [first] at pending
      rcases List.mem_cons.1 pending with head | later
      · cases head
        exact absurd rfl known'.1
      · exact later
    · rw [directs.watchers]
      intro q filename' k pending
      exact roster.ended q filename' k (first ▸ List.mem_cons_of_mem _ pending)

/-- The watchers are the same, and so is what is known of them. -/
theorem Roster.same (roster : Roster d c) (watchers : e.watchers = d.watchers)
    (notices : e.notices = d.notices) (nextWorker : e.nextWorker = d.nextWorker)
    (known : c'.watchers = c.watchers) : Roster e c' := by
  constructor
  · rw [watchers, known]
    exact roster.live
  · rw [watchers, known, notices]
    exact roster.known
  · rw [watchers, notices]
    exact roster.ended
  · rw [watchers, nextWorker]
    exact roster.fresh

/-- A watcher is started only where none lives, so that it is the only one. -/
theorem Roster.takeFile (roster : Roster d c) (apart : d.Apart) :
    Roster (d.takeFile c p f).1 (d.takeFile c p f).2 := by
  by_cases watched : d.watches c p
  · rw [takeFile_told watched]
    exact roster.same rfl rfl rfl rfl
  obtain ⟨w, started, watchers, nextWorker, made⟩ :=
    takeFile_starts (f := f) apart.numbered watched
  have notices := (takeFile_scans (c := c) (p := p) (f := f) apart).1.notices
  generalize (d.takeFile c p f).1 = e at *
  rw [made]
  have unused : d.watchers.get? d.nextWorker = none := roster.fresh _ (Nat.le_refl _)
  have mine : e.watchers.get? d.nextWorker = some w := by
    rw [watchers]
    exact SortedMap.get?_insert_self ..
  have others {k : WorkerId} (different : k ≠ d.nextWorker) :
      e.watchers.get? k = d.watchers.get? k := by
    rw [watchers]
    exact SortedMap.get?_insert_of_ne _ _ different
  have kept {k : WorkerId} {v : Watcher} (here : d.watchers.get? k = some v) :
      e.watchers.get? k = some v := by
    rw [others, here]
    rintro rfl
    cases unused.symm.trans here
  constructor
  · intro k v here lives
    change (c.watchers.insert p d.nextWorker).get? v.path = some k
    by_cases new : k = d.nextWorker
    · subst new
      cases mine.symm.trans here
      rw [started.path]
      exact SortedMap.get?_insert_self ..
    · rw [others new] at here
      have different : v.path ≠ p := by
        rintro same
        exact watched (same ▸ roster.watches_of_live here lives)
      rw [SortedMap.get?_insert_of_ne _ _ different]
      exact roster.live k v here lives
  · intro q k known
    change (c.watchers.insert p d.nextWorker).get? q = some k at known
    rw [notices]
    rw [SortedMap.get?_insert] at known
    split at known
    · rename_i same
      cases known
      refine ⟨w, mine, by rw [started.path, same], fun done => ?_⟩
      rw [started.point] at done
      cases done
    · obtain ⟨v, here, rest⟩ := roster.known q k known
      exact ⟨v, kept here, rest⟩
  · intro q filename k pending
    rw [notices] at pending
    obtain ⟨v, here, done⟩ := roster.ended q filename k pending
    exact ⟨v, kept here, done⟩
  · intro k later
    rw [nextWorker] at later
    rw [others (Nat.ne_of_gt later)]
    exact roster.fresh k (Nat.le_of_succ_le later)

/-- Files that are gone concern no watcher. -/
theorem Roster.gone (roster : Roster d c) {found : SortedMap ObjectPath ConfigFile} :
    Roster (d.publishAll (goneFiles c found)) (c.forgetGone found) := by
  rw [publishAll_eq]
  exact roster.same rfl rfl rfl rfl

/-- A scan that is applied. -/
theorem Roster.applyScan (roster : Roster d c) (apart : d.Apart)
    (found : SortedMap ObjectPath ConfigFile) :
    ∃ c', (d.applyScan c found).coordinator = some c' ∧ Roster (d.applyScan c found) c' := by
  obtain ⟨d', c', rest, roster', _, _, made⟩ := applyScan_induction apart c found
    (motive := Roster) roster.gone
    fun _ _ _ _ apart' _ _ _ roster' => roster'.takeFile apart'
  rw [made]
  exact ⟨_, rfl, roster'.same rfl rfl rfl rfl⟩

/-! ## Runs -/

/-- The roster fits in every state of a run. -/
theorem Run.roster {s : DaemonSettings} {startedAt : Timestamp} {past : List Daemon}
    (run : Run (Daemon.new s startedAt).startCoordinator past d)
    (here : d.coordinator = some c) : Roster d c := by
  induction run generalizing c with
  | start =>
    cases here
    have none (id : WorkerId) :
        (Daemon.new s startedAt).startCoordinator.watchers.get? id = none :=
      SortedMap.get?_empty id
    refine ⟨?_, ?_, ?_, fun id _ => none id⟩
    · intro id w here
      rw [none] at here
      cases here
    · intro p id known
      cases known
    · intro p filename id pending
      cases pending
  | step before step stays isOpen _ ih =>
    have steady := before.steady
    rcases step.cases steady stays isOpen with
      ⟨a, _, _, bystands, _⟩ | ⟨files, rfl⟩ | ⟨id, w, w', there, lives, _, turns⟩ |
        ⟨c', here', moves⟩
    · exact (ih (bystands.coordinator.symm.trans here)).aside bystands
    · exact (ih here).same rfl rfl rfl rfl
    · exact (ih (turns.coordinator.symm.trans here)).turns there lives steady.takesNotices turns
    · rcases moves with ⟨c'', move, directs⟩ | ⟨found, _, rfl⟩
      · cases directs.coordinator.symm.trans here
        exact (ih here').moves move directs
      · obtain ⟨c'', now, roster⟩ := (ih here').applyScan steady.apart found
        cases now.symm.trans here
        exact roster

end ClusterNode.Daemon
