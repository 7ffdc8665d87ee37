import ClusterNode.Proofs.Daemon.CoordinatorMoves

/-!
# Scans of the configuration directory

`ConfigDirectory.scan_sound` and `ConfigDirectory.scan_complete` say what a scan finds:
for every object with a file one of its files, as it is.

A scan that is applied tells of the files that are gone, and then takes the new and the
changed ones, one after the other. `Daemon.applyScan_induction` follows it, and
`Daemon.startWatcher_cases` says what a watcher is when it is started.
-/

namespace ClusterNode

namespace ConfigDirectory

/-! ## What a scan finds -/

/-- One file that a scan comes upon. -/
def note (found : SortedMap ObjectPath ConfigFile) (e : String × FileVersion) :
    SortedMap ObjectPath ConfigFile :=
  match objectOf? e.1 with
  | none => found
  | some p =>
    match found.get? p with
    | some known =>
      if depth e.1 < depth known.filename then found
      else found.insert p ⟨e.1, e.2.modified⟩
    | none => found.insert p ⟨e.1, e.2.modified⟩

/-- A scan comes upon the files one after the other. -/
theorem scan_eq {dir : ConfigDirectory} {found : SortedMap ObjectPath ConfigFile}
    (scanned : dir.scan = some found) : found = dir.files.entries.foldl note ∅ := by
  cases dir with
  | plainFile => cases scanned
  | missing =>
    cases scanned
    rfl
  | tree files directories =>
    cases scanned
    rfl

variable {found : SortedMap ObjectPath ConfigFile} {p : ObjectPath} {f : ConfigFile}

/-- A file that a scan comes upon is kept for its object, unless one was kept before; the
other objects are not concerned. -/
theorem get?_note {e : String × FileVersion} (here : (note found e).get? p = some f) :
    found.get? p = some f ∨ (objectOf? e.1 = some p ∧ f = ⟨e.1, e.2.modified⟩) := by
  have inserted {q : ObjectPath} (object : objectOf? e.1 = some q)
      (here : (found.insert q ⟨e.1, e.2.modified⟩).get? p = some f) :
      found.get? p = some f ∨ (objectOf? e.1 = some p ∧ f = ⟨e.1, e.2.modified⟩) := by
    rw [SortedMap.get?_insert] at here
    split at here
    · rename_i same
      cases here
      exact .inr ⟨by rw [object, same], rfl⟩
    · exact .inl here
  unfold note at here
  split at here
  · exact .inl here
  · rename_i q object
    split at here
    · split at here
      · exact .inl here
      · exact inserted object here
    · exact inserted object here

/-- No object is lost when a scan comes upon a file, and the object of the file is found. -/
theorem note_finds {e : String × FileVersion}
    (known : (∃ f, found.get? p = some f) ∨ objectOf? e.1 = some p) :
    ∃ f, (note found e).get? p = some f := by
  have inserted (q : ObjectPath) (known : (∃ f, found.get? p = some f) ∨ q = p) :
      ∃ f, (found.insert q ⟨e.1, e.2.modified⟩).get? p = some f := by
    by_cases same : p = q
    · subst same
      exact ⟨_, SortedMap.get?_insert_self ..⟩
    · rw [SortedMap.get?_insert_of_ne _ _ same]
      exact known.resolve_right fun eq => same eq.symm
  unfold note
  split
  · rename_i none
    rcases known with known | object
    · exact known
    · rw [none] at object
      cases object
  · rename_i q object
    have known : (∃ f, found.get? p = some f) ∨ q = p := by
      rcases known with known | mine
      · exact .inl known
      · rw [object] at mine
        exact .inr (Option.some.inj mine)
    split
    · rename_i there found
      split
      · rcases known with known | rfl
        · exact known
        · exact ⟨_, found⟩
      · exact inserted q known
    · exact inserted q known

/-- What a scan finds is a file of the object, as it is. -/
theorem scan_sound {dir : ConfigDirectory} (scanned : dir.scan = some found)
    (here : found.get? p = some f) :
    ∃ v, dir.read? f.filename = some v ∧ objectOf? f.filename = some p ∧
      f.modified = v.modified := by
  have fold (l : List (String × FileVersion)) (acc : SortedMap ObjectPath ConfigFile)
      (here : (l.foldl note acc).get? p = some f) :
      acc.get? p = some f ∨ ∃ e ∈ l, objectOf? e.1 = some p ∧ f = ⟨e.1, e.2.modified⟩ := by
    induction l generalizing acc with
    | nil => exact .inl here
    | cons e l ih =>
      rcases ih _ here with before | ⟨e', member, object⟩
      · rcases get?_note before with before | object
        · exact .inl before
        · exact .inr ⟨e, List.mem_cons_self .., object⟩
      · exact .inr ⟨e', List.mem_cons_of_mem _ member, object⟩
  rw [scan_eq scanned] at here
  rcases fold _ _ here with none | ⟨e, member, object, rfl⟩
  · cases none
  · exact ⟨e.2, SortedMap.get?_eq_some_iff.2 member, object, rfl⟩

/-- A scan finds every object that has a file. -/
theorem scan_complete {dir : ConfigDirectory} (scanned : dir.scan = some found) {file : String}
    {v : FileVersion} (there : dir.read? file = some v) (object : objectOf? file = some p) :
    ∃ f, found.get? p = some f := by
  have fold (l : List (String × FileVersion)) (acc : SortedMap ObjectPath ConfigFile)
      (known : (∃ f, acc.get? p = some f) ∨ ∃ e ∈ l, objectOf? e.1 = some p) :
      ∃ f, (l.foldl note acc).get? p = some f := by
    induction l generalizing acc with
    | nil =>
      rcases known with known | ⟨e, member, _⟩
      · exact known
      · cases member
    | cons e l ih =>
      refine ih _ ?_
      rcases known with known | ⟨e', member, object⟩
      · exact .inl (note_finds (.inl known))
      · rcases List.mem_cons.1 member with rfl | later
        · exact .inl (note_finds (.inr object))
        · exact .inr ⟨e', later, object⟩
  rw [scan_eq scanned]
  exact fold _ _ (.inr ⟨(file, v), SortedMap.get?_eq_some_iff.1 there, object⟩)

/-- Where the files of an object have one name, a scan finds its version. -/
theorem scan_time {dir : ConfigDirectory} (scanned : dir.scan = some found) {file : String}
    (named : ∀ name v, dir.read? name = some v → objectOf? name = some p → name = file)
    (object : objectOf? file = some p) :
    (found.get? p).map (·.modified) = (dir.read? file).map (·.modified) := by
  cases stands : dir.read? file with
  | none =>
    have absent : found.get? p = none := by
      rw [Option.eq_none_iff_forall_ne_some]
      intro f here
      obtain ⟨v, there, object', _⟩ := scan_sound scanned here
      rw [named _ v there object', stands] at there
      cases there
    rw [absent]
    rfl
  | some v =>
    obtain ⟨f, here⟩ := scan_complete scanned stands object
    obtain ⟨u, there, object', time⟩ := scan_sound scanned here
    rw [named _ u there object', stands] at there
    cases there
    rw [here, Option.map_some, Option.map_some, time]

end ConfigDirectory

/-- What the coordinator knows when it has told of the files that are gone. -/
def Coordinator.forgetGone (c : Coordinator) (found : SortedMap ObjectPath ConfigFile) :
    Coordinator :=
  { c with files := c.files.filter fun p _ => found.contains p }

namespace Daemon

variable {d e : Daemon} {c : Coordinator} {p : ObjectPath} {f : ConfigFile}
  {found : SortedMap ObjectPath ConfigFile}

/-! ## Watchers that are started -/

/-- A watcher that has just been started: it is subscribed, and knows nothing yet. -/
structure Started (p : ObjectPath) (filename : String) (d e : Daemon) (w : Watcher) : Prop where
  path : w.path = p
  filename : w.filename = filename
  point : w.point = .starting
  lastModified : w.lastModified = none
  unpublished : w.published = false
  updated : e.bus.find? w.subscriptions.updated =
    some ⟨w.subscriptions.updated, .configFileUpdated, [.path p], [], 0⟩
  removed : e.bus.find? w.subscriptions.removed =
    some ⟨w.subscriptions.removed, .configFileRemoved, [.path p], [], 0⟩
  cluster : (w.subscriptions.cluster = none ∧ p.isCluster) ∨
    ∃ i, w.subscriptions.cluster = some i ∧
      e.bus.find? i = some ⟨i, .clusterConfigUpdated, [.node d.localhost], [], 0⟩
  ids : Keeps [] w.subscriptions.ids d e
  replica : e.replica = d.replica
  published : e.published = d.published

/-- The start of a watcher: it gets the next number, and subscribes before it is kept. -/
theorem startWatcher_cases (numbered : d.bus.Numbered) (p : ObjectPath) (filename : String) :
    ∃ d' w, Talks [] d d' ∧ Started p filename d d' w ∧
      d.startWatcher p filename = (d.nextWorker, { d' with
        watchers := d.watchers.insert d.nextWorker w
        nextWorker := d.nextWorker + 1 }) := by
  let d₁ := (d.subscribe .configFileUpdated [.path p]).2
  let d₂ := (d₁.subscribe .configFileRemoved [.path p]).2
  have first : Talks [] d d₁ := talks_subscribe ..
  have second : Talks [] d d₂ := first.trans (talks_subscribe ..)
  have numbered₁ : d₁.bus.Numbered := numbered_subscribe numbered ..
  have numbered₂ : d₂.bus.Numbered := numbered_subscribe numbered₁ ..
  have updated : d₂.bus.find? d.bus.nextId =
      some ⟨d.bus.nextId, .configFileUpdated, [.path p], [], 0⟩ :=
    Bus.find?_subscribe_of_some (Bus.find?_subscribe_new numbered ..) ..
  have removed : d₂.bus.find? (d.bus.nextId + 1) =
      some ⟨d.bus.nextId + 1, .configFileRemoved, [.path p], [], 0⟩ :=
    Bus.find?_subscribe_new numbered₁ ..
  by_cases isCluster : p.isCluster
  · refine ⟨d₂, ⟨p, filename, .starting, [], default, none, false, false, [],
      ⟨d.bus.nextId, d.bus.nextId + 1, none⟩⟩, second,
      ⟨rfl, rfl, rfl, rfl, rfl, updated, removed, .inl ⟨rfl, isCluster⟩, ?_, rfl, rfl⟩, ?_⟩
    · intro i mine
      change i ∈ [d.bus.nextId, d.bus.nextId + 1] at mine
      change _ ∨ _ ∨ (_ ∧ i < d.bus.nextId + 1 + 1)
      simp only [List.mem_cons, List.not_mem_nil, or_false] at mine
      omega
    · simp only [startWatcher, isCluster, if_true]
      rfl
  · let d₃ := (d₂.subscribe .clusterConfigUpdated [.node d.localhost]).2
    have third : Talks [] d d₃ := second.trans (talks_subscribe ..)
    refine ⟨d₃, ⟨p, filename, .starting, [], default, none, false, false, [],
      ⟨d.bus.nextId, d.bus.nextId + 1, some (d.bus.nextId + 2)⟩⟩, third,
      ⟨rfl, rfl, rfl, rfl, rfl, Bus.find?_subscribe_of_some updated ..,
        Bus.find?_subscribe_of_some removed ..,
        .inr ⟨_, rfl, Bus.find?_subscribe_new numbered₂ ..⟩, ?_, rfl, rfl⟩, ?_⟩
    · intro i mine
      change i ∈ [d.bus.nextId, d.bus.nextId + 1, d.bus.nextId + 2] at mine
      change _ ∨ _ ∨ (_ ∧ i < d.bus.nextId + 1 + 1 + 1)
      simp only [List.mem_cons, List.not_mem_nil, or_false] at mine
      omega
    · simp only [startWatcher, isCluster]
      rfl

/-! ## Scans that are applied -/

/-- The events of the files that a scan did not find any more. -/
def goneFiles (c : Coordinator) (found : SortedMap ObjectPath ConfigFile) : List Publication :=
  (c.files.entries.filter fun e => !found.contains e.1).map fun e =>
    .ofPath (.configFileRemoved e.1 e.2.filename) e.1

/-- A scan that is applied, file by file. -/
theorem applyScan_files {motive : Daemon → Coordinator → Prop}
    (gone : motive (d.publishAll (goneFiles c found)) (c.forgetGone found))
    (take : ∀ d' c' p f, found.get? p = some f →
      (∀ known, (c.forgetGone found).files.get? p = some known → known.modified ≠ f.modified) →
      motive d' c' → motive (d'.takeFile c' p f).1 (d'.takeFile c' p f).2) :
    ∃ d' c', motive d' c' ∧
      d.applyScan c found = d'.putCoordinator { c' with
        point := .looking (c'.watchers.keys.filter fun p => !p.isCluster) } := by
  have told (l : List (ObjectPath × ConfigFile)) (d : Daemon) :
      l.foldl (fun d e => d.tellGone e.1 e.2) d =
        d.publishAll (l.map fun e => .ofPath (.configFileRemoved e.1 e.2.filename) e.1) := by
    induction l generalizing d with
    | nil => rfl
    | cons e l ih => exact ih _
  have taken (l : List (ObjectPath × ConfigFile)) (dc : Daemon × Coordinator)
      (all : ∀ e ∈ l, found.get? e.1 = some e.2 ∧ ∀ known,
        (c.forgetGone found).files.get? e.1 = some known → known.modified ≠ e.2.modified)
      (holds : motive dc.1 dc.2) :
      motive (l.foldl (fun (dc : Daemon × Coordinator) e => takeFile dc.1 dc.2 e.1 e.2) dc).1
        (l.foldl (fun (dc : Daemon × Coordinator) e => takeFile dc.1 dc.2 e.1 e.2) dc).2 := by
    induction l generalizing dc with
    | nil => exact holds
    | cons e l ih =>
      refine ih _ (fun e' later => all e' (List.mem_cons_of_mem _ later)) ?_
      obtain ⟨here, differs⟩ := all e (List.mem_cons_self ..)
      exact take _ _ _ _ here differs holds
  refine ⟨_, _, taken (found.entries.filter fun e =>
    ((c.forgetGone found).files.get? e.1).all fun known => known.modified != e.2.modified)
      (d.publishAll (goneFiles c found), c.forgetGone found) ?_ gone, ?_⟩
  · intro e member
    obtain ⟨listed, differs⟩ := List.mem_filter.1 member
    refine ⟨SortedMap.get?_eq_some_iff.2 listed, fun known there => ?_⟩
    simpa [there] using differs
  · unfold applyScan goneFiles
    rw [← told]
    rfl

/-! ## Files that are taken -/

/-- A watcher that has not ended is told of its file. -/
theorem takeFile_told (watched : d.watches c p) :
    d.takeFile c p f =
      (d.publish (.ofPath (.configFileUpdated p f.filename) p),
        { c with files := c.files.insert p f }) := by
  unfold takeFile
  exact if_pos watched

/-- Where no watcher is, one is started. -/
theorem takeFile_started (numbered : d.bus.Numbered) (unwatched : ¬ d.watches c p) :
    ∃ d' w, Talks [] d d' ∧ Started p f.filename d d' w ∧
      d.takeFile c p f =
        ({ d' with
          watchers := d.watchers.insert d.nextWorker w
          nextWorker := d.nextWorker + 1 },
        { c with
          files := c.files.insert p f
          watchers := c.watchers.insert p d.nextWorker }) := by
  obtain ⟨d', w, talks, started, made⟩ := startWatcher_cases numbered p f.filename
  refine ⟨d', w, talks, started, ?_⟩
  unfold takeFile
  rw [if_neg (show ¬ d.watches { c with files := c.files.insert p f } p from unwatched), made]

/-- A file that is found leaves the coordinator where it is in its program. -/
theorem takeFile_point : (d.takeFile c p f).2.point = c.point := by
  unfold takeFile
  dsimp only
  split <;> rfl

/-- What a scan that is applied leaves as it was: all but the bus, the files and watchers
that the coordinator knows, and the watchers that are started. -/
structure Scans (d e : Daemon) (c c' : Coordinator) : Prop where
  spares : Spares [] d e
  settings : e.settings = d.settings
  configDirectory : e.configDirectory = d.configDirectory
  takesNotices : e.takesNotices = d.takesNotices
  notices : e.notices = d.notices
  coordinator : e.coordinator = d.coordinator
  replica : e.replica = d.replica
  ids : c'.ids = c.ids

/-- What two parts of a scan leave the whole scan leaves. -/
theorem Scans.trans {f : Daemon} {c' c'' : Coordinator} (first : Scans d e c c')
    (second : Scans e f c' c'') : Scans d f c c'' where
  spares := first.spares.trans second.spares
  settings := second.settings.trans first.settings
  configDirectory := second.configDirectory.trans first.configDirectory
  takesNotices := second.takesNotices.trans first.takesNotices
  notices := second.notices.trans first.notices
  coordinator := second.coordinator.trans first.coordinator
  replica := second.replica.trans first.replica
  ids := second.ids.trans first.ids

/-- To tell of the files that are gone is part of applying a scan. -/
theorem scans_gone : Scans d (d.publishAll (goneFiles c found)) c (c.forgetGone found) := by
  have spares : Spares [] d (d.publishAll (goneFiles c found)) := ⟨_, leaves_publishAll _⟩
  rw [publishAll_eq] at spares ⊢
  exact ⟨spares, rfl, rfl, rfl, rfl, rfl, rfl, rfl⟩

/-- A file that is taken gives no actor a subscription of another one. -/
theorem takeFile_scans (apart : d.Apart) :
    Scans d (d.takeFile c p f).1 c (d.takeFile c p f).2 ∧ (d.takeFile c p f).1.Apart := by
  by_cases watched : d.watches c p
  · rw [takeFile_told watched]
    have talks : Talks [] d (d.publish (.ofPath (.configFileUpdated p f.filename) p)) :=
      talks_publish _
    exact ⟨⟨talks.spares, rfl, rfl, rfl, rfl, rfl, rfl, rfl⟩,
      apart.grants (talks.grants .coordinator)⟩
  · obtain ⟨d', w, talks, started, made⟩ :=
      takeFile_started (f := f) apart.numbered watched
    rw [made]
    have grants : Grants (.watcher d.nextWorker) d { d' with
        watchers := d.watchers.insert d.nextWorker w
        nextWorker := d.nextWorker + 1 } := by
      refine talks.grantsWith rfl ?_ ?_
      · intro i mine
        have fresh : i ∈ w.subscriptions.ids := by simpa [owned] using mine
        rcases started.ids i fresh with zero | none | new
        · exact .inl zero
        · cases none
        · exact .inr (.inr new)
      · intro b different i has
        right
        obtain ⟨_, _, _, rfl⟩ := talks.rest
        cases b with
        | watcher k =>
          have other : k ≠ d.nextWorker := fun same => different (by rw [same])
          simpa [owned, SortedMap.get?_insert_of_ne _ _ other] using has
        | _ => exact has
    refine ⟨?_, apart.grants grants⟩
    have spares := talks.spares
    have replica := started.replica
    obtain ⟨_, _, _, rfl⟩ := talks.rest
    exact ⟨spares.andThen rfl rfl, rfl, rfl, rfl, rfl, rfl, replica, rfl⟩

/-- What taking a file is where no watcher is, seen from the state after it. -/
theorem takeFile_starts (numbered : d.bus.Numbered) (unwatched : ¬ d.watches c p) :
    ∃ w, Started p f.filename d (d.takeFile c p f).1 w ∧
      (d.takeFile c p f).1.watchers = d.watchers.insert d.nextWorker w ∧
      (d.takeFile c p f).1.nextWorker = d.nextWorker + 1 ∧
      (d.takeFile c p f).2 = { c with
        files := c.files.insert p f
        watchers := c.watchers.insert p d.nextWorker } := by
  obtain ⟨d', w, _, started, made⟩ := takeFile_started (f := f) numbered unwatched
  rw [made]
  exact ⟨w, ⟨started.path, started.filename, started.point, started.lastModified,
    started.unpublished, started.updated, started.removed, started.cluster, started.ids,
    started.replica, started.published⟩, rfl, rfl, rfl⟩

/-- A scan that is applied, step by step: what holds when the files that are gone are told
of, and is kept by every file that is taken, holds in the end. -/
theorem applyScan_induction (apart : d.Apart) (c : Coordinator)
    (found : SortedMap ObjectPath ConfigFile) {motive : Daemon → Coordinator → Prop}
    (gone : motive (d.publishAll (goneFiles c found)) (c.forgetGone found))
    (take : ∀ d' c' p f, d'.Apart → Scans d d' c c' → found.get? p = some f →
      (∀ known, (c.forgetGone found).files.get? p = some known → known.modified ≠ f.modified) →
      motive d' c' → motive (d'.takeFile c' p f).1 (d'.takeFile c' p f).2) :
    ∃ d' c' rest, motive d' c' ∧ Scans d d' c c' ∧ d'.Apart ∧
      d.applyScan c found = d'.putCoordinator { c' with point := .looking rest } := by
  have told : Talks [] d (d.publishAll (goneFiles c found)) := talks_publishAll _
  obtain ⟨d', c', ⟨holds, scans, apart'⟩, made⟩ := applyScan_files
    (motive := fun d' c' => motive d' c' ∧ Scans d d' c c' ∧ d'.Apart)
    ⟨gone, scans_gone, apart.grants (told.grants .coordinator)⟩ (by
      intro d' c' p f here differs ⟨holds, scans, apart'⟩
      obtain ⟨more, apart''⟩ := takeFile_scans (c := c') (p := p) (f := f) apart'
      exact ⟨take d' c' p f apart' scans here differs holds, scans.trans more, apart''⟩)
  exact ⟨d', c', _, holds, scans, apart', made⟩

end Daemon

end ClusterNode
