import ClusterNode.Proofs.Daemon.Attention

/-!
# What a watcher publishes of its file

`Daemon.Evaluation` lists what one step of the evaluation of a file makes of the record of the
watcher, with the contents that it looked at; the store is open.

`Watcher.Knows` is what follows from it at each point of the program, where the file never gets a
time of modification that it had: what is about to be published is of one version of the file,
and differs from what was published; and while the file has the version that was evaluated last,
the watcher has published what that version says. `Watcher.Regards` says that the evaluation under
way, or done last, is that of the file as it is.
-/

namespace ClusterNode

/-- Whether a configuration says of an object what a version of its file says, on a node that
goes by some members. -/
structure InstanceConfig.IsOf (c : InstanceConfig) (v : FileVersion) (p : ObjectPath)
    (localhost : String) (members : List String) : Prop where
  checksum : c.checksum = Md5.hexDigest v.content
  updated : c.updated = v.modified
  scope : Scope.ofFile? p localhost members v.content = some c.scope

/-- A configuration with the same content is of the same versions. -/
theorem InstanceConfig.IsOf.of_sameContent {c c' : InstanceConfig} {v : FileVersion}
    {p : ObjectPath} {localhost : String} {members : List String}
    (isOf : c.IsOf v p localhost members) (same : c'.sameContent c = true) :
    c'.IsOf v p localhost members := by
  simp only [InstanceConfig.sameContent, Bool.and_eq_true, beq_iff_eq] at same
  obtain ⟨⟨updated, checksum⟩, scope⟩ := same
  exact ⟨checksum.trans isOf.checksum, updated.trans isOf.updated, by rw [scope, isOf.scope]⟩

/-- Configurations whose content is not the same differ in what they say. -/
theorem InstanceConfig.differs {c c' : InstanceConfig} (differs : c.sameContent c' = false) :
    c'.checksum ≠ c.checksum ∨ c'.updated ≠ c.updated ∨ c'.scope ≠ c.scope := by
  simp only [InstanceConfig.sameContent, Bool.and_eq_false_iff, beq_eq_false_iff_ne] at differs
  rcases differs with (updated | checksum) | scope
  · exact .inr (.inl updated.symm)
  · exact .inl checksum.symm
  · exact .inr (.inr scope.symm)

namespace Daemon

/-- What one step of the evaluation of a file makes of the record of a watcher, where the store
is open. -/
inductive Evaluation (d : Daemon) (w : Watcher) (isFirst : Bool) : CheckPoint → Watcher → Prop where
  /-- The file is gone, cannot be read or does not name the node. -/
  | giveUp {point : CheckPoint} :
      Evaluation d w isFirst point { w with point := afterCheck isFirst false }
  | unchanged {v : FileVersion} : d.fileOf w = some v → w.lastModified = some v.modified →
      w.force = false → Evaluation d w isFirst .start { w with point := afterCheck isFirst true }
  | look {v : FileVersion} : d.fileOf w = some v →
      Evaluation d w isFirst .start
        { w with force := false, point := .checking isFirst (.reading v.modified) }
  | read {modified : Timestamp} {v : FileVersion} : d.fileOf w = some v →
      Evaluation d w isFirst (.reading modified) { w with
        point := .checking isFirst (.evaluating modified (Md5.hexDigest v.content)) }
  | evaluate {modified : Timestamp} {checksum : String} {v : FileVersion} {scope : List String} :
      d.fileOf w = some v → Scope.ofFile? w.path d.localhost w.clusterNodes v.content = some scope →
      Evaluation d w isFirst (.evaluating modified checksum)
        { w with point := .checking isFirst (.confirming modified checksum scope) }
  /-- The file changed in between. -/
  | doubt {modified : Timestamp} {checksum : String} {scope : List String} {v : FileVersion} :
      d.fileOf w = some v → v.modified ≠ modified →
      Evaluation d w isFirst (.confirming modified checksum scope)
        { w with point := afterCheck isFirst true }
  /-- It was published before. -/
  | repeated {modified : Timestamp} {checksum : String} {scope : List String} {v : FileVersion} :
      d.fileOf w = some v → v.modified = modified → w.published = true →
      w.config.sameContent ⟨checksum, modified, scope, d.localhost⟩ = true →
      Evaluation d w isFirst (.confirming modified checksum scope)
        { w with lastModified := some modified, point := afterCheck isFirst true }
  | confirm {modified : Timestamp} {checksum : String} {scope : List String} {v : FileVersion} :
      d.fileOf w = some v → v.modified = modified →
      (w.published = true →
        w.config.sameContent ⟨checksum, modified, scope, d.localhost⟩ = false) →
      Evaluation d w isFirst (.confirming modified checksum scope) { w with
        lastModified := some modified
        point := .checking isFirst
          (.publishing modified ⟨checksum, modified, scope, d.localhost⟩) }
  | publish {modified : Timestamp} {config : InstanceConfig} :
      Evaluation d w isFirst (.publishing modified config)
        { w with config, published := true, point := afterCheck isFirst true }

variable {d e : Daemon} {w w' : Watcher} {isFirst : Bool} {point : CheckPoint}

/-- A step of the evaluation of a file, with what it looked at. -/
theorem stepCheck_evaluates (isOpen : d.storeOpen = true) (id : WorkerId) (w : Watcher)
    (isFirst : Bool) (point : CheckPoint) :
    ∃ w', (d.stepCheck id w isFirst point).watchers = d.watchers.insert id w' ∧
      Evaluation d w isFirst point w' := by
  cases point with
  | start =>
    simp only [stepCheck]
    split
    · exact ⟨_, rfl, .giveUp⟩
    · rename_i v found
      split
      · rename_i known
        exact ⟨_, rfl, .unchanged found known.1 (by simpa using known.2)⟩
      · exact ⟨_, rfl, .look found⟩
  | reading modified =>
    simp only [stepCheck]
    split
    · exact ⟨_, rfl, .giveUp⟩
    · rename_i v found
      exact ⟨_, rfl, .read found⟩
  | evaluating modified checksum =>
    simp only [stepCheck]
    split
    · exact ⟨_, rfl, .giveUp⟩
    · rename_i scope evaluated
      split
      · exact ⟨_, rfl, .giveUp⟩
      · obtain ⟨v, found, evaluated⟩ := Option.bind_eq_some_iff.1 evaluated
        exact ⟨_, rfl, .evaluate found evaluated⟩
  | confirming modified checksum scope =>
    simp only [stepCheck]
    split
    · exact ⟨_, rfl, .giveUp⟩
    · rename_i v found
      split
      · rename_i changed
        exact ⟨_, rfl, .doubt found changed⟩
      · rename_i same
        rw [Decidable.not_not] at same
        split
        · exact ⟨_, rfl, .giveUp⟩
        · split
          · rename_i known
            rw [Bool.and_eq_true] at known
            exact ⟨_, rfl, .repeated found same known.1 known.2⟩
          · rename_i new
            refine ⟨_, rfl, .confirm found same fun published => ?_⟩
            rw [Bool.and_eq_true] at new
            exact eq_false_of_ne_true fun known => new ⟨published, known⟩
  | publishing modified config =>
    have talks : Talks [] d (d.applyLocal (.setConfig w.path config)).1 := talks_applyLocal _
    have generation : (d.applyLocal (.setConfig w.path config)).2.isSome := by
      rw [applyLocal, if_pos isOpen]
      rfl
    obtain ⟨_, _, _, made⟩ := talks.rest
    simp only [stepCheck, generation, if_true]
    refine ⟨_, ?_, .publish⟩
    rw [made]
    rfl

/-- An evaluation keeps the members that the watcher goes by, and does not begin anew. -/
theorem Evaluation.keeps (move : Evaluation d w isFirst point w') :
    w'.clusterNodes = w.clusterNodes ∧ w'.point ≠ .starting := by
  cases move with
  | giveUp | unchanged | doubt | repeated | publish => exact ⟨rfl, (afterCheck_ne ..).1⟩
  | look | read | evaluate | confirm => exact ⟨rfl, WatcherPoint.noConfusion⟩

/-- An evaluation that does not publish keeps what was published. -/
theorem Evaluation.published (move : Evaluation d w isFirst point w')
    (silent : ∀ m c, point ≠ .publishing m c) :
    w'.published = w.published ∧ w'.config = w.config := by
  cases move with
  | publish => exact absurd rfl (silent _ _)
  | _ => exact ⟨rfl, rfl⟩

/-- A file that is there was there, or has a time of modification that it never had. -/
def Renews (file : String) (was : FileVersion → Prop) (d e : Daemon) : Prop :=
  ∀ v, e.configDirectory.read? file = some v →
    d.configDirectory.read? file = some v ∨ ∀ u, was u → u.modified ≠ v.modified

end Daemon

namespace Watcher

open Daemon

variable {was more : FileVersion → Prop} {d e : Daemon} {w w' : Watcher} {isFirst : Bool}
  {point : CheckPoint}

/-- The times that the versions of a file had. -/
def timesOf (was : FileVersion → Prop) (_ : String) (modified : Timestamp) : Prop :=
  ∃ v, was v ∧ v.modified = modified

/-- A configuration says what the file of a watcher says, while it has the version of a time. -/
def Fits (d : Daemon) (w : Watcher) (modified : Timestamp) (c : InstanceConfig) : Prop :=
  d.OfVersion w.filename modified fun v => c.IsOf v w.path d.localhost w.clusterNodes

/-- What the version evaluated last says is published, while the file has it. -/
def Presents (was : FileVersion → Prop) (d : Daemon) (w : Watcher) : Prop :=
  ∀ m, w.lastModified = some m → timesOf was w.filename m ∧
    d.OfVersion w.filename m fun v =>
      w.published = true ∧ w.config.IsOf v w.path d.localhost w.clusterNodes

/-- What a watcher knows of its file at each point of its program, given the versions that the
file had. -/
def Knows (was : FileVersion → Prop) (d : Daemon) (w : Watcher) : Prop :=
  match w.point with
  | .starting => w.lastModified = none
  | .checking _ .start => (∀ m, w.lastModified = some m → timesOf was w.filename m) ∧
      (w.force = false → w.Presents was d)
  | .checking _ (.reading m) => w.Doubts (timesOf was) d m
  | .checking _ (.evaluating m checksum) => w.Doubts (timesOf was) d m ∧
      d.OfVersion w.filename m fun v => checksum = Md5.hexDigest v.content
  | .checking _ (.confirming m checksum scope) => w.Doubts (timesOf was) d m ∧
      w.Fits d m ⟨checksum, m, scope, d.localhost⟩
  | .checking _ (.publishing m config) => w.lastModified = some m ∧
      (∃ v, was v ∧ v.modified = m ∧ config.IsOf v w.path d.localhost w.clusterNodes) ∧
      w.Fits d m config ∧ (w.published = true → w.config.sameContent config = false)
  | .launching | .running => w.Presents was d
  | _ => True

/-- The evaluation under way, or done last, is that of the file as it is. -/
def Regards (d : Daemon) (w : Watcher) : Prop :=
  match w.point with
  | .checking _ (.reading m) | .checking _ (.evaluating m _) | .checking _ (.confirming m _ _) =>
    ∃ v, d.fileOf w = some v ∧ v.modified = m
  | .checking _ (.publishing ..) | .launching | .running =>
    ∃ v, d.fileOf w = some v ∧ w.lastModified = some v.modified
  | _ => True

/-- A watcher that runs has published what it evaluated last. -/
theorem Knows.of_running (knows : w.Knows was d) (runs : w.point = .running) :
    w.Presents was d := by
  unfold Knows at knows
  rwa [runs] at knows

/-- A watcher about to publish has a configuration of some version, and one that differs from what
it published before. -/
theorem Knows.of_publishing {m : Timestamp} {config : InstanceConfig} (knows : w.Knows was d)
    (here : w.point = .checking isFirst (.publishing m config)) :
    (∃ v, was v ∧ config.IsOf v w.path d.localhost w.clusterNodes) ∧
      (w.published = true → w.config.sameContent config = false) := by
  unfold Knows at knows
  rw [here] at knows
  obtain ⟨_, ⟨v, past, _, isOf⟩, _, differs⟩ := knows
  exact ⟨⟨v, past, isOf⟩, differs⟩

/-- A watcher that runs and regards its file has evaluated it as it is. -/
theorem Regards.of_running (regards : w.Regards d) (runs : w.point = .running) :
    ∃ v, d.fileOf w = some v ∧ w.lastModified = some v.modified := by
  unfold Regards at regards
  rwa [runs] at regards

/-! ## What an evaluation keeps -/

/-- A check that keeps the watcher leaves it knowing what it has published. -/
theorem knows_afterCheck (point : w.point = afterCheck isFirst true)
    (presents : w.Presents was d) : w.Knows was d := by
  unfold Knows
  rw [point]
  cases isFirst <;> exact presents

/-- A step of an evaluation keeps what a watcher knows. -/
theorem Knows.evaluation (knows : w.Knows was d) (now : ∀ v, d.fileOf w = some v → was v)
    (here : w.point = .checking isFirst point) (move : Evaluation d w isFirst point w') :
    w'.Knows was d := by
  unfold Knows at knows
  rw [here] at knows
  cases move with
  | giveUp => cases isFirst <;> trivial
  | unchanged _ _ unforced => exact knows_afterCheck rfl (knows.2 unforced)
  | look there =>
    rename_i v
    refine ⟨⟨v, now v there, rfl⟩, fun m last => ⟨knows.1 m last, ?_⟩⟩
    by_cases same : m = v.modified
    · exact .inl same
    · right
      intro u found time
      cases there.symm.trans found
      exact same time.symm
  | read there =>
    refine ⟨knows, fun u found _ => ?_⟩
    cases there.symm.trans found
    rfl
  | evaluate there evaluated =>
    refine ⟨knows.1, fun u found time => ?_⟩
    have checksum := knows.2 u found time
    cases there.symm.trans found
    exact ⟨checksum, time.symm, evaluated⟩
  | doubt there changed =>
    refine knows_afterCheck rfl fun m last => ?_
    obtain ⟨past, same | gone⟩ := knows.1.2 m last
    · refine ⟨past, fun u found time => ?_⟩
      cases there.symm.trans found
      exact absurd (time.trans same) changed
    · exact ⟨past, gone.imp fun _ => False.elim⟩
  | repeated there time published same =>
    refine knows_afterCheck rfl fun m last => ?_
    cases last
    exact ⟨knows.1.1, knows.2.imp fun _ isOf => ⟨published, isOf.of_sameContent same⟩⟩
  | confirm there time differs =>
    rename_i v
    exact ⟨rfl, ⟨v, now v there, time, knows.2 v there time⟩, knows.2, differs⟩
  | publish =>
    obtain ⟨last, ⟨v, past, time, _⟩, fits, _⟩ := knows
    refine knows_afterCheck rfl fun m last' => ?_
    cases last.symm.trans last'
    exact ⟨⟨v, past, time⟩, fits.imp fun _ isOf => ⟨rfl, isOf⟩⟩

/-- A check that evaluated the file as it is leaves the watcher regarding it. -/
theorem regards_afterCheck {v : FileVersion} (point : w.point = afterCheck isFirst true)
    (there : d.fileOf w = some v) (last : w.lastModified = some v.modified) : w.Regards d := by
  unfold Regards
  rw [point]
  cases isFirst <;> exact ⟨v, there, last⟩

/-- A step of an evaluation is about the file as it is. -/
theorem Regards.evaluation (regards : w.Regards d) (here : w.point = .checking isFirst point)
    (move : Evaluation d w isFirst point w') : w'.Regards d := by
  unfold Regards at regards
  rw [here] at regards
  cases move with
  | giveUp => cases isFirst <;> trivial
  | unchanged there last _ => exact regards_afterCheck rfl there last
  | look there => exact ⟨_, there, rfl⟩
  | read _ => exact regards
  | evaluate _ _ => exact regards
  | doubt there changed =>
    obtain ⟨v, found, time⟩ := regards
    cases there.symm.trans found
    exact absurd time changed
  | repeated there time _ _ => exact regards_afterCheck rfl there (by rw [time])
  | confirm there time _ => exact ⟨_, there, by rw [time]⟩
  | publish =>
    obtain ⟨v, found, last⟩ := regards
    exact regards_afterCheck rfl found last

/-! ## What others keep -/

/-- A watcher knows of its file what it knew, whatever is written with new times. -/
theorem Knows.mono (knows : w.Knows was d) (localhost : e.localhost = d.localhost)
    (renews : Renews w.filename was d e) (grows : ∀ v, was v → more v) : w.Knows more e := by
  have keeps {m : Timestamp} {P : FileVersion → Prop} (past : timesOf was w.filename m)
      (holds : d.OfVersion w.filename m P) : e.OfVersion w.filename m P := by
    intro v there time
    rcases renews v there with before | new
    · exact holds v before time
    · obtain ⟨u, stood, same⟩ := past
      exact absurd (same.trans time.symm) (new u stood)
  have times {m : Timestamp} (past : timesOf was w.filename m) : timesOf more w.filename m := by
    obtain ⟨v, stood, same⟩ := past
    exact ⟨v, grows v stood, same⟩
  have presents (presents : w.Presents was d) : w.Presents more e := by
    intro m last
    obtain ⟨past, published⟩ := presents m last
    rw [localhost]
    exact ⟨times past, keeps past published⟩
  have doubts {m : Timestamp} (doubts : w.Doubts (timesOf was) d m) :
      w.Doubts (timesOf more) e m := by
    refine ⟨times doubts.1, fun m' last => ?_⟩
    obtain ⟨past, same⟩ := doubts.2 m' last
    exact ⟨times past, same.imp_right (keeps past)⟩
  unfold Knows at knows ⊢
  generalize w.point = point at knows ⊢
  cases point with
  | starting => exact knows
  | checking isFirst check =>
    cases check with
    | start =>
      exact ⟨fun m last => times (knows.1 m last), fun unforced => presents (knows.2 unforced)⟩
    | reading m => exact doubts knows
    | evaluating m checksum => exact ⟨doubts knows.1, keeps knows.1.1 knows.2⟩
    | confirming m checksum scope =>
      unfold Fits
      rw [localhost]
      exact ⟨doubts knows.1, keeps knows.1.1 knows.2⟩
    | publishing m config =>
      obtain ⟨last, ⟨v, past, time, isOf⟩, fits, differs⟩ := knows
      unfold Fits
      rw [localhost]
      exact ⟨last, ⟨v, grows v past, time, isOf⟩, keeps ⟨v, past, time⟩ fits, differs⟩
  | launching => exact presents knows
  | running => exact presents knows
  | _ => trivial

/-- The file is as it was. -/
theorem Regards.same (regards : w.Regards d) (file : e.fileOf w = d.fileOf w) : w.Regards e := by
  unfold Regards at regards ⊢
  rw [file]
  exact regards

end Watcher

end ClusterNode
