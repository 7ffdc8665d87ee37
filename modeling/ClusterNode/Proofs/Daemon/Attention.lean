import ClusterNode.Proofs.Daemon.Membership

/-!
# What a watcher knows of its file

A watcher evaluates its file in several steps, and the file may change between them. Two
readings of the time of modification guard the evaluation: because no time comes twice,
a file that shows the same time before and after was the same all along.

`Watcher.Sound` is what follows for the record of a watcher at each point of its program:
while the file has the version that was evaluated last, that version names the node.
`Watcher.Minds` says that the evaluation done last, or under way, is that of a version.
All of it speaks of a version only while it is there, which is `Daemon.OfVersion`.
-/

namespace ClusterNode

/-- Whether a version of a configuration file names the node among those that host the
object. -/
def FileVersion.Hosts (v : FileVersion) (p : ObjectPath) (localhost : String)
    (members : List String) : Prop :=
  ∃ scope, Scope.ofFile? p localhost members v.content = some scope ∧ localhost ∈ scope

instance (v : FileVersion) (p : ObjectPath) (localhost : String) (members : List String) :
    Decidable (v.Hosts p localhost members) :=
  inferInstanceAs (Decidable (∃ scope,
    scope ∈ Scope.ofFile? p localhost members v.content ∧ localhost ∈ scope))

/-- The cluster object lists its nodes itself. -/
theorem FileVersion.hosts_of_isCluster {v : FileVersion} {p : ObjectPath} {localhost : String}
    {known members : List String} (isCluster : p.isCluster)
    (hosts : v.Hosts p localhost known) : v.Hosts p localhost members := by
  obtain ⟨scope, evaluated, mine⟩ := hosts
  refine ⟨scope, ?_, mine⟩
  rw [← evaluated]
  unfold Scope.ofFile?
  congr 1
  funext settings
  simp [Scope.ofSettings, isCluster]

namespace Daemon

/-- What holds of the version of a file with a time of modification, while it is there. -/
def OfVersion (d : Daemon) (file : String) (modified : Timestamp) (P : FileVersion → Prop) :
    Prop :=
  ∀ v, d.configDirectory.read? file = some v → v.modified = modified → P v

/-- Every version that is there was there before, or has a new time of modification. -/
def Ages (used : String → Timestamp → Prop) (d e : Daemon) : Prop :=
  ∀ file v, e.configDirectory.read? file = some v →
    d.configDirectory.read? file = some v ∨ ¬ used file v.modified

variable {used : String → Timestamp → Prop} {d e : Daemon} {file : String}
  {modified : Timestamp} {P Q : FileVersion → Prop}

/-- Nothing new comes up with a time that was used. -/
theorem OfVersion.ages (holds : d.OfVersion file modified P) (ages : Ages used d e)
    (past : used file modified) : e.OfVersion file modified P := by
  intro v there time
  rcases ages file v there with before | new
  · exact holds v before time
  · exact absurd (time ▸ past) new

/-- What follows from what holds of a version holds of it too. -/
theorem OfVersion.imp (holds : d.OfVersion file modified P) (imp : ∀ v, P v → Q v) :
    d.OfVersion file modified Q :=
  fun v there time => imp v (holds v there time)

/-- What holds of a version holds of it wherever the directory is the same. -/
theorem OfVersion.same (holds : d.OfVersion file modified P)
    (directory : e.configDirectory = d.configDirectory) : e.OfVersion file modified P := by
  intro v there
  rw [directory] at there
  exact holds v there

end Daemon

namespace Watcher

open Daemon

/-! ## Records -/

/-- The evaluation under way, or done last, is that of the version of a time. -/
def Minds (w : Watcher) (modified : Timestamp) : Prop :=
  match w.point with
  | .checking _ (.reading m) | .checking _ (.evaluating m _) | .checking _ (.confirming m _ _) =>
    m = modified
  | .checking _ (.publishing ..) | .launching | .running => w.lastModified = some modified
  | _ => True

/-- The version evaluated last names the node. -/
def Vouches (used : String → Timestamp → Prop) (d : Daemon) (w : Watcher) : Prop :=
  ∀ m, w.lastModified = some m → used w.filename m ∧
    d.OfVersion w.filename m fun v => v.Hosts w.path d.localhost w.clusterNodes

/-- An evaluation is under way; the version evaluated last is the same, or is gone. -/
def Doubts (used : String → Timestamp → Prop) (d : Daemon) (w : Watcher)
    (modified : Timestamp) : Prop :=
  used w.filename modified ∧ ∀ m, w.lastModified = some m → used w.filename m ∧
    (m = modified ∨ d.OfVersion w.filename m fun _ => False)

/-- What a watcher knows of its file at each point of its program. -/
def Sound (used : String → Timestamp → Prop) (d : Daemon) (w : Watcher) : Prop :=
  match w.point with
  | .starting => w.lastModified = none
  | .checking _ .start =>
    (∀ m, w.lastModified = some m → used w.filename m) ∧ (w.force = false → w.Vouches used d)
  | .checking _ (.reading m) | .checking _ (.evaluating m _) => w.Doubts used d m
  | .checking _ (.confirming m _ scope) => w.Doubts used d m ∧
    d.OfVersion w.filename m fun v =>
      Scope.ofFile? w.path d.localhost w.clusterNodes v.content = some scope
  | .checking _ (.publishing ..) | .launching | .running => w.Vouches used d
  | _ => True

variable {used more : String → Timestamp → Prop} {d e : Daemon} {w w' : Watcher}

/-! ## What a step of an evaluation keeps -/

/-- Where an evaluation leads to when it passed. -/
theorem sound_afterCheck {isFirst : Bool} (point : w.point = afterCheck isFirst true)
    (vouches : w.Vouches used d) : w.Sound used d := by
  unfold Sound
  rw [point]
  cases isFirst <;> exact vouches

/-- A check that keeps the watcher leaves it minding the version that it evaluated last. -/
theorem minds_afterCheck {isFirst : Bool} {modified : Timestamp}
    (point : w.point = afterCheck isFirst true) (last : w.lastModified = some modified) :
    w.Minds modified := by
  unfold Minds
  rw [point]
  cases isFirst <;> exact last

/-- A step of an evaluation keeps what a watcher knows. -/
theorem Sound.check {isFirst : Bool} {point : CheckPoint} (sound : w.Sound used d)
    (now : ∀ file v, d.configDirectory.read? file = some v → used file v.modified)
    (here : w.point = .checking isFirst point) (move : CheckMove d w isFirst point w') :
    w'.Sound used d := by
  unfold Sound at sound
  rw [here] at sound
  cases move with
  | giveUp => cases isFirst <;> trivial
  | unchanged _ _ unforced => exact sound_afterCheck rfl (sound.2 unforced)
  | look there =>
    rename_i v
    refine ⟨now _ _ there, fun m last => ⟨sound.1 m last, ?_⟩⟩
    by_cases same : m = v.modified
    · exact .inl same
    · right
      intro u found time
      cases there.symm.trans found
      exact same time.symm
  | read => exact sound
  | evaluate evaluated =>
    refine ⟨sound, fun v there _ => ?_⟩
    obtain ⟨u, found, scope⟩ := Option.bind_eq_some_iff.1 evaluated
    cases found.symm.trans there
    exact scope
  | doubt there changed =>
    refine sound_afterCheck rfl fun m last => ?_
    obtain ⟨past, same | gone⟩ := sound.1.2 m last
    · refine ⟨past, fun v found time => ?_⟩
      cases there.symm.trans found
      exact absurd (time.trans same) changed
    · exact ⟨past, gone.imp fun _ => False.elim⟩
  | confirm there same mine next =>
    rename_i v point
    have vouches : Vouches used d { w with lastModified := some v.modified, point } := by
      intro m last
      cases last
      refine ⟨same ▸ sound.1.1, fun u found time => ?_⟩
      exact ⟨_, sound.2 u found (time.trans same), mine⟩
    subst same
    rcases next with rfl | ⟨config, rfl⟩
    · exact sound_afterCheck rfl vouches
    · exact vouches
  | publish => exact sound_afterCheck rfl sound

/-- A step of an evaluation is about the version that is there. -/
theorem minds_check {isFirst : Bool} {point : CheckPoint} {modified : Timestamp}
    (minds : d.OfVersion w.filename modified fun _ => w.Minds modified)
    (here : w.point = .checking isFirst point) (move : CheckMove d w isFirst point w') :
    d.OfVersion w.filename modified fun _ => w'.Minds modified := by
  intro u found time
  have minds : w.Minds modified := minds u found time
  unfold Minds at minds
  rw [here] at minds
  cases move with
  | giveUp => cases isFirst <;> trivial
  | unchanged there last _ =>
    cases there.symm.trans found
    exact minds_afterCheck rfl (time ▸ last)
  | look there =>
    cases there.symm.trans found
    exact time
  | read => exact minds
  | evaluate _ => exact minds
  | doubt there changed =>
    cases there.symm.trans found
    exact absurd (time.trans minds.symm) changed
  | confirm there same _ next =>
    cases minds
    rcases next with rfl | ⟨config, rfl⟩
    · exact minds_afterCheck rfl rfl
    · exact rfl
  | publish => exact minds_afterCheck rfl minds

end Watcher

end ClusterNode
