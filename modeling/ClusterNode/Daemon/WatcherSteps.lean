import ClusterNode.Crypto.Md5
import ClusterNode.Daemon.State
import ClusterNode.Scope
import ClusterNode.Text.Lossy

/-!
# The program of a watcher

It evaluates its file, and publishes the configuration of the local instance. After
the first evaluation it runs a monitor, and evaluates the file again when it or the
membership changes. The time of modification is read before and after: if it
changed in between, nothing is published and the next event is waited for.

When the file is gone, cannot be read or does not name the node, the watcher ends,
and the configuration and the status of the local instance are deleted.
-/

namespace ClusterNode.Daemon

/-- Keep a watcher. -/
def putWatcher (d : Daemon) (id : WorkerId) (w : Watcher) : Daemon :=
  { d with watchers := d.watchers.insert id w }

/-- Where a watcher goes on after a check. -/
def afterCheck (isFirst passed : Bool) : WatcherPoint :=
  match isFirst, passed with
  | true, true => .launching
  | true, false => .finishing
  | false, true => .running
  | false, false => .stopping

/-- The file of a watcher. -/
def fileOf (d : Daemon) (w : Watcher) : Option FileVersion :=
  d.configDirectory.read? w.filename

/-- The scope that the file of a watcher gives; none if it cannot be read. -/
def scopeOf (d : Daemon) (w : Watcher) : Option (List String) := do
  let file ← d.fileOf w
  Scope.ofFile? w.path d.localhost w.clusterNodes file.content

/-- A step of the evaluation of the file. -/
def stepCheck (d : Daemon) (id : WorkerId) (w : Watcher) (isFirst : Bool) :
    CheckPoint → Daemon
  | .start =>
    match d.fileOf w with
    | none => d.putWatcher id { w with point := afterCheck isFirst false }
    | some file =>
      if w.lastModified = some file.modified ∧ !w.force then
        d.putWatcher id { w with point := afterCheck isFirst true }
      else
        d.putWatcher id { w with
          force := false, point := .checking isFirst (.reading file.modified) }
  | .reading modified =>
    match d.fileOf w with
    | none => d.putWatcher id { w with point := afterCheck isFirst false }
    | some file =>
      let checksum := Md5.hexDigest file.content
      d.putWatcher id { w with point := .checking isFirst (.evaluating modified checksum) }
  | .evaluating modified checksum =>
    match d.scopeOf w with
    | none => d.putWatcher id { w with point := afterCheck isFirst false }
    | some scope =>
      if scope.isEmpty then d.putWatcher id { w with point := afterCheck isFirst false }
      else
        d.putWatcher id { w with
          point := .checking isFirst (.confirming modified checksum scope) }
  | .confirming modified checksum scope =>
    match d.fileOf w with
    | none => d.putWatcher id { w with point := afterCheck isFirst false }
    | some file =>
      if file.modified ≠ modified then
        d.putWatcher id { w with point := afterCheck isFirst true }
      else if !scope.contains d.localhost then
        d.putWatcher id { w with point := afterCheck isFirst false }
      else
        let config : InstanceConfig := ⟨checksum, modified, scope, d.localhost⟩
        let w := { w with lastModified := some modified }
        if w.published && w.config.sameContent config then
          d.putWatcher id { w with point := afterCheck isFirst true }
        else
          d.putWatcher id { w with point := .checking isFirst (.publishing modified config) }
  | .publishing _ config =>
    let (d, generation) := d.applyLocal (.setConfig w.path config)
    let w := if generation.isSome then { w with config, published := true } else w
    d.putWatcher id { w with point := afterCheck isFirst true }

/-- Start the check of a watcher that runs. -/
def recheck (w : Watcher) : Watcher := { w with point := .checking false .start }

/-- The next step of a watcher on a change of the membership. -/
def heedMembers (d : Daemon) (id : WorkerId) (w : Watcher) : Option Daemon := do
  let (e, d) ← d.receive (← w.subscriptions.cluster)
  let clusterNodes := match e with
    | .clusterConfigUpdated _ value => value.nodes
    | _ => w.clusterNodes
  some (d.putWatcher id (recheck { w with clusterNodes, force := true }))

/-- Whether the monitor of a watcher has ended. -/
def monitorEnded (d : Daemon) (id : WorkerId) : Bool :=
  (d.monitors.get? id).all fun m => m.point == .ended

/-- A step of a watcher that waits for what happens next. -/
def runWatcher (d : Daemon) (id : WorkerId) (w : Watcher) : Option Daemon :=
  if d.cancelled || d.monitorEnded id then some (d.putWatcher id { w with point := .stopping })
  else
    match w.mailbox with
    | .exit :: rest => some (d.putWatcher id { w with mailbox := rest, point := .stopping })
    | .refresh :: rest =>
      some (d.putWatcher id (recheck { w with mailbox := rest, force := true }))
    | [] =>
      match d.receive w.subscriptions.removed with
      | some (_, d) => some (d.putWatcher id { w with point := .stopping })
      | none =>
        match d.receive w.subscriptions.updated with
        | some (_, d) => some (d.putWatcher id (recheck w))
        | none => d.heedMembers id w

/-- Start the monitor of a watcher. -/
def launchMonitor (d : Daemon) (id : WorkerId) (w : Watcher) : Daemon :=
  let m : Monitor :=
    { kind := d.settings.monitor, path := w.path, scope := w.config.scope, point := .starting,
      record := default, cancelled := false, requests := 0, configs := 0 }
  { d with monitors := d.monitors.insert id m }

/-- Tell the monitor of a watcher to end. -/
def cancelMonitor (d : Daemon) (id : WorkerId) : Daemon :=
  match d.monitors.get? id with
  | some m => { d with monitors := d.monitors.insert id { m with cancelled := true } }
  | none => d

/-- A step of a watcher. -/
def stepWatcher (d : Daemon) (id : WorkerId) (w : Watcher) : Option Daemon :=
  match w.point with
  | .starting =>
    let clusterNodes := if d.storeOpen then d.replica.members else w.clusterNodes
    some (d.putWatcher id { w with clusterNodes, point := .checking true .start })
  | .checking isFirst point => some (d.stepCheck id w isFirst point)
  | .launching => some ((d.launchMonitor id w).putWatcher id { w with point := .running })
  | .running => d.runWatcher id w
  | .stopping =>
    if d.monitorEnded id then
      let point := if w.published then .deletingConfig else .deletingStatus
      some (d.putWatcher id { w with point })
    else if (d.monitors.get? id).all (·.cancelled) then none
    else some (d.cancelMonitor id)
  | .deletingConfig =>
    let (d, _) := d.applyLocal (.delConfig w.path)
    some (d.putWatcher id { w with published := false, point := .deletingStatus })
  | .deletingStatus =>
    let (d, _) := d.applyLocal (.delStatus w.path)
    some (d.putWatcher id { w with point := .finishing })
  | .finishing =>
    let s := w.subscriptions
    let d := d.unsubscribe ([s.updated, s.removed] ++ s.cluster.toList)
    some (d.putWatcher id { w with point := .draining (d.served + d.settings.dropPending) })
  | .draining deadline =>
    if !w.mailbox.isEmpty then
      some (d.putWatcher id { w with
        mailbox := [], point := .draining (d.served + d.settings.dropPending) })
    else if deadline ≤ d.served then
      some ((d.putWatcher id { w with point := .done }).notify
        (.watcherDone w.path w.filename id))
    else none
  | .done => none

end ClusterNode.Daemon
