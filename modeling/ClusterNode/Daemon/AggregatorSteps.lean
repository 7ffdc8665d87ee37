import ClusterNode.Cluster.Aggregate
import ClusterNode.Daemon.State

/-!
# The program of an aggregator

It subscribes, reads what the nodes of its scope say, and publishes the aggregate
again with every event of a tracked node. A node joins with its first
configuration and leaves with its last; with the last node the aggregator ends,
and takes the aggregate out of the store.
-/

namespace ClusterNode

/-- What an aggregator makes of an event: where its program goes on. -/
def Aggregator.heed (a : Aggregator) (e : Event) : Aggregator :=
  match e with
  | .configDeleted _ node =>
    if a.status.contains node then
      let a := { a with status := a.status.erase node, monitors := a.monitors.erase node }
      { a with point := if a.status.isEmpty then .leaving else .publishing (some e.describe) }
    else a
  | .configUpdated _ node _ =>
    if a.status.contains node then a else { a with point := .joining node e.describe }
  | .instanceStatusUpdated _ node value =>
    if a.status.contains node then
      { a with status := a.status.insert node value, point := .publishing (some e.describe) }
    else a
  | .instanceMonitorUpdated _ node value =>
    if a.status.contains node then
      { a with monitors := a.monitors.insert node value, point := .publishing (some e.describe) }
    else a
  | _ => a

namespace Daemon

/-- Keep an aggregator. -/
def putAggregator (d : Daemon) (id : WorkerId) (a : Aggregator) : Daemon :=
  { d with aggregators := d.aggregators.insert id a }

/-- Track a node, as the store knows it. -/
def trackNode (d : Daemon) (a : Aggregator) (node : String) : Aggregator :=
  let i := d.instanceOf a.path node
  { a with
    status := a.status.insert node (i.status.getD default)
    monitors := a.monitors.insert node (i.monitor.getD default) }

/-- Subscribe to what happens to the object. -/
def subscribeAggregator (d : Daemon) (path : ObjectPath) :
    AggregatorSubscriptions × Daemon :=
  let filter : List Label := [.path path]
  let (status, d) := d.subscribe .instanceStatusUpdated filter
  let (monitor, d) := d.subscribe .instanceMonitorUpdated filter
  let (config, d) := d.subscribe .configUpdated filter
  let (configDeleted, d) := d.subscribe .configDeleted filter
  (⟨status, monitor, config, configDeleted⟩, d)

/-- The next event that an aggregator takes: those that end something come first. -/
def nextForAggregator (d : Daemon) (s : AggregatorSubscriptions) : Option (Event × Daemon) :=
  d.receive s.configDeleted <|> d.receive s.config <|> d.receive s.status <|>
    d.receive s.monitor

/-- A step of an aggregator that waits for what happens next. -/
def runAggregator (d : Daemon) (id : WorkerId) (a : Aggregator) : Option Daemon :=
  if d.cancelled then some (d.putAggregator id { a with point := .leaving })
  else
    match a.mailbox with
    | .exit :: rest => some (d.putAggregator id { a with mailbox := rest, point := .leaving })
    | .refresh :: rest => some (d.putAggregator id { a with mailbox := rest })
    | [] =>
      (d.nextForAggregator a.subscriptions).map fun (e, d) => d.putAggregator id (a.heed e)

/-- A step of an aggregator. -/
def stepAggregator (d : Daemon) (id : WorkerId) (a : Aggregator) : Option Daemon :=
  match a.point with
  | .starting =>
    let (subscriptions, d) := d.subscribeAggregator a.path
    some (d.putAggregator id { a with subscriptions, point := .tracking a.scope })
  | .tracking (node :: rest) =>
    some (d.putAggregator id { d.trackNode a node with point := .tracking rest })
  | .tracking [] =>
    let point := if a.status.isEmpty then .leaving else .publishing none
    some (d.putAggregator id { a with point })
  | .publishing source =>
    let d := d.setAggregate a.path (aggregate a.status a.monitors) source
    some (d.putAggregator id { a with point := .running })
  | .running => d.runAggregator id a
  | .joining node source =>
    some (d.putAggregator id { d.trackNode a node with point := .publishing (some source) })
  | .leaving =>
    let s := a.subscriptions
    let d := d.unsubscribe [s.status, s.monitor, s.config, s.configDeleted]
    let d := d.delAggregate a.path
    some (d.putAggregator id { a with point := .draining (d.served + d.settings.dropPending) })
  | .draining deadline =>
    if !a.mailbox.isEmpty then
      some (d.putAggregator id { a with
        mailbox := [], point := .draining (d.served + d.settings.dropPending) })
    else if deadline ≤ d.served then
      some ((d.putAggregator id { a with point := .done }).notify (.aggregatorDone a.path id))
    else none
  | .done => none

end Daemon

end ClusterNode
