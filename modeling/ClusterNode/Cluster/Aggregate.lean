import ClusterNode.Object.Instance

/-!
# The aggregate of an object

One `ObjectStatus` is computed from what the nodes of an object say of their
instances. Every part of it reads the records as a set, so the order of the nodes
plays no part. A node without a status is no instance yet: its monitor is not
asked about the placement.
-/

namespace ClusterNode

namespace Aggregate

/-- The availability that instances vote for: a warning wins over `up`, and `up`
over `down`; all other statuses abstain. -/
def avail (votes : List Status) : Status :=
  if votes.contains .warn then .warn
  else if votes.contains .up then .up
  else if votes.contains .down then .down
  else (.undef : Status)

/-- The overall status: a warning of the availability, or else the join. -/
def overall (avail : Status) (votes : List Status) : Status :=
  if avail = .warn then .warn else votes.foldl Status.add (.undef : Status)

/-- How many of the instances are frozen. -/
def frozen (votes : List Bool) : Frozen :=
  if votes.isEmpty then .notApplicable
  else if votes.all id then .frozen
  else if votes.any id then .mixed
  else .thawed

/-- The availabilities that suit an instance in its role. -/
def expected (isLeader : Bool) : List Status :=
  if isLeader then [.up, .notApplicable] else [.down, .notApplicable]

/-- Whether each instance with a monitor is where its role wants it. -/
def placements (status : SortedMap String InstanceStatus)
    (monitors : SortedMap String InstanceMonitor) : List Bool :=
  monitors.entries.filterMap fun (node, m) =>
    (status.get? node).map fun s => (expected m.isLeader).contains s.avail

/-- The placement: optimal if every instance is where its role wants it. -/
def placement (votes : List Bool) : Placement :=
  if votes.isEmpty then .notApplicable
  else if votes.all id then .optimal
  else .nonOptimal

end Aggregate

/-- The aggregate of the records of the nodes. -/
def aggregate (status : SortedMap String InstanceStatus)
    (monitors : SortedMap String InstanceMonitor) : ObjectStatus :=
  let avail := Aggregate.avail (status.values.map (·.avail))
  { avail
    overall := Aggregate.overall avail (status.values.map (·.overall))
    provisioned := (status.values.map (·.provisioned)).foldl Provisioned.and .undef
    frozen := Aggregate.frozen (status.values.map (·.isFrozen))
    placement := Aggregate.placement (Aggregate.placements status monitors) }

end ClusterNode
