import ClusterNode.Replication.Mutation

/-!
# Replication messages

What nodes send each other: the sender's generation, the generations it has
applied of every node, and either all it says, or the changes since a generation,
or neither.
-/

namespace ClusterNode

/-- The mutations that made one generation. -/
structure Delta where
  generation : Generation
  mutations : List Mutation
  deriving DecidableEq

instance : Wire Delta where
  toJson d := Json.members [
    Json.member "gen" d.generation, Json.member "mutations" d.mutations]
  ofJson? r v := do
    let [generation, mutations] ← v.record? ["gen", "mutations"] | none
    some { generation := ← Json.required r generation, mutations := ← Json.required r mutations }

/-- What a message brings beside the generations. -/
inductive Message.Body where
  /-- All that the sender says. -/
  | full (data : NodeData)
  /-- Changes of consecutive generations, oldest first. -/
  | patch (deltas : List Delta)
  /-- Nothing: the sender is alive. -/
  | ping
  deriving DecidableEq

/-- A message between two nodes. -/
structure Message where
  nodename : String
  generation : Generation
  gens : GenerationTable
  body : Message.Body
  deriving DecidableEq

namespace Message

/-- The written kind of a body. -/
def Body.name : Body → String
  | .full _ => "full"
  | .patch _ => "patch"
  | .ping => "ping"

/-- The written kind of a message. -/
def kind (m : Message) : String := m.body.name

instance : Wire Message where
  toJson m := Json.members [
    Json.member "kind" m.kind, Json.member "nodename" m.nodename,
    Json.member "gen" m.generation, Json.member "gens" m.gens,
    match m.body with
    | .full data => Json.member "data" data
    | .patch deltas => Json.member "deltas" deltas
    | .ping => none]
  ofJson? r v := do
    let (kind, v) ← Json.tagged? "kind" ["full", "patch", "ping"] id r v
    let start := ["nodename", "gen", "gens"]
    match kind with
    | "full" => do
      let [nodename, generation, gens, data] ← v.record? (start ++ ["data"]) | none
      some {
        nodename := ← Json.required .whole nodename
        generation := ← Json.required .whole generation
        gens := ← Json.required .whole gens
        body := .full (← Json.required .whole data) }
    | "patch" => do
      let [nodename, generation, gens, deltas] ← v.record? (start ++ ["deltas"]) | none
      some {
        nodename := ← Json.required .whole nodename
        generation := ← Json.required .whole generation
        gens := ← Json.required .whole gens
        body := .patch (← Json.required .whole deltas) }
    | _ => do
      let [nodename, generation, gens] ← v.record? start | none
      some {
        nodename := ← Json.required .whole nodename
        generation := ← Json.required .whole generation
        gens := ← Json.required .whole gens
        body := .ping }

end Message

end ClusterNode
