import ClusterNode.Daemon.State
import ClusterNode.Http.ObjectRequest
import ClusterNode.Http.Request
import ClusterNode.RequestError

/-!
# The HTTP interface of a node

It tells whether the node is up and ready, shows the cluster tree, and passes the
requests of an operator on to the monitor of a local instance. A request of an
operator goes onto the bus, and is answered before anything came of it.
-/

namespace ClusterNode.Http

/-- An answer: its status, and its body if it succeeded. -/
structure Answer where
  status : Nat
  body : Option Json

/-- An answer that succeeded. -/
def Answer.ok (body : Json) : Answer := ⟨200, some body⟩

/-- An answer without a body. -/
def Answer.refusal (status : Nat) : Answer := ⟨status, none⟩

/-- What a request can be about. -/
inductive Route where
  | health
  | ready
  | status
  | abort
  | clear
  deriving DecidableEq, Repr

namespace Route

/-- The path of a route. -/
def path : Route → String
  | .health => "/health"
  | .ready => "/ready"
  | .status => "/daemon/status"
  | .abort => "/object/abort"
  | .clear => "/object/clear"

/-- Every route. -/
def all : List Route := [.health, .ready, .status, .abort, .clear]

/-- The route of a path. -/
def ofPath? (path : String) : Option Route := all.find? (·.path == path)

/-- The methods that a route answers to. -/
def methods : Route → List String
  | .health | .ready | .status => ["GET", "HEAD"]
  | .abort | .clear => ["POST"]

end Route

end ClusterNode.Http

namespace ClusterNode.Daemon

open ClusterNode.Http

/-- The version that a node says it has. -/
def version : String := "0.1.0"

/-- How long the node is up. -/
def uptimeSeconds (d : Daemon) : Nat := d.clock / 1000

/-- Whether the node is up. -/
def answerHealth (d : Daemon) : Answer :=
  .ok (.obj [("status", .str "ok"), ("version", .str version), ("nodename", .str d.localhost),
    ("uptime_secs", .nat d.uptimeSeconds)])

/-- Whether the node can be used: it is not going down, and the store answers. -/
def answerReady (d : Daemon) : Answer :=
  if d.cancelled || !d.storeOpen then .refusal 503
  else
    .ok (.obj [("status", .str "ready"), ("store", .bool true),
      ("subscribers", .nat d.bus.count)])

/-- The part of the cluster tree that a query asks for. -/
def answerStatus (d : Daemon) (t : Target) : Answer :=
  let form := t.form
  match Target.value? form "selector", Target.value? form "namespace" with
  | some selector, some space =>
    if d.storeOpen then .ok (toJson (d.replica.snapshot selector space)) else .refusal 503
  | _, _ => .refusal 400

/-- Where the requests of an operator come from. -/
def operatorLabel : Label := ⟨"from", "api"⟩

/-- Pass a request on, or refuse it. -/
def requestUpdate (d : Daemon) (path : String) (u : MonitorUpdate) :
    Daemon × Except RequestError ObjectPath :=
  if d.cancelled then (d, .error .shuttingDown)
  else
    match ObjectPath.parse path with
    | .error e => (d, .error (.invalidInput e))
    | .ok p =>
      (d.publish ⟨.setInstanceMonitor p d.localhost u,
        [.path p, .node d.localhost, operatorLabel]⟩, .ok p)

/-- Answer a request about the monitor of an instance. -/
def answerUpdate (d : Daemon) (r : Request) (u : MonitorUpdate) : Daemon × Answer :=
  if (r.contentType.bind MediaType.parse?).any (·.isJson) then
    match ObjectRequest.parse r.body with
    | .error e => (d, .refusal e.status)
    | .ok path =>
      match d.requestUpdate path u with
      | (d, .error e) => (d, .refusal e.status)
      | (d, .ok p) =>
        (d, .ok (.obj [("path", .str p.toString), ("node", .str d.localhost)]))
  else (d, .refusal 415)

/-- Answer a request on a route. -/
def answerRoute (d : Daemon) (r : Request) : Route → Daemon × Answer
  | .health => (d, d.answerHealth)
  | .ready => (d, d.answerReady)
  | .status => (d, d.answerStatus r.target)
  | .abort => d.answerUpdate r ⟨some .aborted, none⟩
  | .clear => d.answerUpdate r ⟨none, some .idle⟩

/-- Answer a request. One for the head of an answer gets no body. -/
def answer (d : Daemon) (r : Request) : Daemon × Answer :=
  match Route.ofPath? r.target.path with
  | none => (d, .refusal 404)
  | some route =>
    if route.methods.contains r.method then
      let (d, a) := d.answerRoute r route
      (d, if r.method = "HEAD" then { a with body := none } else a)
    else (d, .refusal 405)

end ClusterNode.Daemon
