import ClusterNode.Proofs.Daemon.Hearing
import ClusterNode.Proofs.Replication.Telling
import ClusterNode.Daemon.Schedule

/-!
# What a node publishes tells what became of its records

`Daemon.Recounts` relates two states of a node: what was published in between tells of
every change of the records of instances, and the aggregates of objects were left. The
operations of the node have a lemma for it each, and so have the steps of the store, the
watchers and the monitors, none of which touches an aggregate.
-/

namespace ClusterNode

/-- Where everything of a peer was taken with written keys, it was sent with them. -/
theorem Replica.keyed_of_applyMessage {r : Replica} {m : Message} {now : Nat}
    (keyed : (r.applyMessage m now).1.Keyed) (listens : r.listensTo m.nodename = true) :
    m.body.Keyed := by
  cases body : m.body with
  | full data =>
    have taken : (r.applyMessage m now).1.status.nodes.get? m.nodename =
        some { data.publishedBy m.nodename with generation := m.generation } := by
      rw [applyMessage_eq, if_pos listens, body]
      exact applyFull_nodes (r.hear m now) m.nodename m.generation data
    intro key i found
    have published := keyed _ _ taken key
    simp only [NodeData.publishedBy, SortedMap.get?_mapValues, found] at published
    exact published _ rfl
  | patch | ping => trivial

namespace Daemon

/-- The records of all instances that the store of a node holds. -/
def records (d : Daemon) : Records := d.replica.records

/-- The aggregates that the store of a node holds. -/
def objects (d : Daemon) : SortedMap String ObjectStatus := d.replica.status.objects

/-- From one state to a later one, in which the node is as much up as before: the publications
tell of what became of the records. -/
structure Reports (news : List Publication) (d e : Daemon) : Prop where
  published : e.published = news.reverse ++ d.published
  tells : d.records.Tells news e.records
  silent : d.replica.Silent → e.replica.Silent
  cancelled : e.cancelled = d.cancelled
  storeOpen : e.storeOpen = d.storeOpen

/-- Nothing became of the aggregates, beside what the publications tell of. -/
structure Recounts (news : List Publication) (d e : Daemon) : Prop extends
    Reports news d e where
  objects : e.objects = d.objects

variable {d e f : Daemon} {news later : List Publication}

/-- One span of time after the other. -/
theorem Reports.trans (first : Reports news d e) (second : Reports later e f) :
    Reports (news ++ later) d f where
  published := by rw [second.published, first.published, List.reverse_append, List.append_assoc]
  tells := first.tells.append second.tells
  silent silent := second.silent (first.silent silent)
  cancelled := second.cancelled.trans first.cancelled
  storeOpen := second.storeOpen.trans first.storeOpen

/-- What is told of two spans of time is told of both together. -/
theorem Recounts.trans (first : Recounts news d e) (second : Recounts later e f) :
    Recounts (news ++ later) d f where
  toReports := first.toReports.trans second.toReports
  objects := second.objects.trans first.objects

/-! ## Operations -/

/-- What says nothing and leaves the subtrees has nothing to tell. -/
theorem recounts_of_nodes (published : e.published = d.published)
    (nodes : e.replica.status.nodes = d.replica.status.nodes)
    (spares : d.replica.Spares e.replica) (cancelled : e.cancelled = d.cancelled)
    (storeOpen : e.storeOpen = d.storeOpen) : Recounts [] d e where
  published := published
  tells := by
    have same : e.records = d.records := Replica.records_of_nodes nodes
    rw [same]
    exact Records.tells_nil
  objects := spares.objects
  silent := spares.silent
  cancelled := cancelled
  storeOpen := storeOpen

/-- Where nothing is published, and the store and the lifecycle are the same, there is nothing to
tell. -/
theorem recounts_of_same (published : e.published = d.published) (replica : e.replica = d.replica)
    (cancelled : e.cancelled = d.cancelled) (storeOpen : e.storeOpen = d.storeOpen) :
    Recounts [] d e :=
  recounts_of_nodes published (by rw [replica]) (by rw [replica]; exact ⟨rfl, id⟩) cancelled
    storeOpen

/-- What follows without a word and leaves the store changes nothing. -/
theorem Recounts.andThen (first : Recounts news d e) (published : f.published = e.published)
    (replica : f.replica = e.replica) (cancelled : f.cancelled = e.cancelled)
    (storeOpen : f.storeOpen = e.storeOpen) : Recounts news d f := by
  have both := first.trans (recounts_of_same published replica cancelled storeOpen)
  rwa [List.append_nil] at both

/-- What the store keeps and publishes tells of the records as the replica does. -/
theorem recounts_commit {result : Replica × List Publication}
    (tells : d.records.Tells result.2 result.1.records) (spares : d.replica.Spares result.1) :
    Recounts result.2 d (d.commit result) := by
  rw [commit_eq]
  exact ⟨⟨rfl, tells, spares.silent, rfl, rfl⟩, spares.objects⟩

/-- Whoever speaks of no record may say anything. -/
theorem recounts_publish {p : Publication} (silent : p.event.change? = none) :
    Recounts [p] d (d.publish p) :=
  ⟨⟨rfl, Records.tells_of_silent fun q new => by rw [List.mem_singleton.1 new]; exact silent, id,
    rfl, rfl⟩, rfl⟩

/-- An actor that takes an event changes nothing that there is to tell of. -/
theorem recounts_receive {i : Nat} {event : Event} (received : d.receive i = some (event, e)) :
    Recounts [] d e := by
  obtain ⟨_, _, made⟩ := Option.map_eq_some_iff.1 received
  cases made
  exact recounts_of_same rfl rfl rfl rfl

/-- A change of the own records is told of. -/
theorem applyLocal_recounts (d : Daemon) (m : Mutation) :
    ∃ news, Recounts news d (d.applyLocal m).1 := by
  unfold applyLocal
  split
  · exact ⟨_, recounts_commit (Replica.applyLocal_tells ..) (Replica.applyLocal_spares ..)⟩
  · exact ⟨[], recounts_of_same rfl rfl rfl rfl⟩

/-- The announcements that wait are handed out and published. -/
theorem takePending_recounts (silent : d.replica.Silent) :
    ∃ news, Recounts news d (d.commit d.replica.takePending) :=
  ⟨_, recounts_commit (Records.tells_of_silent silent) ⟨rfl, fun _ _ waits => by cases waits⟩⟩

/-- A change of the records of a peer is told of. -/
theorem applyRemote_recounts (silent : d.replica.Silent) (node : String) (g : Generation)
    (ms : List Mutation) : ∃ news, Recounts news d (d.applyRemote node g ms).1 := by
  have told := Replica.applyRemote_tells d.replica node g ms
  have spares := Replica.applyRemote_spares d.replica node g ms
  unfold applyRemote
  split
  · have done (result : Replica × List Publication)
        (told : d.records.Tells result.2 result.1.records) (spares : d.replica.Spares result.1) :
        ∃ news, Recounts news d
          ((d.commit result).commit (d.commit result).replica.takePending) := by
      have first := recounts_commit told spares
      obtain ⟨_, second⟩ := takePending_recounts (first.silent silent)
      exact ⟨_, first.trans second⟩
    cases made : d.replica.applyRemote node g ms with
    | mk replica result =>
      rw [made] at told spares
      cases result with
      | ok events => exact done (replica, events) told spares
      | error _ =>
        refine done (replica, []) ?_ spares
        have same : replica.records = d.records := told
        rw [same]
        exact Records.tells_nil
  · exact ⟨[], recounts_of_same rfl rfl rfl rfl⟩

/-- A message tells the truth where the keys are written, before and after. -/
theorem applyMessage_recounts (silent : d.replica.Silent) (m : Message)
    (keyed : d.replica.Keyed) (keyed' : (d.applyMessage m).1.replica.Keyed) :
    ∃ news, Recounts news d (d.applyMessage m).1 := by
  unfold applyMessage at keyed' ⊢
  split
  · rename_i isOpen
    rw [if_pos isOpen, commit_eq] at keyed'
    exact ⟨_, recounts_commit (Replica.applyMessage_tells _ keyed silent
      (Replica.keyed_of_applyMessage keyed')) (Replica.applyMessage_spares ..)⟩
  · exact ⟨[], recounts_of_same rfl rfl rfl rfl⟩

/-! ## The store, the monitors and the watchers -/

/-- What follows an own mutation without a word. -/
theorem recounts_after_applyLocal {m : Mutation} {d' : Daemon} (made : d' = (d.applyLocal m).1)
    (published : e.published = d'.published) (replica : e.replica = d'.replica)
    (cancelled : e.cancelled = d'.cancelled) (storeOpen : e.storeOpen = d'.storeOpen) :
    ∃ news, Recounts news d e := by
  obtain ⟨news, told⟩ := applyLocal_recounts d m
  rw [← made] at told
  exact ⟨news, told.andThen published replica cancelled storeOpen⟩

/-- What the heartbeat tells is about no instance. -/
theorem heedHeartbeat_recounts (d : Daemon) (event : Event) :
    Recounts [] d (d.heedHeartbeat event) := by
  unfold heedHeartbeat
  split
  · exact recounts_of_nodes rfl rfl (Replica.spares_of_eq rfl rfl) rfl rfl
  · refine recounts_of_nodes rfl (Replica.setMode_nodes ..) (Replica.spares_of_eq ?_ ?_) rfl rfl
    · simp only [Replica.setMode]
      split <;> rfl
    · simp only [Replica.setMode]
      split <;> rfl
  · exact recounts_of_same rfl rfl rfl rfl

/-- A step of the store publishes nothing. -/
theorem stepStore_recounts (stepped : d.stepStore = some e) : ∃ news, Recounts news d e := by
  unfold stepStore at stepped
  split at stepped
  · cases stepped
  · split at stepped
    · rename_i event d' received
      cases stepped
      have taken : Recounts [] d d' := by
        rw [Option.orElse_eq_orElse, Option.orElse_eq_or] at received
        rcases Option.or_eq_some_iff.1 received with one | ⟨_, other⟩
        · exact recounts_receive one
        · exact recounts_receive other
      exact ⟨_, taken.trans (heedHeartbeat_recounts d' event)⟩
    · split at stepped
      · cases stepped
        simp only [tickStore]
        split
        · refine ⟨_, recounts_of_nodes rfl ?_ (Replica.spares_of_eq ?_ ?_) rfl rfl⟩
          · exact congrArg ClusterStatus.nodes (Replica.buildMessage_status ..)
          · exact congrArg ClusterStatus.objects (Replica.buildMessage_status ..)
          · simp only [Replica.buildMessage]
            split <;> rfl
        · exact ⟨_, recounts_of_same rfl rfl rfl rfl⟩
      · cases stepped

/-- A step of a monitor makes at most one mutation. -/
theorem stepMonitor_recounts {input : MonitorInput} {id : WorkerId} {m : Monitor}
    (stepped : d.stepMonitor input id m = some e) : ∃ news, Recounts news d e := by
  unfold stepMonitor at stepped
  split at stepped
  · cases stepped
    unfold beginMonitor
    split <;> exact ⟨_, recounts_of_same rfl rfl rfl rfl⟩
  · cases stepped
    exact ⟨_, recounts_of_same rfl rfl rfl rfl⟩
  · cases stepped
    exact recounts_after_applyLocal rfl rfl rfl rfl rfl
  · split at stepped
    · cases input with
      | ending =>
        simp only [runMonitor] at stepped
        split at stepped
        · cases stepped
          exact ⟨_, recounts_of_same rfl rfl rfl rfl⟩
        · cases stepped
      | request | config =>
        simp only [runMonitor] at stepped
        split at stepped
        · rename_i received
          cases stepped
          exact ⟨_, (recounts_receive received).andThen rfl rfl rfl rfl⟩
        · rename_i received
          cases stepped
          exact ⟨_, recounts_receive received⟩
        · cases stepped
    · split at stepped
      · cases stepped
        exact ⟨_, recounts_of_same rfl rfl rfl rfl⟩
      · cases stepped
  · split at stepped
    · cases stepped
      exact ⟨_, recounts_of_same rfl rfl rfl rfl⟩
    · cases stepped
  · cases stepped
    exact recounts_after_applyLocal rfl rfl rfl rfl rfl
  · cases stepped

/-- A step of an evaluation makes at most one mutation. -/
theorem stepCheck_recounts (d : Daemon) (id : WorkerId) (w : Watcher) (isFirst : Bool)
    (point : CheckPoint) : ∃ news, Recounts news d (d.stepCheck id w isFirst point) := by
  cases point with
  | publishing _ config => exact recounts_after_applyLocal rfl rfl rfl rfl rfl
  | start =>
    simp only [stepCheck]
    split
    · exact ⟨_, recounts_of_same rfl rfl rfl rfl⟩
    · split <;> exact ⟨_, recounts_of_same rfl rfl rfl rfl⟩
  | reading modified =>
    simp only [stepCheck]
    split <;> exact ⟨_, recounts_of_same rfl rfl rfl rfl⟩
  | evaluating modified checksum =>
    simp only [stepCheck]
    split
    · exact ⟨_, recounts_of_same rfl rfl rfl rfl⟩
    · split <;> exact ⟨_, recounts_of_same rfl rfl rfl rfl⟩
  | confirming modified checksum scope =>
    simp only [stepCheck]
    split
    · exact ⟨_, recounts_of_same rfl rfl rfl rfl⟩
    · split
      · exact ⟨_, recounts_of_same rfl rfl rfl rfl⟩
      · split
        · exact ⟨_, recounts_of_same rfl rfl rfl rfl⟩
        · split <;> exact ⟨_, recounts_of_same rfl rfl rfl rfl⟩

/-- A watcher that waits takes an event, or goes on. -/
theorem runWatcher_recounts {id : WorkerId} {w : Watcher}
    (stepped : d.runWatcher id w = some e) : ∃ news, Recounts news d e := by
  unfold runWatcher at stepped
  split at stepped
  · cases stepped
    exact ⟨_, recounts_of_same rfl rfl rfl rfl⟩
  · split at stepped
    · cases stepped
      exact ⟨_, recounts_of_same rfl rfl rfl rfl⟩
    · cases stepped
      exact ⟨_, recounts_of_same rfl rfl rfl rfl⟩
    · split at stepped
      · rename_i received
        cases stepped
        exact ⟨_, (recounts_receive received).andThen rfl rfl rfl rfl⟩
      · split at stepped
        · rename_i received
          cases stepped
          exact ⟨_, (recounts_receive received).andThen rfl rfl rfl rfl⟩
        · obtain ⟨i, _, stepped⟩ := Option.bind_eq_some_iff.1 stepped
          obtain ⟨⟨event, d'⟩, received, stepped⟩ := Option.bind_eq_some_iff.1 stepped
          cases stepped
          exact ⟨_, (recounts_receive received).andThen rfl rfl rfl rfl⟩

/-- A step of a watcher makes at most one mutation. -/
theorem stepWatcher_recounts {id : WorkerId} {w : Watcher}
    (stepped : d.stepWatcher id w = some e) : ∃ news, Recounts news d e := by
  unfold stepWatcher at stepped
  split at stepped
  · cases stepped
    exact ⟨_, recounts_of_same rfl rfl rfl rfl⟩
  · cases stepped
    exact stepCheck_recounts ..
  · cases stepped
    exact ⟨_, recounts_of_same rfl rfl rfl rfl⟩
  · exact runWatcher_recounts stepped
  · split at stepped
    · cases stepped
      exact ⟨_, recounts_of_same rfl rfl rfl rfl⟩
    · split at stepped
      · cases stepped
      · cases stepped
        unfold cancelMonitor
        split <;> exact ⟨_, recounts_of_same rfl rfl rfl rfl⟩
  · cases stepped
    exact recounts_after_applyLocal rfl rfl rfl rfl rfl
  · cases stepped
    exact recounts_after_applyLocal rfl rfl rfl rfl rfl
  · cases stepped
    exact ⟨_, recounts_of_same rfl rfl rfl rfl⟩
  · split at stepped
    · cases stepped
      exact ⟨_, recounts_of_same rfl rfl rfl rfl⟩
    · split at stepped
      · cases stepped
        unfold notify
        split <;> exact ⟨_, recounts_of_same rfl rfl rfl rfl⟩
      · cases stepped
  · cases stepped

end Daemon

end ClusterNode
