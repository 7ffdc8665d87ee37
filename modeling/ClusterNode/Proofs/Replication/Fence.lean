import ClusterNode.Proofs.Replication.Acknowledgement
import ClusterNode.Proofs.Replication.Course

/-!
# The fence around a peer that is wanted in full

A peer is flagged when what it sends does not follow what was applied of it, or when it falls
back to full mode (`Operation.Flags`, which `operate_resync` shows to be all such
operations). Until everything of it arrives nothing of it changes (`operate_fenced`), and it is
asked for everything once at most: `Replica.wishes` bounds how often that can still be told, and
no operation raises the bound (`operate_wishes`).
-/

namespace ClusterNode

/-- The node that an event asks everything of. -/
def Event.asked? : Event → Option String
  | .resyncRequested node _ _ => some node
  | _ => none

/-- How often publications ask everything of a node. -/
def asked (p : String) (news : List Publication) : Nat :=
  news.countP fun new => new.event.asked? == some p

@[simp] theorem asked_nil (p : String) : asked p [] = 0 := rfl

@[simp] theorem asked_append (p : String) (first later : List Publication) :
    asked p (first ++ later) = asked p first + asked p later := List.countP_append

/-- Publications that ask nothing of anyone. -/
def Quiet (news : List Publication) : Prop := ∀ new ∈ news, new.event.asked? = none

/-- Quiet publications ask nothing of a peer. -/
theorem Quiet.asked {news : List Publication} (quiet : Quiet news) (p : String) :
    asked p news = 0 := by
  refine List.countP_eq_zero.2 fun new member => ?_
  rw [quiet new member]
  simp

/-! ## Events about records -/

namespace Instance

/-- Deletions ask nothing. -/
theorem delConfig_quiet (i : Instance) (node : String) (p : ObjectPath) :
    Quiet (i.delConfig node p).2 := by
  intro new member
  simp only [delConfig, List.mem_append] at member
  rcases member with (member | member) | member
  all_goals
    split at member
    · cases List.mem_singleton.1 member
      rfl
    · cases member

/-- A new configuration asks nothing. -/
theorem setConfig_quiet (i : Instance) (name node : String) (p : ObjectPath)
    (v : InstanceConfig) : Quiet (i.setConfig name node p v).2 := by
  intro new member
  simp only [setConfig] at member
  split at member
  · cases member
  · rcases List.mem_cons.1 member with rfl | announced
    · rfl
    · split at announced
      · cases List.mem_singleton.1 announced
        rfl
      · cases announced

/-- Mutations ask nothing. -/
theorem mutate_quiet (i : Instance) (name node : String) (m : Mutation) :
    Quiet (i.mutate name node m).2 := by
  intro new member
  cases m with
  | setConfig p v =>
    simp only [mutate] at member
    split at member
    · exact delConfig_quiet i node p new member
    · exact setConfig_quiet i name node p v new member
  | delConfig p => exact delConfig_quiet i node p new member
  | setStatus p v | setMonitor p v | delStatus p | delMonitor p =>
    simp only [mutate] at member
    split at member <;> simp_all [Publication.ofInstance, Event.asked?]

/-- Differences ask nothing. -/
theorem difference_quiet (node : String) (p : ObjectPath) (before after : Instance) :
    Quiet (before.difference node p after) := by
  intro new member
  obtain ⟨e, here, rfl⟩ := List.mem_map.1 member
  simp only [List.mem_append] at here
  rcases here with (here | here) | here
  all_goals
    unfold recordDifference at here
    split at here
    · split at here
      · cases here
      · cases List.mem_singleton.1 here
        rfl
    · cases List.mem_singleton.1 here
      rfl
    · cases here

end Instance

/-- What mutations of a peer publish asks nothing of anyone. -/
theorem ClusterStatus.mutateAll_quiet (s : ClusterStatus) (node : String) (ms : List Mutation) :
    Quiet (s.mutateAll node ms).2 := by
  induction ms generalizing s with
  | nil => exact fun new member => by cases member
  | cons m ms ih =>
    intro new member
    rcases List.mem_append.1 member with first | later
    · have first : new ∈ (s.mutate node m).2 := first
      rw [mutate_events] at first
      exact Instance.mutate_quiet _ _ _ _ new first
    · exact ih _ new later

/-- What tells the difference of two subtrees asks nothing of anyone. -/
theorem NodeData.difference_quiet (node : String) (before after : NodeData) :
    Quiet (difference node before after) := by
  intro new member
  obtain ⟨key, _, here⟩ := List.mem_flatMap.1 member
  split at here
  · exact Instance.difference_quiet _ _ _ _ new here
  · cases here

namespace Replica

variable {r s : Replica} {node p : String} {o : Operation} {past : List Moment}

/-! ## Flags -/

/-- How far the changes of a patch lead from a generation: repetitions are passed over, and a
change that does not follow ends it. -/
def reach (applied : Generation) : List Delta → Option Generation
  | [] => some applied
  | d :: ds =>
    if d.generation ≤ applied then reach applied ds
    else if d.generation = applied + 1 then reach d.generation ds
    else none

/-- What flags a peer: changes that are not in sync or leave a gap, a patch that goes backward
or does not lead to its own generation, another generation than the one applied, and the fall
to full mode of a peer of which something was applied. -/
def Operation.Flags (r : Replica) (p : String) : Operation → Prop
  | .call (.applyRemote q g _) => q = p ∧ ∀ a, r.lastApplied? p = some a → a < g ∧ g ≠ a + 1
  | .call (.applyMessage m _) => m.nodename = p ∧ r.listensTo p = true ∧
    match m.body with
    | .full _ => False
    | .patch deltas => ∀ a, r.lastApplied? p = some a →
      m.generation < a ∨ ∀ b, reach a deltas = some b → b < m.generation
    | .ping => r.lastApplied? p ≠ some m.generation
  | .setMode q mode => q = p ∧ mode = .full ∧ r.applied.contains p = true
  | _ => False

/-- A peer that is flagged is not in step. -/
theorem lastApplied?_of_flagged (other : p ≠ r.localhost) (flagged : r.resync.contains p = true) :
    r.lastApplied? p = none := by
  rw [lastApplied?_of_ne other, if_pos flagged]

/-- A wish for everything of a flagged peer is no news. -/
theorem requestFull_of_flagged (flagged : r.resync.contains p = true) (last received : Generation) :
    r.requestFull p last received = r := by
  rw [requestFull, if_pos flagged]

/-- The changes of a patch lead as far as they reach, or flag the peer. -/
theorem applyDeltas_reach {deltas : List Delta} {applied : Generation}
    (other : p ≠ r.localhost) (sync : r.lastApplied? p = some applied) :
    match reach applied deltas with
    | some last => (r.applyDeltas p deltas).1.lastApplied? p = some last
    | none => (r.applyDeltas p deltas).1.resync.contains p = true := by
  induction deltas generalizing r applied with
  | nil => exact sync
  | cons d ds ih =>
    rcases applyRemote_cases r p d.generation d.mutations with
      ⟨_, _, made, refused⟩ | ⟨a, made, same, repeated⟩ | ⟨a, events, made, same, below, next⟩
    · obtain ⟨below, gap⟩ := refused applied sync
      rw [reach, if_neg (UInt64.not_le.2 below), if_neg gap]
      simp only [applyDeltas, made]
      exact requestFull_resync ..
    · cases sync.symm.trans same
      rw [reach, if_pos repeated]
      simp only [applyDeltas, made]
      exact ih other sync
    · cases sync.symm.trans same
      rw [reach, if_neg (UInt64.not_le.2 below), if_pos next]
      simp only [applyDeltas, made]
      exact ih (by simpa using other) (follow_lastApplied? other sync ..)

/-- A patch flags a peer that is not in step, and one that it does not lead to its own
generation. -/
theorem applyBody_patch_resync {deltas : List Delta} {generation : Generation}
    (other : p ≠ r.localhost) :
    (r.applyBody p generation (.patch deltas)).1.resync.contains p = true ↔
      ∀ a, r.lastApplied? p = some a →
        generation < a ∨ ∀ b, reach a deltas = some b → b < generation := by
  cases sync : r.lastApplied? p with
  | none =>
    simp only [applyBody, sync, requestFull_resync]
    simp
  | some a =>
    by_cases older : generation < a
    · simp only [applyBody, sync, if_pos older, requestFull_resync]
      simp [older]
    · have led := @applyDeltas_reach r p deltas a other sync
      have other' := other
      rw [← applyDeltas_localhost r p deltas] at other'
      simp only [applyBody, sync, if_neg older]
      cases far : reach a deltas with
      | none =>
        simp only [far] at led
        simp [lastApplied?_of_flagged other' led, led, far]
      | some b =>
        simp only [far] at led
        by_cases behind : b < generation
        · simp [led, behind, far]
        · simp [led, behind, far, older, ((lastApplied?_eq_some other').1 led).1]

/-- A ping flags a peer that is not in step with its generation. -/
theorem applyBody_ping_resync {generation : Generation} (other : p ≠ r.localhost) :
    (r.applyBody p generation .ping).1.resync.contains p = true ↔
      r.lastApplied? p ≠ some generation := by
  cases sync : r.lastApplied? p with
  | none => simp [applyBody, sync]
  | some a =>
    by_cases same : a = generation
    · simp [applyBody, sync, same, (lastApplied?_eq_some other).1 sync]
    · simp [applyBody, sync, same]

/-- Changes of one generation flag a peer that is not in step, and one that they do not follow. -/
theorem applyRemote_resync {generation : Generation} {ms : List Mutation}
    (other : p ≠ r.localhost) :
    (r.applyRemote p generation ms).1.resync.contains p = true ↔
      ∀ a, r.lastApplied? p = some a → a < generation ∧ generation ≠ a + 1 := by
  rcases applyRemote_cases r p generation ms with
    ⟨_, _, made, refused⟩ | ⟨a, made, sync, repeated⟩ | ⟨a, events, made, sync, _, next⟩
  · rw [made]
    exact iff_of_true (requestFull_resync ..) refused
  · rw [made, ((lastApplied?_eq_some other).1 sync).1, sync]
    simp only [Bool.false_eq_true, false_iff]
    intro gap
    exact UInt64.not_lt.2 repeated (gap a rfl).1
  · rw [made, follow_resync, ((lastApplied?_eq_some other).1 sync).1, sync]
    simp [next]

/-- An operation flags the node that it is about. -/
theorem Operation.Flags.subject (flags : o.Flags r p) : o.subject? r = some p := by
  unfold Operation.Flags at flags
  split at flags
  · exact congrArg some flags.1
  · exact congrArg some flags.1
  · exact congrArg some flags.1
  · cases flags

/-- An operation brings everything of the node that it is about. -/
theorem Operation.subject_of_full {everything : Generation × NodeData}
    (full : o.full? r p = some everything) : o.subject? r = some p := by
  unfold Operation.full? at full
  split at full
  · split at full
    · rename_i same
      exact congrArg some same
    · cases full
  · split at full
    · split at full
      · rename_i same
        exact congrArg some same.1
      · cases full
    · cases full
  · cases full

/-- A message flags its sender if it brings what does not follow. -/
theorem applyMessage_resync {m : Message} {now : Nat} (listens : r.listensTo m.nodename = true) :
    (r.applyMessage m now).1.resync.contains m.nodename = true ↔
      (Operation.call (.applyMessage m now)).Flags r m.nodename := by
  have other : m.nodename ≠ (r.hear m now).localhost := ne_of_listensTo listens
  rw [applyMessage_eq, if_pos listens]
  simp only [Operation.Flags, listens, true_and]
  cases body : m.body with
  | full data => simp [applyBody, applyFull_resync]
  | patch deltas => exact applyBody_patch_resync other
  | ping => exact applyBody_ping_resync other

/-- What flags a peer. A flag stays until everything of the peer arrives. -/
theorem operate_resync (other : p ≠ r.localhost) :
    (r.operate o).1.resync.contains p = true ↔
      o.Flags r p ∨ (r.resync.contains p = true ∧ o.full? r p = none) := by
  by_cases about : o.subject? r = some p
  · have unsynced (flagged : r.resync.contains p = true) (a : Generation) :
        r.lastApplied? p ≠ some a := by
      rw [lastApplied?_of_flagged other flagged]
      exact nofun
    cases o with
    | call c =>
      cases c with
      | applyLocal m =>
        cases about
        exact absurd rfl other
      | applyRemote q g ms =>
        cases about
        rw [operate, call_applyRemote, applyRemote_resync other]
        constructor
        · exact fun gap => .inl ⟨rfl, gap⟩
        · rintro (flags | ⟨flagged, _⟩)
          · exact flags.2
          · exact fun a sync => absurd sync (unsynced flagged a)
      | applyFull q g data =>
        cases about
        simp [operate, call, applyFull_resync, Operation.Flags, Operation.full?]
      | applyMessage m now =>
        cases about
        by_cases listens : r.listensTo m.nodename = true
        · rw [operate, call, applyMessage_resync listens, Iff.comm, or_iff_left_iff_imp]
          rintro ⟨flagged, partly⟩
          simp only [Operation.Flags, Operation.full?, listens, true_and, if_true] at partly ⊢
          cases body : m.body with
          | full data => simp [body] at partly
          | patch deltas => exact fun a sync => absurd sync (unsynced flagged a)
          | ping => exact unsynced flagged m.generation
        · rw [operate, call, applyMessage_eq, if_neg listens]
          cases body : m.body <;> simp [Operation.Flags, Operation.full?, listens, body]
    | setMode q mode =>
      cases about
      simp only [operate, setMode, Operation.Flags, Operation.full?]
      cases mode with
      | patch => simp [refreshHeartbeat, refreshGens]
      | full =>
        by_cases known : r.applied.contains p = true
        · simp [refreshHeartbeat, refreshGens, other, known, SortedMap.contains_insert]
        · simp [refreshHeartbeat, refreshGens, other, known]
    | takePending | buildMessage | setStream | setAggregate | delAggregate => cases about
  · rw [(operate_samePart about).resync]
    have none : o.full? r p = none := Option.eq_none_iff_forall_ne_some.2 fun x full =>
      about (Operation.subject_of_full full)
    simp [none, mt Operation.Flags.subject about]

/-! ## What a flag holds off -/

/-- Nothing but everything of a flagged peer is taken from it. -/
theorem applyBody_of_flagged (other : p ≠ r.localhost) (flagged : r.resync.contains p = true)
    {generation : Generation} {body : Message.Body} (partly : ∀ data, body ≠ .full data) :
    (r.applyBody p generation body).1 = r := by
  have unsynced := lastApplied?_of_flagged other flagged
  cases body with
  | full data => exact absurd rfl (partly data)
  | patch deltas | ping => simp only [applyBody, unsynced, requestFull_of_flagged flagged]

/-- Changes of a flagged peer are refused and leave the replica. -/
theorem applyRemote_of_flagged (other : p ≠ r.localhost) (flagged : r.resync.contains p = true)
    (generation : Generation) (ms : List Mutation) :
    r.applyRemote p generation ms = (r, .error (.notSynced p)) := by
  simp only [applyRemote, lastApplied?_of_flagged other flagged, requestFull_of_flagged flagged]

/-- Until everything of a flagged peer arrives, every operation leaves its part. -/
theorem operate_fenced (other : p ≠ r.localhost) (flagged : r.resync.contains p = true)
    (partly : o.full? r p = none) : SamePart p r (r.operate o).1 := by
  have still : (r.operate o).1.resync.contains p = r.resync.contains p := by
    rw [flagged, (operate_resync other).2 (.inr ⟨flagged, partly⟩)]
  by_cases about : o.subject? r = some p
  · cases o with
    | call c =>
      cases c with
      | applyLocal m =>
        cases about
        exact absurd rfl other
      | applyRemote q g ms =>
        cases about
        rw [operate, call_applyRemote, applyRemote_of_flagged other flagged]
        exact .refl _ r
      | applyFull q g data =>
        cases about
        simp [Operation.full?] at partly
      | applyMessage m now =>
        cases about
        rw [operate, call, applyMessage_eq]
        split
        · rename_i listens
          have flagged : (r.hear m now).resync.contains m.nodename = true := flagged
          have other : m.nodename ≠ (r.hear m now).localhost := other
          rw [applyBody_of_flagged other flagged fun data full => by
            simp [Operation.full?, full, listens] at partly]
          exact ⟨rfl, rfl, rfl⟩
        · exact .refl _ r
    | setMode q mode => exact ⟨by simp [operate], by simp [operate], still⟩
    | takePending | buildMessage | setStream | setAggregate | delAggregate => cases about
  · exact operate_samePart about

/-! ## Wishes for everything -/

/-- How often it can be told that everything of a peer is wanted, before it arrives: as often as
that waits, and once more unless the peer is flagged. -/
def wishes (r : Replica) (p : String) : Nat :=
  asked p r.pending + if r.resync.contains p then 0 else 1

/-- No more waits, and no flag is gone. -/
theorem wishes_le (pending : s.pending = r.pending)
    (kept : r.resync.contains p = true → s.resync.contains p = true) : s.wishes p ≤ r.wishes p := by
  unfold wishes
  rw [pending]
  by_cases flagged : r.resync.contains p = true
  · refine Nat.le_of_eq ?_
    rw [if_pos flagged, if_pos (kept flagged)]
  · rw [if_neg flagged]
    split <;> omega

/-- What can still be asked depends on what waits and on the flag alone. -/
theorem wishes_congr (pending : s.pending = r.pending) (resync : s.resync = r.resync) :
    s.wishes p = r.wishes p := by
  rw [wishes, wishes, pending, resync]

/-- What waits is told when it is taken. -/
theorem takePending_wishes (r : Replica) (p : String) :
    asked p r.takePending.2 + r.takePending.1.wishes p = r.wishes p := by
  change asked p r.pending + (asked p [] + _) = _
  rw [asked_nil, Nat.zero_add]
  rfl

/-- A wish is told once, until it is fulfilled. -/
theorem requestFull_wishes (r : Replica) (node : String) (last received : Generation) :
    (r.requestFull node last received).wishes p ≤ r.wishes p := by
  by_cases flagged : r.resync.contains node = true
  · exact Nat.le_of_eq (by rw [requestFull_of_flagged flagged])
  · have once : asked p [.ofNode (.resyncRequested node last received) node] =
        if node = p then 1 else 0 := by
      simp [asked, Event.asked?, Publication.ofNode]
    have told : (r.requestFull node last received).pending =
        r.pending ++ [.ofNode (.resyncRequested node last received) node] := by
      rw [requestFull, if_neg flagged]
      rfl
    unfold wishes
    rw [told, asked_append, once]
    by_cases own : node = p
    · cases own
      refine Nat.le_of_eq ?_
      rw [if_pos rfl, if_pos (requestFull_resync ..), if_neg flagged]
    · rw [if_neg own, (requestFull_agrees r node last received).resync p (Ne.symm own)]
      omega

/-- Following a peer asks nothing. -/
theorem follow_wishes (r : Replica) (node : String) (generation : Generation)
    (ms : List Mutation) :
    asked p (r.status.mutateAll node ms).2 + (r.follow node generation ms).wishes p =
      r.wishes p := by
  rw [(ClusterStatus.mutateAll_quiet _ node ms).asked, Nat.zero_add]
  exact wishes_congr rfl rfl

/-- Everything of another peer asks nothing. -/
theorem applyFull_wishes (different : p ≠ node) (generation : Generation) (data : NodeData) :
    asked p (r.applyFull node generation data).2 + (r.applyFull node generation data).1.wishes p =
      r.wishes p := by
  have quiet : asked p (r.applyFull node generation data).2 = 0 :=
    (NodeData.difference_quiet node _ _).asked p
  rw [quiet, Nat.zero_add, wishes, wishes, (applyFull_agrees ..).resync p different]
  rfl

/-- What a message that does not bring everything tells, and what may be told after it, is no
more than what might be told before. -/
theorem applyBody_wishes {body : Message.Body} (partly : p = node → ∀ data, body ≠ .full data)
    (generation : Generation) :
    asked p (r.applyBody node generation body).2 + (r.applyBody node generation body).1.wishes p ≤
      r.wishes p := by
  apply applyBody_induction
    (motive := fun s events => asked p events + s.wishes p ≤ r.wishes p)
  · intro s events last received bound
    have lower := requestFull_wishes (p := p) s node last received
    omega
  · intro deltas _ d _ s events a bound _ _ _
    have same := follow_wishes (p := p) s node d.generation d.mutations
    rw [asked_append]
    omega
  · intro data full
    exact Nat.le_of_eq (applyFull_wishes (fun own => partly own data full) generation data)
  · simp

/-- No operation tells more than might be told before, unless it brings everything of the peer. -/
theorem operate_wishes (partly : o.full? r p = none) :
    asked p (r.operate o).2 + (r.operate o).1.wishes p ≤ r.wishes p := by
  cases o with
  | call c =>
    cases c with
    | applyLocal m =>
      have quiet : Quiet (r.applyLocal m).2 := by
        have events := ClusterStatus.mutateAll_quiet r.status r.localhost [m]
        simp only [ClusterStatus.mutateAll, List.append_nil] at events
        simp only [applyLocal]
        split
        · exact fun new member => by cases member
        · exact events
      have pending : (r.applyLocal m).1.pending = r.pending := by
        simp only [applyLocal]
        split <;> rfl
      refine Nat.le_of_eq ?_
      rw [operate, call, quiet.asked, wishes_congr pending (applyLocal_resync r m), Nat.zero_add]
    | applyRemote q g ms =>
      rw [operate, call]
      rcases applyRemote_cases r q g ms with
        ⟨last, e, made, _⟩ | ⟨a, made, _⟩ | ⟨a, _, _, known, below, next⟩
      · simpa [made] using requestFull_wishes (p := p) r q last g
      · simp [made]
      · rw [applyRemote_next known below next]
        exact Nat.le_of_eq (follow_wishes r q g ms)
    | applyFull q g data =>
      have different : p ≠ q := by
        rintro rfl
        simp [Operation.full?] at partly
      exact Nat.le_of_eq (applyFull_wishes different g data)
    | applyMessage m now =>
      by_cases listens : r.listensTo m.nodename = true
      · have partly (own : p = m.nodename) (data : NodeData) : m.body ≠ .full data := by
          intro full
          simp [Operation.full?, full, own, listens] at partly
        have heard : (r.hear m now).wishes p = r.wishes p := wishes_congr rfl rfl
        have taken : (r.call (.applyMessage m now)) =
            (((r.hear m now).applyBody m.nodename m.generation m.body).1.takePending.1,
              ((r.hear m now).applyBody m.nodename m.generation m.body).2 ++
                ((r.hear m now).applyBody m.nodename m.generation m.body).1.takePending.2) := by
          simp only [call, applyMessage, if_pos listens]
          rfl
        rw [operate, taken, asked_append, Nat.add_assoc, takePending_wishes, ← heard]
        exact applyBody_wishes partly m.generation
      · simp [operate, call, applyMessage, listens]
  | setMode q mode =>
    rw [operate, asked_nil, Nat.zero_add]
    refine wishes_le ?_ fun flagged => ?_
    · simp only [setMode]
      split <;> rfl
    · simp only [setMode, refreshGens_resync, refreshHeartbeat]
      split
      · split
        · rw [SortedMap.contains_insert, flagged, Bool.or_true]
        · exact flagged
      · exact flagged
  | buildMessage now =>
    rw [operate, asked_nil, Nat.zero_add]
    refine wishes_le ?_ fun flagged => by simpa using flagged
    simp only [buildMessage]
    split <;> rfl
  | delAggregate q =>
    simp only [operate, delAggregate]
    split
    · exact Nat.le_of_eq (Nat.zero_add _)
    · exact Nat.le_of_eq (Nat.zero_add _)
  | takePending => exact Nat.le_of_eq (takePending_wishes r p)
  | setStream node id state now => exact Nat.le_of_eq (Nat.zero_add _)
  | setAggregate q value source => exact Nat.le_of_eq (Nat.zero_add _)

/-! ## Courses of a flagged peer -/

/-- How often everything of a peer was asked for at some moments. -/
def askedIn (p : String) (past : List Moment) : Nat := asked p (past.flatMap Moment.events)

/-- Everything of a peer arrives. -/
theorem operate_full {g : Generation} {data : NodeData} (other : p ≠ r.localhost)
    (full : o.full? r p = some (g, data)) : (r.operate o).1.lastApplied? p = some g := by
  have filled := operate_filled full
  rw [lastApplied?_eq_some (by rwa [(operate_persists r o).localhost])]
  exact ⟨filled.resync, filled.applied⟩

/-- What brings everything of a peer does not flag it. -/
theorem Operation.Flags.partly (flags : o.Flags r p) (other : p ≠ r.localhost) :
    o.full? r p = none := by
  cases full : o.full? r p with
  | none => rfl
  | some everything =>
    have synced := operate_full other full
    rw [lastApplied?_of_flagged (by rwa [(operate_persists r o).localhost])
      ((operate_resync other).2 (.inl flags))] at synced
    cases synced

/-- While nothing brings everything of a flagged peer, its part is as it was, and it is asked
for everything at most as often as could be told at the start. -/
theorem Course.fence (course : Course r past s) (other : p ≠ r.localhost)
    (flagged : r.resync.contains p = true)
    (partly : ∀ t ∈ past, t.operation.full? t.replica p = none) :
    SamePart p r s ∧ s.localhost = r.localhost ∧ askedIn p past + s.wishes p ≤ r.wishes p := by
  induction course with
  | start => exact ⟨.refl p r, rfl, by simp [askedIn]⟩
  | @step past s o course ih =>
    obtain ⟨same, localhost, bound⟩ := ih fun t before => partly t (List.mem_cons_of_mem _ before)
    have partly := partly ⟨s, o⟩ (List.mem_cons_self ..)
    refine ⟨same.trans (operate_fenced (localhost ▸ other) (same.resync.trans flagged) partly),
      (operate_persists s o).localhost.trans localhost, ?_⟩
    have step : asked p (s.operate o).2 + (s.operate o).1.wishes p ≤ s.wishes p :=
      operate_wishes partly
    have total : askedIn p (⟨s, o⟩ :: past) = asked p (s.operate o).2 + askedIn p past := by
      simp [askedIn, Moment.events]
    omega

/-- A fence around a peer since a replica: its subtree and the generation applied of it are as
they were, its changes are refused, it has no last generation, and zero is advertised. -/
structure Fenced (p : String) (r s : Replica) : Prop where
  node : s.status.nodes.get? p = r.status.nodes.get? p
  applied : s.applied.get? p = r.applied.get? p
  refused : ∀ g ms, (s.applyRemote p g ms).2 = .error (.notSynced p)
  unsynced : s.lastApplied? p = none
  advertised : s.advertisedGens.get? p = some 0

/-- Where a peer is flagged and what is kept of it is as before, there is a fence around it. -/
theorem fenced_of_flagged (same : SamePart p r s) (other : p ≠ s.localhost)
    (flagged : r.resync.contains p = true) : Fenced p r s := by
  have still := same.resync.trans flagged
  refine ⟨same.node, same.applied, fun g ms => ?_, lastApplied?_of_flagged other still, ?_⟩
  · rw [applyRemote_of_flagged other still]
  · rw [get?_advertisedGens other, if_pos still]

section Fresh

variable {cluster : ClusterConfig} {limit timeout : Nat} {since : List Moment}

/-- From an operation that flags a peer until everything of the peer arrives there is a fence
around it, and everything is asked for once at most. What brings everything ends it and puts the
peer in step. The table in the tree is what is advertised, throughout. -/
theorem Course.fenced (course : Course (.new node cluster limit timeout) past r)
    (other : p ≠ node) (flags : o.Flags r p) (later : Course (r.operate o).1 since s)
    (partly : ∀ t ∈ since, t.operation.full? t.replica p = none) :
    Fenced p (r.operate o).1 s ∧
    askedIn p (since ++ [⟨r, o⟩]) + asked p s.pending ≤ asked p r.pending + 1 ∧
    (∀ o' g data, Operation.full? s p o' = some (g, data) →
      (s.operate o').1.lastApplied? p = some g) ∧
    s.Tabled ∧ ∀ o', (s.operate o').1.Tabled := by
  have here : p ≠ r.localhost := by rwa [course.isOf.localhost]
  have flagged := (operate_resync here).2 (.inl flags)
  have total := (course.step o).trans later
  have there : p ≠ s.localhost := by rwa [total.isOf.localhost]
  obtain ⟨same, _, bound⟩ := later.fence ((operate_persists r o).localhost ▸ here) flagged partly
  refine ⟨fenced_of_flagged same there flagged, ?_, fun o' g data full => operate_full there full,
    total.tabled, fun o' => (total.step o').tabled⟩
  have first := operate_wishes (flags.partly here)
  have events : askedIn p (since ++ [⟨r, o⟩]) = askedIn p since + asked p (r.operate o).2 := by
    simp [askedIn, Moment.events]
  have before : r.wishes p ≤ asked p r.pending + 1 := by
    unfold wishes
    split <;> omega
  have after : s.wishes p = asked p s.pending := by
    rw [wishes, if_pos (same.resync.trans flagged), Nat.add_zero]
  omega

/-- A node that has everything of its peer. -/
def abreast : List Moment × Replica :=
  pursue [] (.new "n1" ⟨"c", ["n1", "n2"]⟩ 8 1000) [.call (.applyFull "n2" 3 ⟨3, ∅⟩)]

/-- A ping of a later generation, of which nothing arrived. -/
def unfollowed : Operation := .call (.applyMessage ⟨"n2", 5, ∅, .ping⟩ 0)

/-- What is done with the node while it waits for everything. -/
def meanwhile : List Moment × Replica :=
  pursue [] (abreast.2.operate unfollowed).1
    [.call (.applyRemote "n2" 4 []), .setMode "n2" .full, unfollowed]

/-- The ping is announced, and nothing of what follows it is taken. -/
theorem fenced_of_unfollowed :
    ("n2" ≠ "n1" ∧ unfollowed.Flags abreast.2 "n2" ∧
      ∀ t ∈ meanwhile.1, t.operation.full? t.replica "n2" = none) ∧
    askedIn "n2" (meanwhile.1 ++ [⟨abreast.2, unfollowed⟩]) = 1 ∧
    Fenced "n2" (abreast.2.operate unfollowed).1 meanwhile.2 := by
  have flags : unfollowed.Flags abreast.2 "n2" := ⟨rfl, by decide +kernel, by decide +kernel⟩
  have partly : ∀ t ∈ meanwhile.1, t.operation.full? t.replica "n2" = none := by decide +kernel
  have fenced := (Course.start.pursue _).fenced (by decide) flags (Course.start.pursue _) partly
  exact ⟨⟨by decide, flags, partly⟩, by decide +kernel, fenced.1⟩

end Fresh

end Replica

end ClusterNode
