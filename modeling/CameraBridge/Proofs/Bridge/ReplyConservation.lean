import CameraBridge.Proofs.Bridge.Hearing
import CameraBridge.Proofs.Bridge.ReplyPermit
import Mathlib.Logic.Relation

namespace CameraBridge.Bridge

/-! Every large reply that is accepted gives back the permit in the end, and none of them is lost to a
timeout of its publication. -/

variable {bridge before after : Bridge} {task : Task} {publication : Publication OutboundReply}

/-! ### One permit, one reply -/

/-- The permit is free and no reply is on its way, or it is out for the only one. -/
theorem ReplyLane.flight (lane : bridge.ReplyLane) :
    (bridge.permits.available = true ∧ bridge.repliesInFlight = []) ∨
      ∃ reply, bridge.permits.Out reply.grant ∧ bridge.repliesInFlight = [reply] := by
  unfold ReplyLane at lane
  unfold repliesInFlight
  generalize bridge.replyPublications = publications at lane ⊢
  generalize bridge.outbound = outbound at lane ⊢
  generalize bridge.permits = permits at lane ⊢
  generalize bridge.transmitter = transmitter at lane ⊢
  cases lane with
  | free rests available single =>
      refine .inl ⟨available, ?_⟩
      simp [rests, workerSubscriber, single.items_eq]
  | publishing publication rests out early single =>
      refine .inr ⟨publication.message, out, ?_⟩
      simp [rests, workerSubscriber, single.items_eq]
  | queued reply out single =>
      refine .inr ⟨reply, out, ?_⟩
      simp [workerSubscriber, single.items_eq, Transmitter.reply?]
  | sending reply ready deadline out single =>
      refine .inr ⟨reply, out, ?_⟩
      simp [workerSubscriber, single.items_eq, Transmitter.reply?]

theorem ReplyLane.conserved (lane : bridge.ReplyLane) :
    bridge.permits.available.toNat + bridge.repliesInFlight.length = 1 := by
  obtain ⟨available, nothing⟩ | ⟨reply, out, only⟩ := lane.flight
  · rw [available, nothing]
    rfl
  · rw [out.unavailable, only]
    rfl

theorem ReplyLane.busy_iff (lane : bridge.ReplyLane) (channel : Channel) (body : Bytes) :
    bridge.beginOutbound channel body = .error .busy ↔ bridge.repliesInFlight ≠ [] := by
  rw [beginOutbound_busy_iff]
  obtain ⟨available, nothing⟩ | ⟨reply, out, only⟩ := lane.flight
  · simp [available, nothing]
  · simp [out.unavailable, only]

/-- Nobody has released a reply that is still on its way. -/
theorem ReplyLane.unreleased (lane : bridge.ReplyLane) :
    ∀ reply ∈ bridge.repliesInFlight, ∃ hold,
      bridge.permits.grants[reply.grant]? = some hold ∧ hold.isFree = false := by
  intro reply member
  obtain ⟨-, nothing⟩ | ⟨only, ⟨older, grants, sized, -⟩, same⟩ := lane.flight
  · rw [nothing] at member
    exact nomatch member
  · rw [same, List.mem_singleton] at member
    subst member
    exact ⟨{}, by simp [grants, ← sized], rfl⟩

/-! ### Results in time -/

/-- No call has failed because the publication of its reply took too long. -/
def InTime (bridge : Bridge) : Prop :=
  ∀ name, Call.finished (.replied (.error (.publish (.timeout name)))) ∉ bridge.calls

theorem step_calls (moved : before.step task = some after)
    (other : ∀ number, task ≠ .call number) : after.calls = before.calls := by
  cases task with
  | call number => exact absurd rfl (other number)
  | writer =>
      obtain ⟨_, _, _, _, _, _, _, rfl⟩ := stepWriter_footprint moved
      rfl
  | listener =>
      obtain ⟨_, _, _, _, _, _, _, _, _, _, rfl, -⟩ := stepListener_footprint moved
      rfl
  | ingress =>
      obtain ⟨_, _, _, _, rfl, -⟩ := stepIngress_footprint moved
      rfl
  | mapper =>
      obtain ⟨_, _, _, rfl⟩ := stepMapper_footprint moved
      rfl
  | heartbeat =>
      obtain ⟨_, _, rfl⟩ := stepHeartbeat_footprint moved
      rfl
  | egress =>
      obtain ⟨_, _, _, rfl⟩ := stepEgress_footprint moved
      rfl
  | intake =>
      obtain ⟨_, _, _, _, rfl⟩ := stepIntake_footprint moved
      rfl
  | consumer =>
      obtain ⟨_, _, _, _, _, _, rfl, -⟩ := stepConsumer_footprint moved
      rfl
  | transmitter =>
      obtain ⟨_, _, _, _, rfl⟩ := stepTransmitter_footprint moved
      rfl
  | startup =>
      obtain ⟨_, _, rfl, -⟩ := stepStartup_footprint moved
      rfl

theorem ends_in_time {closed : Bool} {middle topic : Topic OutboundReply}
    {later : Publication OutboundReply} {delivered : Bool} {now : Time} {name : String}
    (strode : publication.Strode closed middle later delivered) (served : later.isServed = true) :
    later.step now middle ≠ some (topic, .finished (.error (.timeout name))) := by
  intro late
  cases strode with
  | admitted ordering delivering =>
      have early : later.IsEarly := .inr delivering
      exact nomatch served.symm.trans early.unserved
  | unserved _ ends inTime =>
      cases (ends now).symm.trans late
      exact inTime name rfl
  | served _ _ ends => exact nomatch (ends now).symm.trans late

/-- A result is recorded only by the call's own move, where its publication ends. -/
theorem step_inTime (inTime : before.InTime) (moved : before.step task = some after)
    (timely : ∀ publication topic name, before.replyAt? task = some publication →
      publication.step before.now before.outbound ≠
        some (topic, .finished (.error (.timeout name)))) : after.InTime := by
  intro name late
  by_cases called : ∃ number, task = .call number
  · obtain ⟨number, rfl⟩ := called
    obtain ⟨was, is, present, set, -, recorded⟩ := stepCall_invert moved
    rw [set] at late
    rcases List.mem_or_eq_of_mem_set late with earlier | same
    · exact inTime name earlier
    · obtain ⟨publication, ended, rfl, stepped, result⟩ := recorded _ same.symm
      have standing : before.replyAt? (.call number) = some publication := by
        simp only [replyAt?, present, Option.bind_some, Call.reply?]
      cases ended with
      | ok done => cases result
      | error cause =>
          cases result
          exact timely publication _ name standing stepped
  · have same := step_calls moved fun number own => called ⟨number, own⟩
    exact inTime name (same ▸ late)

theorem stride_inTime (lane : before.ReplyLane) (inTime : before.InTime)
    (strode : before.stride task = some after) : after.InTime := by
  obtain ⟨middle, moved, rest⟩ := stride_invert strode
  have first : middle.InTime := by
    refine step_inTime inTime moved ?_
    intro publication topic name standing late
    obtain ⟨-, -, middle, later, delivered, step⟩ := lane.first_step standing
    exact nomatch step.stepped.symm.trans late
  obtain ⟨-, rfl⟩ | ⟨later, standing, served, rfl⟩ := rest
  · exact first
  · cases ended : middle.step task with
    | none => exact first
    | some last =>
        refine step_inTime first ended ?_
        intro other topic name is late
        cases standing.symm.trans is
        cases stood : before.replyAt? task with
        | none =>
            have unserved := (lane.step_idle moved (standing_task is) stood).2 later is
            exact nomatch served.symm.trans unserved
        | some publication =>
            obtain ⟨-, -, same, next, delivered, step⟩ := lane.first_step stood
            cases moved.symm.trans step.moved
            cases is.symm.trans step.standing
            exact ends_in_time step.strode served late

theorem InTime.addCall (inTime : bridge.InTime) {call : Call Request Response}
    (timely : ∀ name, call ≠ .finished (.replied (.error (.publish (.timeout name))))) :
    (bridge.addCall call).InTime := by
  intro name late
  rcases List.mem_append.mp late with earlier | added
  · exact inTime name earlier
  · exact timely name (List.mem_singleton.mp added).symm

theorem InTime.kept (inTime : before.InTime) (same : after.calls = before.calls) : after.InTime := by
  rw [InTime, same]
  exact inTime

theorem beginOutbound_error {channel : Channel} {body : Bytes} {cause : ReplyError}
    (refused : bridge.beginOutbound channel body = .error cause) : cause = .busy := by
  unfold beginOutbound at refused
  split at refused
  · cases refused
    rfl
  · simp at refused

theorem act_inTime {next : Act} (inTime : before.InTime) (outside : ∀ task, next ≠ .move task)
    (acted : before.act next = some after) : after.InTime := by
  cases next with
  | move task => exact absurd rfl (outside task)
  | submit message =>
      cases acted
      unfold submit
      split
      · next begun =>
          obtain ⟨commands, -, rfl⟩ := beginCommand_invert begun
          exact InTime.addCall (inTime.kept rfl) fun _ => nofun
      · exact inTime.addCall fun _ => nofun
  | sendLargeReply channel body =>
      cases acted
      unfold sendLargeReply
      split
      · next begun =>
          obtain ⟨grant, permits, outbound, -, -, rfl⟩ := beginOutbound_invert begun
          exact InTime.addCall (inTime.kept rfl) fun _ => nofun
      · next cause refused =>
          cases beginOutbound_error refused
          exact inTime.addCall fun _ => nofun
  | sendOnBus frame =>
      cases acted
      exact inTime.addCall fun _ => nofun
  | readTap subscriber =>
      cases acted
      obtain ⟨canFrames, same⟩ := readTap_footprint subscriber before
      rw [same]
      exact inTime
  | shutdown =>
      cases acted
      exact inTime.kept (shutdown_calls before)
  | pass | relink | tap | dropTap =>
      cases acted
      exact inTime

theorem advance_inTime (lane : before.ReplyLane) (inTime : before.InTime)
    (advance : Advance before after) : after.InTime := by
  cases advance with
  | strode task strode => exact stride_inTime lane inTime strode
  | acted next outside acted => exact act_inTime inTime outside acted
  | failed reply ready deadline sending failed =>
      rw [failed]
      exact inTime

/-! ### The way back -/

/-- Tasks' moves and time alone bring the permit back. -/
def Returns (bridge : Bridge) : Prop :=
  ∃ after, Relation.ReflTransGen Settling bridge after ∧ after.permits.available = true

theorem Returns.of_settling (settling : Settling before after) (returns : after.Returns) :
    before.Returns := by
  obtain ⟨last, settled, available⟩ := returns
  exact ⟨last, settled.head settling, available⟩

theorem returns_of_available (available : bridge.permits.available = true) : bridge.Returns :=
  ⟨bridge, .refl, available⟩

theorem transmitter_stride (moved : before.stepTransmitter = some after) :
    before.stride .transmitter = some after :=
  stride_of_unserved moved fun _ standing => nomatch standing

theorem returns_of_sending {reply : OutboundReply} {ready deadline : Time} (lane : bridge.ReplyLane)
    (sending : bridge.transmitter = .sending reply ready deadline) : bridge.Returns := by
  let later : Bridge := { bridge with now := bridge.now + (ready - bridge.now) }
  let sent : Bridge := { later with replyLink := later.replyLink.complete reply.data }
  have moved : later.stepTransmitter = some (sent.finishReply reply) := by
    have due : ready ≤ later.now := Nat.sub_le_iff_le_add'.mp (Nat.le_refl _)
    have stands : later.transmitter = .sending reply ready deadline := sending
    simp only [stepTransmitter, stands, due, if_true]
    rfl
  have finished : (sent.finishReply reply).permits.available = true :=
    (finishReply_lane (lane.kept rfl rfl rfl rfl : sent.ReplyLane) sending).2
  have passed : Settling bridge later := .passed _ rfl
  have strode : Settling later (sent.finishReply reply) :=
    .strode .transmitter (transmitter_stride moved)
  exact .of_settling passed (.of_settling strode (returns_of_available finished))

theorem returns_of_queued {reply : OutboundReply} (lane : bridge.ReplyLane)
    (listening : bridge.transmitter = .listening) (out : bridge.permits.Out reply.grant)
    (single : bridge.outbound.Single false [reply] none) : bridge.Returns := by
  obtain ⟨outbound, received⟩ := single.receive_exists
  have moved : bridge.stepTransmitter = some ({ bridge with outbound }.transmit reply) := by
    simp only [stepTransmitter, listening, workerSubscriber, received, Option.map_some]
  refine .of_settling (.strode .transmitter (transmitter_stride moved)) ?_
  cases stepTransmitter_invert moved with
  | took other ready deadline _ _ _ sending =>
      exact returns_of_sending (stepTransmitter_lane lane moved) sending
  | refused other _ taken permits =>
      obtain ⟨same, -⟩ := Prod.mk.inj (Option.some.inj (received.symm.trans taken))
      apply returns_of_available
      rw [permits, ← same]
      exact out.freed rfl
  | ended _ _ _ sending => exact nomatch listening.symm.trans sending

/-- Where nobody publishes, the transmitter alone is left. -/
theorem returns_of_unpublished (lane : bridge.ReplyLane) (nobody : bridge.replyPublications = []) :
    bridge.Returns := by
  have stands := lane
  unfold ReplyLane at stands
  generalize publications : bridge.replyPublications = all at stands
  generalize queue : bridge.outbound = outbound at stands
  generalize granted : bridge.permits = permits at stands
  generalize place : bridge.transmitter = transmitter at stands
  cases stands with
  | free rests available single =>
      subst granted
      exact returns_of_available available
  | publishing publication => exact nomatch nobody.symm.trans publications
  | queued reply out single =>
      subst granted queue
      exact returns_of_queued lane place out single
  | sending reply ready deadline out single => exact returns_of_sending lane place

/-- Once the message is in the queue, its publisher is done. -/
theorem unpublished_of_queued {reply : OutboundReply} (lane : bridge.ReplyLane)
    (queued : bridge.outbound.items workerSubscriber = [reply]) : bridge.replyPublications = [] := by
  unfold ReplyLane at lane
  generalize bridge.replyPublications = publications at lane ⊢
  generalize bridge.outbound = outbound at lane queued
  generalize bridge.transmitter = transmitter at lane
  cases lane with
  | free | queued | sending => rfl
  | publishing publication rests out early single => exact nomatch single.items_eq.symm.trans queued

theorem returns_of_stride {outcome : Option (Except PublishError Unit)} (lane : after.ReplyLane)
    (strode : before.stride task = some after) (decided : outcome ≠ none)
    (led : ReplyStride task publication after outcome) : before.Returns := by
  refine .of_settling (.strode task strode) ?_
  cases led with
  | admitted => exact absurd rfl decided
  | unserved result inTime available => exact returns_of_available available
  | served queued => exact returns_of_unpublished lane (unpublished_of_queued lane queued)

theorem returns_of_delivering (lane : bridge.ReplyLane)
    (standing : bridge.replyAt? task = some publication)
    (delivering : ∃ deadline, publication.stage = .delivering deadline [0] [0] none) :
    bridge.Returns := by
  obtain ⟨after, strode, still, led⟩ := lane.stride_reply standing
  refine returns_of_stride still strode ?_ led
  intro undecided
  rw [undecided] at led
  cases led with
  | admitted ordering =>
      obtain ⟨deadline, delivering⟩ := delivering
      obtain ⟨other, ordering⟩ := ordering
      exact nomatch ordering.symm.trans delivering

theorem returns_of_publishing (lane : bridge.ReplyLane)
    (standing : bridge.replyAt? task = some publication) : bridge.Returns := by
  obtain ⟨after, strode, still, led⟩ := lane.stride_reply standing
  cases decided : publication.outcome? bridge.now bridge.outbound with
  | some result => exact returns_of_stride still strode (by simp [decided]) led
  | none =>
      rw [decided] at led
      cases led with
      | admitted ordering later next delivering =>
          exact .of_settling (.strode task strode) (returns_of_delivering still next delivering)

theorem reply_owner (member : publication ∈ bridge.replyPublications) :
    ∃ task, bridge.replyAt? task = some publication := by
  simp only [replyPublications, List.mem_append, Option.mem_toList, List.mem_filterMap] at member
  obtain (writer | listener) | ⟨call, among, publishes⟩ := member
  · exact ⟨.writer, writer⟩
  · exact ⟨.listener, listener⟩
  · obtain ⟨number, present⟩ := List.getElem?_of_mem among
    refine ⟨.call number, ?_⟩
    simp only [replyAt?, present, Option.bind_some, publishes]

theorem ReplyLane.returns (lane : bridge.ReplyLane) : bridge.Returns := by
  cases publications : bridge.replyPublications with
  | nil => exact returns_of_unpublished lane publications
  | cons publication rest =>
      have member : publication ∈ bridge.replyPublications := by simp [publications]
      obtain ⟨task, standing⟩ := reply_owner member
      exact returns_of_publishing lane standing

/-! ### Every state that is reached -/

theorem reached_lane {timing : Timing} {queueDepth : Nat} {state : DeviceState} {links : OpenLinks}
    (reached : Relation.ReflTransGen Advance (start timing queueDepth state links) bridge) :
    bridge.ReplyLane ∧ bridge.InTime := by
  induction reached with
  | refl =>
      refine ⟨start_lane timing queueDepth state links, ?_⟩
      exact fun name member => nomatch member
  | tail _ advance ih =>
      obtain ⟨lane, inTime⟩ := ih
      exact ⟨advance_lane lane advance, advance_inTime lane inTime advance⟩

theorem ReplyStride.timely {outcome : Option (Except PublishError Unit)}
    (led : ReplyStride task publication after outcome) (name : String) :
    outcome ≠ some (.error (.timeout name)) := by
  cases led with
  | admitted => simp
  | unserved result inTime => exact fun same => inTime name (Option.some.inj same)
  | served => simp

theorem ReplyStride.returned {cause : PublishError}
    (led : ReplyStride task publication after (some (.error cause))) :
    after.permits.available = true := by
  cases led with
  | unserved result inTime available => exact available

/-- In every state that is reached from the start, the permit is either free or out for the only reply
on its way, which nobody has released. A reply is refused as busy exactly while one is on its way.
Publishing an accepted one never waits and never ends with a timeout. The permit is back after a
publication that failed and after a transfer, however it ended, and from everywhere tasks and time
alone bring it back. All of this is made of acts, and of transfers that fail. -/
theorem reply_permit_conserved {timing : Timing} {queueDepth : Nat} {state : DeviceState}
    {links : OpenLinks}
    (reached : Relation.ReflTransGen Advance (start timing queueDepth state links) bridge) :
    bridge.permits.available.toNat + bridge.repliesInFlight.length = 1 ∧
      (∀ reply ∈ bridge.repliesInFlight, ∃ hold,
        bridge.permits.grants[reply.grant]? = some hold ∧ hold.isFree = false) ∧
      (∀ channel body,
        bridge.beginOutbound channel body = .error .busy ↔ bridge.repliesInFlight ≠ []) ∧
      (∀ task publication, bridge.replyAt? task = some publication →
        ∃ after, bridge.stride task = some after ∧
          (∀ name, publication.outcome? bridge.now bridge.outbound ≠
            some (.error (.timeout name))) ∧
          ∀ cause, publication.outcome? bridge.now bridge.outbound = some (.error cause) →
            after.permits.available = true) ∧
      (∀ name, Call.finished (.replied (.error (.publish (.timeout name)))) ∉ bridge.calls) ∧
      (∀ reply ready deadline, bridge.transmitter = .sending reply ready deadline →
        (bridge.finishReply reply).permits.available = true ∧
          ∀ after, bridge.stride .transmitter = some after → after.permits.available = true) ∧
      (∃ after, Relation.ReflTransGen Settling bridge after ∧ after.permits.available = true) ∧
      Relation.ReflTransGen Happens (start timing queueDepth state links) bridge ∧
      ∀ after, Relation.ReflTransGen Settling bridge after →
        Relation.ReflTransGen Happens bridge after := by
  obtain ⟨lane, inTime⟩ := reached_lane reached
  refine ⟨lane.conserved, lane.unreleased, lane.busy_iff, ?_, inTime, ?_, lane.returns,
    Relation.reflTransGen_closed (fun _ _ => Advance.happens) _ _ reached,
    Relation.reflTransGen_closed (fun _ _ => Settling.happens) bridge⟩
  · intro task publication standing
    obtain ⟨after, strode, -, led⟩ := lane.stride_reply standing
    refine ⟨after, strode, led.timely, ?_⟩
    intro cause failed
    rw [failed] at led
    exact led.returned
  · intro reply ready deadline sending
    refine ⟨(finishReply_lane lane sending).2, ?_⟩
    intro after strode
    obtain ⟨middle, moved, ⟨-, rfl⟩ | ⟨later, standing, -⟩⟩ := stride_invert strode
    · cases stepTransmitter_invert moved with
      | took _ _ _ listening => exact nomatch sending.symm.trans listening
      | refused _ listening => exact nomatch sending.symm.trans listening
      | ended other _ _ same _ permits =>
          cases sending.symm.trans same
          rw [permits]
          exact (finishReply_lane lane sending).2
    · exact nomatch standing

def strides (tasks : List Task) (bridge : Bridge) : Option Bridge :=
  tasks.foldlM (fun bridge task => bridge.stride task) bridge

theorem strides_reached {tasks : List Task} (strode : before.strides tasks = some after) :
    Relation.ReflTransGen Advance before after := by
  induction tasks generalizing before with
  | nil =>
      cases strode
      exact .refl
  | cons task rest ih =>
      simp only [strides, List.foldlM_cons, Option.bind_eq_bind, Option.bind_eq_some_iff] at strode
      obtain ⟨middle, first, others⟩ := strode
      exact (ih others).head (.strode task first)

/-- A large reply that was accepted from outside. -/
def accepted : Bridge := (start {} 8 {} {}).sendLargeReply .settings [7]

theorem accepted_sending : (accepted.strides [.call 0, .call 0, .transmitter]).map
    (fun bridge => (bridge.transmitter.reply?.isSome, bridge.repliesInFlight.length)) =
      some (true, 1) := by
  decide +kernel

/-- While it is sent, the permit is out, and another one is refused. -/
theorem reply_permit_conserved_while_sending : ∃ bridge,
    Relation.ReflTransGen Advance (start {} 8 {} {}) bridge ∧
      bridge.transmitter.reply?.isSome = true ∧ bridge.permits.available = false ∧
      (∀ channel body, bridge.beginOutbound channel body = .error .busy) ∧
      ∃ after, Relation.ReflTransGen Settling bridge after ∧ after.permits.available = true := by
  obtain ⟨bridge, strode, shown⟩ := Option.map_eq_some_iff.mp accepted_sending
  obtain ⟨sending, one⟩ := Prod.mk.inj shown
  have begun : Advance (start {} 8 {} {}) accepted :=
    .acted (.sendLargeReply .settings [7]) (fun _ => nofun) rfl
  have reached : Relation.ReflTransGen Advance (start {} 8 {} {}) bridge :=
    (strides_reached strode).head begun
  obtain ⟨conserved, -, busy, -, -, -, returns, -⟩ := reply_permit_conserved reached
  have something : bridge.repliesInFlight ≠ [] := by
    intro nothing
    simp [nothing] at one
  refine ⟨bridge, reached, sending, ?_, fun channel body => (busy channel body).mpr something, returns⟩
  rw [one] at conserved
  simpa using conserved

end CameraBridge.Bridge
