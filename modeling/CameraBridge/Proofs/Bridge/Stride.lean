import CameraBridge.Proofs.Bridge.Footprint
import CameraBridge.Proofs.Bridge.Schedule
import CameraBridge.Proofs.Topic.Single
import Mathlib.Logic.Relation

namespace CameraBridge

/-! A bridge between the places where its tasks may have to wait. A publication that has handed its
message to everyone gives back the order lock in the same breath: nothing else happens in between. -/

/-! ### Who publishes a large reply -/

def Writer.reply? : Writer → Option (Publication OutboundReply)
  | .naming publication => some publication
  | _ => none

theorem Writer.reply?_none {writer : Writer}
    (other : ∀ publication, writer ≠ .naming publication) : writer.reply? = none := by
  cases writer with
  | naming publication => exact absurd rfl (other publication)
  | _ => rfl

def Listener.reply? : Listener → Option (Publication OutboundReply)
  | .replying publication => some publication
  | _ => none

theorem Listener.reply?_none {listener : Listener}
    (other : ∀ publication, listener ≠ .replying publication) : listener.reply? = none := by
  cases listener with
  | replying publication => exact absurd rfl (other publication)
  | _ => rfl

def Call.reply? : Call Request Response → Option (Publication OutboundReply)
  | .running (.replying publication) => some publication
  | _ => none

def Transmitter.reply? : Transmitter → Option OutboundReply
  | .sending reply _ _ => some reply
  | _ => none

namespace Bridge

variable {bridge before after : Bridge}

def replyAt? (task : Task) (bridge : Bridge) : Option (Publication OutboundReply) :=
  match task with
  | .writer => bridge.writer.reply?
  | .listener => bridge.listener.reply?
  | .call number => bridge.calls[number]?.bind Call.reply?
  | _ => none

def replyPublications (bridge : Bridge) : List (Publication OutboundReply) :=
  bridge.writer.reply?.toList ++ bridge.listener.reply?.toList ++ bridge.calls.filterMap Call.reply?

/-- The large replies that are being published, queued or sent. -/
def repliesInFlight (bridge : Bridge) : List OutboundReply :=
  bridge.replyPublications.map Publication.message ++ bridge.outbound.items workerSubscriber ++
    bridge.transmitter.reply?.toList

/-- A task's move up to where it may have to wait next. -/
def stride (task : Task) (bridge : Bridge) : Option Bridge :=
  (bridge.step task).map fun after =>
    if (after.replyAt? task).any Publication.isServed then (after.step task).getD after else after

/-- All that can happen between two such places; a transfer may fail at any time. -/
inductive Advance (before after : Bridge) : Prop where
  | strode (task : Task) (strode : before.stride task = some after)
  | acted (next : Act) (outside : ∀ task, next ≠ .move task) (acted : before.act next = some after)
  | failed (reply : OutboundReply) (ready deadline : Time)
      (sending : before.transmitter = .sending reply ready deadline)
      (failed : after = before.finishReply reply)

/-- All that can happen without anyone's doing: tasks move, and time passes. -/
inductive Settling (before after : Bridge) : Prop where
  | strode (task : Task) (strode : before.stride task = some after)
  | passed (span : Time) (passed : after = { before with now := before.now + span })

/-- The same move by move: an act, or a transfer that fails. -/
inductive Happens (before after : Bridge) : Prop where
  | acted (next : Act) (acted : before.act next = some after)
  | failed (reply : OutboundReply) (ready deadline : Time)
      (sending : before.transmitter = .sending reply ready deadline)
      (failed : after = before.finishReply reply)

/-! ### What a move means for large replies -/

/-- What a task other than the transmitter does about large replies. -/
inductive ReplyStep (before after : Bridge) :
    Option (Publication OutboundReply) → Option (Publication OutboundReply) → Prop where
  | quiet (outbound : after.outbound = before.outbound) (permits : after.permits = before.permits) :
      ReplyStep before after none none
  | begun {publication : Publication OutboundReply} (reply : OutboundReply)
      (acquired : before.permits.acquire = some (reply.grant, after.permits))
      (started : Publication.start before.now before.timing.publishTimeout reply before.outbound =
        (publication, after.outbound)) : ReplyStep before after none (some publication)
  | going {publication later : Publication OutboundReply} {delivered : Bool}
      (stepped : publication.step before.now before.outbound =
        some (after.outbound, .going later delivered))
      (permits : after.permits =
        before.permits.modify publication.message.grant (follow (.going later delivered))) :
      ReplyStep before after (some publication) (some later)
  | finished {publication : Publication OutboundReply} {result : Except PublishError Unit}
      (stepped : publication.step before.now before.outbound =
        some (after.outbound, .finished result))
      (permits : after.permits = before.permits.modify publication.message.grant Hold.drop) :
      ReplyStep before after (some publication) none

/-- All that publications of large replies depend on. -/
structure ReplyDesk where
  now : Time
  timing : Timing
  outbound : Topic OutboundReply
  permits : ReplyPermits

def replyDesk (bridge : Bridge) : ReplyDesk :=
  ⟨bridge.now, bridge.timing, bridge.outbound, bridge.permits⟩

theorem ReplyStep.of_desk {middle later : Bridge} {was is : Option (Publication OutboundReply)}
    (step : ReplyStep middle later was is) (first : before.replyDesk = middle.replyDesk)
    (last : after.replyDesk = later.replyDesk) : ReplyStep before after was is := by
  have now := congrArg ReplyDesk.now first
  have timing := congrArg ReplyDesk.timing first
  have outbound := congrArg ReplyDesk.outbound first
  have permits := congrArg ReplyDesk.permits first
  have sent := congrArg ReplyDesk.outbound last
  have granted := congrArg ReplyDesk.permits last
  simp only [replyDesk] at now timing outbound permits sent granted
  cases step with
  | quiet sameOutbound samePermits =>
      exact .quiet (by rw [sent, outbound, sameOutbound]) (by rw [granted, permits, samePermits])
  | begun reply acquired started =>
      refine .begun reply ?_ ?_
      · rw [granted, permits, acquired]
      · rw [sent, now, timing, outbound, started]
  | @going publication later delivered stepped changed =>
      refine @ReplyStep.going _ _ publication later delivered ?_ ?_
      · rw [sent, now, outbound, stepped]
      · rw [granted, permits, changed]
  | @finished publication result stepped changed =>
      refine @ReplyStep.finished _ _ publication result ?_ ?_
      · rw [sent, now, outbound, stepped]
      · rw [granted, permits, changed]

theorem ReplyStep.desk (same : after.replyDesk = before.replyDesk) :
    ReplyStep before after none none :=
  .quiet (congrArg ReplyDesk.outbound same) (congrArg ReplyDesk.permits same)

theorem beginOutbound_replyStep {channel : Channel} {body : Bytes}
    {publication : Publication OutboundReply}
    (begun : before.beginOutbound channel body = .ok (publication, after)) :
    ReplyStep before after none (some publication) := by
  obtain ⟨grant, granted, grown, acquired, started, rfl⟩ := beginOutbound_invert begun
  exact .begun ⟨_, grant⟩ acquired started

theorem stepOutbound_going {publication later : Publication OutboundReply} {delivered : Bool}
    (stepped : before.stepOutbound publication = some (after, .going later delivered)) :
    ReplyStep before after (some publication) (some later) := by
  obtain ⟨grown, handed, rfl⟩ := stepOutbound_invert stepped
  exact .going handed rfl

theorem stepOutbound_finished {publication : Publication OutboundReply}
    {result : Except PublishError Unit}
    (stepped : before.stepOutbound publication = some (after, .finished result)) :
    ReplyStep before after (some publication) none := by
  obtain ⟨grown, handed, rfl⟩ := stepOutbound_invert stepped
  exact .finished handed rfl

theorem takeCommand_replyStep (message : Message) (bridge : Bridge) :
    ReplyStep bridge (bridge.takeCommand message) none
      (bridge.takeCommand message).writer.reply? := by
  unfold takeCommand
  split
  · split
    · next command known =>
        cases command with
        | forgetPairing | forceConnect => exact .quiet rfl rfl
        | requestName =>
            unfold runControl
            simp only
            split
            · next begun => exact (beginOutbound_replyStep begun).of_desk rfl rfl
            · exact .quiet rfl rfl
    · exact .quiet rfl rfl
  · exact .quiet rfl rfl

theorem stepWriter_replyStep (moved : before.stepWriter = some after) :
    ReplyStep before after before.writer.reply? after.writer.reply? := by
  unfold stepWriter at moved
  split at moved
  · next idle =>
      rw [idle]
      unfold takeQueued at moved
      split at moved
      · next message commands received =>
          cases moved
          exact (takeCommand_replyStep message _).of_desk rfl rfl
      · simp only [Option.map_eq_some_iff, Prod.exists] at moved
        obtain ⟨messages, batches, -, rfl⟩ := moved
        exact .quiet rfl rfl
  · next sending =>
      cases moved
      rw [sending]
      exact .quiet rfl rfl
  · next sending =>
      rw [sending]
      split at moved
      · cases moved
        exact .quiet rfl rfl
      · cases moved
        exact .quiet rfl rfl
  · next message accepted rest writing =>
      cases moved
      rw [writing]
      cases accepted <;> exact .quiet rfl rfl
  · next awaiting =>
      rw [awaiting]
      split at moved
      · simp at moved
      all_goals
        cases moved
        exact .quiet rfl rfl
  · next naming =>
      rw [naming]
      split at moved
      · simp at moved
      · next stepped =>
          cases moved
          exact (stepOutbound_going stepped).of_desk rfl rfl
      · next stepped =>
          cases moved
          exact (stepOutbound_finished stepped).of_desk rfl rfl
  · simp at moved

theorem forwardBody_replyStep (channel : Channel) (data : Bytes) (assembled : Assembled)
    (bridge : Bridge) : ReplyStep bridge (bridge.forwardBody channel data assembled) none
      (bridge.forwardBody channel data assembled).listener.reply? := by
  unfold forwardBody
  split
  · split
    · next begun => exact (beginOutbound_replyStep begun).of_desk rfl rfl
    · exact .quiet rfl rfl
  · exact .quiet rfl rfl

theorem gatherNotification_replyStep (channel : Channel) (data : Bytes) (bridge : Bridge) :
    ReplyStep bridge (bridge.gatherNotification channel data) none
      (bridge.gatherNotification channel data).listener.reply? := by
  unfold gatherNotification
  cases pushed : bridge.reassembler.push channel data with
  | mk reassembler outcome =>
      simp only
      split
      · exact (forwardBody_replyStep channel data _ _).of_desk rfl rfl
      · exact .quiet rfl rfl

theorem onEvent_replyStep (event : CameraEvent) (bridge : Bridge) :
    ReplyStep bridge (bridge.onEvent event) none (bridge.onEvent event).listener.reply? := by
  cases event with
  | advertisement status name => cases name <;> exact .quiet rfl rfl
  | connected =>
      obtain ⟨commands, startup, same, -⟩ :=
        scheduleStartup_footprint (bridge.applyEvent .connected)
      rw [onEvent, same]
      exact .quiet rfl rfl
  | subscribed channel | unsubscribed channel | writeComplete channel status | authFailed =>
      exact .quiet rfl rfl
  | notification channel data =>
      simp only [onEvent, onNotification]
      split
      · exact .quiet rfl rfl
      · exact gatherNotification_replyStep channel data bridge
  | disconnected =>
      obtain ⟨commands, startup, same, -⟩ :=
        cancelStartup_footprint (bridge.applyEvent .disconnected)
      rw [onEvent, same]
      exact .quiet rfl rfl

theorem stepListener_replyStep (moved : before.stepListener = some after) :
    ReplyStep before after before.listener.reply? after.listener.reply? := by
  unfold stepListener at moved
  split at moved
  · next listening =>
      rw [listening]
      split at moved
      · cases moved
        exact (onEvent_replyStep _ _).of_desk rfl rfl
      · split at moved
        · simp only [Option.ite_none_left_eq_some, Option.some.injEq] at moved
          obtain ⟨-, rfl⟩ := moved
          unfold onSilence
          split <;> exact .quiet rfl rfl
        · simp at moved
  · next forwarding =>
      rw [forwarding]
      split at moved
      · simp at moved
      · next stepped =>
          cases moved
          obtain ⟨replies, rfl⟩ := stepReply_footprint stepped
          exact .quiet rfl rfl
      · next stepped =>
          cases moved
          obtain ⟨replies, rfl⟩ := stepReply_footprint stepped
          exact (gatherNotification_replyStep _ _ _).of_desk rfl rfl
  · next replying =>
      rw [replying]
      split at moved
      · simp at moved
      · next stepped =>
          cases moved
          exact (stepOutbound_going stepped).of_desk rfl rfl
      · next stepped =>
          cases moved
          exact (stepOutbound_finished stepped).of_desk rfl rfl
  · simp at moved

/-- A call's move is about its own entry. Only the end of its publication makes a reply's result. -/
theorem stepCall_invert {number : Nat} (moved : before.stepCall number = some after) :
    ∃ was is, before.calls[number]? = some was ∧ after.calls = before.calls.set number is ∧
      ReplyStep before after was.reply? is.reply? ∧
      ∀ result, is = .finished (.replied result) → ∃ publication ended,
        was = .running (.replying publication) ∧
        publication.step before.now before.outbound = some (after.outbound, .finished ended) ∧
        result = ended.mapError .publish := by
  unfold stepCall at moved
  split at moved
  · next publication submitting =>
      split at moved
      · simp at moved
      all_goals
        next stepped =>
          cases moved
          obtain ⟨commands, -, rfl⟩ := stepCommand_invert stepped
          exact ⟨_, _, submitting, rfl, .quiet rfl rfl, fun _ same => nomatch same⟩
  · next publication replying =>
      split at moved
      · simp at moved
      · next stepped =>
          cases moved
          have step := stepOutbound_going stepped
          obtain ⟨outbound, -, rfl⟩ := stepOutbound_invert stepped
          exact ⟨_, _, replying, rfl, step.of_desk rfl rfl, fun _ same => nomatch same⟩
      · next result stepped =>
          cases moved
          have step := stepOutbound_finished stepped
          obtain ⟨outbound, handed, rfl⟩ := stepOutbound_invert stepped
          refine ⟨_, _, replying, rfl, step.of_desk rfl rfl, ?_⟩
          intro recorded same
          cases same
          exact ⟨publication, result, rfl, handed, rfl⟩
  · next frame ready sending =>
      split at moved
      · simp at moved
      · cases moved
        exact ⟨_, _, sending, rfl, .quiet rfl rfl, fun _ same => nomatch same⟩
  · simp at moved

theorem filterMap_middle {Entry Found : Type} (find : Entry → Option Found) (front : List Entry)
    (entry : Entry) (back : List Entry) :
    (front ++ entry :: back).filterMap find =
      front.filterMap find ++ (find entry).toList ++ back.filterMap find := by
  cases found : find entry <;> simp [found]

theorem filterMap_set {Entry Found : Type} (find : Entry → Option Found) {entries : List Entry}
    {number : Nat} {was : Entry} (present : entries[number]? = some was) (is : Entry) :
    ∃ front back, entries.filterMap find = front ++ (find was).toList ++ back ∧
      (entries.set number is).filterMap find = front ++ (find is).toList ++ back := by
  obtain ⟨bound, rfl⟩ := List.getElem?_eq_some_iff.mp present
  have whole : entries = entries.take number ++ entries[number] :: entries.drop (number + 1) := by
    rw [List.getElem_cons_drop, List.take_append_drop]
  refine ⟨(entries.take number).filterMap find, (entries.drop (number + 1)).filterMap find, ?_, ?_⟩
  · rw [← filterMap_middle, ← whole]
  · rw [List.set_eq_take_append_cons_drop, if_pos bound, filterMap_middle]

/-- A move is about the task's own publication, and spares those of all others. -/
structure OwnReply (task : Task) (before after : Bridge) : Prop where
  step : ReplyStep before after (before.replyAt? task) (after.replyAt? task)
  others : ∃ front back,
    before.replyPublications = front ++ (before.replyAt? task).toList ++ back ∧
      after.replyPublications = front ++ (after.replyAt? task).toList ++ back
  transmitter : after.transmitter = before.transmitter

theorem OwnReply.quiet {task : Task} (idle : ∀ bridge, replyAt? task bridge = none)
    (desk : after.replyDesk = before.replyDesk) (transmitter : after.transmitter = before.transmitter)
    (publications : after.replyPublications = before.replyPublications) :
    OwnReply task before after where
  step := by
    rw [idle, idle]
    exact .desk desk
  others := by
    rw [idle, idle, publications]
    exact ⟨before.replyPublications, [], by simp, by simp⟩
  transmitter := transmitter

theorem step_ownReply {task : Task} (moved : before.step task = some after)
    (other : task ≠ .transmitter) : OwnReply task before after := by
  cases task with
  | transmitter => exact absurd rfl other
  | writer =>
      have step := stepWriter_replyStep moved
      obtain ⟨_, _, _, _, _, _, _, rfl⟩ := stepWriter_footprint moved
      refine ⟨step, ⟨[], before.listener.reply?.toList ++ before.calls.filterMap Call.reply?,
        ?_, ?_⟩, rfl⟩
      · simp only [replyPublications, replyAt?, List.nil_append, List.append_assoc]
      · simp only [replyPublications, replyAt?, List.nil_append, List.append_assoc]
  | listener =>
      have step := stepListener_replyStep moved
      obtain ⟨_, _, _, _, _, _, _, _, _, _, rfl, -⟩ := stepListener_footprint moved
      exact ⟨step, ⟨before.writer.reply?.toList, before.calls.filterMap Call.reply?, rfl, rfl⟩, rfl⟩
  | call number =>
      obtain ⟨was, is, present, set, step, -⟩ := stepCall_invert moved
      obtain ⟨front, back, first, last⟩ := filterMap_set Call.reply? present is
      have bound := (List.getElem?_eq_some_iff.mp present).1
      have own : before.replyAt? (.call number) = was.reply? := by
        simp only [replyAt?, present, Option.bind_some]
      have owned : after.replyAt? (.call number) = is.reply? := by
        simp only [replyAt?, set, List.getElem?_set_self bound, Option.bind_some]
      obtain ⟨_, _, _, _, _, rfl, -⟩ := stepCall_footprint moved
      refine ⟨by rw [own, owned]; exact step, ?_, rfl⟩
      refine ⟨before.writer.reply?.toList ++ before.listener.reply?.toList ++ front, back, ?_, ?_⟩
      · rw [own, replyPublications, first]
        simp only [List.append_assoc]
      · rw [owned, replyPublications, set, last]
        simp only [List.append_assoc]
  | ingress =>
      obtain ⟨_, _, _, _, rfl, -⟩ := stepIngress_footprint moved
      exact .quiet (fun _ => rfl) rfl rfl rfl
  | mapper =>
      obtain ⟨_, _, _, rfl⟩ := stepMapper_footprint moved
      exact .quiet (fun _ => rfl) rfl rfl rfl
  | heartbeat =>
      obtain ⟨_, _, rfl⟩ := stepHeartbeat_footprint moved
      exact .quiet (fun _ => rfl) rfl rfl rfl
  | egress =>
      obtain ⟨_, _, _, rfl⟩ := stepEgress_footprint moved
      exact .quiet (fun _ => rfl) rfl rfl rfl
  | intake =>
      obtain ⟨_, _, _, _, rfl⟩ := stepIntake_footprint moved
      exact .quiet (fun _ => rfl) rfl rfl rfl
  | consumer =>
      obtain ⟨_, _, _, _, _, _, rfl, -⟩ := stepConsumer_footprint moved
      exact .quiet (fun _ => rfl) rfl rfl rfl
  | startup =>
      obtain ⟨_, _, rfl, -⟩ := stepStartup_footprint moved
      exact .quiet (fun _ => rfl) rfl rfl rfl

/-! ### The transmitter -/

inductive TransmitterStep (before after : Bridge) : Prop where
  | took (reply : OutboundReply) (ready deadline : Time)
      (listening : before.transmitter = .listening)
      (received : before.outbound.receive workerSubscriber = some (reply, after.outbound))
      (permits : after.permits = before.permits)
      (sending : after.transmitter = .sending reply ready deadline)
  | refused (reply : OutboundReply) (listening : before.transmitter = .listening)
      (received : before.outbound.receive workerSubscriber = some (reply, after.outbound))
      (permits : after.permits =
        before.permits.modify reply.grant fun hold => hold.release.drop)
      (rested : after.transmitter = .listening)
  | ended (reply : OutboundReply) (ready deadline : Time)
      (sending : before.transmitter = .sending reply ready deadline)
      (outbound : after.outbound = before.outbound)
      (permits : after.permits =
        before.permits.modify reply.grant fun hold => hold.release.drop)
      (rested : after.transmitter = .listening)

theorem stepTransmitter_invert (moved : before.stepTransmitter = some after) :
    TransmitterStep before after := by
  unfold stepTransmitter at moved
  split at moved
  · next listening =>
      simp only [Option.map_eq_some_iff, Prod.exists] at moved
      obtain ⟨reply, outbound, received, rfl⟩ := moved
      unfold transmit
      split
      · exact .refused reply listening received rfl rfl
      · exact .took reply _ _ listening received rfl rfl
  · next reply ready deadline sending =>
      split at moved
      · cases moved
        exact .ended reply ready deadline sending rfl rfl rfl
      · split at moved
        · cases moved
          exact .ended reply ready deadline sending rfl rfl rfl
        · simp at moved
  · simp at moved

theorem stepTransmitter_publications (moved : before.stepTransmitter = some after) :
    after.replyPublications = before.replyPublications := by
  obtain ⟨_, _, _, _, rfl⟩ := stepTransmitter_footprint moved
  rfl

/-! ### Strides -/

/-- A stride is one move, and a second one where the first has served everyone. -/
theorem stride_invert {task : Task} (strode : before.stride task = some after) :
    ∃ middle, before.step task = some middle ∧
      ((∀ publication, middle.replyAt? task = some publication → publication.isServed = false) ∧
          after = middle ∨
        ∃ publication, middle.replyAt? task = some publication ∧ publication.isServed = true ∧
          after = (middle.step task).getD middle) := by
  simp only [stride, Option.map_eq_some_iff] at strode
  obtain ⟨middle, moved, rfl⟩ := strode
  refine ⟨middle, moved, ?_⟩
  cases standing : middle.replyAt? task with
  | none => exact .inl ⟨by simp, by simp⟩
  | some publication =>
      cases served : publication.isServed with
      | false => exact .inl ⟨by simp [served], by simp [served]⟩
      | true => exact .inr ⟨publication, rfl, served, by simp [served]⟩

theorem stride_happens {task : Task} (strode : before.stride task = some after) :
    Relation.ReflTransGen Happens before after := by
  obtain ⟨middle, moved, ⟨-, rfl⟩ | ⟨publication, -, -, rfl⟩⟩ := stride_invert strode
  · exact .single (.acted (.move task) moved)
  · have first : Relation.ReflTransGen Happens before middle := .single (.acted (.move task) moved)
    cases again : middle.step task with
    | none => exact first
    | some later => exact first.tail (.acted (.move task) again)

theorem Advance.happens (advance : Advance before after) :
    Relation.ReflTransGen Happens before after := by
  cases advance with
  | strode task strode => exact stride_happens strode
  | acted next outside acted => exact .single (.acted next acted)
  | failed reply ready deadline sending failed =>
      exact .single (.failed reply ready deadline sending failed)

theorem Settling.happens (settling : Settling before after) :
    Relation.ReflTransGen Happens before after := by
  cases settling with
  | strode task strode => exact stride_happens strode
  | passed span passed =>
      refine .single (.acted (.pass span) ?_)
      rw [passed]
      rfl

theorem step_of_reply {task : Task} {publication : Publication OutboundReply}
    {topic : Topic OutboundReply} {progress : Progress OutboundReply}
    (standing : bridge.replyAt? task = some publication)
    (stepped : publication.step bridge.now bridge.outbound = some (topic, progress)) :
    ∃ after, bridge.step task = some after := by
  have handed : ∃ next, bridge.stepOutbound publication = some (next, progress) := by
    simp only [stepOutbound, stepped, Option.map_some]
    exact ⟨_, rfl⟩
  obtain ⟨next, handed⟩ := handed
  cases task with
  | writer =>
      have naming : bridge.writer = .naming publication := by
        cases writer : bridge.writer <;> simp [replyAt?, writer, Writer.reply?] at standing
        rw [standing]
      simp only [step, stepWriter, naming, handed]
      cases progress <;> exact ⟨_, rfl⟩
  | listener =>
      have replying : bridge.listener = .replying publication := by
        cases listener : bridge.listener <;> simp [replyAt?, listener, Listener.reply?] at standing
        rw [standing]
      simp only [step, stepListener, replying, handed]
      cases progress <;> exact ⟨_, rfl⟩
  | call number =>
      have running : bridge.calls[number]? = some (.running (.replying publication)) := by
        simp only [replyAt?, Option.bind_eq_some_iff] at standing
        obtain ⟨call, present, publishes⟩ := standing
        rw [present]
        cases call with
        | finished response => cases publishes
        | running request =>
            cases request with
            | replying other =>
                cases publishes
                rfl
            | submitting | busSending => cases publishes
      simp only [step, stepCall, running, handed]
      cases progress <;> exact ⟨_, rfl⟩
  | ingress | mapper | heartbeat | egress | intake | consumer | transmitter | startup =>
      cases standing

theorem reply_among {task : Task} {publication : Publication OutboundReply}
    (standing : bridge.replyAt? task = some publication) :
    ∃ front back, bridge.replyPublications = front ++ [publication] ++ back := by
  cases task with
  | writer =>
      refine ⟨[], bridge.listener.reply?.toList ++ bridge.calls.filterMap Call.reply?, ?_⟩
      simp only [replyAt?] at standing
      simp only [replyPublications, standing, Option.toList_some, List.nil_append,
        List.append_assoc]
  | listener =>
      refine ⟨bridge.writer.reply?.toList, bridge.calls.filterMap Call.reply?, ?_⟩
      simp only [replyAt?] at standing
      simp only [replyPublications, standing, Option.toList_some]
  | call number =>
      simp only [replyAt?, Option.bind_eq_some_iff] at standing
      obtain ⟨call, present, publishes⟩ := standing
      obtain ⟨front, back, whole, -⟩ := filterMap_set Call.reply? present call
      refine ⟨bridge.writer.reply?.toList ++ bridge.listener.reply?.toList ++ front, back, ?_⟩
      rw [replyPublications, whole, publishes, Option.toList_some]
      simp only [List.append_assoc]
  | ingress | mapper | heartbeat | egress | intake | consumer | transmitter | startup =>
      exact nomatch standing

end Bridge

end CameraBridge
