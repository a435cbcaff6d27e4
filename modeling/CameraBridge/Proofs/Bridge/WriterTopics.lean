import CameraBridge.Proofs.Bridge.Footprint
import CameraBridge.Proofs.Bridge.Schedule
import CameraBridge.Proofs.Topic.Serving

namespace CameraBridge

/-! The writer's two topics. It is the one who subscribes to them, and it stays until the bridge ends.
What is published on either of them is for nobody else. -/

/-- There is one subscriber, and it has not gone. -/
structure Topic.ServesOnly {Content : Type} (subscriber : Nat) (topic : Topic Content) : Prop
    extends topic.Serves subscriber where
  only : topic.live = [subscriber]

namespace Topic.ServesOnly

variable {Content : Type} {subscriber : Nat} {topic after : Topic Content}
  {publication : Publication Content} {now patience : Time} {message : Content}

theorem subscribed (name : String) (capacity : Nat) :
    ServesOnly 0 (({ name := name } : Topic Content).subscribe capacity).2 :=
  ⟨.subscribed name capacity, rfl⟩

/-- As long as the subscriber is served, it is enough that nobody else comes. -/
theorem onward (serves : topic.ServesOnly subscriber) (still : after.Serves subscriber)
    (fewer : after.live.Sublist topic.live) : after.ServesOnly subscriber := by
  rw [serves.only] at fewer
  exact ⟨still, fewer.eq_of_length_le (List.length_pos_of_mem still.live)⟩

theorem leave (serves : topic.ServesOnly subscriber) (ticket : Nat) :
    (topic.leave ticket).ServesOnly subscriber :=
  ⟨serves.toServes.leave ticket, (Topic.leave_live ticket topic).trans serves.only⟩

theorem started (serves : topic.ServesOnly subscriber)
    (started : Publication.start now patience message topic = (publication, after)) :
    after.ServesOnly subscriber := by
  refine ⟨Publication.started_serves serves.toServes started, ?_⟩
  rw [← Publication.started_enter started, Topic.enter_live, serves.only]

theorem stepped {progress : Progress Content} (serves : topic.ServesOnly subscriber)
    (stepped : publication.step now topic = some (after, progress)) :
    after.ServesOnly subscriber := by
  have still := Publication.step_serves serves.toServes stepped
  cases Publication.step_moved stepped with
  | admitted | closed | full => exact serves
  | delivered => exact ⟨still, serves.only⟩
  | late => exact serves.leave _
  | concluded => exact serves.onward still (Publication.conclude_live _ _ _ _)

theorem receive {other : Nat} (serves : topic.ServesOnly subscriber)
    (received : topic.receive other = some (message, after)) : after.ServesOnly subscriber :=
  ⟨serves.toServes.receive received, (Topic.receive_live received).1.trans serves.only⟩

end Topic.ServesOnly

namespace Bridge

/-- The writer is the one who gets commands and payloads. -/
structure Staffed (bridge : Bridge) : Prop where
  commands : bridge.commands.ServesOnly workerSubscriber
  batches : bridge.batches.ServesOnly workerSubscriber

namespace Staffed

variable {bridge before after : Bridge}

theorem start (timing : Timing) (queueDepth : Nat) (state : DeviceState) (links : OpenLinks) :
    (Bridge.start timing queueDepth state links).Staffed :=
  ⟨.subscribed _ queueDepth, .subscribed _ queueDepth⟩

/-! ### Publications -/

theorem beginCommand {message : Message} {publication : Publication Message}
    (staffed : before.Staffed) (begun : before.beginCommand message = .ok (publication, after)) :
    after.Staffed := by
  obtain ⟨commands, started, rfl⟩ := beginCommand_invert begun
  exact ⟨staffed.commands.started started, staffed.batches⟩

theorem stepCommand {publication : Publication Message} {progress : Progress Message}
    (staffed : before.Staffed)
    (stepped : before.stepCommand publication = some (after, progress)) : after.Staffed := by
  obtain ⟨commands, handed, rfl⟩ := stepCommand_invert stepped
  exact ⟨staffed.commands.stepped handed, staffed.batches⟩

theorem beginBatch {messages : List Message} {publication : Publication (List Message)}
    (staffed : before.Staffed) (begun : before.beginBatch messages = .ok (publication, after)) :
    after.Staffed := by
  obtain ⟨batches, started, rfl⟩ := beginBatch_invert begun
  exact ⟨staffed.commands, staffed.batches.started started⟩

theorem stepBatch {publication : Publication (List Message)}
    {progress : Progress (List Message)} (staffed : before.Staffed)
    (stepped : before.stepBatch publication = some (after, progress)) : after.Staffed := by
  obtain ⟨batches, handed, rfl⟩ := stepBatch_invert stepped
  exact ⟨staffed.commands, staffed.batches.stepped handed⟩

/-! ### Tasks -/

theorem takeQueued (staffed : before.Staffed) (moved : before.takeQueued = some after) :
    after.Staffed := by
  unfold Bridge.takeQueued at moved
  split at moved
  · next message commands received =>
      cases moved
      obtain ⟨camera, permits, outbound, writer, same⟩ :=
        takeCommand_footprint message { before with commands }
      rw [same]
      exact ⟨staffed.commands.receive received, staffed.batches⟩
  · simp only [Option.map_eq_some_iff, Prod.exists] at moved
    obtain ⟨messages, batches, received, rfl⟩ := moved
    exact ⟨staffed.commands, staffed.batches.receive received⟩

theorem stepWriter (staffed : before.Staffed) (moved : before.stepWriter = some after) :
    after.Staffed := by
  unfold Bridge.stepWriter at moved
  split at moved
  · exact staffed.takeQueued moved
  · cases moved
    exact ⟨staffed.commands, staffed.batches⟩
  · split at moved <;> cases moved <;> exact ⟨staffed.commands, staffed.batches⟩
  · next message accepted rest writing =>
      cases moved
      cases accepted <;> exact ⟨staffed.commands, staffed.batches⟩
  · split at moved <;> cases moved <;> exact ⟨staffed.commands, staffed.batches⟩
  · split at moved
    · cases moved
    all_goals
      next stepped =>
        cases moved
        obtain ⟨outbound, -, rfl⟩ := stepOutbound_invert stepped
        exact ⟨staffed.commands, staffed.batches⟩
  · cases moved

theorem cancelStartup (staffed : bridge.Staffed) : bridge.cancelStartup.Staffed := by
  unfold Bridge.cancelStartup
  split
  · exact ⟨staffed.commands.leave _, staffed.batches⟩
  · exact ⟨staffed.commands, staffed.batches⟩

theorem onEvent (staffed : bridge.Staffed) (event : CameraEvent) :
    (bridge.onEvent event).Staffed := by
  cases event with
  | advertisement status name => cases name <;> exact ⟨staffed.commands, staffed.batches⟩
  | connected =>
      have cancelled : (bridge.applyEvent .connected).cancelStartup.Staffed :=
        cancelStartup ⟨staffed.commands, staffed.batches⟩
      exact ⟨cancelled.commands, cancelled.batches⟩
  | subscribed | unsubscribed | writeComplete | authFailed =>
      exact ⟨staffed.commands, staffed.batches⟩
  | notification channel data =>
      obtain ⟨_, _, _, _, _, _, same⟩ := onNotification_footprint channel data bridge
      rw [Bridge.onEvent, same]
      exact ⟨staffed.commands, staffed.batches⟩
  | disconnected =>
      have cancelled : (bridge.applyEvent .disconnected).cancelStartup.Staffed :=
        cancelStartup ⟨staffed.commands, staffed.batches⟩
      exact ⟨cancelled.commands, cancelled.batches⟩

theorem stepListener (staffed : before.Staffed) (moved : before.stepListener = some after) :
    after.Staffed := by
  unfold Bridge.stepListener at moved
  split at moved
  · split at moved
    · cases moved
      apply onEvent
      exact ⟨staffed.commands, staffed.batches⟩
    · split at moved
      · simp only [Option.ite_none_left_eq_some, Option.some.injEq] at moved
        obtain ⟨-, rfl⟩ := moved
        obtain ⟨_, _, _, same⟩ := onSilence_footprint before
        rw [same]
        exact ⟨staffed.commands, staffed.batches⟩
      · cases moved
  · split at moved
    · cases moved
    · next stepped =>
        cases moved
        obtain ⟨replies, rfl⟩ := stepReply_footprint stepped
        exact ⟨staffed.commands, staffed.batches⟩
    · next channel data publication listening stepped =>
        cases moved
        obtain ⟨replies, rfl⟩ := stepReply_footprint stepped
        obtain ⟨_, _, _, _, _, same⟩ := gatherNotification_footprint _ _ { before with replies }
        rw [same]
        exact ⟨staffed.commands, staffed.batches⟩
  · split at moved
    · cases moved
    all_goals
      next stepped =>
        cases moved
        obtain ⟨outbound, -, rfl⟩ := stepOutbound_invert stepped
        exact ⟨staffed.commands, staffed.batches⟩
  · cases moved

theorem onFrame (staffed : bridge.Staffed) (frame : CanFrame) : (bridge.onFrame frame).Staffed := by
  unfold Bridge.onFrame
  split
  · exact staffed
  · split
    · exact staffed
    · split
      · next begun =>
          have begun := staffed.beginCommand begun
          exact ⟨begun.commands, begun.batches⟩
      · exact ⟨staffed.commands, staffed.batches⟩

theorem stepIngress (staffed : before.Staffed) (moved : before.stepIngress = some after) :
    after.Staffed := by
  unfold Bridge.stepIngress at moved
  split at moved
  · split at moved
    · cases moved
    · cases moved
      apply onFrame
      exact ⟨staffed.commands, staffed.batches⟩
  · split at moved
    · cases moved
    all_goals
      next stepped =>
        have submitted := staffed.stepCommand stepped
        cases moved
        exact ⟨submitted.commands, submitted.batches⟩
  · split at moved
    · cases moved
    all_goals
      next stepped =>
        cases moved
        obtain ⟨canFrames, rfl⟩ := stepFrame_footprint stepped
        exact ⟨staffed.commands, staffed.batches⟩
  · cases moved

theorem stepStartup (staffed : before.Staffed) (moved : before.stepStartup = some after) :
    after.Staffed := by
  unfold Bridge.stepStartup at moved
  split at moved
  · cases moved
  · split at moved <;> cases moved
    exact ⟨staffed.commands, staffed.batches⟩
  · cases moved
    exact ⟨staffed.commands, staffed.batches⟩
  · split at moved
    · next begun =>
        have begun := staffed.beginCommand begun
        cases moved
        exact ⟨begun.commands, begun.batches⟩
    · cases moved
      exact ⟨staffed.commands, staffed.batches⟩
  · split at moved
    · cases moved
    all_goals
      next stepped =>
        have queried := staffed.stepCommand stepped
        cases moved
        exact ⟨queried.commands, queried.batches⟩

theorem stepCall {number : Nat} (staffed : before.Staffed)
    (moved : before.stepCall number = some after) : after.Staffed := by
  unfold Bridge.stepCall at moved
  split at moved
  · split at moved
    · cases moved
    all_goals
      next stepped =>
        have submitted := staffed.stepCommand stepped
        cases moved
        exact ⟨submitted.commands, submitted.batches⟩
  · split at moved
    · cases moved
    all_goals
      next stepped =>
        cases moved
        obtain ⟨outbound, -, rfl⟩ := stepOutbound_invert stepped
        exact ⟨staffed.commands, staffed.batches⟩
  · split at moved <;> cases moved
    exact ⟨staffed.commands, staffed.batches⟩
  · cases moved

theorem consume (staffed : bridge.Staffed) (payload : InboundPayload) :
    (bridge.consume payload).Staffed := by
  unfold Bridge.consume
  split
  · exact ⟨staffed.commands, staffed.batches⟩
  · split
    · next begun =>
        have begun := staffed.beginCommand begun
        exact ⟨begun.commands, begun.batches⟩
    · exact ⟨staffed.commands, staffed.batches⟩
  · split
    · next begun =>
        have begun := staffed.beginBatch begun
        exact ⟨begun.commands, begun.batches⟩
    · exact ⟨staffed.commands, staffed.batches⟩
  · exact ⟨staffed.commands, staffed.batches⟩

theorem stepConsumer (staffed : before.Staffed) (moved : before.stepConsumer = some after) :
    after.Staffed := by
  unfold Bridge.stepConsumer at moved
  split at moved
  · simp only [Option.map_eq_some_iff, Prod.exists] at moved
    obtain ⟨payload, inbound, -, rfl⟩ := moved
    apply consume
    exact ⟨staffed.commands, staffed.batches⟩
  · split at moved
    · cases moved
    all_goals
      next stepped =>
        have commanded := staffed.stepCommand stepped
        cases moved
        exact ⟨commanded.commands, commanded.batches⟩
  · split at moved
    · cases moved
    all_goals
      next stepped =>
        have batched := staffed.stepBatch stepped
        cases moved
        exact ⟨batched.commands, batched.batches⟩
  · cases moved

theorem submit (staffed : bridge.Staffed) (message : Message) :
    (bridge.submit message).Staffed := by
  unfold Bridge.submit
  split
  · next begun =>
      have begun := staffed.beginCommand begun
      exact ⟨begun.commands, begun.batches⟩
  · exact ⟨staffed.commands, staffed.batches⟩

theorem step {task : Task} (staffed : before.Staffed) (moved : before.step task = some after) :
    after.Staffed := by
  cases task with
  | writer => exact staffed.stepWriter moved
  | listener => exact staffed.stepListener moved
  | ingress => exact staffed.stepIngress moved
  | consumer => exact staffed.stepConsumer moved
  | startup => exact staffed.stepStartup moved
  | call number => exact staffed.stepCall moved
  | mapper =>
      obtain ⟨_, _, _, rfl⟩ := stepMapper_footprint moved
      exact ⟨staffed.commands, staffed.batches⟩
  | heartbeat =>
      obtain ⟨_, _, rfl⟩ := stepHeartbeat_footprint moved
      exact ⟨staffed.commands, staffed.batches⟩
  | egress =>
      obtain ⟨_, _, _, rfl⟩ := stepEgress_footprint moved
      exact ⟨staffed.commands, staffed.batches⟩
  | intake =>
      obtain ⟨_, _, _, _, rfl⟩ := stepIntake_footprint moved
      exact ⟨staffed.commands, staffed.batches⟩
  | transmitter =>
      obtain ⟨_, _, _, _, rfl⟩ := stepTransmitter_footprint moved
      exact ⟨staffed.commands, staffed.batches⟩

/-- Short of the end, nothing takes the writer away or brings somebody else. -/
theorem act {next : Act} (staffed : before.Staffed) (acted : before.act next = some after)
    (going : next ≠ .shutdown) : after.Staffed := by
  cases next with
  | move task => exact staffed.step acted
  | submit message =>
      cases acted
      exact staffed.submit message
  | sendLargeReply channel body =>
      cases acted
      obtain ⟨_, _, _, same⟩ := sendLargeReply_footprint channel body before
      rw [same]
      exact ⟨staffed.commands, staffed.batches⟩
  | readTap subscriber =>
      cases acted
      obtain ⟨_, same⟩ := readTap_footprint subscriber before
      rw [same]
      exact ⟨staffed.commands, staffed.batches⟩
  | shutdown => exact absurd rfl going
  | pass | relink | sendOnBus | tap | dropTap =>
      cases acted
      exact ⟨staffed.commands, staffed.batches⟩

end Staffed

/-- Whatever a bridge has been through, its writer is the one who gets commands and payloads. -/
theorem watch_staffed {Sight : Type} {look : Act → Bridge → Bridge → Option Sight}
    {timing : Timing} {queueDepth : Nat} {state : DeviceState} {links : OpenLinks}
    {acts : List Act} {sights : List Sight} {last : Bridge} (going : .shutdown ∉ acts)
    (watched : (start timing queueDepth state links).watch look acts = some (sights, last)) :
    last.Staffed :=
  watch_going (fun _ bridge => bridge.Staffed)
    (fun _ _ _ _ goesOn staffed acted => staffed.act acted goesOn)
    (Staffed.start timing queueDepth state links) going watched

end Bridge

end CameraBridge
