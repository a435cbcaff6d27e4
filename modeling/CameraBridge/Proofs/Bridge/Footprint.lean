import CameraBridge.Bridge.Run
import CameraBridge.Proofs.Topic.Delivery

namespace CameraBridge

/-! Which parts of a bridge each task may change. Whatever else is stated about the other parts holds
after the task's move as before. The queues for commands and payloads are followed more closely: only
the writer takes from them, and nobody else does more than add one message. -/

/-- Where a move of a publication leaves the queries. -/
def Startup.onward (rest : List Message) : Progress Message → Startup
  | .going publication _ => .publishing publication rest
  | .finished _ => .querying rest

namespace Bridge

variable {bridge after : Bridge}

/-! ### Publications -/

theorem beginCommand_invert {message : Message} {publication : Publication Message}
    (begun : bridge.beginCommand message = .ok (publication, after)) :
    ∃ commands, Publication.start bridge.now bridge.timing.publishTimeout message bridge.commands =
        (publication, commands) ∧ after = { bridge with commands } := by
  unfold beginCommand at begun
  cases started : Publication.begin (message.isAllowed bridge.device) bridge.now
      bridge.timing.publishTimeout message bridge.commands with
  | error cause => simp [started, Except.map] at begun
  | ok pair =>
      obtain ⟨made, commands⟩ := pair
      simp only [started, Except.map, Except.ok.injEq, Prod.mk.injEq] at begun
      obtain ⟨rfl, rfl⟩ := begun
      exact ⟨commands, Publication.begin_started started, rfl⟩

/-- A command is published if and only if it is allowed at that moment. -/
theorem beginCommand_isOk (message : Message) (bridge : Bridge) :
    (bridge.beginCommand message).isOk = message.isAllowed bridge.device := by
  unfold beginCommand Publication.begin
  cases message.isAllowed bridge.device <;> rfl

theorem stepCommand_invert {publication : Publication Message} {progress : Progress Message}
    (stepped : bridge.stepCommand publication = some (after, progress)) :
    ∃ commands, publication.step bridge.now bridge.commands = some (commands, progress) ∧
      after = { bridge with commands } := by
  simp only [stepCommand, Option.map_eq_some_iff, Prod.exists, Prod.mk.injEq] at stepped
  obtain ⟨commands, same, stepped, rfl, rfl⟩ := stepped
  exact ⟨commands, stepped, rfl⟩

theorem beginBatch_invert {messages : List Message} {publication : Publication (List Message)}
    (begun : bridge.beginBatch messages = .ok (publication, after)) :
    ∃ batches, Publication.start bridge.now bridge.timing.publishTimeout messages bridge.batches =
        (publication, batches) ∧ after = { bridge with batches } := by
  unfold beginBatch at begun
  cases started : Publication.begin (Message.areAllowed messages bridge.device) bridge.now
      bridge.timing.publishTimeout messages bridge.batches with
  | error cause => simp [started, Except.map] at begun
  | ok pair =>
      obtain ⟨made, batches⟩ := pair
      simp only [started, Except.map, Except.ok.injEq, Prod.mk.injEq] at begun
      obtain ⟨rfl, rfl⟩ := begun
      exact ⟨batches, Publication.begin_started started, rfl⟩

theorem stepBatch_invert {publication : Publication (List Message)}
    {progress : Progress (List Message)}
    (stepped : bridge.stepBatch publication = some (after, progress)) :
    ∃ batches, publication.step bridge.now bridge.batches = some (batches, progress) ∧
      after = { bridge with batches } := by
  simp only [stepBatch, Option.map_eq_some_iff, Prod.exists, Prod.mk.injEq] at stepped
  obtain ⟨batches, same, stepped, rfl, rfl⟩ := stepped
  exact ⟨batches, stepped, rfl⟩

theorem stepFrame_invert {publication : Publication CanFrame} {progress : Progress CanFrame}
    (stepped : bridge.stepFrame publication = some (after, progress)) :
    ∃ canFrames, publication.step bridge.now bridge.canFrames = some (canFrames, progress) ∧
      after = { bridge with canFrames } := by
  simp only [stepFrame, Option.map_eq_some_iff, Prod.exists, Prod.mk.injEq] at stepped
  obtain ⟨canFrames, same, stepped, rfl, rfl⟩ := stepped
  exact ⟨canFrames, stepped, rfl⟩

theorem stepFrame_footprint {publication : Publication CanFrame} {progress : Progress CanFrame}
    (stepped : bridge.stepFrame publication = some (after, progress)) :
    ∃ canFrames, after = { bridge with canFrames } := by
  obtain ⟨canFrames, -, same⟩ := stepFrame_invert stepped
  exact ⟨canFrames, same⟩

theorem stepReply_footprint {publication : Publication Message} {progress : Progress Message}
    (stepped : bridge.stepReply publication = some (after, progress)) :
    ∃ replies, after = { bridge with replies } := by
  simp only [stepReply, Option.map_eq_some_iff, Prod.exists, Prod.mk.injEq] at stepped
  obtain ⟨replies, same, -, rfl, rfl⟩ := stepped
  exact ⟨replies, rfl⟩

theorem stepInbound_footprint {publication : Publication InboundPayload}
    {progress : Progress InboundPayload}
    (stepped : bridge.stepInbound publication = some (after, progress)) :
    ∃ inbound receiver, after = { bridge with inbound, receiver } := by
  simp only [stepInbound, Option.map_eq_some_iff, Prod.exists, Prod.mk.injEq] at stepped
  obtain ⟨inbound, same, -, rfl, rfl⟩ := stepped
  exact ⟨inbound, _, rfl⟩

theorem beginOutbound_invert {channel : Channel} {body : Bytes}
    {publication : Publication OutboundReply}
    (begun : bridge.beginOutbound channel body = .ok (publication, after)) :
    ∃ grant permits outbound, bridge.permits.acquire = some (grant, permits) ∧
      Publication.start bridge.now bridge.timing.publishTimeout
          ⟨(Envelope.toChannel channel body).toBytes, grant⟩ bridge.outbound =
        (publication, outbound) ∧
      after = { bridge with permits, outbound } := by
  unfold beginOutbound at begun
  cases acquired : bridge.permits.acquire with
  | none => simp [acquired] at begun
  | some pair =>
      obtain ⟨grant, permits⟩ := pair
      simp only [acquired, Except.ok.injEq, Prod.mk.injEq] at begun
      obtain ⟨rfl, rfl⟩ := begun
      exact ⟨grant, permits, _, rfl, rfl, rfl⟩

theorem beginOutbound_busy_iff {channel : Channel} {body : Bytes} :
    bridge.beginOutbound channel body = .error .busy ↔ bridge.permits.available = false := by
  unfold beginOutbound ReplyPermits.acquire
  cases available : bridge.permits.available <;> simp

theorem stepOutbound_invert {publication : Publication OutboundReply}
    {progress : Progress OutboundReply}
    (stepped : bridge.stepOutbound publication = some (after, progress)) :
    ∃ outbound, publication.step bridge.now bridge.outbound = some (outbound, progress) ∧
      after = { bridge with
        outbound
        permits := bridge.permits.modify publication.message.grant (follow progress) } := by
  simp only [stepOutbound, Option.map_eq_some_iff, Prod.exists, Prod.mk.injEq] at stepped
  obtain ⟨outbound, same, stepped, rfl, rfl⟩ := stepped
  exact ⟨outbound, stepped, rfl⟩

/-! ### Tasks -/

theorem mapReply_footprint (message : Message) (bridge : Bridge) :
    ∃ canFrames mapper, bridge.mapReply message = { bridge with canFrames, mapper } := by
  unfold mapReply
  split
  · exact ⟨bridge.canFrames, bridge.mapper, rfl⟩
  · exact ⟨_, _, rfl⟩

theorem stepMapper_footprint (moved : bridge.stepMapper = some after) :
    ∃ replies canFrames mapper, after = { bridge with replies, canFrames, mapper } := by
  unfold stepMapper at moved
  split at moved
  · simp only [Option.map_eq_some_iff, Prod.exists] at moved
    obtain ⟨message, replies, -, rfl⟩ := moved
    obtain ⟨canFrames, mapper, same⟩ := mapReply_footprint message { bridge with replies }
    exact ⟨replies, canFrames, mapper, same⟩
  · split at moved
    · simp at moved
    all_goals
      next stepped =>
        cases moved
        obtain ⟨canFrames, rfl⟩ := stepFrame_footprint stepped
        exact ⟨bridge.replies, canFrames, _, rfl⟩
  · simp at moved

theorem stepHeartbeat_footprint (moved : bridge.stepHeartbeat = some after) :
    ∃ canFrames heartbeat, after = { bridge with canFrames, heartbeat } := by
  unfold stepHeartbeat at moved
  split at moved
  · split at moved
    · simp at moved
    · cases moved
      exact ⟨_, _, rfl⟩
  · split at moved
    · simp at moved
    all_goals
      next stepped =>
        cases moved
        obtain ⟨canFrames, rfl⟩ := stepFrame_footprint stepped
        exact ⟨canFrames, _, rfl⟩
  · simp at moved

theorem stepEgress_footprint (moved : bridge.stepEgress = some after) :
    ∃ bus canFrames egress, after = { bridge with bus, canFrames, egress } := by
  unfold stepEgress at moved
  split at moved
  · simp only [Option.map_eq_some_iff, Prod.exists] at moved
    obtain ⟨frame, canFrames, -, rfl⟩ := moved
    exact ⟨bridge.bus, canFrames, _, rfl⟩
  · split at moved
    · cases moved
      exact ⟨_, bridge.canFrames, _, rfl⟩
    · split at moved
      · cases moved
        exact ⟨bridge.bus, bridge.canFrames, _, rfl⟩
      · simp at moved
  · simp at moved

theorem beginReception_footprint (bridge : Bridge) :
    ∃ receiver intake, bridge.beginReception = { bridge with receiver, intake } := by
  unfold beginReception
  split
  · exact ⟨_, _, rfl⟩
  · exact ⟨bridge.receiver, _, rfl⟩

theorem afterReception_footprint (result : Except ReceptionError InboundPayload) (bridge : Bridge) :
    ∃ receiver inbound intake,
      bridge.afterReception result = { bridge with receiver, inbound, intake } := by
  unfold afterReception
  split
  · exact ⟨bridge.receiver, _, _, rfl⟩
  · obtain ⟨receiver, intake, same⟩ := beginReception_footprint bridge
    exact ⟨receiver, bridge.inbound, intake, same⟩
  · exact ⟨bridge.receiver, bridge.inbound, _, rfl⟩
  · exact ⟨bridge.receiver, bridge.inbound, _, rfl⟩

theorem stepIntake_footprint (moved : bridge.stepIntake = some after) :
    ∃ hostLink receiver inbound intake,
      after = { bridge with hostLink, receiver, inbound, intake } := by
  unfold stepIntake at moved
  split at moved
  · split at moved
    · simp at moved
    · cases moved
      exact ⟨_, _, bridge.inbound, _, rfl⟩
    · next hostLink receiver result stepped =>
        simp only [Option.ite_none_left_eq_some, Option.some.injEq] at moved
        obtain ⟨-, rfl⟩ := moved
        obtain ⟨later, inbound, intake, same⟩ :=
          afterReception_footprint result { bridge with hostLink, receiver }
        exact ⟨hostLink, later, inbound, intake, same⟩
  · split at moved
    · simp at moved
    · next stepped =>
        cases moved
        obtain ⟨inbound, receiver, rfl⟩ := stepInbound_footprint stepped
        exact ⟨bridge.hostLink, receiver, inbound, _, rfl⟩
    · next stepped =>
        cases moved
        obtain ⟨inbound, receiver, rfl⟩ := stepInbound_footprint stepped
        obtain ⟨later, intake, same⟩ := beginReception_footprint { bridge with inbound, receiver }
        exact ⟨bridge.hostLink, later, inbound, intake, same⟩
  · split at moved
    · simp at moved
    · cases moved
      obtain ⟨receiver, intake, same⟩ := beginReception_footprint bridge
      exact ⟨bridge.hostLink, receiver, bridge.inbound, intake, same⟩
  · simp at moved

theorem stepTransmitter_footprint (moved : bridge.stepTransmitter = some after) :
    ∃ replyLink outbound permits transmitter,
      after = { bridge with replyLink, outbound, permits, transmitter } := by
  unfold stepTransmitter at moved
  split at moved
  · simp only [Option.map_eq_some_iff, Prod.exists] at moved
    obtain ⟨reply, outbound, -, rfl⟩ := moved
    unfold transmit
    split
    · exact ⟨bridge.replyLink, outbound, _, _, rfl⟩
    · exact ⟨bridge.replyLink, outbound, bridge.permits, _, rfl⟩
  · split at moved
    · cases moved
      exact ⟨_, bridge.outbound, _, _, rfl⟩
    · split at moved
      · cases moved
        exact ⟨bridge.replyLink, bridge.outbound, _, _, rfl⟩
      · simp at moved
  · simp at moved

theorem takeCommand_footprint (message : Message) (bridge : Bridge) :
    ∃ camera permits outbound writer,
      bridge.takeCommand message = { bridge with camera, permits, outbound, writer } := by
  unfold takeCommand
  split
  · split
    · next command known =>
        cases command with
        | forgetPairing | forceConnect => exact ⟨_, bridge.permits, bridge.outbound, _, rfl⟩
        | requestName =>
            unfold runControl
            simp only
            split
            · next begun =>
                obtain ⟨grant, permits, outbound, -, -, rfl⟩ := beginOutbound_invert begun
                exact ⟨bridge.camera, permits, outbound, _, rfl⟩
            · exact ⟨bridge.camera, bridge.permits, bridge.outbound, _, rfl⟩
    · exact ⟨bridge.camera, bridge.permits, bridge.outbound, _, rfl⟩
  · exact ⟨bridge.camera, bridge.permits, bridge.outbound, _, rfl⟩

theorem takeQueued_footprint (moved : bridge.takeQueued = some after) :
    ∃ commands batches camera permits outbound writer,
      after = { bridge with commands, batches, camera, permits, outbound, writer } := by
  unfold takeQueued at moved
  split at moved
  · next message commands received =>
      cases moved
      obtain ⟨camera, permits, outbound, writer, same⟩ :=
        takeCommand_footprint message { bridge with commands }
      exact ⟨commands, bridge.batches, camera, permits, outbound, writer, same⟩
  · simp only [Option.map_eq_some_iff, Prod.exists] at moved
    obtain ⟨messages, batches, -, rfl⟩ := moved
    exact ⟨bridge.commands, batches, bridge.camera, bridge.permits, bridge.outbound, _, rfl⟩

theorem stepWriter_footprint (moved : bridge.stepWriter = some after) :
    ∃ commands batches gates camera permits outbound writer,
      after = { bridge with commands, batches, gates, camera, permits, outbound, writer } := by
  unfold stepWriter at moved
  split at moved
  · obtain ⟨commands, batches, camera, permits, outbound, writer, same⟩ := takeQueued_footprint moved
    exact ⟨commands, batches, bridge.gates, camera, permits, outbound, writer, same⟩
  · cases moved
    exact ⟨bridge.commands, bridge.batches, bridge.gates, bridge.camera, bridge.permits,
      bridge.outbound, _, rfl⟩
  · split at moved
    · cases moved
      exact ⟨bridge.commands, bridge.batches, _, _, bridge.permits, bridge.outbound, _, rfl⟩
    · cases moved
      exact ⟨bridge.commands, bridge.batches, bridge.gates, bridge.camera, bridge.permits,
        bridge.outbound, _, rfl⟩
  · next message accepted rest writing =>
      cases moved
      cases accepted <;>
        exact ⟨bridge.commands, bridge.batches, _, bridge.camera, bridge.permits, bridge.outbound, _,
          rfl⟩
  · split at moved
    · simp at moved
    all_goals
      cases moved
      exact ⟨bridge.commands, bridge.batches, _, bridge.camera, bridge.permits, bridge.outbound, _,
        rfl⟩
  · split at moved
    · simp at moved
    all_goals
      next stepped =>
        cases moved
        obtain ⟨outbound, -, rfl⟩ := stepOutbound_invert stepped
        exact ⟨bridge.commands, bridge.batches, bridge.gates, bridge.camera, _, outbound, _, rfl⟩
  · simp at moved

theorem refuse_footprint (bridge : Bridge) :
    ∃ canFrames ingress, bridge.refuse = { bridge with canFrames, ingress } :=
  ⟨_, _, rfl⟩

theorem onFrame_footprint (frame : CanFrame) (bridge : Bridge) :
    ∃ commands canFrames ingress,
      bridge.onFrame frame = { bridge with commands, canFrames, ingress } ∧
      bridge.commands.Fed workerSubscriber commands := by
  have idle : ∃ commands canFrames ingress,
      bridge = { bridge with commands, canFrames, ingress } ∧
      bridge.commands.Fed workerSubscriber commands :=
    ⟨bridge.commands, bridge.canFrames, bridge.ingress, rfl, .refl _ _⟩
  unfold onFrame
  split
  · exact idle
  · split
    · exact idle
    · split
      · next begun =>
          obtain ⟨commands, started, rfl⟩ := beginCommand_invert begun
          exact ⟨commands, bridge.canFrames, _, rfl, Publication.started_fed started _⟩
      · obtain ⟨canFrames, ingress, same⟩ := refuse_footprint bridge
        exact ⟨bridge.commands, canFrames, ingress, same, .refl _ _⟩

theorem stepIngress_footprint (moved : bridge.stepIngress = some after) :
    ∃ bus commands canFrames ingress,
      after = { bridge with bus, commands, canFrames, ingress } ∧
      bridge.commands.Fed workerSubscriber commands := by
  unfold stepIngress at moved
  split at moved
  · split at moved
    · simp at moved
    · next frame rest unread =>
        cases moved
        obtain ⟨commands, canFrames, ingress, same, fed⟩ := onFrame_footprint frame
          { bridge with
            bus := { bridge.bus with incoming := { bridge.bus.incoming with unread := rest } } }
        exact ⟨_, commands, canFrames, ingress, same, fed⟩
  · split at moved
    · simp at moved
    all_goals
      next stepped =>
        cases moved
        obtain ⟨commands, handed, rfl⟩ := stepCommand_invert stepped
        exact ⟨bridge.bus, commands, bridge.canFrames, _, rfl, Publication.step_fed handed _⟩
  · split at moved
    · simp at moved
    all_goals
      next stepped =>
        cases moved
        obtain ⟨canFrames, rfl⟩ := stepFrame_footprint stepped
        exact ⟨bridge.bus, bridge.commands, canFrames, _, rfl, .refl _ _⟩
  · simp at moved

/-- All that a move of the queries can do. -/
inductive StartupStep (bridge : Bridge) : Bridge → Prop where
  | woken {moment : Time} (slept : bridge.startup = some (.sleeping moment))
      (due : moment ≤ bridge.now) :
      StartupStep bridge { bridge with startup := some (.querying startupMessages) }
  | exhausted (last : bridge.startup = some (.querying [])) :
      StartupStep bridge { bridge with startup := none }
  | rejected {query : Message} {rest : List Message}
      (due : bridge.startup = some (.querying (query :: rest)))
      (denied : query.isAllowed bridge.device = false) :
      StartupStep bridge { bridge with startup := some (.querying rest) }
  | begun {query : Message} {rest : List Message} {publication : Publication Message}
      {commands : Topic Message} (due : bridge.startup = some (.querying (query :: rest)))
      (allowed : query.isAllowed bridge.device = true)
      (started : Publication.start bridge.now bridge.timing.publishTimeout query bridge.commands =
        (publication, commands)) :
      StartupStep bridge { bridge with commands, startup := some (.publishing publication rest) }
  | published {publication : Publication Message} {rest : List Message} {progress : Progress Message}
      {commands : Topic Message} (waited : bridge.startup = some (.publishing publication rest))
      (stepped : publication.step bridge.now bridge.commands = some (commands, progress)) :
      StartupStep bridge { bridge with commands, startup := some (Startup.onward rest progress) }

theorem stepStartup_invert (moved : bridge.stepStartup = some after) : StartupStep bridge after := by
  unfold stepStartup at moved
  split at moved
  · cases moved
  · next moment slept =>
      simp only [Option.ite_none_left_eq_some, Option.some.injEq] at moved
      obtain ⟨due, rfl⟩ := moved
      exact .woken slept (Nat.le_of_not_lt due)
  · next last =>
      cases moved
      exact .exhausted last
  · next query rest due =>
      have accepts := beginCommand_isOk query bridge
      split at moved
      · next publication begun =>
          cases moved
          rw [begun] at accepts
          obtain ⟨commands, started, rfl⟩ := beginCommand_invert begun
          exact .begun due accepts.symm started
      · next cause refused =>
          cases moved
          rw [refused] at accepts
          exact .rejected due accepts.symm
  · next publication rest waited =>
      split at moved
      · cases moved
      all_goals
        next stepped =>
          cases moved
          obtain ⟨commands, handed, rfl⟩ := stepCommand_invert stepped
          exact .published waited handed

theorem stepStartup_footprint (moved : bridge.stepStartup = some after) :
    ∃ commands startup, after = { bridge with commands, startup } ∧
      bridge.commands.Fed workerSubscriber commands := by
  cases stepStartup_invert moved with
  | woken | exhausted | rejected => exact ⟨bridge.commands, _, rfl, .refl _ _⟩
  | begun due allowed started => exact ⟨_, _, rfl, Publication.started_fed started _⟩
  | published waited stepped => exact ⟨_, _, rfl, Publication.step_fed stepped _⟩

theorem stepCall_footprint {number : Nat} (moved : bridge.stepCall number = some after) :
    ∃ bus commands outbound permits calls,
      after = { bridge with bus, commands, outbound, permits, calls } ∧
      bridge.commands.Fed workerSubscriber commands := by
  unfold stepCall at moved
  split at moved
  · split at moved
    · simp at moved
    all_goals
      next stepped =>
        cases moved
        obtain ⟨commands, handed, rfl⟩ := stepCommand_invert stepped
        exact ⟨bridge.bus, commands, bridge.outbound, bridge.permits, _, rfl,
          Publication.step_fed handed _⟩
  · split at moved
    · simp at moved
    all_goals
      next stepped =>
        cases moved
        obtain ⟨outbound, -, rfl⟩ := stepOutbound_invert stepped
        exact ⟨bridge.bus, bridge.commands, outbound, _, _, rfl, .refl _ _⟩
  · split at moved
    · simp at moved
    · cases moved
      exact ⟨_, bridge.commands, bridge.outbound, bridge.permits, _, rfl, .refl _ _⟩
  · simp at moved

theorem consume_footprint (payload : InboundPayload) (bridge : Bridge) :
    ∃ receiver commands batches device consumer,
      bridge.consume payload = { bridge with receiver, commands, batches, device, consumer } ∧
      bridge.commands.Fed workerSubscriber commands ∧
      bridge.batches.Fed workerSubscriber batches ∧
      (commands = bridge.commands ∨ batches = bridge.batches) := by
  have refused : ∃ receiver commands batches device consumer,
      bridge.finishPayload payload.hold =
        { bridge with receiver, commands, batches, device, consumer } ∧
      bridge.commands.Fed workerSubscriber commands ∧
      bridge.batches.Fed workerSubscriber batches ∧
      (commands = bridge.commands ∨ batches = bridge.batches) :=
    ⟨_, bridge.commands, bridge.batches, bridge.device, _, rfl, .refl _ _, .refl _ _, .inl rfl⟩
  unfold consume
  split
  · exact refused
  · split
    · next begun =>
        obtain ⟨commands, started, rfl⟩ := beginCommand_invert begun
        exact ⟨bridge.receiver, commands, bridge.batches, bridge.device, _, rfl,
          Publication.started_fed started _, .refl _ _, .inr rfl⟩
    · exact refused
  · split
    · next begun =>
        obtain ⟨batches, started, rfl⟩ := beginBatch_invert begun
        exact ⟨bridge.receiver, bridge.commands, batches, bridge.device, _, rfl, .refl _ _,
          Publication.started_fed started _, .inl rfl⟩
    · exact refused
  · exact ⟨_, bridge.commands, bridge.batches, _, _, rfl, .refl _ _, .refl _ _, .inl rfl⟩

theorem stepConsumer_footprint (moved : bridge.stepConsumer = some after) :
    ∃ inbound receiver commands batches device consumer,
      after = { bridge with inbound, receiver, commands, batches, device, consumer } ∧
      bridge.commands.Fed workerSubscriber commands ∧
      bridge.batches.Fed workerSubscriber batches ∧
      (commands = bridge.commands ∨ batches = bridge.batches) := by
  unfold stepConsumer at moved
  split at moved
  · simp only [Option.map_eq_some_iff, Prod.exists] at moved
    obtain ⟨payload, inbound, -, rfl⟩ := moved
    obtain ⟨receiver, commands, batches, device, consumer, same, fed⟩ :=
      consume_footprint payload { bridge with inbound }
    exact ⟨inbound, receiver, commands, batches, device, consumer, same, fed⟩
  · split at moved
    · simp at moved
    all_goals
      next stepped =>
        cases moved
        obtain ⟨commands, handed, rfl⟩ := stepCommand_invert stepped
        exact ⟨bridge.inbound, _, commands, bridge.batches, bridge.device, _, rfl,
          Publication.step_fed handed _, .refl _ _, .inr rfl⟩
  · split at moved
    · simp at moved
    all_goals
      next stepped =>
        cases moved
        obtain ⟨batches, handed, rfl⟩ := stepBatch_invert stepped
        exact ⟨bridge.inbound, _, bridge.commands, batches, bridge.device, _, rfl, .refl _ _,
          Publication.step_fed handed _, .inl rfl⟩
  · simp at moved

/-! ### The listener -/

theorem cancelStartup_footprint (bridge : Bridge) :
    ∃ commands startup, bridge.cancelStartup = { bridge with commands, startup } ∧
      bridge.commands.Fed workerSubscriber commands := by
  unfold cancelStartup
  split
  · next publication rest waiting =>
      exact ⟨_, none, rfl, Topic.fed_of_items (Publication.abandon_items publication _ _)⟩
  · exact ⟨bridge.commands, none, rfl, .refl _ _⟩

theorem scheduleStartup_footprint (bridge : Bridge) :
    ∃ commands startup, bridge.scheduleStartup = { bridge with commands, startup } ∧
      bridge.commands.Fed workerSubscriber commands := by
  obtain ⟨commands, startup, same, fed⟩ := cancelStartup_footprint bridge
  refine ⟨commands, some (.sleeping (bridge.now + bridge.timing.startupQueryDelay)), ?_, fed⟩
  rw [scheduleStartup, same]

theorem forwardBody_footprint (channel : Channel) (data : Bytes) (assembled : Assembled)
    (bridge : Bridge) : ∃ outbound permits listener,
      bridge.forwardBody channel data assembled = { bridge with outbound, permits, listener } := by
  unfold forwardBody
  split
  · split
    · next begun =>
        obtain ⟨grant, permits, outbound, -, -, rfl⟩ := beginOutbound_invert begun
        exact ⟨outbound, permits, _, rfl⟩
    · exact ⟨bridge.outbound, bridge.permits, _, rfl⟩
  · exact ⟨bridge.outbound, bridge.permits, _, rfl⟩

theorem gatherNotification_footprint (channel : Channel) (data : Bytes) (bridge : Bridge) :
    ∃ reassembler device outbound permits listener,
      bridge.gatherNotification channel data =
        { bridge with reassembler, device, outbound, permits, listener } := by
  unfold gatherNotification
  cases pushed : bridge.reassembler.push channel data with
  | mk reassembler outcome =>
      simp only
      split
      · next assembled =>
          obtain ⟨outbound, permits, listener, same⟩ := forwardBody_footprint channel data assembled
            { bridge with reassembler, device := (Demuxed.ofReply assembled bridge.device).2 }
          exact ⟨reassembler, _, outbound, permits, listener, same⟩
      · exact ⟨reassembler, bridge.device, bridge.outbound, bridge.permits, _, rfl⟩

theorem onNotification_footprint (channel : Channel) (data : Bytes) (bridge : Bridge) :
    ∃ replies reassembler device outbound permits listener,
      bridge.onNotification channel data =
        { bridge with replies, reassembler, device, outbound, permits, listener } := by
  unfold onNotification
  split
  · exact ⟨_, bridge.reassembler, bridge.device, bridge.outbound, bridge.permits, _, rfl⟩
  · obtain ⟨reassembler, device, outbound, permits, listener, same⟩ :=
      gatherNotification_footprint channel data bridge
    exact ⟨bridge.replies, reassembler, device, outbound, permits, listener, same⟩

theorem onEvent_footprint (event : CameraEvent) (bridge : Bridge) :
    ∃ device gates startup commands replies reassembler outbound permits listener,
      bridge.onEvent event = { bridge with
        device, gates, startup, commands, replies, reassembler, outbound, permits, listener } ∧
      bridge.commands.Fed workerSubscriber commands := by
  cases event with
  | advertisement status name =>
      cases name <;> exact ⟨_, bridge.gates, bridge.startup, bridge.commands, bridge.replies,
        bridge.reassembler, bridge.outbound, bridge.permits, _, rfl, .refl _ _⟩
  | connected =>
      obtain ⟨commands, startup, same, fed⟩ :=
        scheduleStartup_footprint (bridge.applyEvent .connected)
      refine ⟨(bridge.applyEvent .connected).device, bridge.gates, startup, commands, bridge.replies,
        bridge.reassembler, bridge.outbound, bridge.permits, bridge.listen.listener, ?_, fed⟩
      rw [onEvent, same]
      rfl
  | subscribed channel | unsubscribed channel | writeComplete channel status =>
      exact ⟨bridge.device, _, bridge.startup, bridge.commands, bridge.replies, bridge.reassembler,
        bridge.outbound, bridge.permits, _, rfl, .refl _ _⟩
  | notification channel data =>
      obtain ⟨replies, reassembler, device, outbound, permits, listener, same⟩ :=
        onNotification_footprint channel data bridge
      exact ⟨device, bridge.gates, bridge.startup, bridge.commands, replies, reassembler, outbound,
        permits, listener, same, .refl _ _⟩
  | authFailed =>
      exact ⟨_, bridge.gates, bridge.startup, bridge.commands, bridge.replies, bridge.reassembler,
        bridge.outbound, bridge.permits, _, rfl, .refl _ _⟩
  | disconnected =>
      obtain ⟨commands, startup, same, fed⟩ :=
        cancelStartup_footprint (bridge.applyEvent .disconnected)
      refine ⟨(bridge.applyEvent .disconnected).device, bridge.gates.reset, startup, commands,
        bridge.replies, bridge.reassembler.reset, bridge.outbound, bridge.permits,
        bridge.listen.listener, ?_, fed⟩
      rw [onEvent, same]
      rfl

theorem onSilence_footprint (bridge : Bridge) :
    ∃ device reassembler listener,
      bridge.onSilence = { bridge with device, reassembler, listener } := by
  unfold onSilence
  split
  · exact ⟨bridge.device, bridge.reassembler, _, rfl⟩
  · exact ⟨_, _, _, rfl⟩

theorem stepListener_footprint (moved : bridge.stepListener = some after) :
    ∃ camera device gates startup commands replies reassembler outbound permits listener,
      after = { bridge with
        camera, device, gates, startup, commands, replies, reassembler, outbound, permits,
        listener } ∧
      bridge.commands.Fed workerSubscriber commands ∧ camera.writes = bridge.camera.writes := by
  unfold stepListener at moved
  split at moved
  · split at moved
    · next event rest unread =>
        cases moved
        obtain ⟨device, gates, startup, commands, replies, reassembler, outbound, permits, listener,
          same, fed⟩ := onEvent_footprint event
            { bridge with
              camera := { bridge.camera with events := { bridge.camera.events with unread := rest } } }
        exact ⟨_, device, gates, startup, commands, replies, reassembler, outbound, permits,
          listener, same, fed, rfl⟩
    · split at moved
      · simp only [Option.ite_none_left_eq_some, Option.some.injEq] at moved
        obtain ⟨-, rfl⟩ := moved
        obtain ⟨device, reassembler, listener, same⟩ := onSilence_footprint bridge
        exact ⟨bridge.camera, device, bridge.gates, bridge.startup, bridge.commands, bridge.replies,
          reassembler, bridge.outbound, bridge.permits, listener, same, .refl _ _, rfl⟩
      · simp at moved
  · split at moved
    · simp at moved
    · next stepped =>
        cases moved
        obtain ⟨replies, rfl⟩ := stepReply_footprint stepped
        exact ⟨bridge.camera, bridge.device, bridge.gates, bridge.startup, bridge.commands, replies,
          bridge.reassembler, bridge.outbound, bridge.permits, _, rfl, .refl _ _, rfl⟩
    · next channel data publication listening stepped =>
        cases moved
        obtain ⟨replies, rfl⟩ := stepReply_footprint stepped
        obtain ⟨reassembler, device, outbound, permits, listener, same⟩ :=
          gatherNotification_footprint _ _ { bridge with replies }
        exact ⟨bridge.camera, device, bridge.gates, bridge.startup, bridge.commands, replies,
          reassembler, outbound, permits, listener, same, .refl _ _, rfl⟩
  · split at moved
    · simp at moved
    all_goals
      next stepped =>
        cases moved
        obtain ⟨outbound, -, rfl⟩ := stepOutbound_invert stepped
        exact ⟨bridge.camera, bridge.device, bridge.gates, bridge.startup, bridge.commands,
          bridge.replies, bridge.reassembler, outbound, _, _, rfl, .refl _ _, rfl⟩
  · simp at moved

/-! ### Calls from outside -/

theorem submit_footprint (message : Message) (bridge : Bridge) :
    ∃ commands calls, bridge.submit message = { bridge with commands, calls } ∧
      commands.items workerSubscriber = bridge.commands.items workerSubscriber := by
  unfold submit
  split
  · next begun =>
      obtain ⟨commands, started, rfl⟩ := beginCommand_invert begun
      refine ⟨commands, _, rfl, ?_⟩
      rw [← Publication.started_enter started]
      exact Topic.items_congr (Topic.enter_queues bridge.commands) workerSubscriber
  · exact ⟨bridge.commands, _, rfl, rfl⟩

theorem sendLargeReply_footprint (channel : Channel) (body : Bytes) (bridge : Bridge) :
    ∃ permits outbound calls,
      bridge.sendLargeReply channel body = { bridge with permits, outbound, calls } := by
  unfold sendLargeReply
  split
  · next begun =>
      obtain ⟨grant, permits, outbound, -, -, rfl⟩ := beginOutbound_invert begun
      exact ⟨permits, outbound, _, rfl⟩
  · exact ⟨bridge.permits, bridge.outbound, _, rfl⟩

theorem readTap_footprint (subscriber : Nat) (bridge : Bridge) :
    ∃ canFrames, (bridge.readTap subscriber).2 = { bridge with canFrames } := by
  unfold readTap
  split <;> exact ⟨_, rfl⟩

/-! ### The end -/

theorem stopIngress_footprint (bridge : Bridge) :
    ∃ bus commands canFrames ingress,
      bridge.stopIngress = { bridge with bus, commands, canFrames, ingress } := by
  unfold stopIngress
  split
  · exact ⟨_, _, bridge.canFrames, _, rfl⟩
  · exact ⟨_, bridge.commands, _, _, rfl⟩
  · exact ⟨_, bridge.commands, bridge.canFrames, _, rfl⟩

theorem stopMapper_footprint (bridge : Bridge) :
    ∃ replies canFrames mapper, bridge.stopMapper = { bridge with replies, canFrames, mapper } := by
  unfold stopMapper
  split
  · exact ⟨_, _, _, rfl⟩
  · exact ⟨_, bridge.canFrames, _, rfl⟩

theorem stopHeartbeat_footprint (bridge : Bridge) :
    ∃ canFrames heartbeat, bridge.stopHeartbeat = { bridge with canFrames, heartbeat } := by
  unfold stopHeartbeat
  split
  · exact ⟨_, _, rfl⟩
  · exact ⟨bridge.canFrames, _, rfl⟩

theorem stopIntake_footprint (bridge : Bridge) :
    ∃ inbound receiver intake, bridge.stopIntake = { bridge with inbound, receiver, intake } := by
  unfold stopIntake
  split
  · exact ⟨_, _, _, rfl⟩
  · exact ⟨bridge.inbound, bridge.receiver, _, rfl⟩

theorem stopConsumer_footprint (bridge : Bridge) :
    ∃ commands batches inbound receiver consumer,
      bridge.stopConsumer = { bridge with commands, batches, inbound, receiver, consumer } := by
  unfold stopConsumer
  split
  · exact ⟨_, bridge.batches, _, _, _, rfl⟩
  · exact ⟨bridge.commands, _, _, _, _, rfl⟩
  · exact ⟨bridge.commands, bridge.batches, _, _, _, rfl⟩

end Bridge

end CameraBridge
