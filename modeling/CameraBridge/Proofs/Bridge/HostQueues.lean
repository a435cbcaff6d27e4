import CameraBridge.Proofs.Bridge.BodyReplies
import CameraBridge.Proofs.Bridge.Gathering

namespace CameraBridge

/-! The three queues on the way from the camera to the host: notifications for the mapper, frames for
the bus and large replies for the host. The worker at the end of each stays there until the bridge
ends. -/

namespace Bridge

variable {before after bridge : Bridge}

/-! ### Moves of the mapper -/

/-- All that a move of the mapper can be. -/
inductive MapperTurn (before after : Bridge) : Prop where
  | unanswered (message : Message) (was : before.mapper = .listening)
      (received : before.replies.receive workerSubscriber = some (message, after.replies))
      (silent : message.frame? = none) (canFrames : after.canFrames = before.canFrames)
      (is : after.mapper = .listening)
  | answering (message : Message) (frame : CanFrame) (publication : Publication CanFrame)
      (was : before.mapper = .listening)
      (received : before.replies.receive workerSubscriber = some (message, after.replies))
      (answers : message.frame? = some frame)
      (started : Publication.start before.now before.timing.publishTimeout frame before.canFrames =
        (publication, after.canFrames))
      (is : after.mapper = .publishing publication)
  | publishing (publication later : Publication CanFrame) (delivered : Bool)
      (was : before.mapper = .publishing publication) (replies : after.replies = before.replies)
      (stepped : publication.step before.now before.canFrames =
        some (after.canFrames, .going later delivered))
      (is : after.mapper = .publishing later)
  | published (publication : Publication CanFrame) (result : Except PublishError Unit)
      (was : before.mapper = .publishing publication) (replies : after.replies = before.replies)
      (stepped : publication.step before.now before.canFrames =
        some (after.canFrames, .finished result))
      (is : after.mapper = .listening)

theorem stepMapper_turn (moved : before.stepMapper = some after) : MapperTurn before after := by
  unfold stepMapper at moved
  split at moved
  · next was =>
      simp only [Option.map_eq_some_iff, Prod.exists] at moved
      obtain ⟨message, replies, received, rfl⟩ := moved
      unfold mapReply
      split
      · next silent =>
          exact .unanswered message was received (by rw [Message.frame?, silent]; rfl) rfl was
      · next reply answers =>
          exact .answering message reply.frame _ was received
            (by rw [Message.frame?, answers]; rfl) rfl rfl
  · next publication was =>
      split at moved
      · cases moved
      · next stepped =>
          cases moved
          obtain ⟨canFrames, published, rfl⟩ := stepFrame_invert stepped
          exact .publishing publication _ _ was rfl published rfl
      · next stepped =>
          cases moved
          obtain ⟨canFrames, published, rfl⟩ := stepFrame_invert stepped
          exact .published publication _ was rfl published rfl
  · cases moved

/-! ### Workers that stay -/

/-- The workers at the ends of the three queues are there. -/
structure Served (bridge : Bridge) : Prop where
  replies : bridge.replies.Serves workerSubscriber
  canFrames : bridge.canFrames.Serves workerSubscriber
  outbound : bridge.outbound.Serves workerSubscriber

theorem ReplyStep.serves {was is : Option (Publication OutboundReply)}
    (step : ReplyStep before after was is) (serves : before.outbound.Serves workerSubscriber) :
    after.outbound.Serves workerSubscriber := by
  cases step with
  | quiet outbound => exact outbound ▸ serves
  | begun reply acquired started => exact Publication.started_serves serves started
  | going stepped => exact Publication.step_serves serves stepped
  | finished stepped => exact Publication.step_serves serves stepped

theorem Looked.serves {channel : Channel} {data : Bytes}
    (looked : Looked before.lookDesk channel data after)
    (serves : before.outbound.Serves workerSubscriber) :
    after.outbound.Serves workerSubscriber := by
  cases looked with
  | incomplete nothing reassembler outbound => exact outbound ▸ serves
  | kept assembled complete small reassembler device outbound => exact outbound ▸ serves
  | handed assembled publication grant complete large available reassembler device started =>
      exact Publication.started_serves serves started

theorem ListenerTurn.served {input : Option Reassembler.Input}
    (turn : ListenerTurn before after input) (served : before.Served)
    (canFrames : after.canFrames = before.canFrames) : after.Served := by
  refine ⟨?_, canFrames ▸ served.canFrames, ?_⟩
  · cases turn with
    | aside _ _ replies | reset _ _ replies | looking _ _ _ _ replies => exact replies ▸ served.replies
    | replying _ _ _ _ _ _ replies | replied _ _ _ _ _ replies => exact replies ▸ served.replies
    | answering _ _ _ _ _ _ started => exact Publication.started_serves served.replies started
    | forwarding _ _ _ _ _ _ stepped => exact Publication.step_serves served.replies stepped
    | forwarded _ _ _ _ _ stepped => exact Publication.step_serves served.replies stepped
  · cases turn with
    | aside _ _ _ outbound | reset _ _ _ outbound => exact outbound ▸ served.outbound
    | answering _ _ _ _ _ _ _ _ outbound => exact outbound ▸ served.outbound
    | forwarding _ _ _ _ _ _ _ _ outbound => exact outbound ▸ served.outbound
    | looking _ _ _ _ _ looked | forwarded _ _ _ _ _ _ looked => exact looked.serves served.outbound
    | replying _ _ _ _ stepped => exact Publication.step_serves served.outbound stepped
    | replied _ _ _ stepped => exact Publication.step_serves served.outbound stepped

theorem MapperTurn.served (turn : MapperTurn before after) (served : before.Served)
    (outbound : after.outbound = before.outbound) : after.Served := by
  refine ⟨?_, ?_, outbound ▸ served.outbound⟩
  · cases turn with
    | unanswered _ _ received | answering _ _ _ _ received => exact served.replies.receive received
    | publishing _ _ _ _ replies | published _ _ _ replies => exact replies ▸ served.replies
  · cases turn with
    | unanswered _ _ _ _ canFrames => exact canFrames ▸ served.canFrames
    | answering _ _ _ _ _ _ started => exact Publication.started_serves served.canFrames started
    | publishing _ _ _ _ _ stepped => exact Publication.step_serves served.canFrames stepped
    | published _ _ _ _ stepped => exact Publication.step_serves served.canFrames stepped

theorem stepFrame_serves {publication : Publication CanFrame} {progress : Progress CanFrame}
    (serves : bridge.canFrames.Serves workerSubscriber)
    (stepped : bridge.stepFrame publication = some (after, progress)) :
    after.canFrames.Serves workerSubscriber := by
  obtain ⟨canFrames, published, rfl⟩ := stepFrame_invert stepped
  exact Publication.step_serves serves published

theorem onFrame_serves (frame : CanFrame) (serves : bridge.canFrames.Serves workerSubscriber) :
    (bridge.onFrame frame).canFrames.Serves workerSubscriber := by
  unfold onFrame
  split
  · exact serves
  · split
    · exact serves
    · split
      · next begun =>
          obtain ⟨commands, -, rfl⟩ := beginCommand_invert begun
          exact serves
      · exact serves.enter

theorem stepIngress_serves (serves : before.canFrames.Serves workerSubscriber)
    (moved : before.stepIngress = some after) : after.canFrames.Serves workerSubscriber := by
  unfold stepIngress at moved
  split at moved
  · split at moved
    · cases moved
    · cases moved
      exact onFrame_serves _ serves
  · split at moved
    · cases moved
    all_goals
      next stepped =>
        cases moved
        obtain ⟨commands, -, rfl⟩ := stepCommand_invert stepped
        exact serves
  · split at moved
    · cases moved
    all_goals
      next stepped =>
        have framed := stepFrame_serves serves stepped
        cases moved
        exact framed
  · cases moved

theorem stepHeartbeat_serves (serves : before.canFrames.Serves workerSubscriber)
    (moved : before.stepHeartbeat = some after) : after.canFrames.Serves workerSubscriber := by
  unfold stepHeartbeat at moved
  split at moved
  · split at moved
    · cases moved
    · cases moved
      exact serves.enter
  · split at moved
    · cases moved
    all_goals
      next stepped =>
        have framed := stepFrame_serves serves stepped
        cases moved
        exact framed
  · cases moved

theorem stepEgress_serves (serves : before.canFrames.Serves workerSubscriber)
    (moved : before.stepEgress = some after) : after.canFrames.Serves workerSubscriber := by
  unfold stepEgress at moved
  split at moved
  · simp only [Option.map_eq_some_iff, Prod.exists] at moved
    obtain ⟨frame, canFrames, received, rfl⟩ := moved
    exact serves.receive received
  · split at moved
    · cases moved
      exact serves
    · split at moved
      · cases moved
        exact serves
      · cases moved
  · cases moved

theorem stepTransmitter_serves (serves : before.outbound.Serves workerSubscriber)
    (moved : before.stepTransmitter = some after) : after.outbound.Serves workerSubscriber := by
  cases stepTransmitter_invert moved with
  | took _ _ _ _ received | refused _ _ received => exact serves.receive received
  | ended _ _ _ _ outbound => exact outbound ▸ serves

/-- What only the listener and the mapper have a hand in. -/
structure Apart (before after : Bridge) : Prop where
  listener : after.listener = before.listener
  mapper : after.mapper = before.mapper
  reassembler : after.reassembler = before.reassembler
  replies : after.replies = before.replies

theorem step_apart {task : Task} (served : before.Served) (moved : before.step task = some after)
    (listens : task ≠ .listener) (maps : task ≠ .mapper) : Apart before after ∧ after.Served := by
  obtain ⟨replies, canFrames, outbound⟩ := served
  cases task with
  | listener => exact absurd rfl listens
  | mapper => exact absurd rfl maps
  | writer =>
      have sent := (stepWriter_replyStep moved).serves outbound
      obtain ⟨_, _, _, _, _, _, _, rfl⟩ := stepWriter_footprint moved
      exact ⟨⟨rfl, rfl, rfl, rfl⟩, replies, canFrames, sent⟩
  | ingress =>
      have framed := stepIngress_serves canFrames moved
      obtain ⟨_, _, _, _, rfl, -⟩ := stepIngress_footprint moved
      exact ⟨⟨rfl, rfl, rfl, rfl⟩, replies, framed, outbound⟩
  | heartbeat =>
      have framed := stepHeartbeat_serves canFrames moved
      obtain ⟨_, _, rfl⟩ := stepHeartbeat_footprint moved
      exact ⟨⟨rfl, rfl, rfl, rfl⟩, replies, framed, outbound⟩
  | egress =>
      have framed := stepEgress_serves canFrames moved
      obtain ⟨_, _, _, rfl⟩ := stepEgress_footprint moved
      exact ⟨⟨rfl, rfl, rfl, rfl⟩, replies, framed, outbound⟩
  | intake =>
      obtain ⟨_, _, _, _, rfl⟩ := stepIntake_footprint moved
      exact ⟨⟨rfl, rfl, rfl, rfl⟩, replies, canFrames, outbound⟩
  | consumer =>
      obtain ⟨_, _, _, _, _, _, rfl, -⟩ := stepConsumer_footprint moved
      exact ⟨⟨rfl, rfl, rfl, rfl⟩, replies, canFrames, outbound⟩
  | transmitter =>
      have sent := stepTransmitter_serves outbound moved
      obtain ⟨_, _, _, _, rfl⟩ := stepTransmitter_footprint moved
      exact ⟨⟨rfl, rfl, rfl, rfl⟩, replies, canFrames, sent⟩
  | startup =>
      obtain ⟨_, _, rfl, -⟩ := stepStartup_footprint moved
      exact ⟨⟨rfl, rfl, rfl, rfl⟩, replies, canFrames, outbound⟩
  | call number =>
      obtain ⟨was, is, -, -, step, -⟩ := stepCall_invert moved
      have sent := step.serves outbound
      obtain ⟨_, _, _, _, _, rfl, -⟩ := stepCall_footprint moved
      exact ⟨⟨rfl, rfl, rfl, rfl⟩, replies, canFrames, sent⟩

/-- Nobody ends the bridge or the worker at the end of a queue. -/
def Act.goesOn (next : Act) : Bool :=
  match next with
  | .shutdown => false
  | .dropTap subscriber => decide (subscriber ≠ workerSubscriber)
  | _ => true

theorem sendLargeReply_serves (channel : Channel) (body : Bytes)
    (serves : bridge.outbound.Serves workerSubscriber) :
    (bridge.sendLargeReply channel body).outbound.Serves workerSubscriber := by
  unfold sendLargeReply
  split
  · next begun =>
      obtain ⟨grant, permits, outbound, -, started, rfl⟩ := beginOutbound_invert begun
      exact Publication.started_serves serves started
  · exact serves

theorem readTap_serves (subscriber : Nat) (serves : bridge.canFrames.Serves workerSubscriber) :
    (bridge.readTap subscriber).2.canFrames.Serves workerSubscriber := by
  unfold readTap
  split
  · exact serves
  · next queue present => exact serves.replaced present rfl

theorem act_apart {next : Act} (served : before.Served) (acted : before.act next = some after)
    (goesOn : next.goesOn = true) (listens : next ≠ .move .listener) (maps : next ≠ .move .mapper) :
    Apart before after ∧ after.Served := by
  obtain ⟨replies, canFrames, outbound⟩ := served
  cases next with
  | move task =>
      exact step_apart ⟨replies, canFrames, outbound⟩ acted (fun same => listens (same ▸ rfl))
        fun same => maps (same ▸ rfl)
  | shutdown => cases goesOn
  | submit message =>
      cases acted
      obtain ⟨_, _, same, -⟩ := submit_footprint message before
      rw [same]
      exact ⟨⟨rfl, rfl, rfl, rfl⟩, replies, canFrames, outbound⟩
  | sendLargeReply channel body =>
      cases acted
      have sent := sendLargeReply_serves channel body outbound
      obtain ⟨_, _, _, same⟩ := sendLargeReply_footprint channel body before
      rw [same] at sent ⊢
      exact ⟨⟨rfl, rfl, rfl, rfl⟩, replies, canFrames, sent⟩
  | readTap subscriber =>
      cases acted
      have framed := readTap_serves subscriber canFrames
      obtain ⟨_, same⟩ := readTap_footprint subscriber before
      rw [same] at framed ⊢
      exact ⟨⟨rfl, rfl, rfl, rfl⟩, replies, framed, outbound⟩
  | tap capacity =>
      cases acted
      exact ⟨⟨rfl, rfl, rfl, rfl⟩, replies, canFrames.subscribe capacity, outbound⟩
  | dropTap subscriber =>
      cases acted
      exact ⟨⟨rfl, rfl, rfl, rfl⟩, replies, canFrames.close (of_decide_eq_true goesOn), outbound⟩
  | pass | relink | sendOnBus =>
      cases acted
      exact ⟨⟨rfl, rfl, rfl, rfl⟩, replies, canFrames, outbound⟩

theorem stepListener_served (served : before.Served) (moved : before.stepListener = some after) :
    after.Served := by
  have turn := stepListener_turn moved
  obtain ⟨_, _, _, _, _, _, _, _, _, _, same, -⟩ := stepListener_footprint moved
  exact turn.served served (same ▸ rfl)

theorem stepMapper_served (served : before.Served) (moved : before.stepMapper = some after) :
    after.Served := by
  have turn := stepMapper_turn moved
  obtain ⟨_, _, _, same⟩ := stepMapper_footprint moved
  exact turn.served served (same ▸ rfl)

end Bridge

end CameraBridge
