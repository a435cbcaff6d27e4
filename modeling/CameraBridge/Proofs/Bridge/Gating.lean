import CameraBridge.Proofs.Bridge.Queues

namespace CameraBridge

/-! What the camera is spared: no command for the bridge itself ever comes to the link, and nothing
does while the camera is not connected. -/

/-- A call of the link's write, and what the device shows at that moment. -/
structure LinkCall where
  connectivity : Connectivity
  channel : Channel
  data : Bytes
  deriving DecidableEq

/-- None of the messages is for the bridge itself. -/
def AreRemote (messages : List Message) : Prop :=
  ∀ message ∈ messages, message.channel ≠ .control

theorem Channel.remote_ble {channel : Channel} (remote : channel ≠ .control) :
    channel ∈ [cmd, settings, query, net] := by
  cases channel <;> first | exact absurd rfl remote | decide

/-! ### Payloads -/

theorem Message.make_channel {channel : Channel} {payload : Bytes} {message : Message}
    (made : make channel payload = .ok message) : message.channel = channel := by
  unfold make at made
  split at made
  · cases made
    rfl
  · simp at made

theorem mapError_error {Error Other Value : Type} (rename : Error → Other) (cause : Error) :
    (.error cause : Except Error Value).mapError rename = .error (rename cause) := rfl

theorem mapError_ok {Error Other Value : Type} (rename : Error → Other) (value : Value) :
    (.ok value : Except Error Value).mapError rename = .ok value := rfl

theorem mapM_members {Source Target Cause : Type} {make : Source → Except Cause Target}
    {good : Target → Prop} (each : ∀ source target, make source = .ok target → good target)
    {sources : List Source} {targets : List Target} (made : sources.mapM make = .ok targets) :
    ∀ target ∈ targets, good target := by
  induction sources generalizing targets with
  | nil =>
      cases made
      simp
  | cons source rest ih =>
      rw [List.mapM_cons] at made
      cases first : make source with
      | error cause => simp [first, bind, Except.bind] at made
      | ok target =>
          cases others : rest.mapM make with
          | error cause => simp [first, others, bind, Except.bind] at made
          | ok tail =>
              simp only [first, others, bind, Except.bind, pure, Except.pure,
                Except.ok.injEq] at made
              subst made
              intro member found
              rcases List.mem_cons.mp found with rfl | later
              · exact each source member first
              · exact ih others member later

theorem Frame.messages_channel {channel : Channel} {body : Bytes} {messages : List Message}
    (made : Frame.messages channel body = .ok messages) :
    ∀ message ∈ messages, message.channel = channel := by
  unfold Frame.messages at made
  cases split : Frame.ofBody body with
  | error cause => simp [split, bind, Except.bind] at made
  | ok frames =>
      simp only [split, bind, Except.bind] at made
      refine mapM_members ?_ made
      intro frame message built
      cases one : Message.make channel frame with
      | error cause => simp [one, mapError_error] at built
      | ok same =>
          simp only [one, mapError_ok, Except.ok.injEq] at built
          exact built ▸ Message.make_channel one

/-- Whatever a payload contains, the frames that it asks for are not for the bridge itself. -/
theorem Dispatch.batch_remote {payload : Bytes} {messages : List Message}
    (asked : ofPayload payload = .ok (.batch messages)) : AreRemote messages := by
  unfold ofPayload at asked
  cases read : Envelope.ofBytes payload with
  | error cause => simp [read, mapError_error, bind, Except.bind] at asked
  | ok envelope =>
      cases target : envelope.destination with
      | error cause => simp [read, target, mapError_ok, mapError_error, bind, Except.bind] at asked
      | ok destination =>
          simp only [read, target, mapError_ok, bind, Except.bind, pure, Except.pure] at asked
          split at asked
          · split at asked <;> simp at asked
          · next channel remote =>
              cases framed : Frame.messages channel envelope.data with
              | error cause => simp [framed, mapError_error] at asked
              | ok frames =>
                  simp only [framed, mapError_ok, Except.ok.injEq, Dispatch.batch.injEq] at asked
                  subst asked
                  intro message member
                  rw [Frame.messages_channel framed message member]
                  exact remote
          · split at asked <;> simp at asked

/-- The frames that the consumer is about to queue. -/
def Consumer.frames : Consumer → List Message
  | .batching publication _ => publication.message
  | _ => []

namespace Bridge

variable {bridge before after last : Bridge}

/-! ### Messages for the bridge itself -/

/-- Wherever frames of payloads stand, none is for the bridge itself. -/
structure Remote (bridge : Bridge) : Prop where
  left : AreRemote bridge.writer.left
  queued : ∀ messages ∈ bridge.queuedBatches, AreRemote messages
  published : AreRemote bridge.consumer.frames

theorem Remote.onward (remote : Remote before) (writer : after.writer = before.writer)
    (queued : after.queuedBatches = before.queuedBatches)
    (published : AreRemote after.consumer.frames) : Remote after where
  left := writer ▸ remote.left
  queued := queued ▸ remote.queued
  published := published

theorem Remote.kept (remote : Remote before) (writer : after.writer = before.writer)
    (batches : after.batches = before.batches) (consumer : after.consumer = before.consumer) :
    Remote after :=
  remote.onward writer (by rw [queuedBatches, batches, queuedBatches])
    (consumer ▸ remote.published)

theorem WriterTurn.left_remote {sight : Option QueueSight} (turn : WriterTurn before after sight)
    (remote : Remote before) : AreRemote after.writer.left := by
  cases turn with
  | went running same => exact same ▸ remote.left
  | took item free due commands batches =>
      rw [due]
      cases item with
      | command message =>
          intro other member ours
          simp only [Outgoing.frames] at member
          split at member
          · simp at member
          · next remote =>
              obtain rfl := List.mem_singleton.mp member
              exact remote ours
      | batch messages => exact remote.queued messages (batches ▸ List.mem_cons_self)
  | wrote message due =>
      intro other member
      exact remote.left other (due ▸ List.mem_cons_of_mem message member)
  | cut found away due dropped =>
      rw [dropped]
      intro other member
      cases member

theorem WriterTurn.queued_remote {sight : Option QueueSight} (turn : WriterTurn before after sight)
    (remote : Remote before) : ∀ messages ∈ after.queuedBatches, AreRemote messages := by
  intro messages member
  apply remote.queued messages
  cases turn with
  | took item free due commands batches => exact batches ▸ List.mem_append_right _ member
  | went running same spared | wrote message due spared | cut found away due dropped spared =>
      rw [spared.2] at member
      simpa using member

theorem Remote.finishPayload (remote : Remote bridge) (hold : Nat) :
    Remote (bridge.finishPayload hold) :=
  remote.onward rfl rfl fun _ member => nomatch member

/-- The consumer is the only one who queues payloads, and what they ask of it is never a command for
the bridge itself: such a command goes to the other queue. -/
theorem Remote.consume (remote : Remote bridge) (payload : InboundPayload) :
    Remote (bridge.consume payload) := by
  unfold Bridge.consume
  split
  · exact remote.finishPayload payload.hold
  · split
    · next begun =>
        obtain ⟨commands, -, rfl⟩ := beginCommand_invert begun
        exact remote.onward rfl rfl fun _ member => nomatch member
    · exact remote.finishPayload payload.hold
  · next messages asked =>
      split
      · next begun =>
          obtain ⟨batches, started, rfl⟩ := beginBatch_invert begun
          refine remote.onward rfl ?_ ?_
          · rw [queuedBatches, ← Publication.started_enter started]
            exact Topic.items_congr (Topic.enter_queues bridge.batches) workerSubscriber
          · rw [Consumer.frames, Publication.started_message started]
            exact Dispatch.batch_remote asked
      · exact remote.finishPayload payload.hold
  · apply Remote.finishPayload
    exact remote.onward rfl rfl remote.published

theorem stepConsumer_remote (remote : Remote before) (moved : before.stepConsumer = some after) :
    Remote after := by
  unfold stepConsumer at moved
  split at moved
  · simp only [Option.map_eq_some_iff, Prod.exists] at moved
    obtain ⟨payload, inbound, -, rfl⟩ := moved
    apply Remote.consume
    exact remote.onward rfl rfl remote.published
  · split at moved
    · simp at moved
    · next stepped =>
        cases moved
        obtain ⟨commands, -, rfl⟩ := stepCommand_invert stepped
        exact remote.onward rfl rfl fun _ member => nomatch member
    · next stepped =>
        cases moved
        obtain ⟨commands, -, rfl⟩ := stepCommand_invert stepped
        apply Remote.finishPayload
        exact remote.onward rfl rfl remote.published
  · next publication hold batching =>
      have own : AreRemote publication.message := by
        have published := remote.published
        rw [batching] at published
        exact published
      have queued : ∀ {batches : Topic (List Message)} {progress : Progress (List Message)},
          publication.step before.now before.batches = some (batches, progress) →
          ∀ messages ∈ batches.items workerSubscriber, AreRemote messages := by
        intro batches progress handed messages member
        obtain same | grown := Publication.step_items handed workerSubscriber
        · rw [same] at member
          exact remote.queued messages member
        · rw [grown, List.mem_append, List.mem_singleton] at member
          rcases member with earlier | rfl
          · exact remote.queued messages earlier
          · exact own
      split at moved
      · simp at moved
      · next stepped =>
          cases moved
          obtain ⟨batches, handed, rfl⟩ := stepBatch_invert stepped
          refine ⟨remote.left, queued handed, ?_⟩
          rw [Consumer.frames, Publication.going_message handed]
          exact own
      · next stepped =>
          cases moved
          obtain ⟨batches, handed, rfl⟩ := stepBatch_invert stepped
          exact ⟨remote.left, queued handed, fun _ member => nomatch member⟩
  · simp at moved

theorem step_remote {task : Task} (remote : Remote before) (moved : before.step task = some after) :
    Remote after := by
  cases task with
  | writer =>
      have turn := stepWriter_turn moved
      obtain ⟨_, _, _, _, _, _, _, rfl⟩ := stepWriter_footprint moved
      exact ⟨turn.left_remote remote, turn.queued_remote remote, remote.published⟩
  | consumer => exact stepConsumer_remote remote moved
  | listener =>
      obtain ⟨_, _, _, _, _, _, _, _, _, _, rfl, -⟩ := stepListener_footprint moved
      exact remote.kept rfl rfl rfl
  | ingress =>
      obtain ⟨_, _, _, _, rfl, -⟩ := stepIngress_footprint moved
      exact remote.kept rfl rfl rfl
  | mapper =>
      obtain ⟨_, _, _, rfl⟩ := stepMapper_footprint moved
      exact remote.kept rfl rfl rfl
  | heartbeat =>
      obtain ⟨_, _, rfl⟩ := stepHeartbeat_footprint moved
      exact remote.kept rfl rfl rfl
  | egress =>
      obtain ⟨_, _, _, rfl⟩ := stepEgress_footprint moved
      exact remote.kept rfl rfl rfl
  | intake =>
      obtain ⟨_, _, _, _, rfl⟩ := stepIntake_footprint moved
      exact remote.kept rfl rfl rfl
  | transmitter =>
      obtain ⟨_, _, _, _, rfl⟩ := stepTransmitter_footprint moved
      exact remote.kept rfl rfl rfl
  | startup =>
      obtain ⟨_, _, rfl, -⟩ := stepStartup_footprint moved
      exact remote.kept rfl rfl rfl
  | call number =>
      obtain ⟨_, _, _, _, _, rfl, -⟩ := stepCall_footprint moved
      exact remote.kept rfl rfl rfl

theorem shutdown_consumer (bridge : Bridge) : bridge.shutdown.consumer = .stopped := by
  unfold shutdown stopTransmitter
  split <;> rfl

theorem act_remote (next : Act) (before after : Bridge) (remote : Remote before)
    (acted : before.act next = some after) : Remote after := by
  cases next with
  | move task => exact step_remote remote acted
  | submit message =>
      cases acted
      obtain ⟨commands, calls, same, -⟩ := submit_footprint message before
      rw [same]
      exact remote.kept rfl rfl rfl
  | sendLargeReply channel body =>
      cases acted
      obtain ⟨permits, outbound, calls, same⟩ := sendLargeReply_footprint channel body before
      rw [same]
      exact remote.kept rfl rfl rfl
  | readTap subscriber =>
      cases acted
      obtain ⟨canFrames, same⟩ := readTap_footprint subscriber before
      rw [same]
      exact remote.kept rfl rfl rfl
  | shutdown =>
      cases acted
      refine ⟨?_, ?_, ?_⟩
      · rw [(shutdown_ends before).1]
        intro message member
        cases member
      · rw [queuedBatches, (shutdown_empties before).2]
        intro messages member
        cases member
      · rw [shutdown_consumer]
        intro message member
        cases member
  | pass | relink | sendOnBus | tap | dropTap =>
      cases acted
      exact remote.kept rfl rfl rfl

/-! ### Writes -/

/-- The call of the link's write that an act makes. -/
def linkCall? (_ : Act) (before after : Bridge) : Option LinkCall :=
  (handed? before after).map fun (channel, data) => ⟨before.device.connectivity, channel, data⟩

theorem linkCall?_linkUse {next : Act} (acted : before.act next = some after) :
    LinkUse next before after
      ((linkCall? next before after).map fun call => (call.channel, call.data)) := by
  have same : ((linkCall? next before after).map fun call => (call.channel, call.data)) =
      handed? before after := by
    rw [linkCall?, Option.map_map]
    exact Option.map_id'
  rw [same]
  exact act_linkUse acted

/-- The writer hands a message to the link only where it has just seen the camera connected. -/
theorem linkCall?_gated {next : Act} {call : LinkCall} (acted : before.act next = some after)
    (called : linkCall? next before after = some call) :
    call.connectivity = .connected ∧ ∃ message ∈ before.writer.left,
      call.channel = message.channel ∧ call.data = message.payload := by
  obtain ⟨data, handed, rfl⟩ := Option.map_eq_some_iff.mp called
  have use := act_linkUse acted
  rw [handed] at use
  cases use with
  | @called message rest result own due written record stands =>
      subst own
      have noticed := act_noticed acted
      have wrote : writerSight? (.move .writer) before after = some (.wrote message) := by
        simp only [writerSight?, due, stands]
      rw [wrote] at noticed
      have member : message ∈ before.writer.left := by
        rw [due]
        exact List.mem_cons_self
      exact ⟨of_decide_eq_true noticed.there, message, member, rfl, rfl⟩

variable {acts : List Act} {calls : List LinkCall}

theorem Remote.calls_gated (remote : Remote bridge)
    (watched : bridge.watch linkCall? acts = some (calls, last)) :
    ∀ call ∈ calls, call.connectivity = .connected ∧
      call.channel ∈ [.cmd, .settings, .query, .net] ∧ call.data.length ≤ 20 := by
  intro call member
  obtain ⟨before, after, rfl⟩ := List.append_of_mem member
  obtain ⟨earlier, next, later, middle, between, -, reached, acted, called, -⟩ := watch_split watched
  have still : Remote middle := watch_invariant act_remote remote reached
  obtain ⟨connected, message, due, onChannel, whole⟩ := linkCall?_gated acted called
  refine ⟨connected, ?_, ?_⟩
  · rw [onChannel]
    exact Channel.remote_ble (still.left message due)
  · rw [whole]
    exact message.fits

theorem start_remote (timing : Timing) (queueDepth : Nat) (state : DeviceState)
    (links : OpenLinks) : Remote (start timing queueDepth state links) where
  left := fun _ member => nomatch member
  queued := fun _ member => nomatch member
  published := fun _ member => nomatch member

/-- Whatever happens to a bridge from its start on, each call of the link's write is made while the
camera is connected, on one of the camera's channels, and with no more data than one write takes. What
is seen of a call is what the link is called with, and nothing else is written. -/
theorem writes_gated {timing : Timing} {queueDepth : Nat} {state : DeviceState} {links : OpenLinks}
    (watched : (start timing queueDepth state links).watch linkCall? acts = some (calls, last)) :
    (∀ call ∈ calls, call.connectivity = .connected ∧
      call.channel ∈ [.cmd, .settings, .query, .net] ∧ call.data.length ≤ 20) ∧
    ∀ next after, last.act next = some after → LinkUse next last after
      ((linkCall? next last after).map fun call => (call.channel, call.data)) :=
  ⟨(start_remote timing queueDepth state links).calls_gated watched,
    fun _ _ => linkCall?_linkUse⟩

def keepAlive : Message := ⟨.settings, [3, 91, 1, 66], by decide⟩

/-- A command is queued, and a second one while the camera is already lost. -/
def commandTwice : List Act :=
  [.submit keepAlive, .submit keepAlive, .move (.call 0), .move (.call 0), .move (.call 0),
    .move (.call 1), .move (.call 1), .move (.call 1), .move .writer, .move .writer, .move .writer,
    .relink { events := { unread := [.disconnected] } } {} {} {}, .move .listener,
    .move .writer, .move .writer, .move .writer, .move .writer]

theorem watch_commandTwice : ((start {} 8 { connectivity := .connected } {}).watch linkCall?
    commandTwice).map Prod.fst = some [⟨.connected, .settings, [3, 91, 1, 66]⟩] := by
  decide +kernel

theorem call_commandTwice : (((start {} 8 { connectivity := .connected } {}).watch linkCall?
    (commandTwice.take 9)).bind fun (_, ready) => (ready.act (.move .writer)).bind fun after =>
      linkCall? (.move .writer) ready after) = some ⟨.connected, .settings, [3, 91, 1, 66]⟩ := by
  decide +kernel

/-- Only the first of the two is written, and the link is called with it. -/
theorem writes_gated_until_lost :
    (∃ calls last, (start {} 8 { connectivity := .connected } {}).watch linkCall? commandTwice =
        some (calls, last) ∧
      calls = [⟨.connected, .settings, [3, 91, 1, 66]⟩] ∧
      ∀ call ∈ calls, call.connectivity = .connected ∧
        call.channel ∈ [.cmd, .settings, .query, .net] ∧ call.data.length ≤ 20) ∧
    ∃ calls ready after, (start {} 8 { connectivity := .connected } {}).watch linkCall?
        (commandTwice.take 9) = some (calls, ready) ∧
      ready.act (.move .writer) = some after ∧
      LinkUse (.move .writer) ready after (some (.settings, [3, 91, 1, 66])) := by
  constructor
  · obtain ⟨⟨calls, last⟩, watched, seen⟩ := Option.map_eq_some_iff.mp watch_commandTwice
    exact ⟨calls, last, watched, seen, (writes_gated watched).1⟩
  · obtain ⟨⟨calls, ready⟩, watched, called⟩ := Option.bind_eq_some_iff.mp call_commandTwice
    obtain ⟨after, acted, seen⟩ := Option.bind_eq_some_iff.mp called
    have use := (writes_gated watched).2 _ _ acted
    rw [seen] at use
    exact ⟨calls, ready, after, watched, acted, use⟩

end Bridge

end CameraBridge
