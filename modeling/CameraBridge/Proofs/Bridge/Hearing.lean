import CameraBridge.Proofs.Bridge.CameraSide
import CameraBridge.Proofs.Topic.Delivery
import CameraBridge.Proofs.Replies.Demux

namespace CameraBridge

/-! What the writer notices of all others: events that the listener handles change the gates and the
connection, and nothing else does. -/

/-- What handling an event does to the gates. -/
def CameraEvent.onGates (event : CameraEvent) (gates : WriteGates) : WriteGates :=
  match event with
  | .subscribed channel => gates.setSubscribed channel true
  | .unsubscribed channel => gates.setSubscribed channel false
  | .writeComplete channel _ => gates.complete channel
  | .disconnected => gates.reset
  | _ => gates

/-- Whether the camera is connected once an event was handled. -/
def CameraEvent.onConnection (event : CameraEvent) (connected : Bool) : Bool :=
  match event with
  | .connected => true
  | .authFailed | .disconnected => false
  | _ => connected

theorem Device.isConnected_congr {device other : Device}
    (same : device.connectivity = other.connectivity) : device.isConnected = other.isConnected := by
  rw [isConnected, isConnected, same]

theorem Connectivity.next_advertised (connectivity : Connectivity) (status : AdvertisedStatus) :
    connectivity.next (.advertised status) = .connected ↔ connectivity = .connected := by
  by_cases connected : connectivity = .connected
  · simp only [next, connected, if_true]
  · cases status <;> simp [next, connected, AdvertisedStatus.connectivity]

/-- Replies say nothing about the connection. -/
theorem Demuxed.ofReply_connectivity (reply : Assembled) (device : Device) :
    (ofReply reply device).2.connectivity = device.connectivity := by
  have kept := congrArg DeviceState.connectivity (@ofReply_state reply device _ _ rfl)
  exact kept

namespace Bridge

variable {event : Option CameraEvent} {before middle after : Bridge}

/-- The writer is where it was, and notices the event, if there is one. -/
structure Heard (event : Option CameraEvent) (before after : Bridge) : Prop where
  writer : after.writer = before.writer
  gates : after.gates = event.elim before.gates (·.onGates before.gates)
  connected : after.device.isConnected =
    event.elim before.device.isConnected (·.onConnection before.device.isConnected)

theorem Heard.onward (heard : Heard event before middle)
    (same : after.cameraSide = middle.cameraSide) : Heard event before after where
  writer := (congrArg CameraSide.writer same).trans heard.writer
  gates := (congrArg CameraSide.gates same).trans heard.gates
  connected :=
    (Device.isConnected_congr (congrArg CameraSide.connectivity same)).trans heard.connected

theorem heard_of_cameraSide (same : after.cameraSide = before.cameraSide) :
    Heard none before after :=
  Heard.onward ⟨rfl, rfl, rfl⟩ same

/-! ### The listener -/

theorem Heard.listen (heard : Heard event before after) : Heard event before after.listen :=
  ⟨heard.writer, heard.gates, heard.connected⟩

theorem Heard.forwardBody (heard : Heard event before after) (channel : Channel) (data : Bytes)
    (assembled : Assembled) : Heard event before (after.forwardBody channel data assembled) := by
  unfold Bridge.forwardBody
  split
  · split
    · rename_i begun
      have published := heard.onward (beginOutbound_cameraSide begun)
      exact ⟨published.writer, published.gates, published.connected⟩
    · exact heard.listen
  · exact heard.listen

/-- Whatever is learnt from a body, it is not whether the camera is connected. -/
theorem Heard.gatherNotification (heard : Heard event before after) (channel : Channel)
    (data : Bytes) : Heard event before (after.gatherNotification channel data) := by
  unfold Bridge.gatherNotification
  cases pushed : after.reassembler.push channel data with
  | mk reassembler outcome =>
      simp only
      split
      · apply Heard.forwardBody
        refine ⟨heard.writer, heard.gates, ?_⟩
        exact (Device.isConnected_congr (Demuxed.ofReply_connectivity _ _)).trans heard.connected
      · exact Heard.listen ⟨heard.writer, heard.gates, heard.connected⟩

theorem Heard.onNotification (heard : Heard event before after) (channel : Channel) (data : Bytes) :
    Heard event before (after.onNotification channel data) := by
  unfold Bridge.onNotification
  split
  · next message forwarded =>
      have published := heard.onward (beginReply_cameraSide message after)
      exact ⟨published.writer, published.gates, published.connected⟩
  · exact heard.gatherNotification channel data

theorem cancelStartup_cameraSide (bridge : Bridge) :
    bridge.cancelStartup.cameraSide = bridge.cameraSide := by
  unfold cancelStartup
  split <;> rfl

theorem scheduleStartup_cameraSide (bridge : Bridge) :
    bridge.scheduleStartup.cameraSide = bridge.cameraSide := by
  rw [← cancelStartup_cameraSide bridge]
  rfl

theorem applyEvent_connectivity (event : ConnectionEvent) (bridge : Bridge) :
    (bridge.applyEvent event).device.connectivity = bridge.device.connectivity.next event := by
  simp only [applyEvent, Device.connectivity, Device.apply_state, DeviceState.next]

theorem applyEvent_isConnected (event : ConnectionEvent) (bridge : Bridge) :
    (bridge.applyEvent event).device.isConnected =
      decide (bridge.device.connectivity.next event = .connected) := by
  rw [Device.isConnected, applyEvent_connectivity]

theorem updateName_connectivity (name : String) (bridge : Bridge) :
    (bridge.updateDevice fun state => { state with name := some name }).device.connectivity =
      bridge.device.connectivity := by
  simp only [updateDevice, Device.connectivity, Device.update_state]

theorem onEvent_heard (event : CameraEvent) (bridge : Bridge) :
    Heard (some event) bridge (bridge.onEvent event) := by
  cases event with
  | advertisement status name =>
      have advertised : Heard (some (.advertisement status name)) bridge
          (bridge.applyEvent (.advertised status)) := by
        refine ⟨rfl, rfl, ?_⟩
        rw [applyEvent_isConnected]
        exact decide_eq_decide.mpr (Connectivity.next_advertised _ status)
      cases name with
      | none => exact advertised.listen
      | some name =>
          have named := updateName_connectivity name (bridge.applyEvent (.advertised status))
          exact Heard.listen ⟨advertised.writer, advertised.gates,
            (Device.isConnected_congr named).trans advertised.connected⟩
  | connected =>
      have established : Heard (some .connected) bridge (bridge.applyEvent .connected) :=
        ⟨rfl, rfl, applyEvent_isConnected .connected bridge⟩
      exact (established.onward (scheduleStartup_cameraSide _)).listen
  | subscribed channel => exact ⟨rfl, rfl, rfl⟩
  | unsubscribed channel => exact ⟨rfl, rfl, rfl⟩
  | notification channel data => exact Heard.onNotification ⟨rfl, rfl, rfl⟩ channel data
  | writeComplete channel status => exact ⟨rfl, rfl, rfl⟩
  | authFailed => exact ⟨rfl, rfl, applyEvent_isConnected .authFailed bridge⟩
  | disconnected =>
      have cancelled :=
        heard_of_cameraSide (cancelStartup_cameraSide (bridge.applyEvent .disconnected))
      refine ⟨cancelled.writer, congrArg WriteGates.reset cancelled.gates, ?_⟩
      exact cancelled.connected.trans (applyEvent_isConnected .disconnected bridge)

def nextEvent? (bridge : Bridge) : Option CameraEvent :=
  match bridge.listener, bridge.camera.events.unread with
  | .listening _, event :: _ => some event
  | _, _ => none

/-- A camera that is forgotten was not connected. -/
theorem onSilence_heard (bridge : Bridge) : Heard none bridge bridge.onSilence := by
  unfold onSilence
  split
  · exact Heard.listen ⟨rfl, rfl, rfl⟩
  · rename_i away
    have apart : bridge.device.isConnected = false :=
      decide_eq_false fun same => away (.inl same)
    have lost : (bridge.applyEvent .idleTimeout).device.isConnected = false :=
      applyEvent_isConnected .idleTimeout bridge
    exact ⟨rfl, rfl, lost.trans apart.symm⟩

theorem stepListener_heard (moved : before.stepListener = some after) :
    Heard before.nextEvent? before after := by
  unfold stepListener at moved
  split at moved
  · rename_i silence listening
    split at moved
    · next event rest unread =>
        cases moved
        have taken : before.nextEvent? = some event := by simp only [nextEvent?, listening, unread]
        have handled := onEvent_heard event
          { before with
            camera := { before.camera with events := { before.camera.events with unread := rest } } }
        rw [taken]
        exact ⟨handled.writer, handled.gates, handled.connected⟩
    · next unread =>
        have nothing : before.nextEvent? = none := by simp only [nextEvent?, listening, unread]
        rw [nothing]
        split at moved
        · simp only [Option.ite_none_left_eq_some, Option.some.injEq] at moved
          obtain ⟨-, rfl⟩ := moved
          exact onSilence_heard before
        · simp at moved
  · rename_i channel data publication forwarding
    have nothing : before.nextEvent? = none := by simp only [nextEvent?, forwarding]
    rw [nothing]
    split at moved
    · simp at moved
    · rename_i stepped
      cases moved
      have heard := heard_of_cameraSide (stepReply_cameraSide stepped)
      exact ⟨heard.writer, heard.gates, heard.connected⟩
    · rename_i stepped
      cases moved
      have heard := heard_of_cameraSide (stepReply_cameraSide stepped)
      exact heard.gatherNotification channel data
  · rename_i publication replying
    have nothing : before.nextEvent? = none := by simp only [nextEvent?, replying]
    rw [nothing]
    split at moved
    · simp at moved
    all_goals
      rename_i stepped
      cases moved
      have heard := heard_of_cameraSide (stepOutbound_cameraSide stepped)
      exact ⟨heard.writer, heard.gates, heard.connected⟩
  · simp at moved

/-! ### Calls from outside -/

theorem submit_cameraSide (message : Message) (bridge : Bridge) :
    (bridge.submit message).cameraSide = bridge.cameraSide := by
  unfold submit
  split
  · rename_i begun
    rw [← beginCommand_cameraSide begun]
    rfl
  · rfl

theorem sendLargeReply_cameraSide (channel : Channel) (body : Bytes) (bridge : Bridge) :
    (bridge.sendLargeReply channel body).cameraSide = bridge.cameraSide := by
  unfold sendLargeReply
  split
  · rename_i begun
    rw [← beginOutbound_cameraSide begun]
    rfl
  · rfl

theorem readTap_cameraSide (subscriber : Nat) (bridge : Bridge) :
    (bridge.readTap subscriber).2.cameraSide = bridge.cameraSide := by
  unfold readTap
  split <;> rfl

def Act.event? (next : Act) (bridge : Bridge) : Option CameraEvent :=
  match next with
  | .move .listener => bridge.nextEvent?
  | _ => none

/-- Whatever happens, short of the end: either it is the writer's own move, or all that the writer
notices of it is an event. -/
theorem act_heard {next : Act} (acted : before.act next = some after) (other : next ≠ .move .writer)
    (going : next ≠ .shutdown) : Heard (next.event? before) before after := by
  cases next with
  | move task =>
      by_cases listens : task = .listener
      · subst listens
        exact stepListener_heard acted
      · have quiet : (Act.move task).event? before = none := by
          cases task <;> first | rfl | exact absurd rfl listens
        have aside : task.servesCamera = false := by
          cases task <;> first | rfl | exact absurd rfl listens | exact absurd rfl other
        rw [quiet]
        exact heard_of_cameraSide (step_cameraSide aside acted)
  | pass span =>
      cases acted
      exact ⟨rfl, rfl, rfl⟩
  | relink camera bus hostLink replyLink =>
      cases acted
      exact ⟨rfl, rfl, rfl⟩
  | submit message =>
      cases acted
      exact heard_of_cameraSide (submit_cameraSide message before)
  | sendLargeReply channel body =>
      cases acted
      exact heard_of_cameraSide (sendLargeReply_cameraSide channel body before)
  | sendOnBus frame =>
      cases acted
      exact ⟨rfl, rfl, rfl⟩
  | tap capacity =>
      cases acted
      exact ⟨rfl, rfl, rfl⟩
  | readTap subscriber =>
      cases acted
      exact heard_of_cameraSide (readTap_cameraSide subscriber before)
  | dropTap subscriber =>
      cases acted
      exact ⟨rfl, rfl, rfl⟩
  | shutdown => exact absurd rfl going

/-! ### The end -/

/-- What the end of another worker spares: the writer, its queues, the device, the record of writes and calls. -/
structure Spared (before after : Bridge) : Prop where
  writer : after.writer = before.writer
  device : after.device = before.device
  record : after.camera.writes = before.camera.writes
  commands : after.commands.items workerSubscriber = before.commands.items workerSubscriber
  batches : after.batches.items workerSubscriber = before.batches.items workerSubscriber
  calls : after.calls = before.calls

theorem Spared.trans (first : Spared before middle) (second : Spared middle after) :
    Spared before after where
  writer := second.writer.trans first.writer
  device := second.device.trans first.device
  record := second.record.trans first.record
  commands := second.commands.trans first.commands
  batches := second.batches.trans first.batches
  calls := second.calls.trans first.calls

theorem stopListener_spared (bridge : Bridge) : Spared bridge bridge.stopListener := by
  unfold stopListener
  split <;> exact ⟨rfl, rfl, rfl, rfl, rfl, rfl⟩

theorem stopIngress_spared (bridge : Bridge) : Spared bridge bridge.stopIngress := by
  unfold stopIngress
  split
  · exact ⟨rfl, rfl, rfl, Publication.abandon_items _ bridge.commands workerSubscriber, rfl, rfl⟩
  · exact ⟨rfl, rfl, rfl, rfl, rfl, rfl⟩
  · exact ⟨rfl, rfl, rfl, rfl, rfl, rfl⟩

theorem stopMapper_spared (bridge : Bridge) : Spared bridge bridge.stopMapper := by
  unfold stopMapper
  split <;> exact ⟨rfl, rfl, rfl, rfl, rfl, rfl⟩

theorem stopHeartbeat_spared (bridge : Bridge) : Spared bridge bridge.stopHeartbeat := by
  unfold stopHeartbeat
  split <;> exact ⟨rfl, rfl, rfl, rfl, rfl, rfl⟩

theorem stopEgress_spared (bridge : Bridge) : Spared bridge bridge.stopEgress :=
  ⟨rfl, rfl, rfl, rfl, rfl, rfl⟩

theorem stopIntake_spared (bridge : Bridge) : Spared bridge bridge.stopIntake := by
  unfold stopIntake
  split <;> exact ⟨rfl, rfl, rfl, rfl, rfl, rfl⟩

theorem stopConsumer_spared (bridge : Bridge) : Spared bridge bridge.stopConsumer := by
  unfold stopConsumer
  split
  · exact ⟨rfl, rfl, rfl, Publication.abandon_items _ bridge.commands workerSubscriber, rfl, rfl⟩
  · exact ⟨rfl, rfl, rfl, rfl, Publication.abandon_items _ bridge.batches workerSubscriber, rfl⟩
  · exact ⟨rfl, rfl, rfl, rfl, rfl, rfl⟩

theorem stopTransmitter_spared (bridge : Bridge) : Spared bridge bridge.stopTransmitter := by
  unfold stopTransmitter
  split <;> exact ⟨rfl, rfl, rfl, rfl, rfl, rfl⟩

theorem stopWriter_record (bridge : Bridge) :
    bridge.stopWriter.camera.writes = bridge.camera.writes := by
  unfold stopWriter
  split <;> rfl

theorem stopWriter_device (bridge : Bridge) : bridge.stopWriter.device = bridge.device := by
  unfold stopWriter
  split <;> rfl

theorem shutdown_spared (bridge : Bridge) :
    Spared bridge.cancelStartup.stopWriter bridge.shutdown :=
  (stopListener_spared _).trans <| (stopIngress_spared _).trans <| (stopMapper_spared _).trans <|
    (stopHeartbeat_spared _).trans <| (stopEgress_spared _).trans <|
      (stopIntake_spared _).trans <| (stopConsumer_spared _).trans (stopTransmitter_spared _)

/-- At the end the writer stops, whether or not the camera is connected. -/
theorem shutdown_ends (bridge : Bridge) : bridge.shutdown.writer = .stopped ∧
    bridge.shutdown.device.isConnected = bridge.device.isConnected := by
  have spared := shutdown_spared bridge
  refine ⟨spared.writer, ?_⟩
  rw [spared.device, stopWriter_device]
  exact (heard_of_cameraSide (cancelStartup_cameraSide bridge)).connected

theorem shutdown_calls (bridge : Bridge) : bridge.shutdown.calls = bridge.calls := by
  rw [(shutdown_spared bridge).calls]
  have stopped : ∀ other : Bridge, other.stopWriter.calls = other.calls := by
    intro other
    unfold stopWriter
    split <;> rfl
  rw [stopped]
  unfold cancelStartup
  split <;> rfl

theorem shutdown_empties (bridge : Bridge) :
    bridge.shutdown.commands.items workerSubscriber = [] ∧
      bridge.shutdown.batches.items workerSubscriber = [] := by
  have spared := shutdown_spared bridge
  rw [spared.commands, spared.batches]
  exact ⟨Topic.close_items workerSubscriber _, Topic.close_items workerSubscriber _⟩

end Bridge

end CameraBridge
