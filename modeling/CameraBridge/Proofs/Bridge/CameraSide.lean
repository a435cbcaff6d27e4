import CameraBridge.Proofs.Bridge.Schedule

namespace CameraBridge.Bridge

/-! Most tasks have nothing to do with the camera: only the writer and the listener touch the gates,
the link to the camera and the connectivity. -/

/-- What the writer and the listener work with. -/
structure CameraSide where
  writer : Writer
  listener : Listener
  gates : WriteGates
  camera : Camera
  reassembler : Reassembler
  connectivity : Connectivity
  timing : Timing
  now : Time

def cameraSide (bridge : Bridge) : CameraSide :=
  ⟨bridge.writer, bridge.listener, bridge.gates, bridge.camera, bridge.reassembler,
    bridge.device.connectivity, bridge.timing, bridge.now⟩

variable {bridge after : Bridge}

/-! ### Publications -/

theorem begun_cameraSide {Found Made : Type} {begun : Except PublishError Found}
    {put : Found → Made × Bridge} {made : Made}
    (apart : ∀ found, (put found).2.cameraSide = bridge.cameraSide)
    (result : begun.map put = .ok (made, after)) : after.cameraSide = bridge.cameraSide := by
  cases begun with
  | error cause => cases result
  | ok found =>
      have same : put found = (made, after) := Except.ok.inj result
      rw [← apart found, same]

theorem stepped_cameraSide {Found Made : Type} {stepped : Option Found}
    {put : Found → Bridge × Made} {made : Made}
    (apart : ∀ found, (put found).1.cameraSide = bridge.cameraSide)
    (result : stepped.map put = some (after, made)) : after.cameraSide = bridge.cameraSide := by
  obtain ⟨found, -, same⟩ := Option.map_eq_some_iff.mp result
  rw [← apart found, same]

theorem beginCommand_cameraSide {message : Message} {publication : Publication Message}
    (begun : bridge.beginCommand message = .ok (publication, after)) :
    after.cameraSide = bridge.cameraSide :=
  begun_cameraSide (fun _ => rfl) begun

theorem beginBatch_cameraSide {messages : List Message} {publication : Publication (List Message)}
    (begun : bridge.beginBatch messages = .ok (publication, after)) :
    after.cameraSide = bridge.cameraSide :=
  begun_cameraSide (fun _ => rfl) begun

theorem beginOutbound_cameraSide {channel : Channel} {body : Bytes}
    {publication : Publication OutboundReply}
    (begun : bridge.beginOutbound channel body = .ok (publication, after)) :
    after.cameraSide = bridge.cameraSide := by
  unfold beginOutbound at begun
  cases acquired : bridge.permits.acquire with
  | none => simp [acquired] at begun
  | some pair =>
      simp only [acquired, Except.ok.injEq, Prod.mk.injEq] at begun
      obtain ⟨-, rfl⟩ := begun
      rfl

theorem beginReply_cameraSide (message : Message) (bridge : Bridge) :
    (bridge.beginReply message).2.cameraSide = bridge.cameraSide :=
  rfl

theorem stepCommand_cameraSide {publication : Publication Message} {progress : Progress Message}
    (stepped : bridge.stepCommand publication = some (after, progress)) :
    after.cameraSide = bridge.cameraSide :=
  stepped_cameraSide (fun _ => rfl) stepped

theorem stepBatch_cameraSide {publication : Publication (List Message)}
    {progress : Progress (List Message)}
    (stepped : bridge.stepBatch publication = some (after, progress)) :
    after.cameraSide = bridge.cameraSide :=
  stepped_cameraSide (fun _ => rfl) stepped

theorem stepFrame_cameraSide {publication : Publication CanFrame} {progress : Progress CanFrame}
    (stepped : bridge.stepFrame publication = some (after, progress)) :
    after.cameraSide = bridge.cameraSide :=
  stepped_cameraSide (fun _ => rfl) stepped

theorem stepReply_cameraSide {publication : Publication Message} {progress : Progress Message}
    (stepped : bridge.stepReply publication = some (after, progress)) :
    after.cameraSide = bridge.cameraSide :=
  stepped_cameraSide (fun _ => rfl) stepped

theorem stepInbound_cameraSide {publication : Publication InboundPayload}
    {progress : Progress InboundPayload}
    (stepped : bridge.stepInbound publication = some (after, progress)) :
    after.cameraSide = bridge.cameraSide :=
  stepped_cameraSide (fun _ => rfl) stepped

theorem stepOutbound_cameraSide {publication : Publication OutboundReply}
    {progress : Progress OutboundReply}
    (stepped : bridge.stepOutbound publication = some (after, progress)) :
    after.cameraSide = bridge.cameraSide :=
  stepped_cameraSide (fun _ => rfl) stepped

/-! ### Workers -/

theorem refuse_cameraSide (bridge : Bridge) : bridge.refuse.cameraSide = bridge.cameraSide :=
  rfl

theorem onFrame_cameraSide (frame : CanFrame) (bridge : Bridge) :
    (bridge.onFrame frame).cameraSide = bridge.cameraSide := by
  unfold onFrame
  split
  · rfl
  · split
    · rfl
    · split
      · next publication after begun =>
          rw [← beginCommand_cameraSide begun]
          rfl
      · exact refuse_cameraSide bridge

theorem stepIngress_cameraSide (moved : bridge.stepIngress = some after) :
    after.cameraSide = bridge.cameraSide := by
  unfold stepIngress at moved
  split at moved
  · split at moved
    · simp at moved
    · cases moved
      exact onFrame_cameraSide _ _
  · split at moved
    · simp at moved
    all_goals
      rename_i stepped
      cases moved
      rw [← stepCommand_cameraSide stepped]
      rfl
  · split at moved
    · simp at moved
    all_goals
      rename_i stepped
      cases moved
      rw [← stepFrame_cameraSide stepped]
      rfl
  · simp at moved

theorem mapReply_cameraSide (message : Message) (bridge : Bridge) :
    (bridge.mapReply message).cameraSide = bridge.cameraSide := by
  unfold mapReply
  split
  · rfl
  · rfl

theorem stepMapper_cameraSide (moved : bridge.stepMapper = some after) :
    after.cameraSide = bridge.cameraSide := by
  unfold stepMapper at moved
  split at moved
  · simp only [Option.map_eq_some_iff, Prod.exists] at moved
    obtain ⟨message, replies, -, rfl⟩ := moved
    exact mapReply_cameraSide _ _
  · split at moved
    · simp at moved
    all_goals
      rename_i stepped
      cases moved
      rw [← stepFrame_cameraSide stepped]
      rfl
  · simp at moved

theorem stepHeartbeat_cameraSide (moved : bridge.stepHeartbeat = some after) :
    after.cameraSide = bridge.cameraSide := by
  unfold stepHeartbeat at moved
  split at moved
  · split at moved
    · simp at moved
    · cases moved
      rfl
  · split at moved
    · simp at moved
    all_goals
      rename_i stepped
      cases moved
      rw [← stepFrame_cameraSide stepped]
      rfl
  · simp at moved

theorem stepEgress_cameraSide (moved : bridge.stepEgress = some after) :
    after.cameraSide = bridge.cameraSide := by
  unfold stepEgress at moved
  split at moved
  · simp only [Option.map_eq_some_iff, Prod.exists] at moved
    obtain ⟨frame, canFrames, -, rfl⟩ := moved
    rfl
  · split at moved
    · cases moved
      rfl
    · split at moved
      · cases moved
        rfl
      · simp at moved
  · simp at moved

theorem beginReception_cameraSide (bridge : Bridge) :
    bridge.beginReception.cameraSide = bridge.cameraSide := by
  unfold beginReception
  split <;> rfl

theorem start_cameraSide (timing : Timing) (queueDepth : Nat) (state : DeviceState)
    (links : OpenLinks) : (start timing queueDepth state links).cameraSide =
      ⟨.idle, if links.camera then .listening timing.idle? else .stopped, {},
        { events := { isOpen := links.camera } }, .idle, state.connectivity, timing, 0⟩ := by
  unfold start
  rw [beginReception_cameraSide]
  rfl

theorem afterReception_cameraSide (result : Except ReceptionError InboundPayload) (bridge : Bridge) :
    (bridge.afterReception result).cameraSide = bridge.cameraSide := by
  unfold afterReception
  split
  · rfl
  · exact beginReception_cameraSide bridge
  · rfl
  · rfl

theorem stepIntake_cameraSide (moved : bridge.stepIntake = some after) :
    after.cameraSide = bridge.cameraSide := by
  unfold stepIntake at moved
  split at moved
  · split at moved
    · simp at moved
    · cases moved
      rfl
    · simp only [Option.ite_none_left_eq_some, Option.some.injEq] at moved
      obtain ⟨-, rfl⟩ := moved
      exact afterReception_cameraSide _ _
  · split at moved
    · simp at moved
    · rename_i stepped
      cases moved
      rw [← stepInbound_cameraSide stepped]
      rfl
    · rename_i stepped
      cases moved
      exact (beginReception_cameraSide _).trans (stepInbound_cameraSide stepped)
  · split at moved
    · simp at moved
    · cases moved
      exact beginReception_cameraSide bridge
  · simp at moved

theorem finishPayload_cameraSide (hold : Nat) (bridge : Bridge) :
    (bridge.finishPayload hold).cameraSide = bridge.cameraSide :=
  rfl

/-- Credentials are stored without a look at the connectivity. -/
theorem consume_cameraSide (payload : InboundPayload) (bridge : Bridge) :
    (bridge.consume payload).cameraSide = bridge.cameraSide := by
  unfold consume
  split
  · exact finishPayload_cameraSide _ bridge
  · split
    · rename_i begun
      rw [← beginCommand_cameraSide begun]
      rfl
    · exact finishPayload_cameraSide _ bridge
  · split
    · rename_i begun
      rw [← beginBatch_cameraSide begun]
      rfl
    · exact finishPayload_cameraSide _ bridge
  · simp only [cameraSide, finishPayload, Device.connectivity, Device.update_state,
      WifiCredentials.store]

theorem stepConsumer_cameraSide (moved : bridge.stepConsumer = some after) :
    after.cameraSide = bridge.cameraSide := by
  unfold stepConsumer at moved
  split at moved
  · simp only [Option.map_eq_some_iff, Prod.exists] at moved
    obtain ⟨payload, inbound, -, rfl⟩ := moved
    exact consume_cameraSide _ _
  · split at moved
    · simp at moved
    all_goals
      rename_i stepped
      cases moved
      rw [← stepCommand_cameraSide stepped]
      rfl
  · split at moved
    · simp at moved
    all_goals
      rename_i stepped
      cases moved
      rw [← stepBatch_cameraSide stepped]
      rfl
  · simp at moved

theorem transmit_cameraSide (reply : OutboundReply) (bridge : Bridge) :
    (bridge.transmit reply).cameraSide = bridge.cameraSide := by
  unfold transmit
  split <;> rfl

theorem stepTransmitter_cameraSide (moved : bridge.stepTransmitter = some after) :
    after.cameraSide = bridge.cameraSide := by
  unfold stepTransmitter at moved
  split at moved
  · simp only [Option.map_eq_some_iff, Prod.exists] at moved
    obtain ⟨reply, outbound, -, rfl⟩ := moved
    exact transmit_cameraSide _ _
  · split at moved
    · cases moved
      rfl
    · split at moved
      · cases moved
        rfl
      · simp at moved
  · simp at moved

theorem stepStartup_cameraSide (moved : bridge.stepStartup = some after) :
    after.cameraSide = bridge.cameraSide := by
  unfold stepStartup at moved
  split at moved
  · simp at moved
  · split at moved
    · simp at moved
    · cases moved
      rfl
  · cases moved
    rfl
  · split at moved
    · rename_i begun
      cases moved
      rw [← beginCommand_cameraSide begun]
      rfl
    · cases moved
      rfl
  · split at moved
    · simp at moved
    all_goals
      rename_i stepped
      cases moved
      rw [← stepCommand_cameraSide stepped]
      rfl

theorem stepCall_cameraSide {number : Nat} (moved : bridge.stepCall number = some after) :
    after.cameraSide = bridge.cameraSide := by
  unfold stepCall at moved
  split at moved
  · split at moved
    · simp at moved
    all_goals
      rename_i stepped
      cases moved
      rw [← stepCommand_cameraSide stepped]
      rfl
  · split at moved
    · simp at moved
    all_goals
      rename_i stepped
      cases moved
      rw [← stepOutbound_cameraSide stepped]
      rfl
  · split at moved
    · simp at moved
    · cases moved
      rfl
  · simp at moved

/-- Whether a task may touch the camera's side. -/
def Task.servesCamera : Task → Bool
  | .writer | .listener => true
  | _ => false

theorem step_cameraSide {task : Task} (other : task.servesCamera = false)
    (moved : bridge.step task = some after) : after.cameraSide = bridge.cameraSide := by
  cases task with
  | writer => exact nomatch other
  | listener => exact nomatch other
  | ingress => exact stepIngress_cameraSide moved
  | mapper => exact stepMapper_cameraSide moved
  | heartbeat => exact stepHeartbeat_cameraSide moved
  | egress => exact stepEgress_cameraSide moved
  | intake => exact stepIntake_cameraSide moved
  | consumer => exact stepConsumer_cameraSide moved
  | transmitter => exact stepTransmitter_cameraSide moved
  | startup => exact stepStartup_cameraSide moved
  | call number => exact stepCall_cameraSide moved

end CameraBridge.Bridge
