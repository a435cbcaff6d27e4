import CameraBridge.Proofs.Bridge.Footprint
import CameraBridge.Proofs.Bridge.Hearing

namespace CameraBridge.Bridge

/-! What is handed to the link to the camera. A move of the writer may call the link's write, once, and
goes on by what the call returned. Nothing else that a bridge does adds to the record of writes. -/

/-- What an act makes of the link to the camera, with the channel and the data that it hands over. -/
inductive LinkUse (next : Act) (before after : Bridge) : Option (Channel × Bytes) → Prop where
  | called {message : Message} {rest : List Message} {result : Except CameraError Unit}
      (own : next = .move .writer) (due : before.writer = .sending (message :: rest))
      (written : before.camera.write message.channel message.payload = (result, after.camera))
      (record : after.camera.writes =
        if result.isOk then (message.channel, message.payload) :: before.camera.writes
        else before.camera.writes)
      (stands : after.writer = .writing message result.isOk rest) :
      LinkUse next before after (some (message.channel, message.payload))
  | spared (record : after.camera.writes = before.camera.writes) : LinkUse next before after none
  /-- The links change, which is nobody's doing here. -/
  | relinked {camera : Camera} {bus : Bus} {hostLink : SegmentLink} {replyLink : ReplyLink}
      (changes : next = .relink camera bus hostLink replyLink) : LinkUse next before after none

def handed? (before after : Bridge) : Option (Channel × Bytes) :=
  match before.writer, after.writer with
  | .sending (message :: _), .writing .. => some (message.channel, message.payload)
  | _, _ => none

variable {bridge before after : Bridge}

theorem handed?_none (through : ∀ message rest, before.writer ≠ .sending (message :: rest)) :
    handed? before after = none := by
  unfold handed?
  split
  · next sending _ => exact absurd sending (through _ _)
  · rfl

theorem handed?_kept (same : after.writer = before.writer) : handed? before after = none := by
  unfold handed?
  rw [same]
  split
  · next sending writing => cases sending.symm.trans writing
  · rfl

theorem handed?_stopped (stopped : after.writer = .stopped) : handed? before after = none := by
  unfold handed?
  rw [stopped]
  split
  · next writing => cases writing
  · rfl

theorem handed?_other {next : Act} (acted : before.act next = some after)
    (other : next ≠ .move .writer) : handed? before after = none := by
  by_cases ends : next = .shutdown
  · subst ends
    cases acted
    exact handed?_stopped (shutdown_ends before).1
  · exact handed?_kept (act_heard acted other ends).writer

/-! ### The writer's moves -/

/-- A write that the link accepts is recorded, and no other one is. -/
theorem write_record {camera later : Camera} {channel : Channel} {data : Bytes}
    {result : Except CameraError Unit} (written : camera.write channel data = (result, later)) :
    later.writes = if result.isOk then (channel, data) :: camera.writes else camera.writes := by
  unfold Camera.write at written
  split at written
  · cases written
    rfl
  · split at written
    · cases written
      rfl
    · cases written
      rfl

theorem runControl_record (command : Control) (bridge : Bridge) :
    (bridge.runControl command).camera.writes = bridge.camera.writes := by
  cases command with
  | forgetPairing =>
      simp only [runControl, Camera.forgetPairing]
      split <;> rfl
  | forceConnect =>
      simp only [runControl, Camera.forceConnect]
      split <;> rfl
  | requestName =>
      simp only [runControl]
      split
      · next begun =>
          obtain ⟨_, _, _, -, -, rfl⟩ := beginOutbound_invert begun
          rfl
      · rfl

theorem takeQueued_record (moved : before.takeQueued = some after) :
    after.camera.writes = before.camera.writes := by
  unfold takeQueued at moved
  split at moved
  · next message commands received =>
      cases moved
      unfold takeCommand
      split
      · split
        · next command known => exact runControl_record command { before with commands }
        · rfl
      · rfl
  · obtain ⟨⟨messages, batches⟩, -, rfl⟩ := Option.map_eq_some_iff.mp moved
    rfl

theorem stepWriter_linkUse (moved : before.stepWriter = some after) :
    LinkUse (.move .writer) before after (handed? before after) := by
  -- Short of a message that is due to a connected camera, the record stays as it is.
  have quiet : (∀ message rest, before.writer ≠ .sending (message :: rest)) →
      after.camera.writes = before.camera.writes →
      LinkUse (.move .writer) before after (handed? before after) := by
    intro through record
    rw [handed?_none through]
    exact .spared record
  unfold stepWriter at moved
  split at moved
  · next idle => exact quiet (by simp [idle]) (takeQueued_record moved)
  · next sending =>
      cases moved
      exact quiet (by simp [sending]) rfl
  · next message rest sending =>
      split at moved
      · cases moved
        have seen : handed? before (before.callWrite message rest) =
            some (message.channel, message.payload) := by
          simp only [handed?, sending, callWrite]
        rw [seen]
        exact .called rfl sending rfl (write_record rfl) rfl
      · cases moved
        have nothing : handed? before { before with writer := .idle } = none := by
          simp only [handed?, sending]
        rw [nothing]
        exact .spared rfl
  · next message accepted rest writing =>
      cases moved
      refine quiet (by simp [writing]) ?_
      cases accepted <;> rfl
  · next awaiting =>
      split at moved
      · cases moved
      all_goals
        cases moved
        exact quiet (by simp [awaiting]) rfl
  · next naming =>
      split at moved
      · cases moved
      all_goals
        next stepped =>
          cases moved
          obtain ⟨outbound, -, rfl⟩ := stepOutbound_invert stepped
          exact quiet (by simp [naming]) rfl
  · cases moved

/-! ### Whatever happens -/

theorem step_record {task : Task} (moved : before.step task = some after) (other : task ≠ .writer) :
    after.camera.writes = before.camera.writes := by
  by_cases listens : task = .listener
  · subst listens
    obtain ⟨_, _, _, _, _, _, _, _, _, _, rfl, -, record⟩ := stepListener_footprint moved
    exact record
  · have aside : task.servesCamera = false := by
      cases task <;> first | rfl | contradiction
    exact congrArg (·.camera.writes) (step_cameraSide aside moved)

theorem shutdown_record (bridge : Bridge) :
    bridge.shutdown.camera.writes = bridge.camera.writes := by
  rw [(shutdown_spared bridge).record, stopWriter_record]
  exact congrArg (·.camera.writes) (cancelStartup_cameraSide bridge)

/-- Whatever is done, the link's write is called with what is shown and not otherwise. -/
theorem act_linkUse {next : Act} (acted : before.act next = some after) :
    LinkUse next before after (handed? before after) := by
  by_cases own : next = .move .writer
  · subst own
    exact stepWriter_linkUse acted
  rw [handed?_other acted own]
  cases next with
  | move task => exact .spared (step_record acted fun same => own (congrArg Act.move same))
  | relink => exact .relinked rfl
  | shutdown =>
      cases acted
      exact .spared (shutdown_record before)
  | submit message =>
      cases acted
      exact .spared (congrArg (·.camera.writes) (submit_cameraSide message before))
  | sendLargeReply channel body =>
      cases acted
      exact .spared (congrArg (·.camera.writes) (sendLargeReply_cameraSide channel body before))
  | readTap subscriber =>
      cases acted
      exact .spared (congrArg (·.camera.writes) (readTap_cameraSide subscriber before))
  | pass | sendOnBus | tap | dropTap =>
      cases acted
      exact .spared rfl

end CameraBridge.Bridge
