import CameraBridge.Proofs.Bridge.Gathering
import CameraBridge.Proofs.Bridge.WriterTopics

namespace CameraBridge.Bridge

/-! Two sources of commands: the queries that follow a connection, and the host's frames. Each goes on
by moves of its own, and the listener decides about the queries besides. After the end there is nobody
left who could start them again. -/

variable {bridge before after : Bridge}

/-- The clock and both sources. -/
structure Sources where
  now : Time
  timing : Timing
  startup : Option Startup
  ingress : Ingress

def sources (bridge : Bridge) : Sources :=
  ⟨bridge.now, bridge.timing, bridge.startup, bridge.ingress⟩

/-- What an act leaves alone, short of the end. -/
structure SourcesKept (next : Act) (before after : Bridge) : Prop where
  now : before.now ≤ after.now
  timing : after.timing = before.timing
  startup : next ≠ .move .listener → next ≠ .move .startup → after.startup = before.startup
  ingress : next ≠ .move .ingress → after.ingress = before.ingress

theorem SourcesKept.of_same {next : Act} (same : after.sources = before.sources) :
    SourcesKept next before after where
  now := (congrArg Sources.now same).symm.le
  timing := congrArg Sources.timing same
  startup _ _ := congrArg Sources.startup same
  ingress _ := congrArg Sources.ingress same

theorem step_sourcesKept {task : Task} (moved : before.step task = some after) :
    SourcesKept (.move task) before after := by
  cases task with
  | listener =>
      obtain ⟨_, _, _, _, _, _, _, _, _, _, rfl, -⟩ := stepListener_footprint moved
      exact ⟨Nat.le_refl _, rfl, fun other => absurd rfl other, fun _ => rfl⟩
  | startup =>
      obtain ⟨_, _, rfl, -⟩ := stepStartup_footprint moved
      exact ⟨Nat.le_refl _, rfl, fun _ other => absurd rfl other, fun _ => rfl⟩
  | ingress =>
      obtain ⟨_, _, _, _, rfl, -⟩ := stepIngress_footprint moved
      exact ⟨Nat.le_refl _, rfl, fun _ _ => rfl, fun other => absurd rfl other⟩
  | writer =>
      obtain ⟨_, _, _, _, _, _, _, rfl⟩ := stepWriter_footprint moved
      exact .of_same rfl
  | mapper =>
      obtain ⟨_, _, _, rfl⟩ := stepMapper_footprint moved
      exact .of_same rfl
  | heartbeat =>
      obtain ⟨_, _, rfl⟩ := stepHeartbeat_footprint moved
      exact .of_same rfl
  | egress =>
      obtain ⟨_, _, _, rfl⟩ := stepEgress_footprint moved
      exact .of_same rfl
  | intake =>
      obtain ⟨_, _, _, _, rfl⟩ := stepIntake_footprint moved
      exact .of_same rfl
  | consumer =>
      obtain ⟨_, _, _, _, _, _, rfl, -⟩ := stepConsumer_footprint moved
      exact .of_same rfl
  | transmitter =>
      obtain ⟨_, _, _, _, rfl⟩ := stepTransmitter_footprint moved
      exact .of_same rfl
  | call number =>
      obtain ⟨_, _, _, _, _, rfl, -⟩ := stepCall_footprint moved
      exact .of_same rfl

theorem act_sourcesKept {next : Act} (acted : before.act next = some after)
    (going : next ≠ .shutdown) : SourcesKept next before after := by
  cases next with
  | move task => exact step_sourcesKept acted
  | shutdown => exact absurd rfl going
  | pass span =>
      cases acted
      exact ⟨Nat.le_add_right _ _, rfl, fun _ _ => rfl, fun _ => rfl⟩
  | submit message =>
      cases acted
      obtain ⟨_, _, same, -⟩ := submit_footprint message before
      exact .of_same (by rw [same]; rfl)
  | sendLargeReply channel body =>
      cases acted
      obtain ⟨_, _, _, same⟩ := sendLargeReply_footprint channel body before
      exact .of_same (by rw [same]; rfl)
  | readTap subscriber =>
      cases acted
      obtain ⟨_, same⟩ := readTap_footprint subscriber before
      exact .of_same (by rw [same]; rfl)
  | relink | sendOnBus | tap | dropTap =>
      cases acted
      exact .of_same rfl

/-! ### The end -/

theorem cancelStartup_sources (bridge : Bridge) :
    bridge.cancelStartup.sources = { bridge.sources with startup := none } := by
  unfold cancelStartup
  split <;> rfl

theorem stopWriter_sources (bridge : Bridge) : bridge.stopWriter.sources = bridge.sources := by
  unfold stopWriter
  split <;> rfl

theorem stopListener_sources (bridge : Bridge) : bridge.stopListener.sources = bridge.sources := by
  unfold stopListener
  split <;> rfl

theorem stopIngress_sources (bridge : Bridge) :
    bridge.stopIngress.sources = { bridge.sources with ingress := .stopped } := by
  unfold stopIngress
  split <;> rfl

theorem stopMapper_sources (bridge : Bridge) : bridge.stopMapper.sources = bridge.sources := by
  obtain ⟨_, _, _, same⟩ := stopMapper_footprint bridge
  rw [same]
  rfl

theorem stopHeartbeat_sources (bridge : Bridge) : bridge.stopHeartbeat.sources = bridge.sources := by
  obtain ⟨_, _, same⟩ := stopHeartbeat_footprint bridge
  rw [same]
  rfl

theorem stopEgress_sources (bridge : Bridge) : bridge.stopEgress.sources = bridge.sources := rfl

theorem stopIntake_sources (bridge : Bridge) : bridge.stopIntake.sources = bridge.sources := by
  obtain ⟨_, _, _, same⟩ := stopIntake_footprint bridge
  rw [same]
  rfl

theorem stopConsumer_sources (bridge : Bridge) : bridge.stopConsumer.sources = bridge.sources := by
  obtain ⟨_, _, _, _, _, same⟩ := stopConsumer_footprint bridge
  rw [same]
  rfl

theorem stopTransmitter_sources (bridge : Bridge) :
    bridge.stopTransmitter.sources = bridge.sources := by
  unfold stopTransmitter
  split <;> rfl

theorem shutdown_sources (bridge : Bridge) :
    bridge.shutdown.sources = { bridge.sources with startup := none, ingress := .stopped } := by
  rw [shutdown, stopTransmitter_sources, stopConsumer_sources, stopIntake_sources,
    stopEgress_sources, stopHeartbeat_sources, stopMapper_sources, stopIngress_sources,
    stopListener_sources, stopWriter_sources, cancelStartup_sources]

/-- Nobody is left who would hand in commands by himself. -/
structure Ended (bridge : Bridge) : Prop where
  listener : bridge.listener = .stopped
  startup : bridge.startup = none
  ingress : bridge.ingress = .stopped

theorem shutdown_ended (bridge : Bridge) : bridge.shutdown.Ended where
  listener := shutdown_listener bridge
  startup := congrArg Sources.startup (shutdown_sources bridge)
  ingress := congrArg Sources.ingress (shutdown_sources bridge)

theorem act_clock {next : Act} (acted : before.act next = some after) :
    before.now ≤ after.now ∧ after.timing = before.timing := by
  by_cases ends : next = .shutdown
  · subst ends
    cases acted
    exact ⟨(congrArg Sources.now (shutdown_sources before)).symm.le,
      congrArg Sources.timing (shutdown_sources before)⟩
  · have kept := act_sourcesKept acted ends
    exact ⟨kept.now, kept.timing⟩

namespace Ended

theorem listener_rests (ended : before.Ended) : before.act (.move .listener) = none := by
  simp only [Bridge.act, step, stepListener, ended.listener]

theorem startup_rests (ended : before.Ended) : before.act (.move .startup) = none := by
  simp only [Bridge.act, step, stepStartup, ended.startup]

theorem ingress_rests (ended : before.Ended) : before.act (.move .ingress) = none := by
  simp only [Bridge.act, step, stepIngress, ended.ingress]

theorem act {next : Act} (ended : before.Ended) (acted : before.act next = some after) :
    after.Ended := by
  by_cases ends : next = .shutdown
  · subst ends
    cases acted
    exact shutdown_ended before
  · have kept := act_sourcesKept acted ends
    have listens : next ≠ .move .listener := by
      rintro rfl
      cases ended.listener_rests.symm.trans acted
    have queries : next ≠ .move .startup := by
      rintro rfl
      cases ended.startup_rests.symm.trans acted
    have takes : next ≠ .move .ingress := by
      rintro rfl
      cases ended.ingress_rests.symm.trans acted
    exact ⟨(act_gathering acted listens ends).1.trans ended.listener,
      (kept.startup listens queries).trans ended.startup, (kept.ingress takes).trans ended.ingress⟩

end Ended

/-- The writer is there for commands, or nobody is who would hand them in. -/
theorem act_staffed_or_ended {next : Act} (standing : before.Staffed ∨ before.Ended)
    (acted : before.act next = some after) : after.Staffed ∨ after.Ended := by
  by_cases ends : next = .shutdown
  · subst ends
    cases acted
    exact .inr (shutdown_ended before)
  · exact standing.imp (·.act acted ends) (·.act acted)

end CameraBridge.Bridge
