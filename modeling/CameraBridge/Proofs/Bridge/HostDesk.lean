import CameraBridge.Proofs.Bridge.Footprint
import CameraBridge.Proofs.Bridge.Schedule
import CameraBridge.Proofs.Topic.Delivery

namespace CameraBridge.Bridge

/-! Payloads of the host pass through two hands, the intake's and the consumer's. Nobody else touches
what the two have between them. -/

/-- What intake and consumer have between them. -/
structure HostDesk where
  receiver : Receiver
  inbound : Topic InboundPayload
  intake : Intake
  consumer : Consumer

def hostDesk (bridge : Bridge) : HostDesk :=
  ⟨bridge.receiver, bridge.inbound, bridge.intake, bridge.consumer⟩

variable {before after : Bridge}

theorem step_hostDesk {task : Task} (moved : before.step task = some after)
    (receives : task ≠ .intake) (consumes : task ≠ .consumer) :
    after.hostDesk = before.hostDesk ∧ after.hostLink = before.hostLink := by
  cases task with
  | intake => exact absurd rfl receives
  | consumer => exact absurd rfl consumes
  | writer =>
      obtain ⟨commands, batches, gates, camera, permits, outbound, writer, rfl⟩ :=
        stepWriter_footprint moved
      exact ⟨rfl, rfl⟩
  | listener =>
      obtain ⟨camera, device, gates, startup, commands, replies, reassembler, outbound, permits,
        listener, rfl, -⟩ := stepListener_footprint moved
      exact ⟨rfl, rfl⟩
  | ingress =>
      obtain ⟨bus, commands, canFrames, ingress, rfl, -⟩ := stepIngress_footprint moved
      exact ⟨rfl, rfl⟩
  | mapper =>
      obtain ⟨replies, canFrames, mapper, rfl⟩ := stepMapper_footprint moved
      exact ⟨rfl, rfl⟩
  | heartbeat =>
      obtain ⟨canFrames, heartbeat, rfl⟩ := stepHeartbeat_footprint moved
      exact ⟨rfl, rfl⟩
  | egress =>
      obtain ⟨bus, canFrames, egress, rfl⟩ := stepEgress_footprint moved
      exact ⟨rfl, rfl⟩
  | transmitter =>
      obtain ⟨replyLink, outbound, permits, transmitter, rfl⟩ := stepTransmitter_footprint moved
      exact ⟨rfl, rfl⟩
  | startup =>
      obtain ⟨commands, startup, rfl, -⟩ := stepStartup_footprint moved
      exact ⟨rfl, rfl⟩
  | call number =>
      obtain ⟨bus, commands, outbound, permits, calls, rfl, -⟩ := stepCall_footprint moved
      exact ⟨rfl, rfl⟩

/-- Whatever others do, short of the end, the two find all as they left it. -/
theorem act_hostDesk {next : Act} (acted : before.act next = some after)
    (receives : next ≠ .move .intake) (consumes : next ≠ .move .consumer)
    (going : next ≠ .shutdown) : after.hostDesk = before.hostDesk := by
  cases next with
  | move task =>
      exact (step_hostDesk acted (fun same => receives (congrArg Act.move same))
        (fun same => consumes (congrArg Act.move same))).1
  | submit message =>
      cases acted
      obtain ⟨commands, calls, same, -⟩ := submit_footprint message before
      rw [same]
      rfl
  | sendLargeReply channel body =>
      cases acted
      obtain ⟨permits, outbound, calls, same⟩ := sendLargeReply_footprint channel body before
      rw [same]
      rfl
  | readTap subscriber =>
      cases acted
      obtain ⟨canFrames, same⟩ := readTap_footprint subscriber before
      rw [same]
      rfl
  | shutdown => exact absurd rfl going
  | pass | relink | sendOnBus | tap | dropTap =>
      cases acted
      rfl

/-! ### The consumer's moves -/

theorem listening_invert (is : before.consumer = .listening) (moved : before.stepConsumer = some after) :
    ∃ payload inbound, before.inbound.receive workerSubscriber = some (payload, inbound) ∧
      { before with inbound }.consume payload = after := by
  unfold stepConsumer at moved
  split at moved
  · simpa only [Option.map_eq_some_iff, Prod.exists] using moved
  all_goals
    next same => simp [is] at same

/-- The consumer keeps a publication in hand until that returns, and is done with the payload then. -/
theorem commanding_invert {publication : Publication Message} {hold : Nat}
    (is : before.consumer = .commanding publication hold) (moved : before.stepConsumer = some after) :
    ∃ commands progress, before.stepCommand publication = some ({ before with commands }, progress) ∧
      publication.step before.now before.commands = some (commands, progress) ∧
      ((∃ later delivered, progress = .going later delivered ∧
          after = { before with commands, consumer := .commanding later hold }) ∨
        ∃ result, progress = .finished result ∧ after = { before with commands }.finishPayload hold) := by
  simp only [stepConsumer, is] at moved
  cases stepped : before.stepCommand publication with
  | none => simp [stepped] at moved
  | some pair =>
      obtain ⟨middle, progress⟩ := pair
      obtain ⟨commands, handed, rfl⟩ := stepCommand_invert stepped
      simp only [stepped] at moved
      refine ⟨commands, progress, rfl, handed, ?_⟩
      cases progress with
      | going later delivered => exact .inl ⟨later, delivered, rfl, (Option.some.inj moved).symm⟩
      | finished result => exact .inr ⟨result, rfl, (Option.some.inj moved).symm⟩

theorem batching_invert {publication : Publication (List Message)} {hold : Nat}
    (is : before.consumer = .batching publication hold) (moved : before.stepConsumer = some after) :
    ∃ batches progress, before.stepBatch publication = some ({ before with batches }, progress) ∧
      publication.step before.now before.batches = some (batches, progress) ∧
      ((∃ later delivered, progress = .going later delivered ∧
          after = { before with batches, consumer := .batching later hold }) ∨
        ∃ result, progress = .finished result ∧ after = { before with batches }.finishPayload hold) := by
  simp only [stepConsumer, is] at moved
  cases stepped : before.stepBatch publication with
  | none => simp [stepped] at moved
  | some pair =>
      obtain ⟨middle, progress⟩ := pair
      obtain ⟨batches, handed, rfl⟩ := stepBatch_invert stepped
      simp only [stepped] at moved
      refine ⟨batches, progress, rfl, handed, ?_⟩
      cases progress with
      | going later delivered => exact .inl ⟨later, delivered, rfl, (Option.some.inj moved).symm⟩
      | finished result => exact .inr ⟨result, rfl, (Option.some.inj moved).symm⟩

/-- With its patience over, a publication moves in any case. -/
theorem commanding_able {publication : Publication Message} {hold : Nat}
    (is : before.consumer = .commanding publication hold)
    (late : publication.deadline ≤ before.now) : before.stepConsumer.isSome = true := by
  obtain ⟨⟨commands, progress⟩, stepped⟩ :=
    Option.isSome_iff_exists.mp (publication.step_elapsed late before.commands)
  simp only [stepConsumer, is, stepCommand, stepped, Option.map_some]
  cases progress <;> rfl

theorem batching_able {publication : Publication (List Message)} {hold : Nat}
    (is : before.consumer = .batching publication hold)
    (late : publication.deadline ≤ before.now) : before.stepConsumer.isSome = true := by
  obtain ⟨⟨batches, progress⟩, stepped⟩ :=
    Option.isSome_iff_exists.mp (publication.step_elapsed late before.batches)
  simp only [stepConsumer, is, stepBatch, stepped, Option.map_some]
  cases progress <;> rfl

end CameraBridge.Bridge
