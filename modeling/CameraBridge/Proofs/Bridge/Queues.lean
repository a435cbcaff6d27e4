import CameraBridge.Proofs.Bridge.Footprint
import CameraBridge.Proofs.Bridge.Writing

namespace CameraBridge

/-! The writer's two queues as they are seen from outside: what is put into them, what the writer
takes from them, and what becomes of it. -/

/-- What is queued for the camera: one command, or the frames of one payload. -/
inductive Outgoing where
  | command (message : Message)
  | batch (messages : List Message)
  deriving DecidableEq

namespace Outgoing

/-- The messages that are to be written; commands for the bridge itself are not. -/
def frames : Outgoing → List Message
  | .command message => if message.channel = .control then [] else [message]
  | .batch messages => messages

def command? : Outgoing → Option Message
  | .command message => some message
  | .batch _ => none

def batch? : Outgoing → Option (List Message)
  | .command _ => none
  | .batch messages => some messages

end Outgoing

inductive QueueSight where
  | queued (item : Outgoing)
  | took (item : Outgoing)
  | wrote (message : Message)
  /-- The writer found the connection like this, and dropped what it had left. -/
  | cut (found : Connectivity)
  deriving DecidableEq

/-- What the link is handed with it. -/
def QueueSight.handed? : QueueSight → Option (Channel × Bytes)
  | .wrote message => some (message.channel, message.payload)
  | _ => none

namespace Bridge

section Observation

variable {Content : Type}

def arrival? (before after : List Content) : Option Content :=
  (after.drop before.length).head?

def departure? (before after : List Content) : Option Content :=
  if after.length < before.length then before.head? else none

theorem arrival?_append (before : List Content) (arrival : Option Content) :
    arrival? before (before ++ arrival.toList) = arrival := by
  cases arrival <;> simp [arrival?]

theorem arrival?_none {before after : List Content} (fewer : after.length ≤ before.length) :
    arrival? before after = none := by
  simp only [arrival?, List.drop_of_length_le fewer, List.head?_nil]

theorem departure?_cons (first : Content) (rest : List Content) :
    departure? (first :: rest) rest = some first := by
  simp [departure?]

theorem departure?_self (items : List Content) : departure? items items = none := by
  simp [departure?]

end Observation

/-- The commands that the writer has not taken yet, oldest first. -/
def queuedCommands (bridge : Bridge) : List Message := bridge.commands.items workerSubscriber

def queuedBatches (bridge : Bridge) : List (List Message) := bridge.batches.items workerSubscriber

def queued? (before after : Bridge) : Option Outgoing :=
  match arrival? before.queuedCommands after.queuedCommands with
  | some message => some (.command message)
  | none => (arrival? before.queuedBatches after.queuedBatches).map .batch

def taken? (before after : Bridge) : Option Outgoing :=
  match departure? before.queuedCommands after.queuedCommands with
  | some message => some (.command message)
  | none => (departure? before.queuedBatches after.queuedBatches).map .batch

def writeSight? (found : Connectivity) : Writer → Writer → Option QueueSight
  | .sending (_ :: _), .writing message _ _ => some (.wrote message)
  | .sending (_ :: _), .idle => some (.cut found)
  | _, _ => none

def writerQueueSight? (before after : Bridge) : Option QueueSight :=
  match taken? before after with
  | some item => some (.took item)
  | none => writeSight? before.device.connectivity before.writer after.writer

def queueSight? (next : Act) (before after : Bridge) : Option QueueSight :=
  match queued? before after with
  | some item => some (.queued item)
  | none =>
      match next with
      | .move .writer => writerQueueSight? before after
      | _ => none

variable {bridge before after : Bridge}

/-! ### What comes to the queues -/

/-- At most one command or payload came to the queues, and none was taken. -/
def QueuesFed (before after : Bridge) (arrival : Option Outgoing) : Prop :=
  after.queuedCommands = before.queuedCommands ++ (arrival.bind Outgoing.command?).toList ∧
    after.queuedBatches = before.queuedBatches ++ (arrival.bind Outgoing.batch?).toList

theorem queuesFed_none (commands : after.queuedCommands = before.queuedCommands)
    (batches : after.queuedBatches = before.queuedBatches) : QueuesFed before after none := by
  simp [QueuesFed, commands, batches]

theorem queuesFed_of_commands (fed : before.commands.Fed workerSubscriber after.commands)
    (same : after.batches = before.batches) : ∃ arrival, QueuesFed before after arrival := by
  obtain ⟨arrival, grown⟩ := fed
  have batches : after.queuedBatches = before.queuedBatches := by
    simp only [queuedBatches, same]
  cases arrival with
  | none =>
      rw [Option.toList_none, List.append_nil] at grown
      exact ⟨none, queuesFed_none grown batches⟩
  | some message => exact ⟨some (.command message), grown, by simp [batches, Outgoing.batch?]⟩

theorem queuesFed_of_batches (same : after.commands = before.commands)
    (fed : before.batches.Fed workerSubscriber after.batches) :
    ∃ arrival, QueuesFed before after arrival := by
  obtain ⟨arrival, grown⟩ := fed
  have commands : after.queuedCommands = before.queuedCommands := by
    simp only [queuedCommands, same]
  cases arrival with
  | none =>
      rw [Option.toList_none, List.append_nil] at grown
      exact ⟨none, queuesFed_none commands grown⟩
  | some messages => exact ⟨some (.batch messages), by simp [commands, Outgoing.command?], grown⟩

theorem step_queuesFed {task : Task} (moved : before.step task = some after)
    (other : task ≠ .writer) : ∃ arrival, QueuesFed before after arrival := by
  cases task with
  | writer => exact absurd rfl other
  | listener =>
      obtain ⟨_, _, _, _, _, _, _, _, _, _, rfl, fed, -⟩ := stepListener_footprint moved
      exact queuesFed_of_commands fed rfl
  | ingress =>
      obtain ⟨_, _, _, _, rfl, fed⟩ := stepIngress_footprint moved
      exact queuesFed_of_commands fed rfl
  | mapper =>
      obtain ⟨_, _, _, rfl⟩ := stepMapper_footprint moved
      exact ⟨none, queuesFed_none rfl rfl⟩
  | heartbeat =>
      obtain ⟨_, _, rfl⟩ := stepHeartbeat_footprint moved
      exact ⟨none, queuesFed_none rfl rfl⟩
  | egress =>
      obtain ⟨_, _, _, rfl⟩ := stepEgress_footprint moved
      exact ⟨none, queuesFed_none rfl rfl⟩
  | intake =>
      obtain ⟨_, _, _, _, rfl⟩ := stepIntake_footprint moved
      exact ⟨none, queuesFed_none rfl rfl⟩
  | consumer =>
      obtain ⟨_, _, _, _, _, _, rfl, fed, filled, same | same⟩ := stepConsumer_footprint moved
      · exact queuesFed_of_batches same filled
      · exact queuesFed_of_commands fed same
  | transmitter =>
      obtain ⟨_, _, _, _, rfl⟩ := stepTransmitter_footprint moved
      exact ⟨none, queuesFed_none rfl rfl⟩
  | startup =>
      obtain ⟨_, _, rfl, fed⟩ := stepStartup_footprint moved
      exact queuesFed_of_commands fed rfl
  | call number =>
      obtain ⟨_, _, _, _, _, rfl, fed⟩ := stepCall_footprint moved
      exact queuesFed_of_commands fed rfl

/-- Short of the writer's own moves and the end, the queues only grow. -/
theorem act_queuesFed {next : Act} (acted : before.act next = some after)
    (other : next ≠ .move .writer) (going : next ≠ .shutdown) :
    ∃ arrival, QueuesFed before after arrival := by
  cases next with
  | move task => exact step_queuesFed acted fun same => other (congrArg Act.move same)
  | submit message =>
      cases acted
      obtain ⟨commands, calls, same, spared⟩ := submit_footprint message before
      rw [same]
      exact ⟨none, queuesFed_none spared rfl⟩
  | sendLargeReply channel body =>
      cases acted
      obtain ⟨permits, outbound, calls, same⟩ := sendLargeReply_footprint channel body before
      rw [same]
      exact ⟨none, queuesFed_none rfl rfl⟩
  | readTap subscriber =>
      cases acted
      obtain ⟨canFrames, same⟩ := readTap_footprint subscriber before
      rw [same]
      exact ⟨none, queuesFed_none rfl rfl⟩
  | shutdown => exact absurd rfl going
  | pass | relink | sendOnBus | tap | dropTap =>
      cases acted
      exact ⟨none, queuesFed_none rfl rfl⟩

theorem QueuesFed.queued? {arrival : Option Outgoing} (fed : QueuesFed before after arrival) :
    queued? before after = arrival := by
  obtain ⟨commands, batches⟩ := fed
  unfold Bridge.queued?
  rw [commands, batches, arrival?_append, arrival?_append]
  cases arrival with
  | none => rfl
  | some item => cases item <;> rfl

theorem queued?_none (commands : after.queuedCommands.length ≤ before.queuedCommands.length)
    (batches : after.queuedBatches.length ≤ before.queuedBatches.length) :
    queued? before after = none := by
  simp only [queued?, arrival?_none commands, arrival?_none batches, Option.map_none]

/-! ### What an act means for the writer -/

/-- What a move of the writer's own means for its queues, with what is seen of it. -/
inductive WriterTurn (before after : Bridge) : Option QueueSight → Prop where
  | went (running : before.writer ≠ .stopped) (same : after.writer.left = before.writer.left)
      (spared : QueuesFed before after none) : WriterTurn before after none
  | took (item : Outgoing) (free : before.writer = .idle) (due : after.writer.left = item.frames)
      (commands : before.queuedCommands = item.command?.toList ++ after.queuedCommands)
      (batches : before.queuedBatches = item.batch?.toList ++ after.queuedBatches) :
      WriterTurn before after (some (.took item))
  | wrote (message : Message) (due : before.writer.left = message :: after.writer.left)
      (spared : QueuesFed before after none) : WriterTurn before after (some (.wrote message))
  | cut (found : Connectivity) (away : found ≠ .connected) (due : before.writer.left ≠ [])
      (dropped : after.writer.left = []) (spared : QueuesFed before after none) :
      WriterTurn before after (some (.cut found))

/-- What an act means for the writer and its queues. -/
inductive QueueMove (before after : Bridge) : Option QueueSight → Prop where
  | own {sight : Option QueueSight} (turn : WriterTurn before after sight) :
      QueueMove before after sight
  | fed (arrival : Option Outgoing) (same : after.writer = before.writer)
      (fed : QueuesFed before after arrival) : QueueMove before after (arrival.map .queued)
  | ended (stopped : after.writer = .stopped) (commands : after.queuedCommands = [])
      (batches : after.queuedBatches = []) : QueueMove before after none

theorem takeCommand_takes (message : Message) (bridge : Bridge) :
    (bridge.takeCommand message).writer.left = (Outgoing.command message).frames ∧
      (bridge.takeCommand message).queuedCommands = bridge.queuedCommands ∧
      (bridge.takeCommand message).queuedBatches = bridge.queuedBatches := by
  unfold takeCommand
  split
  · next ours =>
      rw [Outgoing.frames, if_pos ours]
      split
      · next command known =>
          cases command with
          | forgetPairing | forceConnect => exact ⟨rfl, rfl, rfl⟩
          | requestName =>
              unfold runControl
              simp only
              split
              · next begun =>
                  obtain ⟨grant, permits, outbound, -, -, rfl⟩ := beginOutbound_invert begun
                  exact ⟨rfl, rfl, rfl⟩
              · exact ⟨rfl, rfl, rfl⟩
      · exact ⟨rfl, rfl, rfl⟩
  · next remote =>
      rw [Outgoing.frames, if_neg remote]
      exact ⟨rfl, rfl, rfl⟩

theorem took_seen {item : Outgoing}
    (commands : before.queuedCommands = item.command?.toList ++ after.queuedCommands)
    (batches : before.queuedBatches = item.batch?.toList ++ after.queuedBatches) :
    queueSight? (.move .writer) before after = some (.took item) := by
  have unfed : queued? before after = none :=
    queued?_none (by simp [commands]) (by simp [batches])
  simp only [queueSight?, unfed, writerQueueSight?, taken?]
  cases item with
  | command message =>
      have left : departure? before.queuedCommands after.queuedCommands = some message := by
        rw [commands]
        exact departure?_cons message after.queuedCommands
      rw [left]
  | batch messages =>
      have stayed : departure? before.queuedCommands after.queuedCommands = none := by
        rw [commands]
        exact departure?_self after.queuedCommands
      have left : departure? before.queuedBatches after.queuedBatches = some messages := by
        rw [batches]
        exact departure?_cons messages after.queuedBatches
      rw [stayed, left]
      rfl

theorem takeQueued_turn (idle : before.writer = .idle)
    (moved : before.takeQueued = some after) :
    WriterTurn before after (queueSight? (.move .writer) before after) := by
  have took : ∀ item : Outgoing, after.writer.left = item.frames →
      before.queuedCommands = item.command?.toList ++ after.queuedCommands →
      before.queuedBatches = item.batch?.toList ++ after.queuedBatches →
      WriterTurn before after (queueSight? (.move .writer) before after) := by
    intro item due commands batches
    rw [took_seen commands batches]
    exact .took item idle due commands batches
  unfold takeQueued at moved
  split at moved
  · next message commands received =>
      cases moved
      obtain ⟨due, sameCommands, sameBatches⟩ := takeCommand_takes message { before with commands }
      refine took (.command message) due ?_ sameBatches.symm
      rw [sameCommands]
      exact Topic.receive_items received
  · simp only [Option.map_eq_some_iff, Prod.exists] at moved
    obtain ⟨messages, batches, received, rfl⟩ := moved
    exact took (.batch messages) rfl rfl (Topic.receive_items received)

theorem QueuesFed.of_spared (commands : after.commands = before.commands)
    (batches : after.batches = before.batches) : QueuesFed before after none :=
  queuesFed_none (by rw [queuedCommands, commands, queuedCommands])
    (by rw [queuedBatches, batches, queuedBatches])

theorem spared_seen (spared : QueuesFed before after none) :
    queueSight? (.move .writer) before after =
      writeSight? before.device.connectivity before.writer after.writer := by
  have unfed : queued? before after = none := spared.queued?
  have untaken : taken? before after = none := by
    obtain ⟨commands, batches⟩ := spared
    simp only [taken?, commands, batches, Option.bind_none, Option.toList_none, List.append_nil,
      departure?_self, Option.map_none]
  simp only [queueSight?, unfed, writerQueueSight?, untaken]

/-- A move that neither takes nor writes leaves what is due as it was. -/
theorem WriterTurn.quiet (running : before.writer ≠ .stopped)
    (through : ∀ message rest, before.writer ≠ .sending (message :: rest))
    (same : after.writer.left = before.writer.left) (spared : QueuesFed before after none) :
    WriterTurn before after (queueSight? (.move .writer) before after) := by
  have unseen : queueSight? (.move .writer) before after = none := by
    rw [spared_seen spared]
    cases writer : before.writer with
    | sending due =>
        cases due with
        | nil => rfl
        | cons message rest => exact absurd writer (through message rest)
    | _ => rfl
  rw [unseen]
  exact .went running same spared

theorem stepWriter_turn (moved : before.stepWriter = some after) :
    WriterTurn before after (queueSight? (.move .writer) before after) := by
  unfold stepWriter at moved
  split at moved
  · next idle => exact takeQueued_turn idle moved
  · next sending =>
      cases moved
      refine .quiet (by simp [sending]) (by simp [sending]) ?_ (.of_spared rfl rfl)
      rw [sending]
      rfl
  · next message rest sending =>
      split at moved
      · cases moved
        have spared : QueuesFed before (before.callWrite message rest) none := .of_spared rfl rfl
        rw [spared_seen spared, sending]
        refine .wrote message ?_ spared
        rw [sending]
        rfl
      · next away =>
          cases moved
          have spared : QueuesFed before { before with writer := .idle } none := .of_spared rfl rfl
          rw [spared_seen spared, sending]
          refine .cut before.device.connectivity ?_ (by simp [sending, Writer.left]) rfl spared
          intro there
          exact away (decide_eq_true there)
  · next message accepted rest writing =>
      cases moved
      refine .quiet (by simp [writing]) (by simp [writing]) ?_ ?_
      · rw [writing]
        cases accepted <;> rfl
      · cases accepted <;> exact .of_spared rfl rfl
  · next message wait rest awaiting =>
      split at moved
      · simp at moved
      all_goals
        cases moved
        refine .quiet (by simp [awaiting]) (by simp [awaiting]) ?_ (.of_spared rfl rfl)
        rw [awaiting]
        rfl
  · next publication naming =>
      split at moved
      · simp at moved
      all_goals
        next stepped =>
          cases moved
          obtain ⟨outbound, -, rfl⟩ := stepOutbound_invert stepped
          refine .quiet (by simp [naming]) (by simp [naming]) ?_ (.of_spared rfl rfl)
          rw [naming]
          rfl
  · simp at moved

theorem act_queueMove {next : Act} (acted : before.act next = some after) :
    QueueMove before after (queueSight? next before after) := by
  by_cases own : next = .move .writer
  · subst own
    exact .own (stepWriter_turn acted)
  · have unseen : queued? before after = none → queueSight? next before after = none := by
      intro unfed
      simp only [queueSight?, unfed]
    by_cases ends : next = .shutdown
    · subst ends
      cases acted
      obtain ⟨commands, batches⟩ := shutdown_empties before
      rw [unseen (queued?_none (by simp [queuedCommands, commands])
        (by simp [queuedBatches, batches]))]
      exact .ended (shutdown_ends before).1 commands batches
    · obtain ⟨arrival, fed⟩ := act_queuesFed acted own ends
      have heard := act_heard acted own ends
      have seen : queueSight? next before after = arrival.map .queued := by
        cases arrival with
        | none => exact unseen fed.queued?
        | some item => simp only [queueSight?, fed.queued?, Option.map_some]
      rw [seen]
      exact .fed arrival heard.writer fed

/-! ### What is written -/

theorem queueSight?_aside (through : ∀ message rest, before.writer ≠ .sending (message :: rest)) :
    (queueSight? (.move .writer) before after).bind QueueSight.handed? = none := by
  simp only [queueSight?, writerQueueSight?]
  split
  · rfl
  · split
    · rfl
    · unfold writeSight?
      split
      · next sending _ => exact absurd sending (through _ _)
      · rfl
      · rfl

theorem queueSight?_handed {message : Message} {rest : List Message}
    (sending : before.writer = .sending (message :: rest)) (moved : before.stepWriter = some after) :
    (queueSight? (.move .writer) before after).bind QueueSight.handed? = handed? before after := by
  simp only [stepWriter, sending] at moved
  split at moved
  · cases moved
    have spared : QueuesFed before (before.callWrite message rest) none := .of_spared rfl rfl
    rw [spared_seen spared]
    simp only [writeSight?, handed?, sending, callWrite, Option.bind_some, QueueSight.handed?]
  · cases moved
    have spared : QueuesFed before { before with writer := .idle } none := .of_spared rfl rfl
    rw [spared_seen spared]
    simp only [writeSight?, handed?, sending, Option.bind_some, QueueSight.handed?]

theorem queueSight?_linkUse {next : Act} (acted : before.act next = some after) :
    LinkUse next before after ((queueSight? next before after).bind QueueSight.handed?) := by
  have same : (queueSight? next before after).bind QueueSight.handed? = handed? before after := by
    by_cases own : next = .move .writer
    · subst own
      by_cases through : ∀ message rest, before.writer ≠ .sending (message :: rest)
      · rw [queueSight?_aside through, handed?_none through]
      · simp only [not_forall, not_not] at through
        obtain ⟨message, rest, sending⟩ := through
        exact queueSight?_handed sending acted
    · rw [handed?_other acted own]
      unfold queueSight?
      split
      · rfl
      · split
        · exact absurd rfl own
        · rfl
  rw [same]
  exact act_linkUse acted

end Bridge

end CameraBridge
