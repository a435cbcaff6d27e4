import CameraBridge.Proofs.Bridge.Attendance

namespace CameraBridge

/-! Payloads and connections. The writer looks at the connection between two frames of a payload, and
knows nothing of connections that came and went in the meantime. -/

/-- The camera was lost, and is connected again. -/
def Reconnected (sights : List WriterSight) : Prop :=
  ∃ early late, sights = early ++ .handled .connected :: late ∧
    .handled .disconnected ∈ early ∧ .handled .disconnected ∉ late ∧ .handled .authFailed ∉ late

/-- Messages that were taken together are written before and after the camera was lost. -/
def Straddles (sights : List WriterSight) : Prop :=
  ∃ before first between second after,
    sights = before ++ .wrote first :: between ++ .wrote second :: after ∧
      (∀ others, .took others ∉ between) ∧ .handled .disconnected ∈ between

theorem connectedAfter_append (connected : Bool) (earlier later : List WriterSight) :
    connectedAfter connected (earlier ++ later) =
      connectedAfter (connectedAfter connected earlier) later := by
  simp only [connectedAfter, List.foldl_append]

/-- A connection lasts until it is lost. -/
theorem connectedAfter_kept {sights : List WriterSight} (kept : .handled .disconnected ∉ sights)
    (trusted : .handled .authFailed ∉ sights) : connectedAfter true sights = true := by
  induction sights with
  | nil => rfl
  | cons sight rest ih =>
      simp only [List.mem_cons, not_or] at kept trusted
      have still := ih kept.2 trusted.2
      cases sight with
      | took messages => exact still
      | wrote message => exact still
      | handled event => cases event <;> first | exact still | simp at kept trusted

/-- A camera that is connected at the end was connected at some moment and never lost since then. -/
theorem connectedAfter_true {connected : Bool} {sights : List WriterSight}
    (there : connectedAfter connected sights = true) :
    (connected = true ∧ .handled .disconnected ∉ sights ∧ .handled .authFailed ∉ sights) ∨
      ∃ early late, sights = early ++ .handled .connected :: late ∧
        .handled .disconnected ∉ late ∧ .handled .authFailed ∉ late := by
  induction sights generalizing connected with
  | nil => exact .inl ⟨there, by simp, by simp⟩
  | cons sight rest ih =>
      obtain ⟨stays, kept, trusted⟩ | ⟨early, late, rfl, kept, trusted⟩ := ih there
      · cases sight with
        | took messages => exact .inl ⟨stays, by simp [kept], by simp [trusted]⟩
        | wrote message => exact .inl ⟨stays, by simp [kept], by simp [trusted]⟩
        | handled event =>
            cases event with
            | connected => exact .inr ⟨[], rest, rfl, kept, trusted⟩
            | authFailed | disconnected => exact nomatch stays
            | advertisement | subscribed | unsubscribed | notification | writeComplete =>
                exact .inl ⟨stays, by simp [kept], by simp [trusted]⟩
      · exact .inr ⟨sight :: early, late, rfl, kept, trusted⟩

theorem reconnected_of_connectedAfter {connected : Bool} {sights : List WriterSight}
    (lost : .handled .disconnected ∈ sights) (there : connectedAfter connected sights = true) :
    Reconnected sights := by
  obtain ⟨before, since, rfl⟩ := List.append_of_mem lost
  rw [connectedAfter_append] at there
  have back : connectedAfter false since = true := there
  obtain ⟨impossible, -⟩ | ⟨early, late, rfl, kept, trusted⟩ := connectedAfter_true back
  · exact nomatch impossible
  · exact ⟨before ++ .handled .disconnected :: early, late, by simp, by simp, kept, trusted⟩

theorem Reconnected.connectedAfter {sights : List WriterSight} (reconnected : Reconnected sights)
    (connected : Bool) : connectedAfter connected sights = true := by
  obtain ⟨early, late, rfl, -, kept, trusted⟩ := reconnected
  rw [connectedAfter_append]
  exact connectedAfter_kept kept trusted

namespace Bridge

variable {bridge after last : Bridge} {message : Message} {rest : List Message}

/-- The writer needs no more than time to hand a message to the link. -/
def Resumes (bridge : Bridge) (message : Message) : Prop :=
  ∃ later final, (∀ next ∈ later, next = .move .writer ∨ ∃ span, next = .pass span) ∧
    bridge.watch writerSight? later = some ([.wrote message], final)

theorem Resumes.of_act {next : Act} (own : next = .move .writer ∨ ∃ span, next = .pass span)
    (acted : bridge.act next = some after) (unseen : writerSight? next bridge after = none)
    (resumes : after.Resumes message) : bridge.Resumes message := by
  obtain ⟨later, final, calm, watched⟩ := resumes
  refine ⟨next :: later, final, ?_, ?_⟩
  · intro act member
    rcases List.mem_cons.mp member with rfl | member
    · exact own
    · exact calm act member
  · simp only [watch, acted, watched, unseen, Option.toList_none, List.nil_append]

theorem sending_resumes (sending : bridge.writer = .sending (message :: rest))
    (connected : bridge.device.isConnected = true) : bridge.Resumes message := by
  have acted : bridge.act (.move .writer) = some (bridge.callWrite message rest) := by
    simp only [act, step, stepWriter, sending, connected, if_true]
  have seen : writerSight? (.move .writer) bridge (bridge.callWrite message rest) =
      some (.wrote message) := by
    simp only [writerSight?, sending, callWrite]
  refine ⟨[.move .writer], bridge.callWrite message rest, by simp, ?_⟩
  simp only [watch, acted, seen, Option.toList_some, List.append_nil]

theorem wait_ends {pending : Message} {wait : AckWait} {left : List Message}
    (attended : bridge.gates.Attended (.awaiting pending wait left)) :
    ∃ span changed outcome,
      bridge.gates.stepWait (bridge.now + span) writerWaiter pending.channel wait =
        some (changed, .inr outcome) := by
  cases present : bridge.gates.gate? pending.channel with
  | none => exact ⟨0, bridge.gates, .notApplicable, by simp only [WriteGates.stepWait, present]⟩
  | some gate =>
      simp only [WriteGates.stepWait_eq present]
      obtain ⟨alone, asleep, due, deadline, rfl⟩ | ⟨nobody, woken⟩ :=
        (attended pending.channel gate present).2 rfl
      · have elapsed : deadline ≤ bridge.now + (deadline - bridge.now) :=
          Nat.sub_le_iff_le_add'.mp (Nat.le_refl _)
        have unwoken : writerWaiter ∉ gate.woken := by simp [asleep]
        have expired := AckWait.step_expired unwoken due elapsed
        exact ⟨deadline - bridge.now, _, .timedOut, by rw [expired]; rfl⟩
      · have taken : wait.step bridge.now writerWaiter gate =
            some (gate.collect writerWaiter, .inr .acked) := AckWait.step_woken (by simp [woken])
        exact ⟨0, _, .acked, by rw [Nat.add_zero, taken]; rfl⟩

theorem awaiting_resumes {pending : Message} {wait : AckWait}
    (awaiting : bridge.writer = .awaiting pending wait (message :: rest))
    (attended : bridge.gates.Attended bridge.writer)
    (connected : bridge.device.isConnected = true) : bridge.Resumes message := by
  rw [awaiting] at attended
  obtain ⟨span, changed, outcome, returned⟩ := wait_ends attended
  have acted : { bridge with now := bridge.now + span }.act (.move .writer) =
      some { bridge with
        now := bridge.now + span, gates := changed, writer := .sending (message :: rest) } := by
    simp only [act, step, stepWriter, awaiting, returned]
  have unseen : writerSight? (.move .writer) { bridge with now := bridge.now + span }
      { bridge with
        now := bridge.now + span, gates := changed, writer := .sending (message :: rest) } =
        none := by
    simp only [writerSight?, awaiting]
  have patient : bridge.act (.pass span) = some { bridge with now := bridge.now + span } := rfl
  exact .of_act (.inr ⟨span, rfl⟩) patient rfl
    (.of_act (.inl rfl) acted unseen (sending_resumes rfl connected))

theorem writing_resumes {pending : Message} {accepted : Bool}
    (writing : bridge.writer = .writing pending accepted (message :: rest))
    (attended : bridge.gates.Attended bridge.writer)
    (connected : bridge.device.isConnected = true) : bridge.Resumes message := by
  have acted : bridge.act (.move .writer) =
      some (bridge.afterWrite pending accepted (message :: rest)) := by
    simp only [act, step, stepWriter, writing]
  have unseen : writerSight? (.move .writer) bridge
      (bridge.afterWrite pending accepted (message :: rest)) = none := by
    simp only [writerSight?, writing]
  refine .of_act (.inl rfl) acted unseen ?_
  have still := (act_noticed acted).attended attended
  cases accepted with
  | true => exact awaiting_resumes rfl still connected
  | false => exact sending_resumes rfl connected

theorem left_resumes (left : bridge.writer.left = message :: rest)
    (attended : bridge.gates.Attended bridge.writer)
    (connected : bridge.device.isConnected = true) : bridge.Resumes message := by
  cases writer : bridge.writer with
  | idle | naming | stopped => simp [writer, Writer.left] at left
  | sending =>
      simp only [writer, Writer.left] at left
      subst left
      exact sending_resumes writer connected
  | writing =>
      simp only [writer, Writer.left] at left
      subst left
      exact writing_resumes writer attended connected
  | awaiting =>
      simp only [writer, Writer.left] at left
      subst left
      exact awaiting_resumes writer attended connected

variable {acts : List Act} {sights : List WriterSight}

theorem wrote_connected {before after : List WriterSight}
    (watched : bridge.watch writerSight? acts = some (before ++ .wrote message :: after, last)) :
    connectedAfter bridge.device.isConnected before = true := by
  obtain ⟨earlier, next, later, middle, between, -, reached, acted, seen, -⟩ := watch_split watched
  have noticed := act_noticed acted
  rw [seen] at noticed
  rw [← connected_watch reached]
  exact noticed.there

/-- What is written of some messages, before others are taken, is their beginning. -/
theorem written_in_order {messages : List Message} {before after : List WriterSight}
    (watched : bridge.watch writerSight? acts = some (before ++ .took messages :: after, last))
    (untaken : ∀ others, .took others ∉ after) : written after <+: messages := by
  obtain ⟨earlier, next, later, middle, between, -, -, acted, seen, remaining⟩ := watch_split watched
  have noticed := act_noticed acted
  rw [seen] at noticed
  have taken := noticed.taken
  have whole := left_watch remaining untaken
  rw [taken] at whole
  exact (List.prefix_append _ _).trans whole

/-- The frames of a payload are written in order from the first one. They straddle a lost connection
only if a new one is seen before the writer looks again. If one is seen and frames are left, the
writer goes on with them as soon as it moves. What is seen to be written is what the link is called
with. -/
theorem straddles_only_a_reconnection {timing : Timing} {queueDepth : Nat} {state : DeviceState}
    {links : OpenLinks}
    (watched : (start timing queueDepth state links).watch writerSight? acts = some (sights, last)) :
    (∀ before messages after, sights = before ++ .took messages :: after →
        (∀ others, .took others ∉ after) → written after <+: messages) ∧
      (∀ before first between second after,
        sights = before ++ .wrote first :: between ++ .wrote second :: after →
        (∀ others, .took others ∉ between) → .handled .disconnected ∈ between →
        Reconnected between) ∧
      (∀ before first between second rest, sights = before ++ .wrote first :: between →
        (∀ others, .took others ∉ between) → Reconnected between →
        last.writer.left = second :: rest →
        ∃ later final, (∀ next ∈ later, next = .move .writer ∨ ∃ span, next = .pass span) ∧
          (start timing queueDepth state links).watch writerSight? (acts ++ later) =
            some (sights ++ [.wrote second], final) ∧
          Straddles (sights ++ [.wrote second])) ∧
      ∀ next after, last.act next = some after →
        LinkUse next last after ((writerSight? next last after).bind WriterSight.handed?) := by
  refine ⟨?_, ?_, ?_, fun next after => writerSight?_linkUse⟩
  · rintro before messages after rfl untaken
    exact written_in_order watched untaken
  · rintro before first between second after rfl - lost
    have there := wrote_connected watched
    rw [connectedAfter_append] at there
    exact reconnected_of_connectedAfter lost there
  · rintro before first between second rest rfl untaken reconnected left
    have attended := attended_watch (start_attended timing queueDepth state links) watched
    have connected : last.device.isConnected = true := by
      rw [connected_watch watched, connectedAfter_append]
      exact reconnected.connectedAfter _
    obtain ⟨later, final, own, resumed⟩ := left_resumes left attended connected
    obtain ⟨early, late, whole, lost, -⟩ := reconnected
    refine ⟨later, final, own, watch_append watched resumed, before, first, between, second, [], rfl,
      untaken, ?_⟩
    rw [whole]
    exact List.mem_append_left _ lost

/-- Thirty bytes for the settings of the camera, which are written in two frames. -/
def twoFrames : Bytes := (Envelope.toChannel .settings (List.replicate 30 7)).toBytes

def firstFrame : Message := ⟨.settings, [32, 30] ++ List.replicate 18 7, by decide⟩

def secondFrame : Message := ⟨.settings, 128 :: List.replicate 12 7, by decide⟩

/-- Acts that lead to the first of the two frames; the camera acknowledges nothing by itself. -/
def writeFirst : List Act :=
  [.relink { autoAck := false } {} { incoming := [.ok ⟨twoFrames, 0⟩] } {},
    .move .intake, .move .intake, .move .intake, .move .intake,
    .move .consumer, .move .consumer, .move .consumer,
    .move .writer, .move .writer, .move .writer]

/-- The connection is lost and comes back, and only then the writer moves. -/
def loseAndFind : List Act :=
  [.relink { autoAck := false, events := { unread := [.disconnected, .connected] } } {} {} {},
    .move .listener, .move .listener, .move .writer, .move .writer]

theorem watch_loseAndFind : ((start {} 8 { connectivity := .connected } {}).watch writerSight?
    (writeFirst ++ loseAndFind)).map Prod.fst =
      some [.took [firstFrame, secondFrame], .wrote firstFrame, .handled .disconnected,
        .handled .connected, .wrote secondFrame] := by
  decide +kernel

/-- Both frames are written, the second one after the connection came back. -/
theorem straddles_where_reconnected :
    written [.wrote firstFrame, .handled .disconnected, .handled .connected, .wrote secondFrame] <+:
        [firstFrame, secondFrame] ∧
      Reconnected [.handled .disconnected, .handled .connected] := by
  obtain ⟨⟨sights, last⟩, watched, seen⟩ := Option.map_eq_some_iff.mp watch_loseAndFind
  simp only at seen
  subst seen
  obtain ⟨front, back, -⟩ := straddles_only_a_reconnection watched
  exact ⟨front [] _ _ rfl (by simp), back [.took [firstFrame, secondFrame]] firstFrame _ secondFrame
    [] rfl (by simp) (by simp)⟩

/-- The second frame goes to a connection that never saw the first one. -/
theorem batch_straddles : ∃ acts sights last,
    (start {} 8 { connectivity := .connected } {}).watch writerSight? acts = some (sights, last) ∧
      Straddles sights := by
  obtain ⟨⟨sights, last⟩, watched, seen⟩ := Option.map_eq_some_iff.mp watch_loseAndFind
  refine ⟨_, sights, last, watched, [.took [firstFrame, secondFrame]], firstFrame,
    [.handled .disconnected, .handled .connected], secondFrame, [], seen, ?_, ?_⟩
  · simp
  · simp

end Bridge

end CameraBridge
