import CameraBridge.Proofs.Bridge.LinkUse
import CameraBridge.Proofs.Gate.Access

namespace CameraBridge

/-! The writer's work as it is seen from outside: the messages it takes, one command or the frames of
one payload, and those that it hands to the link, among the events that are handled. -/

inductive WriterSight where
  | took (messages : List Message)
  | wrote (message : Message)
  | handled (event : CameraEvent)
  deriving DecidableEq

/-- What the link is handed with it. -/
def WriterSight.handed? : WriterSight → Option (Channel × Bytes)
  | .wrote message => some (message.channel, message.payload)
  | _ => none

def Writer.left : Writer → List Message
  | .sending rest | .writing _ _ rest | .awaiting _ _ rest => rest
  | _ => []

/-- It has nothing to write: it rests, or sends the camera's name. -/
def Writer.isAside : Writer → Bool
  | .idle | .naming _ => true
  | _ => false

def written (sights : List WriterSight) : List Message :=
  sights.filterMap fun
    | .wrote message => some message
    | _ => none

def connectedAfter (connected : Bool) (sights : List WriterSight) : Bool :=
  sights.foldl (fun connected sight =>
    match sight with
    | .handled event => event.onConnection connected
    | _ => connected) connected

namespace Bridge

def writerSight? (next : Act) (before after : Bridge) : Option WriterSight :=
  match next with
  | .move .writer =>
      match before.writer, after.writer with
      | .idle, .sending messages => some (.took messages)
      | .sending (message :: _), .writing .. => some (.wrote message)
      | _, _ => none
  | _ => (next.event? before).map .handled

inductive WriterMove (connected : Bool) :
    Writer → WriteGates → Option WriterSight → Writer → WriteGates → Prop where
  | took (gates : WriteGates) (messages : List Message) :
      WriterMove connected .idle gates (some (.took messages)) (.sending messages) gates
  | aside {writer later : Writer} (gates : WriteGates) (before : writer.isAside = true)
      (after : later.isAside = true) : WriterMove connected writer gates none later gates
  | finished (gates : WriteGates) : WriterMove connected (.sending []) gates none .idle gates
  | dropped (gates : WriteGates) (message : Message) (rest : List Message)
      (away : connected = false) :
      WriterMove connected (.sending (message :: rest)) gates none .idle gates
  | wrote (gates : WriteGates) (message : Message) (accepted : Bool) (rest : List Message)
      (there : connected = true) :
      WriterMove connected (.sending (message :: rest)) gates (some (.wrote message))
        (.writing message accepted rest) (gates.begin message.channel)
  | accepted (gates : WriteGates) (message : Message) (rest : List Message) (deadline : Time) :
      WriterMove connected (.writing message true rest) gates none
        (.awaiting message (.timed deadline) rest)
        (gates.modify message.channel (Gate.enqueue writerWaiter))
  | refused (gates : WriteGates) (message : Message) (rest : List Message) :
      WriterMove connected (.writing message false rest) gates none (.sending rest)
        (gates.cancel message.channel)
  | waited {gates changed : WriteGates} {now : Time} {message : Message} {wait later : AckWait}
      {rest : List Message}
      (step : gates.stepWait now writerWaiter message.channel wait = some (changed, .inl later)) :
      WriterMove connected (.awaiting message wait rest) gates none
        (.awaiting message later rest) changed
  | returned {gates changed : WriteGates} {now : Time} {message : Message} {wait : AckWait}
      {outcome : AckOutcome} {rest : List Message}
      (step : gates.stepWait now writerWaiter message.channel wait = some (changed, .inr outcome)) :
      WriterMove connected (.awaiting message wait rest) gates none (.sending rest) changed

variable {before after : Bridge}

theorem runControl_aside (command : Control) (bridge : Bridge) :
    (bridge.runControl command).writer.isAside = true ∧
      (bridge.runControl command).gates = bridge.gates ∧
      (bridge.runControl command).device.isConnected = bridge.device.isConnected := by
  cases command with
  | forgetPairing => exact ⟨rfl, rfl, rfl⟩
  | forceConnect => exact ⟨rfl, rfl, rfl⟩
  | requestName =>
      unfold runControl
      simp only
      split
      · rename_i begun
        have published := heard_of_cameraSide (beginOutbound_cameraSide begun)
        exact ⟨rfl, published.gates, published.connected⟩
      · exact ⟨rfl, rfl, rfl⟩

/-- A command is for the bridge itself, or it is all that there is to write. -/
theorem takeCommand_move (message : Message) (bridge : Bridge) :
    ((bridge.takeCommand message).writer = .sending [message] ∨
        (bridge.takeCommand message).writer.isAside = true) ∧
      (bridge.takeCommand message).gates = bridge.gates ∧
      (bridge.takeCommand message).device.isConnected = bridge.device.isConnected := by
  unfold takeCommand
  split
  · split
    · next command known =>
        obtain ⟨aside, gates, connected⟩ := runControl_aside command bridge
        exact ⟨.inr aside, gates, connected⟩
    · exact ⟨.inr rfl, rfl, rfl⟩
  · exact ⟨.inl rfl, rfl, rfl⟩

theorem takeQueued_move (moved : before.takeQueued = some after) :
    ((∃ messages, after.writer = .sending messages) ∨ after.writer.isAside = true) ∧
      after.gates = before.gates ∧ after.device.isConnected = before.device.isConnected := by
  unfold takeQueued at moved
  split at moved
  · next message commands received =>
      cases moved
      obtain ⟨taken, gates, connected⟩ := takeCommand_move message { before with commands }
      exact ⟨taken.imp_left fun one => ⟨_, one⟩, gates, connected⟩
  · simp only [Option.map_eq_some_iff, Prod.exists] at moved
    obtain ⟨messages, batches, -, rfl⟩ := moved
    exact ⟨.inl ⟨messages, rfl⟩, rfl, rfl⟩

theorem stepWriter_move (moved : before.stepWriter = some after) :
    WriterMove before.device.isConnected before.writer before.gates
      (writerSight? (.move .writer) before after) after.writer after.gates ∧
    after.device.isConnected = before.device.isConnected := by
  unfold stepWriter at moved
  split at moved
  · next idle =>
      obtain ⟨⟨messages, taken⟩ | aside, gates, connected⟩ := takeQueued_move moved
      · refine ⟨?_, connected⟩
        simp only [writerSight?, idle, taken, gates]
        exact .took _ messages
      · have unseen : writerSight? (.move .writer) before after = none := by
          cases later : after.writer <;> first
            | simp [Writer.isAside, later] at aside; done
            | simp only [writerSight?, idle, later]
        refine ⟨?_, connected⟩
        rw [unseen, idle, gates]
        exact .aside _ rfl aside
  · next sending =>
      cases moved
      refine ⟨?_, rfl⟩
      simp only [writerSight?, sending]
      exact .finished _
  · next message rest sending =>
      split at moved
      · next there =>
          cases moved
          refine ⟨?_, rfl⟩
          simp only [writerSight?, sending, callWrite]
          exact .wrote _ message _ rest there
      · next away =>
          cases moved
          refine ⟨?_, rfl⟩
          simp only [writerSight?, sending]
          exact .dropped _ message rest (Bool.eq_false_iff.mpr away)
  · next message accepted rest writing =>
      cases moved
      cases accepted with
      | true =>
          refine ⟨?_, rfl⟩
          simp only [writerSight?, writing, afterWrite, if_true]
          exact .accepted _ message rest _
      | false =>
          refine ⟨?_, rfl⟩
          simp only [writerSight?, writing, afterWrite, Bool.false_eq_true, if_false]
          exact .refused _ message rest
  · next message wait rest awaiting =>
      split at moved
      · simp at moved
      · next gates later step =>
          cases moved
          refine ⟨?_, rfl⟩
          simp only [writerSight?, awaiting]
          exact .waited step
      · next gates outcome step =>
          cases moved
          refine ⟨?_, rfl⟩
          simp only [writerSight?, awaiting]
          exact .returned step
  · next publication naming =>
      split at moved
      · simp at moved
      all_goals
        rename_i stepped
        cases moved
        have heard := heard_of_cameraSide (stepOutbound_cameraSide stepped)
        refine ⟨?_, heard.connected⟩
        simp only [writerSight?, naming]
        rw [heard.gates]
        exact .aside _ rfl rfl
  · simp at moved

/-- What an act means for the writer, with what is seen of it. -/
inductive Noticed (before : Bridge) : Option WriterSight → Bridge → Prop where
  | own {sight : Option WriterSight} {after : Bridge}
      (move : WriterMove before.device.isConnected before.writer before.gates sight after.writer
        after.gates)
      (connected : after.device.isConnected = before.device.isConnected) :
      Noticed before sight after
  | heard {event : Option CameraEvent} {after : Bridge} (heard : Heard event before after) :
      Noticed before (event.map .handled) after
  | ended {after : Bridge} (stopped : after.writer = .stopped)
      (connected : after.device.isConnected = before.device.isConnected) :
      Noticed before none after

theorem act_noticed {next : Act} (acted : before.act next = some after) :
    Noticed before (writerSight? next before after) after := by
  by_cases own : next = .move .writer
  · subst own
    obtain ⟨move, connected⟩ := stepWriter_move acted
    exact .own move connected
  · by_cases ends : next = .shutdown
    · subst ends
      cases acted
      obtain ⟨stopped, connected⟩ := shutdown_ends before
      exact .ended stopped connected
    · have seen : writerSight? next before after = (next.event? before).map .handled := by
        cases next with
        | move task => cases task <;> first | rfl | exact absurd rfl own
        | _ => rfl
      rw [seen]
      exact .heard (act_heard acted own ends)

theorem writerSight?_linkUse {next : Act} (acted : before.act next = some after) :
    LinkUse next before after ((writerSight? next before after).bind WriterSight.handed?) := by
  have same : (writerSight? next before after).bind WriterSight.handed? = handed? before after := by
    by_cases own : next = .move .writer
    · subst own
      simp only [writerSight?, handed?]
      split
      · next idle sending => rw [idle]; rfl
      · next sending writing => rw [sending, writing]; rfl
      · next other =>
          split
          · next sending writing => exact absurd writing (other _ _ _ _ _ sending)
          · rfl
    · rw [handed?_other acted own]
      unfold writerSight?
      split
      · exact absurd rfl own
      · cases next.event? before <;> rfl
  rw [same]
  exact act_linkUse acted

variable {sight : Option WriterSight} {linked : Bool} {was is : Writer}
  {gates changed : WriteGates}

theorem WriterMove.connected_eq (move : WriterMove linked was gates sight is changed) :
    connectedAfter linked sight.toList = linked := by
  cases move <;> rfl

theorem WriterMove.there {message : Message}
    (move : WriterMove linked was gates (some (.wrote message)) is changed) :
    linked = true := by
  cases move with
  | wrote gates message accepted rest there => exact there

theorem WriterMove.taken {messages : List Message}
    (move : WriterMove linked was gates (some (.took messages)) is changed) :
    is.left = messages := by
  cases move with
  | took gates messages => rfl

/-- Until the writer takes something new, it writes what it has left, from the front. -/
theorem WriterMove.keeps_order (move : WriterMove linked was gates sight is changed)
    (untaken : ∀ messages, sight ≠ some (.took messages)) :
    written sight.toList ++ is.left <+: was.left := by
  cases move with
  | took gates messages => exact absurd rfl (untaken messages)
  | aside gates before after =>
      cases is <;> first | exact List.nil_prefix | exact nomatch after
  | finished | dropped => exact List.nil_prefix
  | wrote | accepted | refused | waited | returned => exact List.prefix_rfl

theorem Noticed.connected_eq (noticed : Noticed before sight after) :
    after.device.isConnected = connectedAfter before.device.isConnected sight.toList := by
  cases noticed with
  | own move same => rw [move.connected_eq, same]
  | @heard event after heard => cases event <;> exact heard.connected
  | ended stopped same => exact same

theorem Noticed.there {message : Message} (noticed : Noticed before (some (.wrote message)) after) :
    before.device.isConnected = true := by
  generalize shown : some (WriterSight.wrote message) = sight at noticed
  cases noticed with
  | own move same =>
      subst shown
      exact move.there
  | @heard event after heard => cases event <;> simp at shown
  | ended stopped same => simp at shown

theorem Noticed.taken {messages : List Message}
    (noticed : Noticed before (some (.took messages)) after) : after.writer.left = messages := by
  generalize shown : some (WriterSight.took messages) = sight at noticed
  cases noticed with
  | own move same =>
      subst shown
      exact move.taken
  | @heard event after heard => cases event <;> simp at shown
  | ended stopped same => simp at shown

theorem Noticed.keeps_order (noticed : Noticed before sight after)
    (untaken : ∀ messages, sight ≠ some (.took messages)) :
    written sight.toList ++ after.writer.left <+: before.writer.left := by
  cases noticed with
  | own move same => exact move.keeps_order untaken
  | @heard event after heard =>
      rw [heard.writer]
      cases event <;> exact List.prefix_rfl
  | ended stopped same =>
      rw [stopped]
      exact List.nil_prefix

variable {bridge last : Bridge} {acts : List Act} {sights : List WriterSight}

/-- The events that were handled tell whether the camera is connected. -/
theorem connected_watch (watched : bridge.watch writerSight? acts = some (sights, last)) :
    last.device.isConnected = connectedAfter bridge.device.isConnected sights := by
  induction acts generalizing bridge sights with
  | nil =>
      cases watched
      rfl
  | cons next rest ih =>
      obtain ⟨after, later, acted, remaining, rfl⟩ := watch_cons_invert watched
      have noticed := (act_noticed acted).connected_eq
      rw [ih remaining, noticed, connectedAfter, connectedAfter, connectedAfter, List.foldl_append]

theorem left_watch (watched : bridge.watch writerSight? acts = some (sights, last))
    (untaken : ∀ messages, .took messages ∉ sights) :
    written sights ++ last.writer.left <+: bridge.writer.left := by
  induction acts generalizing bridge sights with
  | nil =>
      cases watched
      exact List.prefix_rfl
  | cons next rest ih =>
      obtain ⟨after, later, acted, remaining, rfl⟩ := watch_cons_invert watched
      have first := (act_noticed acted).keeps_order fun messages taken =>
        untaken messages (by simp [taken])
      have others := ih remaining fun messages member =>
        untaken messages (List.mem_append_right _ member)
      rw [written, List.filterMap_append, List.append_assoc]
      exact ((List.prefix_append_right_inj _).mpr others).trans first

end Bridge

end CameraBridge
