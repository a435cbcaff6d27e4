import CameraBridge.Proofs.Bridge.Sources

namespace CameraBridge

/-! What becomes of the host's frames. Each is taken up once, and what is done then follows from its
identifier and from the connection at that moment: nothing, one command that is offered, or one error
frame in answer. -/

/-- The identifier on which the host sends what is for a channel. -/
def Channel.inputId : Channel → UInt16
  | .cmd => 0x772
  | .settings => 0x774
  | .query => 0x776
  | .net => 0x778
  | .control => 0x77A

theorem Channel.ofInputId?_inputId (channel : Channel) :
    ofInputId? channel.inputId = some channel := by
  cases channel <;> decide

theorem Channel.inputId_of_ofInputId? {id : UInt16} {channel : Channel}
    (known : ofInputId? id = some channel) : id = channel.inputId := by
  unfold ofInputId? at known
  repeat' split at known
  all_goals cases known
  all_goals assumption

theorem CanFrame.payload_eq (frame : CanFrame) :
    frame.payload = frame.data.take (min frame.dlc.toNat maxFrame) := by
  rw [payload, List.take_eq_take_iff, frame.width, Nat.min_assoc, Nat.min_self]

/-- What a frame holds is never too long for a message. -/
theorem CanFrame.payload_fits (frame : CanFrame) : frame.payload.length ≤ maxWrite :=
  Nat.le_trans frame.payload_length_le (by decide)

/-! ### Outcomes -/

inductive FrameOutcome where
  | ignored
  | offered (message : Message)
  | refused
  deriving DecidableEq

namespace FrameOutcome

def offer? : FrameOutcome → Option Message
  | .offered message => some message
  | _ => none

/-- What is begun to be published for it as a command. -/
def offers (outcome : FrameOutcome) : List (Option Message) := outcome.offer?.toList.map some

/-- What is begun to be published in answer: the byte `FF` under the identifier `740`, if it is refused. -/
def answers : FrameOutcome → List (Option CanFrame)
  | .refused => [some ⟨0x740, 1, [0xFF, 0, 0, 0, 0, 0, 0, 0], rfl⟩]
  | _ => []

end FrameOutcome

/-- What is due to a frame that is taken up while the camera is connected or not. -/
inductive Deserves (frame : CanFrame) (connected : Bool) : FrameOutcome → Prop where
  | ignored (other : ∀ channel : Channel, frame.id ≠ channel.inputId) :
      Deserves frame connected .ignored
  | offered {message : Message} (input : frame.id = message.channel.inputId)
      (allowed : message.channel = .control ∨ connected = true)
      (whole : message.payload = frame.data.take (min frame.dlc.toNat 8)) :
      Deserves frame connected (.offered message)
  | refused {channel : Channel} (input : frame.id = channel.inputId) (remote : channel ∈ Channel.ble)
      (apart : connected = false) : Deserves frame connected .refused

theorem Channel.mem_ble_iff (channel : Channel) : channel ∈ ble ↔ channel ≠ .control := by
  cases channel <;> decide

theorem Channel.inputId_inj {channel other : Channel} (same : channel.inputId = other.inputId) :
    channel = other := by
  have known := ofInputId?_inputId channel
  rw [same, ofInputId?_inputId] at known
  exact (Option.some.inj known).symm

/-- A channel of the camera is not allowed while the camera is not connected. -/
theorem Channel.denied_of_ble {channel : Channel} {connected : Bool} (remote : channel ∈ ble)
    (apart : connected = false) : ¬ (channel = .control ∨ connected = true) := by
  rintro (control | there)
  · exact channel.mem_ble_iff.mp remote control
  · exact Bool.false_ne_true (apart.symm.trans there)

theorem Deserves.unique {frame : CanFrame} {connected : Bool} {outcome other : FrameOutcome}
    (deserves : Deserves frame connected outcome) (also : Deserves frame connected other) :
    outcome = other := by
  cases deserves with
  | ignored unknown =>
      cases also with
      | ignored => rfl
      | offered input | refused input => exact absurd input (unknown _)
  | @offered message input allowed whole =>
      cases also with
      | ignored unknown => exact absurd input (unknown _)
      | @offered another same _ equal =>
          have channel := Channel.inputId_inj (input.symm.trans same)
          have payload := whole.trans equal.symm
          obtain ⟨_, _, _⟩ := message
          obtain ⟨_, _, _⟩ := another
          cases channel
          cases payload
          rfl
      | refused same remote apart =>
          rw [← Channel.inputId_inj (input.symm.trans same)] at remote
          exact absurd allowed (Channel.denied_of_ble remote apart)
  | refused input remote apart =>
      cases also with
      | ignored unknown => exact absurd input (unknown _)
      | refused => rfl
      | offered same allowed =>
          rw [Channel.inputId_inj (input.symm.trans same)] at remote
          exact absurd allowed (Channel.denied_of_ble remote apart)

theorem Deserves.exists (frame : CanFrame) (connected : Bool) :
    ∃ outcome, Deserves frame connected outcome := by
  by_cases known : ∃ channel : Channel, frame.id = channel.inputId
  · obtain ⟨channel, input⟩ := known
    by_cases allowed : channel = .control ∨ connected = true
    · exact ⟨_, @Deserves.offered frame connected ⟨channel, frame.payload, frame.payload_fits⟩ input
        allowed frame.payload_eq⟩
    · obtain ⟨remote, apart⟩ := not_or.mp allowed
      exact ⟨.refused, .refused input ((Channel.mem_ble_iff channel).mpr remote)
        (Bool.eq_false_iff.mpr apart)⟩
  · exact ⟨.ignored, .ignored (not_exists.mp known)⟩

/-! ### What is seen of the moves -/

/-- What one move for the host's frames shows. -/
structure IngressGlance where
  /-- The frame that it takes up, and whether the camera is connected. -/
  taken : Option (CanFrame × Bool) := none
  /-- The commands that it begins to publish, one for each ticket that it draws. -/
  offered : List (Option Message) := []
  /-- The frames that it begins to publish in answer, likewise. -/
  answered : List (Option CanFrame) := []
  /-- The commands that come to the writer's queue. -/
  queued : List Message := []
  deriving DecidableEq

def Ingress.offer? : Ingress → Option (Publication Message)
  | .submitting publication => some publication
  | _ => none

def Ingress.answer? : Ingress → Option (Publication CanFrame)
  | .refusing publication => some publication
  | _ => none

/-- Where a move of a command's publication leaves the worker. -/
def Ingress.onward : Progress Message → Ingress
  | .going publication _ => .submitting publication
  | .finished _ => .listening

namespace Bridge

variable {before after : Bridge}

def ingressGlance (before after : Bridge) : IngressGlance where
  taken := (departure? before.bus.incoming.unread after.bus.incoming.unread).map
    (·, before.device.isConnected)
  offered := before.commands.begun after.commands after.ingress.offer?
  answered := before.canFrames.begun after.canFrames after.ingress.answer?
  queued := after.queuedCommands.drop before.queuedCommands.length

def Act.ingressGlance? (next : Act) (before after : Bridge) : Option IngressGlance :=
  match next with
  | .move .ingress => some (ingressGlance before after)
  | _ => none

/-- The bridge without a frame that was unread, and otherwise the same. -/
def skip (rest : List CanFrame) (bridge : Bridge) : Bridge :=
  { bridge with
    bus := { bridge.bus with incoming := { bridge.bus.incoming with unread := rest } } }

/-- All that a move for the host's frames can be. -/
inductive IngressTurn (before after : Bridge) : IngressGlance → Prop where
  | ignored {frame : CanFrame} {rest : List CanFrame} (listening : before.ingress = .listening)
      (unread : before.bus.incoming.unread = frame :: rest)
      (deserves : Deserves frame before.device.isConnected .ignored)
      (same : after = before.skip rest) :
      IngressTurn before after { taken := some (frame, before.device.isConnected) }
  | offered {frame : CanFrame} {rest : List CanFrame} {message : Message}
      {publication : Publication Message} (listening : before.ingress = .listening)
      (unread : before.bus.incoming.unread = frame :: rest)
      (deserves : Deserves frame before.device.isConnected (.offered message))
      (started : Publication.start before.now before.timing.publishTimeout message before.commands =
        (publication, after.commands))
      (stands : after.ingress = .submitting publication) :
      IngressTurn before after
        { taken := some (frame, before.device.isConnected), offered := [some message] }
  | refused {frame : CanFrame} {rest : List CanFrame} {publication : Publication CanFrame}
      (listening : before.ingress = .listening)
      (unread : before.bus.incoming.unread = frame :: rest)
      (deserves : Deserves frame before.device.isConnected .refused)
      (stands : after.ingress = .refusing publication) :
      IngressTurn before after
        { taken := some (frame, before.device.isConnected), answered := [some CanFrame.errorFrame] }
  | submitting {publication : Publication Message} {progress : Progress Message}
      (stood : before.ingress = .submitting publication)
      (stepped : publication.step before.now before.commands = some (after.commands, progress))
      (stands : after.ingress = Ingress.onward progress) :
      IngressTurn before after
        { queued := after.queuedCommands.drop before.queuedCommands.length }
  | refusing {publication : Publication CanFrame} (stood : before.ingress = .refusing publication)
      (stands : (∃ later, after.ingress = .refusing later) ∨ after.ingress = .listening) :
      IngressTurn before after {}

namespace IngressTurn

variable {frame : CanFrame} {rest : List CanFrame} {message : Message}

theorem of_ignored (listening : before.ingress = .listening)
    (unread : before.bus.incoming.unread = frame :: rest)
    (deserves : Deserves frame before.device.isConnected .ignored) (same : after = before.skip rest) :
    IngressTurn before after (ingressGlance before after) := by
  have seen : ingressGlance before after =
      { taken := some (frame, before.device.isConnected) } := by
    subst same
    simp [ingressGlance, skip, unread, departure?_cons, Topic.begun_self, queuedCommands]
  rw [seen]
  exact .ignored listening unread deserves same

theorem of_offered {publication : Publication Message} (listening : before.ingress = .listening)
    (unread : before.bus.incoming.unread = frame :: rest)
    (left : after.bus.incoming.unread = rest)
    (deserves : Deserves frame before.device.isConnected (.offered message))
    (started : Publication.start before.now before.timing.publishTimeout message before.commands =
      (publication, after.commands))
    (spared : after.canFrames = before.canFrames) (stands : after.ingress = .submitting publication) :
    IngressTurn before after (ingressGlance before after) := by
  have unfed : after.queuedCommands = before.queuedCommands := by
    rw [queuedCommands, ← Publication.started_enter started]
    exact Topic.items_congr (Topic.enter_queues before.commands) workerSubscriber
  have seen : ingressGlance before after =
      { taken := some (frame, before.device.isConnected), offered := [some message] } := by
    simp [ingressGlance, unread, left, departure?_cons, spared, Topic.begun_self, stands,
      Ingress.offer?, Publication.begun_started started, unfed]
  rw [seen]
  exact .offered listening unread deserves started stands

theorem of_refused {publication : Publication CanFrame} (listening : before.ingress = .listening)
    (unread : before.bus.incoming.unread = frame :: rest)
    (left : after.bus.incoming.unread = rest)
    (deserves : Deserves frame before.device.isConnected .refused)
    (started : Publication.start before.now before.timing.publishTimeout CanFrame.errorFrame
      before.canFrames = (publication, after.canFrames))
    (spared : after.commands = before.commands) (stands : after.ingress = .refusing publication) :
    IngressTurn before after (ingressGlance before after) := by
  have seen : ingressGlance before after =
      { taken := some (frame, before.device.isConnected)
        answered := [some CanFrame.errorFrame] } := by
    simp [ingressGlance, unread, left, departure?_cons, spared, Topic.begun_self, stands,
      Ingress.answer?, Publication.begun_started started, queuedCommands]
  rw [seen]
  exact .refused listening unread deserves stands

theorem of_submitting {publication : Publication Message} {progress : Progress Message}
    (stood : before.ingress = .submitting publication) (bus : after.bus = before.bus)
    (stepped : publication.step before.now before.commands = some (after.commands, progress))
    (spared : after.canFrames = before.canFrames) (stands : after.ingress = Ingress.onward progress) :
    IngressTurn before after (ingressGlance before after) := by
  have seen : ingressGlance before after =
      { queued := after.queuedCommands.drop before.queuedCommands.length } := by
    simp [ingressGlance, bus, departure?_self, spared, Topic.begun_self,
      Publication.begun_stepped stepped]
  rw [seen]
  exact .submitting stood stepped stands

theorem of_refusing {publication : Publication CanFrame} {progress : Progress CanFrame}
    (stood : before.ingress = .refusing publication) (bus : after.bus = before.bus)
    (stepped : publication.step before.now before.canFrames = some (after.canFrames, progress))
    (spared : after.commands = before.commands)
    (stands : (∃ later, after.ingress = .refusing later) ∨ after.ingress = .listening) :
    IngressTurn before after (ingressGlance before after) := by
  have seen : ingressGlance before after = {} := by
    simp [ingressGlance, bus, departure?_self, spared, Topic.begun_self,
      Publication.begun_stepped stepped, queuedCommands]
  rw [seen]
  exact .refusing stood stands

end IngressTurn

theorem onFrame_turn {frame : CanFrame} {rest : List CanFrame}
    (listening : before.ingress = .listening)
    (unread : before.bus.incoming.unread = frame :: rest) :
    IngressTurn before ((before.skip rest).onFrame frame)
      (ingressGlance before ((before.skip rest).onFrame frame)) := by
  unfold onFrame
  split
  · next unknown =>
      refine .of_ignored listening unread (.ignored fun channel input => ?_) rfl
      rw [input, Channel.ofInputId?_inputId] at unknown
      cases unknown
  · next channel known =>
      have input := Channel.inputId_of_ofInputId? known
      have made : Message.make channel frame.payload =
          .ok ⟨channel, frame.payload, frame.payload_fits⟩ := dif_pos frame.payload_fits
      rw [made]
      simp only
      have accepts := beginCommand_isOk ⟨channel, frame.payload, frame.payload_fits⟩ (before.skip rest)
      split
      · next publication later begun =>
          obtain ⟨commands, started, rfl⟩ := beginCommand_invert begun
          rw [begun] at accepts
          have allowed : channel = .control ∨ before.device.isConnected = true := by
            simpa [Message.isAllowed, skip, Except.isOk, Except.toBool] using accepts.symm
          exact .of_offered listening unread rfl (.offered input allowed frame.payload_eq) started rfl
            rfl
      · next cause refused =>
          rw [refused] at accepts
          have denied : channel ≠ .control ∧ before.device.isConnected = false := by
            simpa [Message.isAllowed, skip, Except.isOk, Except.toBool] using accepts.symm
          exact .of_refused listening unread rfl
            (.refused input ((Channel.mem_ble_iff channel).mpr denied.1) denied.2) rfl rfl rfl

theorem stepIngress_turn (moved : before.stepIngress = some after) :
    IngressTurn before after (ingressGlance before after) := by
  unfold stepIngress at moved
  split at moved
  · next listening =>
      split at moved
      · cases moved
      · next frame rest unread =>
          cases moved
          exact onFrame_turn listening unread
  · next publication stood =>
      split at moved
      · cases moved
      all_goals
        next stepped =>
          cases moved
          obtain ⟨commands, handed, rfl⟩ := stepCommand_invert stepped
          exact .of_submitting stood rfl handed rfl rfl
  · next publication stood =>
      split at moved
      · cases moved
      · next later delivered stepped =>
          cases moved
          obtain ⟨canFrames, handed, rfl⟩ := stepFrame_invert stepped
          exact .of_refusing stood rfl handed rfl (.inl ⟨later, rfl⟩)
      · next result stepped =>
          cases moved
          obtain ⟨canFrames, handed, rfl⟩ := stepFrame_invert stepped
          exact .of_refusing stood rfl handed rfl (.inr rfl)
  · cases moved

end Bridge

end CameraBridge
