import CameraBridge.Proofs.Bridge.HostDemands
import CameraBridge.Proofs.Bridge.HostDesk
import CameraBridge.Proofs.Bridge.WriterTopics
import Mathlib.Logic.ExistsUnique

namespace CameraBridge

/-! What acting on a host's payload leads to, from the move that takes it up to the one after which the
consumer listens again. In between others move as they please. Each of the consumer's own moves is
recorded with what it found and what it left, so that nothing it does goes unseen. -/

/-- Why acting on a payload failed. -/
inductive ConsumeError where
  | dispatch (cause : DispatchError)
  | publish (cause : PublishError)

/-- How acting on a payload ends. -/
abbrev Verdict := Except ConsumeError Unit

/-- A publication that ends so has put its message into no queue of a single subscriber. -/
def PublishError.IsLoss (cause : PublishError) : Prop :=
  ∃ topic, cause = .timeout topic ∨ cause = .closed topic

def Progress.result? {Content : Type} : Progress Content → Option (Except PublishError Unit)
  | .going .. => none
  | .finished result => some result

namespace Bridge

/-! ### What is recorded -/

/-- What payloads can change for others: the device state, and what is queued on the topics. -/
structure Contents where
  state : DeviceState
  commands : List (Queue Message)
  batches : List (Queue (List Message))
  canFrames : List (Queue CanFrame)
  replies : List (Queue Message)
  inbound : List (Queue InboundPayload)
  outbound : List (Queue OutboundReply)

def contents (bridge : Bridge) : Contents :=
  ⟨bridge.device.state, bridge.commands.queues, bridge.batches.queues, bridge.canFrames.queues,
    bridge.replies.queues, bridge.inbound.queues, bridge.outbound.queues⟩

namespace Contents

def queueCommand (message : Message) (contents : Contents) : Contents :=
  { contents with
    commands := contents.commands.modify workerSubscriber fun queue =>
      { queue with items := queue.items ++ [message] } }

def queueBatch (messages : List Message) (contents : Contents) : Contents :=
  { contents with
    batches := contents.batches.modify workerSubscriber fun queue =>
      { queue with items := queue.items ++ [messages] } }

end Contents

/-- What one move found and what it left. -/
structure Effect where
  found : Contents
  left : Contents

def Effect.IsQuiet (effect : Effect) : Prop := effect.left = effect.found

def AreQuiet (effects : List Effect) : Prop := ∀ effect ∈ effects, effect.IsQuiet

/-- One move puts something into a queue, and the others do nothing. -/
def PutOnce (put : Contents → Contents) (effects : List Effect) : Prop :=
  ∃ earlier found later, effects = earlier ++ ⟨found, put found⟩ :: later ∧
    AreQuiet (earlier ++ later)

variable {put : Contents → Contents} {effects : List Effect} {effect : Effect}

theorem AreQuiet.snoc (quiet : AreQuiet effects) (still : effect.IsQuiet) :
    AreQuiet (effects ++ [effect]) := by
  intro other member
  rcases List.mem_append.mp member with earlier | last
  · exact quiet other earlier
  · rw [List.mem_singleton.mp last]
    exact still

theorem AreQuiet.putOnce (quiet : AreQuiet effects) (puts : effect.left = put effect.found) :
    PutOnce put (effects ++ [effect]) := by
  refine ⟨effects, effect.found, [], ?_, by rwa [List.append_nil]⟩
  rw [← puts]

theorem PutOnce.snoc (once : PutOnce put effects) (still : effect.IsQuiet) :
    PutOnce put (effects ++ [effect]) := by
  obtain ⟨earlier, found, later, rfl, quiet⟩ := once
  refine ⟨earlier, found, later ++ [effect], by simp, ?_⟩
  rw [← List.append_assoc]
  exact quiet.snoc still

/-! ### A publication for one subscriber -/

/-- How far a publication has come, and what it did on the way, one move at each stage. -/
inductive Way {Content : Type} (put : Contents → Contents) (publication : Publication Content)
    (effects : List Effect) : Prop where
  | ordering {deadline : Time} (stands : publication.stage = .ordering deadline)
      (quiet : AreQuiet effects) (moves : effects.length = 1)
  | delivering {deadline : Time}
      (stands : publication.stage =
        .delivering deadline [workerSubscriber] [workerSubscriber] none)
      (quiet : AreQuiet effects) (moves : effects.length = 2)
  | served {deadline : Time}
      (stands : publication.stage = .delivering deadline [workerSubscriber] [] none)
      (once : PutOnce put effects) (moves : effects.length = 3)
  | passed {deadline : Time} {cause : PublishError}
      (stands : publication.stage = .delivering deadline [workerSubscriber] [] (some cause))
      (loss : cause.IsLoss) (quiet : AreQuiet effects) (moves : effects.length = 3)

/-- What a publication did until its end. -/
def Published (put : Contents → Contents) (effects : List Effect) : Except PublishError Unit → Prop
  | .ok () => PutOnce put effects
  | .error cause => cause.IsLoss ∧ AreQuiet effects

/-- A step of a publication, with the effect that it has: nothing unless it puts its message. -/
theorem Way.step {Content : Type} {publication : Publication Content} {now : Time}
    {topic after : Topic Content} {progress : Progress Content}
    (way : Way put publication effects) (effect : Effect)
    (alone : topic.live = [workerSubscriber])
    (stepped : publication.step now topic = some (after, progress))
    (still : after.queues = topic.queues → effect.IsQuiet)
    (puts : after = topic.put workerSubscriber publication.message →
      effect.left = put effect.found) :
    (∃ later delivered, progress = .going later delivered ∧
      Way put later (effects ++ [effect])) ∨
    ∃ result, progress = .finished result ∧ Published put (effects ++ [effect]) result ∧
      (effects ++ [effect]).length ≤ 4 := by
  have size : (effects ++ [effect]).length = effects.length + 1 := List.length_append
  cases Publication.step_moved stepped with
  | admitted ordering turn =>
      cases way with
      | ordering stands quiet moves =>
          rw [alone]
          exact .inl ⟨_, _, rfl, .delivering rfl (quiet.snoc (still rfl)) (by omega)⟩
      | delivering stands | served stands | passed stands => cases stands.symm.trans ordering
  | late ordering taken elapsed =>
      cases way with
      | ordering stands quiet moves =>
          exact .inr ⟨_, rfl, ⟨⟨_, .inl rfl⟩, quiet.snoc (still (Topic.leave_queues _ _))⟩, by omega⟩
      | delivering stands | served stands | passed stands => cases stands.symm.trans ordering
  | closed delivering gone =>
      cases way with
      | delivering stands quiet moves =>
          cases stands.symm.trans delivering
          exact .inl ⟨_, _, rfl, .passed rfl ⟨_, .inr rfl⟩ (quiet.snoc (still rfl)) (by omega)⟩
      | ordering stands | served stands | passed stands => cases stands.symm.trans delivering
  | delivered delivering there room =>
      cases way with
      | delivering stands quiet moves =>
          cases stands.symm.trans delivering
          exact .inl ⟨_, _, rfl, .served rfl (quiet.putOnce (puts rfl)) (by omega)⟩
      | ordering stands | served stands | passed stands => cases stands.symm.trans delivering
  | full delivering there crowded elapsed =>
      cases way with
      | delivering stands quiet moves =>
          cases stands.symm.trans delivering
          exact .inl ⟨_, _, rfl, .passed rfl ⟨_, .inl rfl⟩ (quiet.snoc (still rfl)) (by omega)⟩
      | ordering stands | served stands | passed stands => cases stands.symm.trans delivering
  | concluded delivering =>
      have same := still (Publication.conclude_queues _ _ _ _)
      cases way with
      | served stands once moves =>
          cases stands.symm.trans delivering
          exact .inr ⟨_, rfl, once.snoc same, by omega⟩
      | passed stands loss quiet moves =>
          cases stands.symm.trans delivering
          exact .inr ⟨_, rfl, ⟨loss, quiet.snoc same⟩, by omega⟩
      | ordering stands | delivering stands => cases stands.symm.trans delivering

/-! ### Acting on a payload -/

/-- How acting on a payload ends at once, if it does. -/
def verdictAtOnce? (payload : InboundPayload) (bridge : Bridge) : Option Verdict :=
  match Dispatch.ofPayload payload.data with
  | .error cause => some (.error (.dispatch cause))
  | .ok (.command message) =>
      match bridge.beginCommand message with
      | .ok _ => none
      | .error cause => some (.error (.publish cause))
  | .ok (.batch messages) =>
      match bridge.beginBatch messages with
      | .ok _ => none
      | .error cause => some (.error (.publish cause))
  | .ok (.credentials _) => some (.ok ())

/-- How acting on a payload ends with the consumer's next move, if it does. -/
def verdict? (bridge : Bridge) : Option Verdict :=
  match bridge.consumer with
  | .commanding publication _ =>
      (bridge.stepCommand publication).bind fun (_, progress) =>
        progress.result?.map (·.mapError .publish)
  | .batching publication _ =>
      (bridge.stepBatch publication).bind fun (_, progress) =>
        progress.result?.map (·.mapError .publish)
  | _ => none

/-- The consumer takes up a payload and acts on it until there is a verdict: what its moves did so far,
the verdict, if it is there, and the bridge that this led to. Whatever others do comes in between, but
not the end. -/
inductive Acting (first : Bridge) (payload : InboundPayload) :
    List Effect → Option Verdict → Bridge → Prop where
  | taken {inbound : Topic InboundPayload} {after : Bridge} (listening : first.consumer = .listening)
      (received : first.inbound.receive workerSubscriber = some (payload, inbound))
      (moved : first.stepConsumer = some after) :
      Acting first payload [⟨{ first with inbound }.contents, after.contents⟩]
        ({ first with inbound }.verdictAtOnce? payload) after
  | meanwhile {effects : List Effect} {before after : Bridge} {next : Act}
      (acting : Acting first payload effects none before) (acted : before.act next = some after)
      (other : next ≠ .move .consumer) (going : next ≠ .shutdown) :
      Acting first payload effects none after
  | moved {effects : List Effect} {before after : Bridge}
      (acting : Acting first payload effects none before)
      (moved : before.stepConsumer = some after) :
      Acting first payload (effects ++ [⟨before.contents, after.contents⟩]) before.verdict? after

/-- A message is on its way to its queue, by the consumer's hand, or that has ended. -/
def Handing {Content : Type} (put : Contents → Contents)
    (hand : Publication Content → Nat → Consumer) (message : Content) (effects : List Effect)
    (verdict : Option Verdict) (last : Bridge) : Prop :=
  (verdict = none ∧ ∃ publication hold, last.consumer = hand publication hold ∧
    publication.message = message ∧ Way put publication effects) ∨
  ∃ result : Except PublishError Unit, verdict = some (result.mapError .publish) ∧
    last.consumer = .listening ∧ Published put effects result ∧ effects.length ≤ 4

variable {first before after last : Bridge} {payload : InboundPayload} {verdict : Option Verdict}

/-- A step of the publication by which a message is handed on: the consumer has the next stage of it in
hand, or listens again. -/
theorem Handing.step {Content : Type} {hand : Publication Content → Nat → Consumer}
    {message : Content} {publication : Publication Content} {now : Time}
    {topic topicAfter : Topic Content} {progress : Progress Content} (hold : Nat)
    (way : Way put publication effects) (same : publication.message = message) (effect : Effect)
    (alone : topic.live = [workerSubscriber])
    (stepped : publication.step now topic = some (topicAfter, progress))
    (still : topicAfter.queues = topic.queues → effect.IsQuiet)
    (puts : topicAfter = topic.put workerSubscriber message → effect.left = put effect.found)
    (onward : (∃ later delivered, progress = .going later delivered ∧
        last.consumer = hand later hold) ∨
      ∃ result, progress = .finished result ∧ last.consumer = .listening) :
    Handing put hand message (effects ++ [effect])
      (progress.result?.map (·.mapError .publish)) last := by
  subst same
  have went := way.step effect alone stepped still puts
  obtain ⟨later, delivered, rfl, stands⟩ | ⟨result, rfl, listening⟩ := onward
  · obtain ⟨_, _, goes, way⟩ | ⟨_, ended, -⟩ := went
    · cases goes
      exact .inl ⟨rfl, later, hold, stands, Publication.going_message stepped, way⟩
    · cases ended
  · obtain ⟨_, _, goes, -⟩ | ⟨_, ended, published, few⟩ := went
    · cases goes
    · cases ended
      exact .inr ⟨result, rfl, listening, published, few⟩

theorem Handing.commanding {message : Message} {publication : Publication Message} {hold : Nat}
    (way : Way (Contents.queueCommand message) publication effects)
    (same : publication.message = message) (hand : before.consumer = .commanding publication hold)
    (alone : before.commands.live = [workerSubscriber]) (moved : before.stepConsumer = some after) :
    Handing (Contents.queueCommand message) .commanding message
      (effects ++ [⟨before.contents, after.contents⟩]) before.verdict? after := by
  obtain ⟨commands, progress, stepped, handed, onward⟩ := commanding_invert hand moved
  have verdict : before.verdict? = progress.result?.map (·.mapError .publish) := by
    simp only [verdict?, hand, stepped, Option.bind_some]
  have left : after.contents = { before with commands }.contents := by
    obtain ⟨later, delivered, -, rfl⟩ | ⟨result, -, rfl⟩ := onward <;> rfl
  rw [verdict, left]
  refine Handing.step hold way same _ alone handed (fun still => ?_) (fun placed => ?_) ?_
  · simp only [Effect.IsQuiet, contents, still]
  · rw [placed]
    rfl
  · obtain ⟨later, delivered, goes, rfl⟩ | ⟨result, ended, rfl⟩ := onward
    · exact .inl ⟨later, delivered, goes, rfl⟩
    · exact .inr ⟨result, ended, rfl⟩

theorem Handing.batching {messages : List Message} {publication : Publication (List Message)}
    {hold : Nat} (way : Way (Contents.queueBatch messages) publication effects)
    (same : publication.message = messages) (hand : before.consumer = .batching publication hold)
    (alone : before.batches.live = [workerSubscriber]) (moved : before.stepConsumer = some after) :
    Handing (Contents.queueBatch messages) .batching messages
      (effects ++ [⟨before.contents, after.contents⟩]) before.verdict? after := by
  obtain ⟨batches, progress, stepped, handed, onward⟩ := batching_invert hand moved
  have verdict : before.verdict? = progress.result?.map (·.mapError .publish) := by
    simp only [verdict?, hand, stepped, Option.bind_some]
  have left : after.contents = { before with batches }.contents := by
    obtain ⟨later, delivered, -, rfl⟩ | ⟨result, -, rfl⟩ := onward <;> rfl
  rw [verdict, left]
  refine Handing.step hold way same _ alone handed (fun still => ?_) (fun placed => ?_) ?_
  · simp only [Effect.IsQuiet, contents, still]
  · rw [placed]
    rfl
  · obtain ⟨later, delivered, goes, rfl⟩ | ⟨result, ended, rfl⟩ := onward
    · exact .inl ⟨later, delivered, goes, rfl⟩
    · exact .inr ⟨result, ended, rfl⟩

/-- What acting on a payload did so far, by what the payload demands. -/
def Pursued (effects : List Effect) (verdict : Option Verdict) (last : Bridge) :
    Demand → Prop
  | .nothing => (∃ cause, verdict = some (.error cause)) ∧ AreQuiet effects ∧ effects.length = 1 ∧
      last.consumer = .listening
  | .command content => ∃ fits,
      Handing (Contents.queueCommand ⟨.control, content, fits⟩) .commanding ⟨.control, content, fits⟩
        effects verdict last
  | .body channel content => ∃ messages : List Message,
      (∀ message ∈ messages, message.channel = channel) ∧
      (content ≠ [] → ∀ reassembler : Reassembler,
        reassembler.observe (messages.map fun message => .push message.channel message.payload) =
          Reassembler.arrival messages.length ⟨channel, content, messages.length⟩) ∧
      Handing (Contents.queueBatch messages) .batching messages effects verdict last
  | .credentials record => verdict = some (.ok ()) ∧
      (∃ found, effects = [⟨found, { found with state := record.store found.state }⟩]) ∧
      last.consumer = .listening

/-! ### The first move -/

theorem beginCommand_allowed {message : Message} {bridge : Bridge}
    (allowed : message.isAllowed bridge.device = true) :
    ∃ publication commands deadline, bridge.beginCommand message =
        .ok (publication, { bridge with commands }) ∧
      publication.message = message ∧ publication.stage = .ordering deadline ∧
      commands.queues = bridge.commands.queues := by
  simp only [beginCommand, Publication.begin, allowed, if_true, Except.map]
  exact ⟨_, _, _, rfl, rfl, rfl, Topic.enter_queues _⟩

theorem beginBatch_allowed {messages : List Message} {bridge : Bridge}
    (allowed : Message.areAllowed messages bridge.device = true) :
    ∃ publication batches deadline, bridge.beginBatch messages =
        .ok (publication, { bridge with batches }) ∧
      publication.message = messages ∧ publication.stage = .ordering deadline ∧
      batches.queues = bridge.batches.queues := by
  simp only [beginBatch, Publication.begin, allowed, if_true, Except.map]
  exact ⟨_, _, _, rfl, rfl, rfl, Topic.enter_queues _⟩

theorem beginBatch_refused {messages : List Message} {bridge : Bridge}
    (refused : Message.areAllowed messages bridge.device = false) :
    bridge.beginBatch messages = .error (.rejected bridge.batches.name) := by
  simp [beginBatch, Publication.begin, refused, Except.map]

/-- Frames for the camera are refused while it is not connected, be it the first of them. -/
theorem areAllowed_apart {messages : List Message} {device : Device} (nonempty : messages ≠ [])
    (remote : AreRemote messages) (away : device.isConnected = false) :
    Message.areAllowed messages device = false := by
  obtain ⟨message, rest, rfl⟩ := List.exists_cons_of_ne_nil nonempty
  simp [Message.areAllowed, Message.isAllowed, remote message List.mem_cons_self, away]

theorem areAllowed_connected {messages : List Message} {device : Device} (nonempty : messages ≠ [])
    (there : device.isConnected = true) : Message.areAllowed messages device = true := by
  simp [Message.areAllowed, Message.isAllowed, nonempty, there]

theorem consume_pursued {demand : Demand} {bridge : Bridge}
    (demands : Demands payload.data bridge.device.isConnected demand) :
    Pursued [⟨bridge.contents, (bridge.consume payload).contents⟩]
      (bridge.verdictAtOnce? payload) (bridge.consume payload) demand := by
  have made := demands.made
  have quiet : ∀ {effect : Effect}, effect.IsQuiet → AreQuiet [effect] := by
    intro effect still other member
    rw [List.mem_singleton.mp member]
    exact still
  cases demand with
  | nothing =>
      obtain ⟨cause, made⟩ | ⟨away, messages, made, remote, nonempty⟩ := made
      · simp only [consume, verdictAtOnce?, made]
        exact ⟨⟨_, rfl⟩, quiet rfl, rfl, rfl⟩
      · simp only [consume, verdictAtOnce?, made,
          beginBatch_refused (areAllowed_apart nonempty remote away)]
        exact ⟨⟨_, rfl⟩, quiet rfl, rfl, rfl⟩
  | command content =>
      obtain ⟨fits, made⟩ := made
      obtain ⟨publication, commands, deadline, begun, message, ordering, same⟩ :=
        @beginCommand_allowed ⟨.control, content, fits⟩ bridge rfl
      simp only [consume, verdictAtOnce?, made, begun]
      refine ⟨fits, .inl ⟨rfl, publication, payload.hold, rfl, message, ?_⟩⟩
      exact .ordering ordering (quiet (by simp only [Effect.IsQuiet, contents, same])) rfl
  | body channel content =>
      obtain ⟨there, messages, made, nonempty, onChannel, whole⟩ := made
      obtain ⟨publication, batches, deadline, begun, message, ordering, same⟩ :=
        @beginBatch_allowed messages bridge (areAllowed_connected nonempty there)
      simp only [consume, verdictAtOnce?, made, begun]
      refine ⟨messages, onChannel, whole,
        .inl ⟨rfl, publication, payload.hold, rfl, message, ?_⟩⟩
      exact .ordering ordering (quiet (by simp only [Effect.IsQuiet, contents, same])) rfl
  | credentials record =>
      have made : Dispatch.ofPayload payload.data = .ok (.credentials record) := made
      simp only [consume, verdictAtOnce?, made]
      exact ⟨rfl, ⟨bridge.contents, by simp [finishPayload, contents]⟩, rfl⟩

/-! ### Until the verdict -/

theorem Handing.kept {Content : Type} {hand : Publication Content → Nat → Consumer}
    {message : Content} (handing : Handing put hand message effects none before)
    (same : after.consumer = before.consumer) : Handing put hand message effects none after := by
  obtain ⟨-, publication, hold, stands, way⟩ | ⟨result, ended, -⟩ := handing
  · exact .inl ⟨rfl, publication, hold, same.trans stands, way⟩
  · cases ended

/-- The consumer goes on with the publication it has in hand, whatever the others did meanwhile. -/
theorem Pursued.kept {demand : Demand} (pursued : Pursued effects none before demand)
    (same : after.consumer = before.consumer) : Pursued effects none after demand := by
  cases demand with
  | nothing =>
      obtain ⟨⟨cause, ended⟩, -⟩ := pursued
      cases ended
  | command content =>
      obtain ⟨fits, handing⟩ := pursued
      exact ⟨fits, handing.kept same⟩
  | body channel content =>
      obtain ⟨messages, onChannel, whole, handing⟩ := pursued
      exact ⟨messages, onChannel, whole, handing.kept same⟩
  | credentials record =>
      obtain ⟨ended, -⟩ := pursued
      cases ended

theorem Pursued.moved {demand : Demand} (pursued : Pursued effects none before demand)
    (staffed : before.Staffed) (moved : before.stepConsumer = some after) :
    Pursued (effects ++ [⟨before.contents, after.contents⟩]) before.verdict? after demand := by
  cases demand with
  | nothing =>
      obtain ⟨⟨cause, ended⟩, -⟩ := pursued
      cases ended
  | command content =>
      obtain ⟨fits, ⟨-, publication, hold, hand, same, way⟩ | ⟨result, ended, -⟩⟩ := pursued
      · exact ⟨fits, Handing.commanding way same hand staffed.commands.only moved⟩
      · cases ended
  | body channel content =>
      obtain ⟨messages, onChannel, whole,
        ⟨-, publication, hold, hand, same, way⟩ | ⟨result, ended, -⟩⟩ := pursued
      · exact ⟨messages, onChannel, whole,
          Handing.batching way same hand staffed.batches.only moved⟩
      · cases ended
  | credentials record =>
      obtain ⟨ended, -⟩ := pursued
      cases ended

theorem act_consumer {next : Act} (acted : before.act next = some after)
    (other : next ≠ .move .consumer) (going : next ≠ .shutdown) :
    after.consumer = before.consumer := by
  by_cases receives : next = .move .intake
  · subst receives
    obtain ⟨hostLink, receiver, inbound, intake, rfl⟩ := stepIntake_footprint acted
    rfl
  · exact congrArg HostDesk.consumer (act_hostDesk acted receives other going)

theorem Acting.staffed (acting : Acting first payload effects verdict last)
    (staffed : first.Staffed) : last.Staffed := by
  induction acting with
  | taken _ _ moved => exact staffed.stepConsumer moved
  | meanwhile _ acted _ going ih => exact ih.act acted going
  | moved _ moved ih => exact ih.stepConsumer moved

theorem Acting.pursued {demand : Demand} (staffed : first.Staffed)
    (demands : Demands payload.data first.device.isConnected demand)
    (acting : Acting first payload effects verdict last) :
    Pursued effects verdict last demand := by
  induction acting with
  | @taken inbound after listening received moved =>
      obtain ⟨taken, left, again, consumed⟩ := listening_invert listening moved
      obtain ⟨rfl, rfl⟩ := Prod.mk.inj (Option.some.inj (received.symm.trans again))
      rw [← consumed]
      exact @consume_pursued payload demand { first with inbound } demands
  | meanwhile acting acted other going ih => exact ih.kept (act_consumer acted other going)
  | moved acting moved ih => exact ih.moved (acting.staffed staffed) moved

/-! ### What comes of a payload -/

/-- What publishing something comes to: it is queued exactly once, or not at all and for a reason that
the topic gives. -/
def Posted (put : Contents → Contents) (effects : List Effect) : Option Verdict → Prop
  | none => AreQuiet effects ∨ PutOnce put effects
  | some (.ok ()) => PutOnce put effects
  | some (.error cause) => AreQuiet effects ∧ ∃ loss : PublishError, loss.IsLoss ∧ cause = .publish loss

/-- What has to come of a demand. -/
def Met (effects : List Effect) (verdict : Option Verdict) : Demand → Prop
  | .nothing => AreQuiet effects ∧ ∃ cause, verdict = some (.error cause)
  | .command content => ∃ message : Message, message.channel = .control ∧ message.payload = content ∧
      Posted (Contents.queueCommand message) effects verdict
  | .body channel content => ∃ messages : List Message,
      (∀ message ∈ messages, message.channel = channel) ∧
      (content ≠ [] → ∀ reassembler : Reassembler,
        reassembler.observe (messages.map fun message => .push message.channel message.payload) =
          Reassembler.arrival messages.length ⟨channel, content, messages.length⟩) ∧
      Posted (Contents.queueBatch messages) effects verdict
  | .credentials record => (∃ found : Contents, effects = [⟨found, { found with
        state := { found.state with
          wifiSsid := some record.ssid, wifiPassword := some record.password } }⟩]) ∧
      verdict = some (.ok ())

theorem Handing.posted {Content : Type} {hand : Publication Content → Nat → Consumer}
    {message : Content} (handing : Handing put hand message effects verdict last) :
    Posted put effects verdict := by
  obtain ⟨rfl, publication, hold, -, -, way⟩ | ⟨result, rfl, -, published, -⟩ := handing
  · cases way with
    | ordering _ quiet | delivering _ quiet | passed _ _ quiet => exact .inl quiet
    | served _ once => exact .inr once
  · cases result with
    | ok done => exact published
    | error cause => exact ⟨published.2, cause, published.1, rfl⟩

theorem Way.few {Content : Type} {publication : Publication Content}
    (way : Way put publication effects) : effects.length ≤ 3 := by
  cases way <;> omega

/-- The consumer listens again when there is a verdict. It has one after four moves at the latest, none
of which waits longer than the publication has patience. -/
def Ends (effects : List Effect) (verdict : Option Verdict) (last : Bridge) : Prop :=
  effects.length ≤ 4 ∧ (verdict.isSome = true ↔ last.consumer = .listening) ∧
    (verdict = none → effects.length ≤ 3 ∧
      ∃ span, ({ last with now := last.now + span }.stepConsumer).isSome = true)

theorem Ends.ended {result : Verdict} (few : effects.length ≤ 4)
    (listening : last.consumer = .listening) : Ends effects (some result) last :=
  ⟨few, ⟨fun _ => listening, fun _ => rfl⟩, fun undecided => by cases undecided⟩

theorem Handing.ends {Content : Type} {hand : Publication Content → Nat → Consumer}
    {message : Content} (handing : Handing put hand message effects verdict last)
    (busy : ∀ publication hold, hand publication hold ≠ .listening)
    (able : ∀ {bridge : Bridge} {publication hold}, bridge.consumer = hand publication hold →
      publication.deadline ≤ bridge.now → bridge.stepConsumer.isSome = true) :
    Ends effects verdict last := by
  obtain ⟨rfl, publication, hold, stands, -, way⟩ | ⟨result, rfl, listening, -, few⟩ := handing
  · have moves := @able { last with now := last.now + publication.deadline } publication hold stands
      (Nat.le_add_left _ _)
    refine ⟨Nat.le_succ_of_le way.few, ?_, fun _ => ⟨way.few, _, moves⟩⟩
    simp only [Option.isSome_none, Bool.false_eq_true, stands, busy publication hold]
  · exact .ended few listening

theorem Pursued.ends {demand : Demand} (pursued : Pursued effects verdict last demand) :
    Ends effects verdict last := by
  cases demand with
  | nothing =>
      obtain ⟨⟨cause, rfl⟩, -, once, listening⟩ := pursued
      exact .ended (by omega) listening
  | credentials record =>
      obtain ⟨rfl, ⟨found, rfl⟩, listening⟩ := pursued
      exact .ended (by simp) listening
  | command content =>
      obtain ⟨fits, handing⟩ := pursued
      exact handing.ends (fun _ _ => by simp) commanding_able
  | body channel content =>
      obtain ⟨messages, -, -, handing⟩ := pursued
      exact handing.ends (fun _ _ => by simp) batching_able

theorem Pursued.met {demand : Demand}
    (pursued : Pursued effects verdict last demand) : Met effects verdict demand := by
  cases demand with
  | nothing => exact ⟨pursued.2.1, pursued.1⟩
  | command content =>
      obtain ⟨fits, handing⟩ := pursued
      exact ⟨_, rfl, rfl, handing.posted⟩
  | body channel content =>
      obtain ⟨messages, onChannel, whole, handing⟩ := pursued
      exact ⟨messages, onChannel, whole, handing.posted⟩
  | credentials record => exact ⟨pursued.2.1, pursued.1⟩

/-- Every payload demands one thing, by its bytes and the connection at the moment it is taken up, and
that is what comes of it, whatever others do meanwhile. -/
theorem host_payload_dispatch (staffed : first.Staffed)
    (acting : Acting first payload effects verdict last) :
    (∃! demand, Demands payload.data first.device.isConnected demand) ∧
    (∀ demand, Demands payload.data first.device.isConnected demand → Met effects verdict demand) ∧
    effects.length ≤ 4 ∧ (verdict.isSome = true ↔ last.consumer = .listening) ∧
    (verdict = none → effects.length ≤ 3 ∧
      ∃ span, ({ last with now := last.now + span }.stepConsumer).isSome = true) := by
  obtain ⟨demand, demands⟩ := Demands.exists payload.data first.device.isConnected
  refine ⟨⟨demand, demands, fun other also => also.unique demands⟩, ?_,
    (acting.pursued staffed demands).ends⟩
  exact fun other also => (acting.pursued staffed also).met

/-- Three bytes for the settings of a camera that is connected, already received. -/
def settingsPayload : InboundPayload := ⟨(Envelope.toChannel .settings [3, 91, 1]).toBytes, 0⟩

def settingsReceived : Bridge :=
  let bridge := start {} 8 { connectivity := .connected } {}
  { bridge with inbound := bridge.inbound.put workerSubscriber settingsPayload }

theorem settingsReceived_taken :
    (settingsReceived.inbound.receive workerSubscriber).map (fun (payload, inbound) =>
        (payload, ({ settingsReceived with inbound }.verdictAtOnce? payload).isNone)) =
      some (settingsPayload, true) := by
  decide +kernel

theorem settingsReceived_staffed : settingsReceived.Staffed :=
  let staffed := Staffed.start {} 8 { connectivity := .connected } {}
  ⟨staffed.commands, staffed.batches⟩

theorem settingsReceived_moves :
    (settingsReceived.stepConsumer.bind fun one => one.stepConsumer.bind fun two =>
        two.stepConsumer.bind fun three => three.stepConsumer.map fun _ =>
          [one, two, three].map fun bridge => bridge.verdict?.map Except.isOk) =
      some [none, none, some true] := by
  decide +kernel

/-- One message with all of them is queued, and then the consumer listens again. -/
theorem host_payload_dispatch_to_settings : ∃ effects last,
    Acting settingsReceived settingsPayload effects (some (.ok ())) last ∧
      effects.length = 4 ∧ last.consumer = .listening ∧
      ∀ demand, Demands settingsPayload.data true demand → Met effects (some (.ok ())) demand := by
  obtain ⟨⟨payload, inbound⟩, received, taken⟩ := Option.map_eq_some_iff.mp settingsReceived_taken
  obtain ⟨rfl, undecided⟩ := Prod.mk.inj taken
  obtain ⟨one, first, rest⟩ := Option.bind_eq_some_iff.mp settingsReceived_moves
  obtain ⟨two, second, rest⟩ := Option.bind_eq_some_iff.mp rest
  obtain ⟨three, third, rest⟩ := Option.bind_eq_some_iff.mp rest
  obtain ⟨last, fourth, seen⟩ := Option.map_eq_some_iff.mp rest
  simp only [List.map_cons, List.map_nil, List.cons.injEq, and_true,
    Option.map_eq_none_iff, Option.map_eq_some_iff] at seen
  obtain ⟨waits, goesOn, ⟨verdict, ended, ok⟩⟩ := seen
  have done : three.verdict? = some (.ok ()) := by
    cases verdict with
    | error cause => cases ok
    | ok finished => exact ended
  have acting := Acting.taken rfl received first
  rw [Option.isNone_iff_eq_none.mp undecided] at acting
  have acting := acting.moved second
  rw [waits] at acting
  have acting := acting.moved third
  rw [goesOn] at acting
  have acting := acting.moved fourth
  rw [done] at acting
  obtain ⟨-, met, -, listens, -⟩ := host_payload_dispatch settingsReceived_staffed acting
  exact ⟨_, last, acting, rfl, listens.mp rfl, met⟩

end Bridge

end CameraBridge
