import CameraBridge.Proofs.Bridge.Queues
import CameraBridge.Proofs.Bridge.ReplyPermit
import CameraBridge.Proofs.Reassembly.Observation
import CameraBridge.Proofs.Topic.Serving

namespace CameraBridge

/-! What the listener does with the camera's notifications. It takes them up one at a time, answers
those that start a message on the bus first, and then gives each to the reassembler. -/

open Reassembler (Input)

/-- What an event means for the body that is gathered. -/
def CameraEvent.input? : CameraEvent → Option Input
  | .notification channel data => some (.push channel data)
  | .disconnected => some .reset
  | _ => none

namespace Bridge

variable {before after bridge : Bridge} {channel : Channel} {data : Bytes}

/-- All that looking into a notification depends on. -/
structure LookDesk where
  now : Time
  timing : Timing
  device : Device
  permits : ReplyPermits
  outbound : Topic OutboundReply
  reassembler : Reassembler

def lookDesk (bridge : Bridge) : LookDesk :=
  ⟨bridge.now, bridge.timing, bridge.device, bridge.permits, bridge.outbound, bridge.reassembler⟩

def isListening (bridge : Bridge) : Bool :=
  match bridge.listener with
  | .listening _ => true
  | _ => false

theorem listener_of_listening (listens : bridge.isListening = true) :
    ∃ silence, bridge.listener = .listening silence := by
  unfold isListening at listens
  split at listens
  · next silence listening => exact ⟨silence, listening⟩
  · cases listens

/-- What looking into a notification leads to. -/
inductive Looked (desk : LookDesk) (channel : Channel) (data : Bytes) (after : Bridge) : Prop where
  | incomplete (nothing : ∀ assembled,
        (desk.reassembler.push channel data).2 ≠ .ok (some assembled))
      (reassembler : after.reassembler = (desk.reassembler.push channel data).1)
      (outbound : after.outbound = desk.outbound) (listens : after.isListening = true)
  /-- The body stays with the bridge: it is small, or the permit for large replies is out. -/
  | kept (assembled : Assembled)
      (complete : (desk.reassembler.push channel data).2 = .ok (some assembled))
      (small : assembled.isLarge data = true → desk.permits.available = false)
      (reassembler : after.reassembler = (desk.reassembler.push channel data).1)
      (device : after.device = (Demuxed.ofReply assembled desk.device).2)
      (outbound : after.outbound = desk.outbound) (listens : after.isListening = true)
  | handed (assembled : Assembled) (publication : Publication OutboundReply) (grant : Nat)
      (complete : (desk.reassembler.push channel data).2 = .ok (some assembled))
      (large : assembled.isLarge data = true) (available : desk.permits.available = true)
      (reassembler : after.reassembler = (desk.reassembler.push channel data).1)
      (device : after.device = (Demuxed.ofReply assembled desk.device).2)
      (started : Publication.start desk.now desk.timing.publishTimeout
          ⟨(Envelope.toChannel channel assembled.body).toBytes, grant⟩ desk.outbound =
        (publication, after.outbound))
      (replying : after.listener = .replying publication)

theorem permits_of_refused {body : Bytes} {cause : ReplyError}
    (refused : bridge.beginOutbound channel body = .error cause) :
    bridge.permits.available = false := by
  unfold beginOutbound at refused
  split at refused
  · next none =>
      simpa [ReplyPermits.acquire] using none
  · cases refused

theorem gatherNotification_looked (channel : Channel) (data : Bytes) (bridge : Bridge) :
    Looked bridge.lookDesk channel data (bridge.gatherNotification channel data) ∧
      (bridge.gatherNotification channel data).replies = bridge.replies := by
  unfold gatherNotification
  cases pushed : bridge.reassembler.push channel data with
  | mk reassembler outcome =>
      have next : (bridge.reassembler.push channel data).1 = reassembler := by rw [pushed]
      have led : (bridge.reassembler.push channel data).2 = outcome := by rw [pushed]
      simp only
      split
      · next assembled =>
          unfold forwardBody
          split
          · next large =>
              split
              · next publication forwarded begun =>
                  obtain ⟨grant, permits, outbound, acquired, started, rfl⟩ :=
                    beginOutbound_invert begun
                  exact ⟨.handed assembled publication grant led large
                    (ReplyPermits.acquire_out acquired).1
                    next.symm rfl started rfl, rfl⟩
              · next cause begun =>
                  have busy := permits_of_refused begun
                  exact ⟨.kept assembled led (fun _ => busy) next.symm rfl rfl rfl, rfl⟩
          · next small =>
              exact ⟨.kept assembled led (fun large => absurd large small) next.symm rfl rfl rfl, rfl⟩
      · next other =>
          refine ⟨.incomplete ?_ next.symm rfl rfl, rfl⟩
          intro assembled complete
          exact other assembled (led.symm.trans complete)

/-! ### Moves of the listener -/

/-- Silence makes the bridge forget the camera. -/
def forgets (bridge : Bridge) : Bool :=
  !decide (bridge.device.connectivity = .connected ∨ bridge.device.connectivity = .unknown)

/-- What the listener takes up in its next move. -/
def nextInput? (bridge : Bridge) : Option Input :=
  match bridge.listener, bridge.camera.events.unread with
  | .listening _, event :: _ => event.input?
  | .listening _, [] => if bridge.forgets then some .reset else none
  | _, _ => none

/-- All that a move of the listener can be, by what it takes up. -/
inductive ListenerTurn (before after : Bridge) : Option Input → Prop where
  | aside (listened : before.isListening = true) (reassembler : after.reassembler = before.reassembler)
      (replies : after.replies = before.replies) (outbound : after.outbound = before.outbound)
      (listens : after.isListening = true) : ListenerTurn before after none
  | reset (listened : before.isListening = true) (reassembler : after.reassembler = .idle)
      (replies : after.replies = before.replies) (outbound : after.outbound = before.outbound)
      (listens : after.isListening = true) : ListenerTurn before after (some .reset)
  | answering (channel : Channel) (data : Bytes) (message : Message)
      (publication : Publication Message) (listened : before.isListening = true)
      (asked : forwarded? channel data = some message)
      (started : Publication.start before.now before.timing.publishTimeout message before.replies =
        (publication, after.replies))
      (reassembler : after.reassembler = before.reassembler)
      (outbound : after.outbound = before.outbound)
      (is : after.listener = .forwarding channel data publication) :
      ListenerTurn before after (some (.push channel data))
  | looking (channel : Channel) (data : Bytes) (listened : before.isListening = true)
      (unasked : forwarded? channel data = none) (replies : after.replies = before.replies)
      (looked : Looked before.lookDesk channel data after) :
      ListenerTurn before after (some (.push channel data))
  | forwarding (channel : Channel) (data : Bytes) (publication later : Publication Message)
      (delivered : Bool) (was : before.listener = .forwarding channel data publication)
      (stepped : publication.step before.now before.replies =
        some (after.replies, .going later delivered))
      (reassembler : after.reassembler = before.reassembler)
      (outbound : after.outbound = before.outbound)
      (is : after.listener = .forwarding channel data later) : ListenerTurn before after none
  | forwarded (channel : Channel) (data : Bytes) (publication : Publication Message)
      (result : Except PublishError Unit)
      (was : before.listener = .forwarding channel data publication)
      (stepped : publication.step before.now before.replies = some (after.replies, .finished result))
      (looked : Looked before.lookDesk channel data after) : ListenerTurn before after none
  | replying (publication later : Publication OutboundReply) (delivered : Bool)
      (was : before.listener = .replying publication)
      (stepped : publication.step before.now before.outbound =
        some (after.outbound, .going later delivered))
      (reassembler : after.reassembler = before.reassembler)
      (replies : after.replies = before.replies)
      (is : after.listener = .replying later) : ListenerTurn before after none
  | replied (publication : Publication OutboundReply) (result : Except PublishError Unit)
      (was : before.listener = .replying publication)
      (stepped : publication.step before.now before.outbound =
        some (after.outbound, .finished result))
      (reassembler : after.reassembler = before.reassembler)
      (replies : after.replies = before.replies) (listens : after.isListening = true) :
      ListenerTurn before after none

theorem stepReply_invert {publication : Publication Message} {progress : Progress Message}
    (stepped : bridge.stepReply publication = some (after, progress)) :
    ∃ replies, publication.step bridge.now bridge.replies = some (replies, progress) ∧
      after = { bridge with replies } := by
  simp only [stepReply, Option.map_eq_some_iff, Prod.exists, Prod.mk.injEq] at stepped
  obtain ⟨replies, same, stepped, rfl, rfl⟩ := stepped
  exact ⟨replies, stepped, rfl⟩

theorem onEvent_turn (event : CameraEvent) (rest : List CameraEvent)
    (listened : bridge.isListening = true) :
    let taken := { bridge with
      camera := { bridge.camera with events := { bridge.camera.events with unread := rest } } }
    ListenerTurn bridge (taken.onEvent event) event.input? := by
  intro taken
  cases event with
  | advertisement status name => cases name <;> exact .aside listened rfl rfl rfl rfl
  | connected =>
      obtain ⟨commands, startup, same, -⟩ := scheduleStartup_footprint (taken.applyEvent .connected)
      rw [onEvent, same]
      exact .aside listened rfl rfl rfl rfl
  | subscribed | unsubscribed | writeComplete | authFailed => exact .aside listened rfl rfl rfl rfl
  | disconnected =>
      obtain ⟨commands, startup, same, -⟩ := cancelStartup_footprint (taken.applyEvent .disconnected)
      rw [onEvent, same]
      exact .reset listened rfl rfl rfl rfl
  | notification channel data =>
      rw [onEvent, onNotification]
      split
      · next message asked =>
          exact .answering channel data message _ listened asked rfl rfl rfl rfl
      · next unasked =>
          obtain ⟨looked, replies⟩ := gatherNotification_looked channel data taken
          exact .looking channel data listened unasked replies looked

theorem onSilence_turn (listened : bridge.isListening = true) :
    ListenerTurn bridge bridge.onSilence (if bridge.forgets then some .reset else none) := by
  unfold onSilence forgets
  split
  · next kept =>
      simp only [kept, decide_true, Bool.not_true, Bool.false_eq_true, if_false]
      exact .aside listened rfl rfl rfl rfl
  · next gone =>
      simp only [gone, decide_false, Bool.not_false, if_true]
      exact .reset listened rfl rfl rfl rfl

theorem stepListener_turn (moved : before.stepListener = some after) :
    ListenerTurn before after before.nextInput? := by
  unfold stepListener at moved
  split at moved
  · next silence listening =>
      have listened : before.isListening = true := by rw [isListening, listening]
      split at moved
      · next event rest unread =>
          cases moved
          have next : before.nextInput? = event.input? := by simp only [nextInput?, listening, unread]
          rw [next]
          exact onEvent_turn event rest listened
      · next unread =>
          have next : before.nextInput? = if before.forgets then some .reset else none := by
            simp only [nextInput?, listening, unread]
          rw [next]
          split at moved
          · simp only [Option.ite_none_left_eq_some, Option.some.injEq] at moved
            obtain ⟨-, rfl⟩ := moved
            exact onSilence_turn listened
          · cases moved
  · next channel data publication forwarding =>
      have next : before.nextInput? = none := by simp only [nextInput?, forwarding]
      rw [next]
      split at moved
      · cases moved
      · next stepped =>
          cases moved
          obtain ⟨replies, published, rfl⟩ := stepReply_invert stepped
          exact .forwarding channel data publication _ _ forwarding published rfl rfl rfl
      · next stepped =>
          cases moved
          obtain ⟨replies, published, rfl⟩ := stepReply_invert stepped
          obtain ⟨looked, same⟩ := gatherNotification_looked channel data { before with replies }
          exact .forwarded channel data publication _ forwarding
            (by rw [same]; exact published) looked
  · next publication replying =>
      have next : before.nextInput? = none := by simp only [nextInput?, replying]
      rw [next]
      split at moved
      · cases moved
      · next stepped =>
          cases moved
          obtain ⟨outbound, published, rfl⟩ := stepOutbound_invert stepped
          exact .replying publication _ _ replying published rfl rfl rfl
      · next stepped =>
          cases moved
          obtain ⟨outbound, published, rfl⟩ := stepOutbound_invert stepped
          exact .replied publication _ replying published rfl rfl rfl
  · cases moved

/-! ### What is seen of it -/

/-- The notification that a move looks into. -/
def lookedInto? (before after : Bridge) : Option (Channel × Bytes) :=
  match before.listener, before.nextInput? with
  | .listening _, some (.push channel data) =>
      if (forwarded? channel data).isNone then some (channel, data) else none
  | .forwarding channel data _, _ =>
      match after.listener with
      | .forwarding .. => none
      | _ => some (channel, data)
  | _, _ => none

/-- A move completes a body. -/
def completes (before after : Bridge) : Bool :=
  (before.lookedInto? after).any fun (channel, data) =>
    match (before.reassembler.push channel data).2 with
    | .ok (some _) => true
    | _ => false

/-- The publication of the listener has to wait. -/
def listenerWaits (bridge : Bridge) : Bool :=
  match bridge.listener with
  | .forwarding _ _ publication => publication.waits bridge.replies
  | .replying publication => publication.waits bridge.outbound
  | _ => false

def mapperWaits (bridge : Bridge) : Bool :=
  match bridge.mapper with
  | .publishing publication => publication.waits bridge.canFrames
  | _ => false

/-- What is seen of the way from the camera to the host in one move. -/
structure Glance where
  /-- What the listener takes up. -/
  input : Option Input := none
  /-- A large reply that the listener begins to publish. -/
  handed : Option OutboundReply := none
  /-- A large reply of the listener that comes to the queue for the host. -/
  queued : Option OutboundReply := none
  /-- A frame of the mapper that comes to the queue for the bus. -/
  framed : Option CanFrame := none
  /-- A body is completed while the permit for large replies is out. -/
  busy : Bool := false
  /-- A publication moves although it has to wait: its time is over. -/
  late : Bool := false
  deriving DecidableEq

def glance? (next : Act) (before after : Bridge) : Option Glance :=
  match next with
  | .move .listener =>
      some
        { input := before.nextInput?
          handed :=
            match before.listener.reply? with
            | none => after.listener.reply?.map Publication.message
            | some _ => none
          queued :=
            arrival? (before.outbound.items workerSubscriber) (after.outbound.items workerSubscriber)
          busy := before.completes after && !before.permits.available
          late := before.listenerWaits }
  | .move .mapper =>
      some
        { framed :=
            arrival? (before.canFrames.items workerSubscriber)
              (after.canFrames.items workerSubscriber)
          late := before.mapperWaits }
  | _ => none

/-- All that the listener took up, notifications and what made it begin anew, in order. -/
def inputs (glances : List Glance) : List Input := glances.filterMap Glance.input

/-- The reassembler has what the listener took up, but for the notification that it forwards. -/
inductive Recorded (first : Reassembler) (heard : List Input) (bridge : Bridge) : Prop where
  | looked (settled : ∀ channel data publication,
        bridge.listener ≠ .forwarding channel data publication)
      (reassembler : bridge.reassembler = first.run heard)
  | pending (channel : Channel) (data : Bytes) (publication : Publication Message)
      (earlier : List Input) (is : bridge.listener = .forwarding channel data publication)
      (last : heard = earlier ++ [.push channel data])
      (reassembler : bridge.reassembler = first.run earlier)
  | stopped (is : bridge.listener = .stopped)

variable {first : Reassembler} {heard : List Input}

theorem Recorded.kept (recorded : Recorded first heard before)
    (listener : after.listener = before.listener)
    (reassembler : after.reassembler = before.reassembler) : Recorded first heard after := by
  cases recorded with
  | looked settled gathered =>
      exact .looked (fun channel data publication => listener ▸ settled channel data publication)
        (reassembler.trans gathered)
  | pending channel data publication earlier is last gathered =>
      exact .pending channel data publication earlier (listener.trans is) last
        (reassembler.trans gathered)
  | stopped is => exact .stopped (listener.trans is)

theorem Recorded.of_listening (listens : bridge.isListening = true)
    (reassembler : bridge.reassembler = first.run heard) : Recorded first heard bridge := by
  refine .looked ?_ reassembler
  intro channel data publication forwarding
  rw [isListening, forwarding] at listens
  cases listens

theorem Recorded.of_looked (looked : Looked before.lookDesk channel data after)
    {earlier : List Input} (last : heard = earlier ++ [.push channel data])
    (reassembler : before.reassembler = first.run earlier) : Recorded first heard after := by
  have pushed : (before.lookDesk.reassembler.push channel data).1 = first.run heard := by
    rw [last, Reassembler.run_append, ← reassembler]
    rfl
  cases looked with
  | incomplete nothing gathered outbound listens => exact .of_listening listens (gathered.trans pushed)
  | kept assembled complete small gathered device outbound listens =>
      exact .of_listening listens (gathered.trans pushed)
  | handed assembled publication grant complete large available gathered device started replying =>
      refine .looked ?_ (gathered.trans pushed)
      intro channel data publication forwarding
      rw [replying] at forwarding
      cases forwarding

theorem Recorded.listening (recorded : Recorded first heard bridge)
    (listened : bridge.isListening = true) : bridge.reassembler = first.run heard := by
  cases recorded with
  | looked settled reassembler => exact reassembler
  | pending channel data publication earlier is => simp [isListening, is] at listened
  | stopped is => simp [isListening, is] at listened

theorem Recorded.replying (recorded : Recorded first heard bridge)
    {publication : Publication OutboundReply} (was : bridge.listener = .replying publication) :
    bridge.reassembler = first.run heard := by
  cases recorded with
  | looked settled reassembler => exact reassembler
  | pending channel data publication earlier is => cases is.symm.trans was
  | stopped is => cases is.symm.trans was

theorem Recorded.forwarding (recorded : Recorded first heard bridge)
    {publication : Publication Message}
    (was : bridge.listener = .forwarding channel data publication) :
    ∃ earlier, heard = earlier ++ [.push channel data] ∧
      bridge.reassembler = first.run earlier := by
  cases recorded with
  | looked settled => exact absurd was (settled channel data publication)
  | pending other bytes pending earlier is last reassembler =>
      cases is.symm.trans was
      exact ⟨earlier, last, reassembler⟩
  | stopped is => cases is.symm.trans was

/-- What is looked into is the last thing that was taken up, after all that the reassembler has. -/
theorem ListenerTurn.recorded {input : Option Input} (turn : ListenerTurn before after input)
    (recorded : Recorded first heard before) :
    Recorded first (heard ++ input.toList) after := by
  cases turn with
  | aside listened reassembler replies outbound listens =>
      refine .of_listening listens ?_
      rw [reassembler, recorded.listening listened, Option.toList_none, List.append_nil]
  | reset listened reassembler replies outbound listens =>
      refine .of_listening listens ?_
      rw [reassembler, Option.toList_some, Reassembler.run_append]
      rfl
  | answering channel data message publication listened asked started reassembler outbound is =>
      exact .pending channel data publication heard is rfl
        (reassembler.trans (recorded.listening listened))
  | looking channel data listened unasked replies looked =>
      exact .of_looked looked rfl (recorded.listening listened)
  | forwarding channel data publication later delivered was stepped reassembler outbound is =>
      obtain ⟨earlier, last, gathered⟩ := recorded.forwarding was
      refine .pending channel data later earlier is ?_ (reassembler.trans gathered)
      rw [Option.toList_none, List.append_nil, last]
  | forwarded channel data publication result was stepped looked =>
      obtain ⟨earlier, last, gathered⟩ := recorded.forwarding was
      refine .of_looked looked ?_ gathered
      rw [Option.toList_none, List.append_nil, last]
  | replying publication later delivered was stepped reassembler replies is =>
      refine .looked (fun channel data publication => is ▸ nofun) ?_
      rw [reassembler, recorded.replying was, Option.toList_none, List.append_nil]
  | replied publication result was stepped reassembler replies listens =>
      refine .of_listening listens ?_
      rw [reassembler, recorded.replying was, Option.toList_none, List.append_nil]

/-! ### Acts of others -/

/-- Only the listener gathers. -/
theorem step_gathering {task : Task} (moved : before.step task = some after)
    (other : task ≠ .listener) :
    after.listener = before.listener ∧ after.reassembler = before.reassembler := by
  cases task with
  | listener => exact absurd rfl other
  | writer =>
      obtain ⟨_, _, _, _, _, _, _, rfl⟩ := stepWriter_footprint moved
      exact ⟨rfl, rfl⟩
  | ingress =>
      obtain ⟨_, _, _, _, rfl, -⟩ := stepIngress_footprint moved
      exact ⟨rfl, rfl⟩
  | mapper =>
      obtain ⟨_, _, _, rfl⟩ := stepMapper_footprint moved
      exact ⟨rfl, rfl⟩
  | heartbeat =>
      obtain ⟨_, _, rfl⟩ := stepHeartbeat_footprint moved
      exact ⟨rfl, rfl⟩
  | egress =>
      obtain ⟨_, _, _, rfl⟩ := stepEgress_footprint moved
      exact ⟨rfl, rfl⟩
  | intake =>
      obtain ⟨_, _, _, _, rfl⟩ := stepIntake_footprint moved
      exact ⟨rfl, rfl⟩
  | consumer =>
      obtain ⟨_, _, _, _, _, _, rfl, -⟩ := stepConsumer_footprint moved
      exact ⟨rfl, rfl⟩
  | transmitter =>
      obtain ⟨_, _, _, _, rfl⟩ := stepTransmitter_footprint moved
      exact ⟨rfl, rfl⟩
  | startup =>
      obtain ⟨_, _, rfl, -⟩ := stepStartup_footprint moved
      exact ⟨rfl, rfl⟩
  | call number =>
      obtain ⟨_, _, _, _, _, rfl, -⟩ := stepCall_footprint moved
      exact ⟨rfl, rfl⟩

theorem act_gathering {next : Act} (acted : before.act next = some after)
    (other : next ≠ .move .listener) (going : next ≠ .shutdown) :
    after.listener = before.listener ∧ after.reassembler = before.reassembler := by
  cases next with
  | move task => exact step_gathering acted fun same => other (same ▸ rfl)
  | shutdown => exact absurd rfl going
  | submit message =>
      cases acted
      obtain ⟨_, _, same, -⟩ := submit_footprint message before
      rw [same]
      exact ⟨rfl, rfl⟩
  | sendLargeReply channel body =>
      cases acted
      obtain ⟨_, _, _, same⟩ := sendLargeReply_footprint channel body before
      rw [same]
      exact ⟨rfl, rfl⟩
  | readTap subscriber =>
      cases acted
      obtain ⟨_, same⟩ := readTap_footprint subscriber before
      rw [same]
      exact ⟨rfl, rfl⟩
  | pass | relink | sendOnBus | tap | dropTap =>
      cases acted
      exact ⟨rfl, rfl⟩

theorem shutdown_listener (bridge : Bridge) : bridge.shutdown.listener = .stopped := by
  have ingress : ∀ other : Bridge, other.stopIngress.listener = other.listener := by
    intro other
    obtain ⟨_, _, _, _, same⟩ := stopIngress_footprint other
    rw [same]
  have mapper : ∀ other : Bridge, other.stopMapper.listener = other.listener := by
    intro other
    obtain ⟨_, _, _, same⟩ := stopMapper_footprint other
    rw [same]
  have heartbeat : ∀ other : Bridge, other.stopHeartbeat.listener = other.listener := by
    intro other
    obtain ⟨_, _, same⟩ := stopHeartbeat_footprint other
    rw [same]
  have intake : ∀ other : Bridge, other.stopIntake.listener = other.listener := by
    intro other
    obtain ⟨_, _, _, same⟩ := stopIntake_footprint other
    rw [same]
  have consumer : ∀ other : Bridge, other.stopConsumer.listener = other.listener := by
    intro other
    obtain ⟨_, _, _, _, _, same⟩ := stopConsumer_footprint other
    rw [same]
  rw [shutdown, stopTransmitter_footprint]
  simp only [consumer, intake, stopEgress, heartbeat, mapper, ingress]
  rfl

theorem inputs_seen (glances : List Glance) (seen : Option Glance) :
    inputs (glances ++ seen.toList) = inputs glances ++ (seen.bind Glance.input).toList :=
  filterMap_seen Glance.input glances seen

theorem act_recorded {next : Act} {glances : List Glance}
    (recorded : Recorded first (inputs glances) before) (acted : before.act next = some after) :
    Recorded first (inputs (glances ++ (glance? next before after).toList)) after := by
  rw [inputs_seen]
  by_cases own : next = .move .listener
  · subst own
    exact (stepListener_turn acted).recorded recorded
  · have nothing : (glance? next before after).bind Glance.input = none := by
      cases next with
      | move task => cases task <;> first | rfl | exact absurd rfl own
      | _ => rfl
    rw [nothing, Option.toList_none, List.append_nil]
    by_cases ending : next = .shutdown
    · subst ending
      cases acted
      exact .stopped (shutdown_listener before)
    · obtain ⟨listener, reassembler⟩ := act_gathering acted own ending
      exact recorded.kept listener reassembler

end Bridge

end CameraBridge
