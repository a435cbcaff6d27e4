import CameraBridge.Proofs.Bridge.HostDelivery

namespace CameraBridge

/-! Runs that bring notifications of the camera to the host. A bridge in which nothing is under way
takes up one after the other: listener, mapper and the two senders each move until they are done, and
nobody ever has to wait for room or for the permit. -/

open Reassembler (Input)

theorem Topic.Single.serves {Content : Type} {topic : Topic Content} {items : List Content}
    {holder : Option Nat} (single : topic.Single false items holder) : topic.Serves 0 := by
  have there := single.isClosed_eq
  obtain ⟨⟨capacity, -, queues⟩, live, -, -⟩ := single
  have live : topic.live = [0] := live.elim id fun nobody => nomatch nobody.2
  exact ⟨⟨by simp [live], by simp [live, queues]⟩, by simp [live], there⟩

namespace Publication

variable {Content : Type} {now patience : Time} {message : Content} {topic entered : Topic Content}
  {publication : Publication Content}

/-- The three moves of a publication for one subscriber with an empty queue. It never waits. -/
theorem started_passes (single : topic.Single false [] none)
    (started : start now patience message topic = (publication, entered)) :
    ∃ admitted first delivered second last,
      (publication.waits entered = false ∧
        publication.step now entered = some (first, .going admitted false)) ∧
      (admitted.waits first = false ∧
        admitted.step now first = some (second, .going delivered true)) ∧
      (delivered.waits second = false ∧
        delivered.step now second = some (last, .finished (.ok ()))) ∧
      publication.message = message ∧ admitted.message = message ∧ delivered.message = message ∧
      last.Single false [message] none := by
  obtain ⟨deadline, ordering⟩ : ∃ deadline, publication.stage = .ordering deadline := by
    cases started
    exact ⟨_, rfl⟩
  have same := started_message started
  have held : entered.Single false [] (some publication.ticket) := by
    rw [← started_enter started, started_ticket started]
    exact single.enter
  have there := held.isClosed_eq
  have live : entered.live = [0] := held.live.elim id fun nobody => nomatch nobody.2
  have given := held.put message
  have stays := given.isClosed_eq
  let admitted := publication.pass now [0] [0] none
  let delivered := admitted.pass now [0] [] none
  refine ⟨admitted, entered, delivered, entered.put 0 message, _, ⟨?_, ?_⟩, ⟨?_, ?_⟩, ⟨?_, ?_⟩, same,
    same, same, given.leave⟩
  · simp only [waits, ordering, held.holder, ne_eq, not_true_eq_false, decide_false]
  · simp only [step, ordering, held.holder, if_true, live, admitted]
  · simp only [waits, admitted, pass, there, held.hasRoom, Bool.not_true, Bool.and_false]
  · simp only [step, admitted, pass, deliver, there, held.hasRoom, Bool.false_eq_true, if_false,
      if_true, same, delivered]
  · rfl
  · simp only [step, delivered, admitted, pass, deliver, conclude, List.any_cons, List.any_nil, stays,
      Bool.or_false, Bool.false_eq_true, if_false]

end Publication

namespace Bridge

variable {before middle after bridge : Bridge} {heard later : List Input}

/-- A smooth run leads from one bridge to another, in which the listener takes up some inputs. -/
def Takes (before : Bridge) (heard : List Input) (after : Bridge) : Prop :=
  ∃ glances, Smooth before glances after ∧ inputs glances = heard

namespace Takes

theorem refl (bridge : Bridge) : Takes bridge [] bridge :=
  ⟨[], ⟨⟨[], rfl, by simp⟩, by simp⟩, rfl⟩

theorem trans (first : Takes before heard middle) (second : Takes middle later after) :
    Takes before (heard ++ later) after := by
  obtain ⟨earlier, ⟨⟨acts, watched, goesOn⟩, smooth⟩, rfl⟩ := first
  obtain ⟨glances, ⟨⟨others, rest, goOn⟩, calm⟩, rfl⟩ := second
  refine ⟨earlier ++ glances, ⟨⟨acts ++ others, watch_append watched rest, ?_⟩, ?_⟩,
    List.filterMap_append⟩
  · intro next member
    exact (List.mem_append.mp member).elim (goesOn next) (goOn next)
  · intro glance member
    exact (List.mem_append.mp member).elim (smooth glance) (calm glance)

theorem act {next : Act} (acted : before.act next = some after) (goesOn : next.goesOn = true)
    (smooth : ∀ glance, glance? next before after = some glance → glance.isSmooth = true) :
    Takes before ((glance? next before after).bind Glance.input).toList after := by
  refine ⟨(glance? next before after).toList, ⟨⟨[next], ?_, by simpa using goesOn⟩, ?_⟩, ?_⟩
  · simp only [watch, acted, List.append_nil]
  · simpa using smooth
  · exact inputs_seen [] _

theorem unseen {next : Act} (acted : before.act next = some after) (goesOn : next.goesOn = true)
    (nothing : glance? next before after = none) : Takes before [] after := by
  have took := act acted goesOn fun glance seen => nomatch nothing.symm.trans seen
  rwa [nothing] at took

theorem listener (moved : before.stepListener = some after) (timely : before.listenerWaits = false)
    (free : before.completes after = true → before.permits.available = true) :
    Takes before before.nextInput?.toList after := by
  refine @act _ _ (.move .listener) moved rfl fun glance seen => ?_
  cases seen
  cases completes : before.completes after with
  | false => simp [Glance.isSmooth, timely]
  | true => simp [Glance.isSmooth, timely, free completes]

theorem replying {publication : Publication OutboundReply}
    (is : before.listener = .replying publication)
    (ready : publication.waits before.outbound = false)
    (moved : before.stepListener = some after) : Takes before [] after := by
  have unheard : before.nextInput? = none := by rw [nextInput?, is]
  have incomplete : before.completes after = false := by simp [completes, lookedInto?, is]
  have took := listener moved (by simpa only [listenerWaits, is] using ready) fun complete =>
    absurd (complete.symm.trans incomplete) Bool.noConfusion
  rwa [unheard] at took

theorem forwarding {channel : Channel} {data : Bytes} {publication : Publication Message}
    (is : before.listener = .forwarding channel data publication)
    (ready : publication.waits before.replies = false) (free : before.permits.available = true)
    (moved : before.stepListener = some after) : Takes before [] after := by
  have unheard : before.nextInput? = none := by rw [nextInput?, is]
  have took := listener moved (by simpa only [listenerWaits, is] using ready) fun _ => free
  rwa [unheard] at took

theorem mapper (moved : before.stepMapper = some after) (prompt : before.mapperWaits = false) :
    Takes before [] after := by
  refine @act _ _ (.move .mapper) moved rfl fun glance seen => ?_
  cases seen
  simp [Glance.isSmooth, prompt]

end Takes

/-- Nobody is at work on the way to the host but, maybe, the listener; the queues for the mapper and
the bus have one subscriber and hold what is given. -/
structure Calm (bridge : Bridge) (asked : Option Message) (frame : Option CanFrame) : Prop where
  mapping : bridge.mapper = .listening
  egress : bridge.egress = .listening
  transmitting : bridge.transmitter = .listening
  heard : bridge.camera.events = {}
  asked : bridge.replies.Single false asked.toList none
  framed : bridge.canFrames.Single false frame.toList none

/-- The listener waits, too, and the queue for the host holds what is given. -/
structure Station (bridge : Bridge) (asked : Option Message) (frame : Option CanFrame)
    (reply : Option OutboundReply) : Prop extends Calm bridge asked frame where
  listening : bridge.isListening = true
  permit : match reply with
    | none => bridge.permits.available = true
    | some reply => bridge.permits.Out reply.grant
  replied : bridge.outbound.Single false reply.toList none

/-- Nothing is under way to the host. -/
def AtRest (bridge : Bridge) : Prop := Station bridge none none none

variable {bridge : Bridge} {asked : Option Message} {frame : Option CanFrame}
  {reply : Option OutboundReply} {channel : Channel} {data : Bytes}

/-! ### The listener -/

/-- A large reply that the listener publishes comes to its queue, and holds the permit there. -/
theorem takes_replying {publication : Publication OutboundReply} {message : OutboundReply}
    {patience : Time} {topic : Topic OutboundReply} (calm : Calm bridge asked frame)
    (is : bridge.listener = .replying publication) (single : topic.Single false [] none)
    (started : Publication.start bridge.now patience message topic = (publication, bridge.outbound))
    (out : bridge.permits.Out message.grant) :
    ∃ after, Takes bridge [] after ∧ Station after asked frame (some message) := by
  obtain ⟨admitted, first, delivered, second, last, ⟨ready, stepped⟩, ⟨readyThen, steppedThen⟩,
    ⟨readyLast, finished⟩, named, namedThen, namedLast, done⟩ :=
    Publication.started_passes single started
  let permits := bridge.permits.modify message.grant (follow (.going admitted false))
  let handed := (permits.modify message.grant Hold.share).modify message.grant Hold.drop
  let entering := { bridge with outbound := first, permits, listener := .replying admitted }
  let leaving := { bridge with
    outbound := second, permits := permits.modify message.grant Hold.share
    listener := .replying delivered }
  let served := { bridge with outbound := last, permits := handed }
  have enters : bridge.stepListener = some entering := by
    simp only [stepListener, is, stepOutbound, stepped, Option.map_some, named]
    rfl
  have delivers : entering.stepListener = some leaving := by
    simp only [stepListener, entering, stepOutbound, steppedThen, Option.map_some, namedThen]
    rfl
  have ends : leaving.stepListener = some served.listen := by
    simp only [stepListener, leaving, stepOutbound, finished, Option.map_some, namedLast]
    rfl
  -- The queue shares the grant before the publication drops it, so that it is out all the time.
  have kept : permits.Out message.grant := out.kept rfl
  refine ⟨served.listen, ?_, ⟨calm.mapping, calm.egress, calm.transmitting, calm.heard, calm.asked,
    calm.framed⟩, rfl, kept.handed, done⟩
  exact ((Takes.replying is ready enters).trans (.replying rfl readyThen delivers)).trans
    (.replying rfl readyLast ends)

/-- What the listener looks into leads to one large reply at most. -/
theorem takes_gathering (channel : Channel) (data : Bytes) (calm : Calm bridge asked frame)
    (single : bridge.outbound.Single false [] none) (free : bridge.permits.available = true) :
    ∃ reply after, Takes (bridge.gatherNotification channel data) [] after ∧
      Station after asked frame reply := by
  obtain ⟨mapping, egress, transmitting, heard, asked, framed⟩ := calm
  unfold gatherNotification
  generalize bridge.reassembler.push channel data = pushed
  obtain ⟨reassembler, outcome⟩ := pushed
  simp only
  split
  · next assembled =>
      unfold forwardBody
      split
      · next large =>
          split
          · next publication begun same =>
              obtain ⟨grant, permits, outbound, acquired, started, rfl⟩ := beginOutbound_invert same
              have out := (ReplyPermits.acquire_out acquired).2
              obtain ⟨after, took, station⟩ := @takes_replying
                { bridge with
                  reassembler, device := (Demuxed.ofReply assembled bridge.device).2, permits,
                  outbound, listener := .replying publication }
                _ _ publication _ _ bridge.outbound
                ⟨mapping, egress, transmitting, heard, asked, framed⟩ rfl single started out
              exact ⟨_, after, took, station⟩
          · next cause begun =>
              exact absurd free (by simp [permits_of_refused begun])
      · next small =>
          exact ⟨none, _, .refl _, ⟨mapping, egress, transmitting, heard, asked, framed⟩, rfl, free,
            single⟩
  · next other =>
      exact ⟨none, _, .refl _, ⟨mapping, egress, transmitting, heard, asked, framed⟩, rfl, free,
        single⟩

theorem takes_forwarding {publication : Publication Message} {message : Message} {patience : Time}
    {topic : Topic Message} (calm : Calm { bridge with replies := topic } none frame)
    (is : bridge.listener = .forwarding channel data publication)
    (started : Publication.start bridge.now patience message topic = (publication, bridge.replies))
    (single : bridge.outbound.Single false [] none) (free : bridge.permits.available = true) :
    ∃ reply after, Takes bridge [] after ∧ Station after (some message) frame reply := by
  obtain ⟨admitted, first, delivered, second, last, ⟨ready, stepped⟩, ⟨readyThen, steppedThen⟩,
    ⟨readyLast, finished⟩, -, -, -, done⟩ := Publication.started_passes calm.asked started
  let entering := { bridge with replies := first, listener := .forwarding channel data admitted }
  let leaving := { bridge with replies := second, listener := .forwarding channel data delivered }
  let answered := { leaving with replies := last }
  have enters : bridge.stepListener = some entering := by
    simp only [stepListener, is, stepReply, stepped, Option.map_some]
    rfl
  have delivers : entering.stepListener = some leaving := by
    simp only [stepListener, entering, stepReply, steppedThen, Option.map_some]
    rfl
  have ends : leaving.stepListener = some (answered.gatherNotification channel data) := by
    simp only [stepListener, leaving, stepReply, finished, Option.map_some]
    rfl
  have took := ((Takes.forwarding is ready free enters).trans
    (.forwarding rfl readyThen free delivers)).trans (.forwarding rfl readyLast free ends)
  obtain ⟨reply, after, looked, station⟩ := @takes_gathering answered (some message) frame channel data
    ⟨calm.mapping, calm.egress, calm.transmitting, calm.heard, done, calm.framed⟩ single free
  exact ⟨reply, after, took.trans looked, station⟩

theorem push_unread {Item : Type} (item : Item) : ({} : Feed Item).push item = { unread := [item] } := by
  simp [Feed.push, feedCapacity]

/-- A notification that arrives is taken up, answered and looked into. -/
theorem AtRest.takes_notification (rests : bridge.AtRest) (channel : Channel) (data : Bytes) :
    ∃ asked reply after, Takes bridge [.push channel data] after ∧ Station after asked none reply := by
  obtain ⟨⟨mapping, egress, transmitting, heard, asked, framed⟩, listening, permit, replied⟩ := rests
  let camera := bridge.camera.raise (.notification channel data)
  let told := { bridge with camera }
  have events : camera.events = { unread := [.notification channel data] } := by
    simp only [camera, Camera.raise, heard, push_unread]
  obtain ⟨silence, listens⟩ := listener_of_listening listening
  let taken := { bridge with camera := { camera with events := {} }, listener := .listening silence }
  have arrives : Takes bridge [] told :=
    @Takes.unseen _ _ (.relink camera bridge.bus bridge.hostLink bridge.replyLink) rfl rfl rfl
  have heard : told.nextInput? = some (.push channel data) := by
    simp only [nextInput?, told, listens, events]
    rfl
  have moves : told.stepListener = some (taken.onNotification channel data) := by
    simp only [stepListener, told, listens, events]
    rfl
  have takes := Takes.listener moves (by simp only [listenerWaits, told, listens]) fun _ => permit
  rw [heard] at takes
  -- What is left has no more inputs: the answer, if there is one, and then the look into it.
  suffices ∃ asked reply after, Takes (taken.onNotification channel data) [] after ∧
      Station after asked none reply by
    obtain ⟨asked, reply, after, took, station⟩ := this
    exact ⟨asked, reply, after, (arrives.trans takes).trans took, station⟩
  unfold onNotification
  split
  · next message answered =>
      obtain ⟨reply, after, took, station⟩ := @takes_forwarding
        { taken with
          replies := (taken.beginReply message).2.replies
          listener := .forwarding channel data (taken.beginReply message).1 }
        none channel data (taken.beginReply message).1 message bridge.timing.publishTimeout
        bridge.replies ⟨mapping, egress, transmitting, rfl, asked, framed⟩ rfl rfl replied permit
      exact ⟨some message, reply, after, took, station⟩
  · obtain ⟨reply, after, took, station⟩ := @takes_gathering taken none none channel data
      ⟨mapping, egress, transmitting, rfl, asked, framed⟩ replied permit
    exact ⟨none, reply, after, took, station⟩

/-! ### The mapper and the senders -/

theorem takes_publishing {publication : Publication CanFrame} {message : CanFrame} {patience : Time}
    {topic : Topic CanFrame}
    (station : Station { bridge with mapper := .listening, canFrames := topic } asked none reply)
    (is : bridge.mapper = .publishing publication)
    (started :
      Publication.start bridge.now patience message topic = (publication, bridge.canFrames)) :
    ∃ after, Takes bridge [] after ∧ Station after asked (some message) reply := by
  obtain ⟨⟨-, egress, transmitting, heard, asked, framed⟩, listening, permit, replied⟩ := station
  obtain ⟨admitted, first, delivered, second, last, ⟨ready, stepped⟩, ⟨readyThen, steppedThen⟩,
    ⟨readyLast, finished⟩, -, -, -, done⟩ := Publication.started_passes framed started
  let entering := { bridge with canFrames := first, mapper := .publishing admitted }
  let leaving := { bridge with canFrames := second, mapper := .publishing delivered }
  let served := { bridge with canFrames := last, mapper := .listening }
  have enters : bridge.stepMapper = some entering := by
    simp only [stepMapper, is, stepFrame, stepped, Option.map_some]
    rfl
  have delivers : entering.stepMapper = some leaving := by
    simp only [stepMapper, entering, stepFrame, steppedThen, Option.map_some]
    rfl
  have ends : leaving.stepMapper = some served := by
    simp only [stepMapper, leaving, stepFrame, finished, Option.map_some]
    rfl
  refine ⟨served, ?_, ⟨rfl, egress, transmitting, heard, asked, done⟩, listening, permit, replied⟩
  exact ((Takes.mapper enters (by simpa only [mapperWaits, is] using ready)).trans
    (.mapper delivers readyThen)).trans (.mapper ends readyLast)

/-- The mapper answers what was asked. -/
theorem Station.takes_mapping {message : Message} (station : Station bridge (some message) none reply) :
    ∃ frame after, Takes bridge [] after ∧ Station after none frame reply := by
  obtain ⟨⟨mapping, egress, transmitting, heard, asked, framed⟩, listening, permit, replied⟩ := station
  obtain ⟨replies, received⟩ := asked.receive_exists
  obtain ⟨rest, same, taken⟩ := asked.receive received
  cases same
  have moves : bridge.stepMapper = some ({ bridge with replies }.mapReply message) := by
    have found : bridge.replies.receive workerSubscriber = some (message, replies) := received
    simp only [stepMapper, mapping, found, Option.map_some]
  have took := Takes.mapper moves (by rw [mapperWaits, mapping])
  unfold mapReply at took
  split at took
  · exact ⟨none, _, took, ⟨mapping, egress, transmitting, heard, taken, framed⟩, listening, permit,
      replied⟩
  · next answer mapped =>
      obtain ⟨after, published, station⟩ := @takes_publishing
        { bridge with
          replies
          canFrames := ({ bridge with replies }.beginFrame answer.frame).2.canFrames
          mapper := .publishing ({ bridge with replies }.beginFrame answer.frame).1 }
        none reply ({ bridge with replies }.beginFrame answer.frame).1 answer.frame
        bridge.timing.publishTimeout bridge.canFrames
        ⟨⟨rfl, egress, transmitting, heard, taken, framed⟩, listening, permit, replied⟩ rfl rfl
      exact ⟨some answer.frame, after, took.trans published, station⟩

/-- The frame goes to the bus. -/
theorem Station.takes_sending {frame : CanFrame} (station : Station bridge none (some frame) reply) :
    ∃ after, Takes bridge [] after ∧ Station after none none reply := by
  obtain ⟨⟨mapping, egress, transmitting, heard, asked, framed⟩, listening, permit, replied⟩ := station
  obtain ⟨canFrames, received⟩ := framed.receive_exists
  obtain ⟨rest, same, taken⟩ := framed.receive received
  cases same
  let ready := bridge.now + bridge.bus.latency
  let sending := { bridge with
    canFrames, egress := .sending frame ready (bridge.now + bridge.timing.canSendTimeout) }
  let later := { sending with now := ready }
  let sent := { later with bus := (bridge.bus.send frame).2, egress := .listening }
  have begins : bridge.stepEgress = some sending := by
    have found : bridge.canFrames.receive workerSubscriber = some (frame, canFrames) := received
    simp only [stepEgress, egress, found, Option.map_some]
    rfl
  have ends : later.stepEgress = some sent := by
    simp only [stepEgress, later, sending, Nat.le_refl, if_true]
    rfl
  refine ⟨sent, ?_, ⟨mapping, rfl, transmitting, heard, asked, taken⟩, listening, permit, replied⟩
  exact ((@Takes.unseen _ _ (.move .egress) begins rfl rfl).trans
    (@Takes.unseen _ later (.pass bridge.bus.latency) rfl rfl rfl)).trans
    (@Takes.unseen _ _ (.move .egress) ends rfl rfl)

/-- The large reply goes to the host, or is refused, and gives back the permit. -/
theorem Station.takes_transmitting {message : OutboundReply}
    (station : Station bridge none none (some message)) :
    ∃ after, Takes bridge [] after ∧ after.AtRest := by
  obtain ⟨⟨mapping, egress, transmitting, heard, asked, framed⟩, listening, permit, replied⟩ := station
  obtain ⟨outbound, received⟩ := replied.receive_exists
  obtain ⟨rest, same, taken⟩ := replied.receive received
  cases same
  have freed : (bridge.permits.modify message.grant fun hold => hold.release.drop).available = true :=
    permit.freed rfl
  have begins : bridge.stepTransmitter = some ({ bridge with outbound }.transmit message) := by
    have found : bridge.outbound.receive workerSubscriber = some (message, outbound) := received
    simp only [stepTransmitter, transmitting, found, Option.map_some]
  have took := @Takes.unseen _ _ (.move .transmitter) begins rfl rfl
  unfold transmit at took
  split at took
  · exact ⟨_, took, ⟨mapping, egress, rfl, heard, asked, framed⟩, listening, freed, taken⟩
  · let ready := bridge.now + bridge.replyLink.latency
    let later := { bridge with
      now := ready, outbound
      transmitter := .sending message ready (bridge.now + bridge.timing.isotpSendTimeout) }
    let sent := { later with replyLink := bridge.replyLink.complete message.data }
    have ends : later.stepTransmitter = some (sent.finishReply message) := by
      simp only [stepTransmitter, later, Nat.le_refl, if_true]
      rfl
    -- A transfer takes its latency and no more, even if its time is over by then.
    refine ⟨sent.finishReply message, ?_, ⟨mapping, egress, rfl, heard, asked, framed⟩, listening, freed,
      taken⟩
    exact (took.trans (@Takes.unseen _ later (.pass bridge.replyLink.latency) rfl rfl rfl)).trans
      (@Takes.unseen _ _ (.move .transmitter) ends rfl rfl)

/-! ### Any number of notifications -/

theorem Station.takes_rest (station : Station bridge asked none reply) :
    ∃ after, Takes bridge [] after ∧ after.AtRest := by
  obtain ⟨frame, answered, mapped, station⟩ : ∃ frame after, Takes bridge [] after ∧
      Station after none frame reply := by
    cases asked with
    | none => exact ⟨none, bridge, .refl bridge, station⟩
    | some message => exact station.takes_mapping
  obtain ⟨framed, sent, station⟩ : ∃ after, Takes answered [] after ∧
      Station after none none reply := by
    cases frame with
    | none => exact ⟨answered, .refl answered, station⟩
    | some frame => exact station.takes_sending
  obtain ⟨after, transmitted, rests⟩ : ∃ after, Takes framed [] after ∧ after.AtRest := by
    cases reply with
    | none => exact ⟨framed, .refl framed, station⟩
    | some message => exact station.takes_transmitting
  exact ⟨after, (mapped.trans sent).trans transmitted, rests⟩

/-- Notifications that arrive one by one are all taken up, and nothing is left under way. -/
theorem AtRest.takes_notifications (rests : bridge.AtRest) (notified : List (Channel × Bytes)) :
    ∃ after, Takes bridge (notified.map fun entry => .push entry.1 entry.2) after ∧
      after.AtRest := by
  induction notified generalizing bridge with
  | nil => exact ⟨bridge, .refl bridge, rests⟩
  | cons entry rest ih =>
      obtain ⟨asked, reply, middle, took, station⟩ := rests.takes_notification entry.1 entry.2
      obtain ⟨settled, settles, restsAgain⟩ := station.takes_rest
      obtain ⟨after, others, last⟩ := ih restsAgain
      exact ⟨after, (took.trans settles).trans others, last⟩

theorem AtRest.settled (rests : bridge.AtRest) : bridge.Settled :=
  ⟨rests.listening, rests.mapping, rests.asked.items_eq⟩

theorem AtRest.served (rests : bridge.AtRest) : bridge.Served :=
  ⟨rests.asked.serves, rests.framed.serves, rests.replied.serves⟩

/-- A bridge begins at rest, whatever its reassembler is taken to have. -/
theorem start_atRest (timing : Timing) (queueDepth : Nat) (state : DeviceState)
    (reassembler : Reassembler) :
    AtRest { start timing queueDepth state {} with reassembler } := by
  unfold start
  simp only
  obtain ⟨receiver, intake, same⟩ := beginReception_footprint _
  rw [same]
  exact ⟨⟨rfl, rfl, rfl, rfl, .subscribed _ _, .subscribed _ _⟩, rfl, rfl, .subscribed _ _⟩

end Bridge

end CameraBridge
