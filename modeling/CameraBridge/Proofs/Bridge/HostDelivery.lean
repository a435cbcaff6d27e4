import CameraBridge.Proofs.Bridge.HostQueues

namespace CameraBridge

/-! The way of the camera's notifications to the host. Each that starts a message is answered by one
frame for the bus, and each body that no single frame holds goes out as one large reply, both in the
order of the notifications. What was taken up and has not come to its queue is still under way. -/

open Reassembler (Input)

/-! ### What is under way -/

def Listener.owedMessage : Listener → Option Message
  | .forwarding _ _ publication => publication.owed Bridge.workerSubscriber
  | _ => none

def Listener.owedReply : Listener → Option OutboundReply
  | .replying publication => publication.owed Bridge.workerSubscriber
  | _ => none

def Mapper.owed : Mapper → Option CanFrame
  | .publishing publication => publication.owed Bridge.workerSubscriber
  | _ => none

/-- What the listener has looked into: all that it took up but the notification it forwards. -/
def Listener.looked (listener : Listener) (heard : List Input) : List Input :=
  match listener with
  | .forwarding .. => heard.dropLast
  | _ => heard

/-- A publication passes each subscriber once. -/
def Listener.Sound : Listener → Prop
  | .forwarding _ _ publication => publication.remaining.Nodup
  | .replying publication => publication.remaining.Nodup
  | .listening _ => True
  | .stopped => False

def Mapper.Sound : Mapper → Prop
  | .publishing publication => publication.remaining.Nodup
  | .listening => True
  | .stopped => False

namespace Bridge

variable {before after bridge : Bridge} {channel : Channel} {data : Bytes}

/-- The messages that the mapper has still to answer. -/
def dueMessages (bridge : Bridge) : List Message :=
  bridge.replies.items workerSubscriber ++ bridge.listener.owedMessage.toList

def dueFrames (bridge : Bridge) : List CanFrame :=
  bridge.mapper.owed.toList ++ bridge.dueMessages.filterMap Message.frame?

/-- Nothing is under way with a listener that listens. -/
structure Quiet (listener : Listener) : Prop where
  owedMessage : listener.owedMessage = none
  owedReply : listener.owedReply = none
  sound : listener.Sound
  looked : ∀ heard, listener.looked heard = heard

theorem quiet_of_listening (listens : bridge.isListening = true) : Quiet bridge.listener := by
  obtain ⟨silence, listening⟩ := listener_of_listening listens
  rw [listening]
  exact ⟨rfl, rfl, trivial, fun _ => rfl⟩

/-! ### One move of a publication -/

/-- A move brings a message to the worker or leaves it due. -/
def Brings {Content : Type} (publication : Publication Content) (before after : Topic Content)
    (progress : Progress Content) : Prop :=
  ∃ arrival : Option Content,
    after.items workerSubscriber = before.items workerSubscriber ++ arrival.toList ∧
    (publication.owed workerSubscriber).toList =
      arrival.toList ++ (progress.owed workerSubscriber).toList ∧
    ∀ later delivered, progress = .going later delivered → later.remaining.Nodup

theorem Served.forwarding_brings {publication : Publication Message} {replies : Topic Message}
    {progress : Progress Message} (served : before.Served) (sound : before.listener.Sound)
    (timely : before.listenerWaits = false)
    (was : before.listener = .forwarding channel data publication)
    (stepped : publication.step before.now before.replies = some (replies, progress)) :
    Brings publication before.replies replies progress := by
  rw [was] at sound
  exact Publication.step_owed served.replies sound
    (by simpa only [listenerWaits, was] using timely) stepped

theorem Served.replying_brings {publication : Publication OutboundReply}
    {outbound : Topic OutboundReply} {progress : Progress OutboundReply} (served : before.Served)
    (sound : before.listener.Sound) (timely : before.listenerWaits = false)
    (was : before.listener = .replying publication)
    (stepped : publication.step before.now before.outbound = some (outbound, progress)) :
    Brings publication before.outbound outbound progress := by
  rw [was] at sound
  exact Publication.step_owed served.outbound sound
    (by simpa only [listenerWaits, was] using timely) stepped

theorem Served.publishing_brings {publication : Publication CanFrame} {canFrames : Topic CanFrame}
    {progress : Progress CanFrame} (served : before.Served) (sound : before.mapper.Sound)
    (timely : before.mapperWaits = false) (was : before.mapper = .publishing publication)
    (stepped : publication.step before.now before.canFrames = some (canFrames, progress)) :
    Brings publication before.canFrames canFrames progress := by
  rw [was] at sound
  exact Publication.step_owed served.canFrames sound
    (by simpa only [mapperWaits, was] using timely) stepped

/-! ### Notifications for the mapper -/

theorem Looked.owedMessage (looked : Looked before.lookDesk channel data after) :
    after.listener.owedMessage = none := by
  cases looked with
  | incomplete _ _ _ listens => exact (quiet_of_listening listens).owedMessage
  | kept _ _ _ _ _ _ listens => exact (quiet_of_listening listens).owedMessage
  | handed _ _ _ _ _ _ _ _ _ replying => rw [replying]; rfl

theorem started_items {Content : Type} {now patience : Time} {message : Content}
    {topic later : Topic Content} {publication : Publication Content}
    (started : Publication.start now patience message topic = (publication, later))
    (subscriber : Nat) : later.items subscriber = topic.items subscriber := by
  rw [← Publication.started_enter started]
  exact Topic.items_congr (Topic.enter_queues topic) subscriber

/-- What the listener takes up is due from the mapper, if it is answered at all. -/
theorem ListenerTurn.dueMessages {input : Option Input} (turn : ListenerTurn before after input)
    (served : before.Served) (sound : before.listener.Sound)
    (timely : before.listenerWaits = false) :
    after.dueMessages = before.dueMessages ++ (input.bind Input.message?).toList := by
  unfold Bridge.dueMessages
  cases turn with
  | aside listened _ replies _ listens | reset listened _ replies _ listens =>
      rw [replies, (quiet_of_listening listened).owedMessage, (quiet_of_listening listens).owedMessage]
      exact (List.append_nil _).symm
  | answering channel data message publication listened asked started _ _ is =>
      have owed : after.listener.owedMessage = some message := by
        rw [is]
        exact Publication.started_owed started
      rw [started_items started, owed, (quiet_of_listening listened).owedMessage, Option.toList_none,
        List.append_nil]
      simp [Input.message?, asked]
  | looking channel data listened unasked replies looked =>
      rw [replies, (quiet_of_listening listened).owedMessage, looked.owedMessage]
      simp [Input.message?, unasked]
  | forwarding channel data publication later delivered was stepped _ _ is =>
      obtain ⟨arrival, items, owed, -⟩ := served.forwarding_brings sound timely was stepped
      rw [items, was, is]
      simpa [Listener.owedMessage, Progress.owed] using owed.symm
  | forwarded channel data publication result was stepped looked =>
      obtain ⟨arrival, items, owed, -⟩ := served.forwarding_brings sound timely was stepped
      rw [items, was, looked.owedMessage]
      simpa [Listener.owedMessage, Progress.owed] using owed.symm
  | replying publication later delivered was _ _ replies is =>
      rw [replies, was, is]
      exact (List.append_nil _).symm
  | replied publication result was _ _ replies listens =>
      rw [replies, was, (quiet_of_listening listens).owedMessage]
      exact (List.append_nil _).symm

/-! ### Frames for the bus -/

/-- A frame that is due comes to the queue for the bus, or it stays due. -/
theorem MapperTurn.dueFrames (turn : MapperTurn before after) (served : before.Served)
    (sound : before.mapper.Sound) (timely : before.mapperWaits = false) :
    ∃ arrival : Option CanFrame,
      after.canFrames.items workerSubscriber =
        before.canFrames.items workerSubscriber ++ arrival.toList ∧
      before.mapper.owed.toList ++
          (before.replies.items workerSubscriber).filterMap Message.frame? =
        arrival.toList ++ (after.mapper.owed.toList ++
          (after.replies.items workerSubscriber).filterMap Message.frame?) ∧
      after.mapper.Sound := by
  cases turn with
  | unanswered message was received silent canFrames is =>
      have oldest := Topic.receive_items received
      refine ⟨none, by rw [canFrames]; exact (List.append_nil _).symm, ?_, is ▸ trivial⟩
      rw [oldest, was, is, List.filterMap_cons_none silent]
      rfl
  | answering message frame publication was received answers started is =>
      have oldest := Topic.receive_items received
      have owed : after.mapper.owed = some frame := by
        rw [is]
        exact Publication.started_owed started
      refine ⟨none, by rw [started_items started]; exact (List.append_nil _).symm, ?_, ?_⟩
      · rw [oldest, was, owed, List.filterMap_cons_some answers]
        rfl
      · rw [is]
        exact Publication.started_remaining started
  | publishing publication later delivered was replies stepped is =>
      obtain ⟨arrival, items, owed, once⟩ := served.publishing_brings sound timely was stepped
      refine ⟨arrival, items, ?_, is ▸ once later delivered rfl⟩
      rw [replies, was, is, ← List.append_assoc]
      exact congrArg (· ++ _) owed
  | published publication result was replies stepped is =>
      obtain ⟨arrival, items, owed, -⟩ := served.publishing_brings sound timely was stepped
      refine ⟨arrival, items, ?_, is ▸ trivial⟩
      rw [replies, was, is, ← List.append_assoc]
      exact congrArg (· ++ _) owed

/-! ### Large replies -/

/-- A body that is completed while the permit is free is due as a large reply, if it is large. -/
theorem Looked.owedReply (looked : Looked before.lookDesk channel data after)
    (free : ∀ assembled, (before.reassembler.push channel data).2 = .ok (some assembled) →
      before.permits.available = true) :
    after.outbound.items workerSubscriber = before.outbound.items workerSubscriber ∧
      (largeReply? (.push channel data) (some (before.reassembler.push channel data).2)).toList =
        after.listener.owedReply.toList.map OutboundReply.data ∧
      after.listener.Sound ∧ ∀ heard, after.listener.looked heard = heard := by
  cases looked with
  | incomplete nothing reassembler outbound listens =>
      have quiet := quiet_of_listening listens
      have none : largeReply? (.push channel data)
          (some (before.reassembler.push channel data).2) = none := by
        unfold largeReply?
        split
        · next complete => exact absurd (Option.some.inj complete) (nothing _)
        · rfl
      refine ⟨by rw [outbound]; rfl, ?_, quiet.sound, quiet.looked⟩
      rw [none, quiet.owedReply]
      rfl
  | kept assembled complete small reassembler device outbound listens =>
      have quiet := quiet_of_listening listens
      have fits : assembled.isLarge data = false := by
        cases large : assembled.isLarge data with
        | false => rfl
        | true => exact absurd ((small large).symm.trans (free assembled complete)) Bool.false_ne_true
      have same : (before.reassembler.push channel data).2 = .ok (some assembled) := complete
      refine ⟨by rw [outbound]; rfl, ?_, quiet.sound, quiet.looked⟩
      rw [quiet.owedReply, same]
      simp [largeReply?, fits]
  | handed assembled publication grant complete large available reassembler device started is =>
      have same : (before.reassembler.push channel data).2 = .ok (some assembled) := complete
      have owed : publication.owed workerSubscriber = _ := Publication.started_owed started
      refine ⟨started_items started workerSubscriber, ?_, ?_, ?_⟩
      · rw [same, is]
        simp [largeReply?, large, Listener.owedReply, owed]
      · rw [is]
        exact Publication.started_remaining started
      · rw [is]
        exact fun _ => rfl

theorem completes_of_looking {assembled : Assembled} (listened : before.isListening = true)
    (next : before.nextInput? = some (.push channel data)) (unasked : forwarded? channel data = none)
    (complete : (before.reassembler.push channel data).2 = .ok (some assembled)) :
    before.completes after = true := by
  obtain ⟨silence, listening⟩ := listener_of_listening listened
  have into : before.lookedInto? after = some (channel, data) := by
    simp [lookedInto?, listening, next, unasked]
  simp [completes, into, complete]

theorem Looked.settled (looked : Looked before.lookDesk channel data after) :
    ∀ target frame publication, after.listener ≠ .forwarding target frame publication := by
  intro target frame publication forwarding
  cases looked with
  | incomplete _ _ _ listens | kept _ _ _ _ _ _ listens =>
      rw [isListening, forwarding] at listens
      cases listens
  | handed _ _ _ _ _ _ _ _ _ replying => cases replying.symm.trans forwarding

theorem completes_of_forwarded {assembled : Assembled} {publication : Publication Message}
    (was : before.listener = .forwarding channel data publication)
    (looked : Looked before.lookDesk channel data after)
    (complete : (before.reassembler.push channel data).2 = .ok (some assembled)) :
    before.completes after = true := by
  have into : before.lookedInto? after = some (channel, data) := by
    simp only [lookedInto?, was]
    split
    · next forwarding => exact absurd forwarding (looked.settled _ _ _)
    · rfl
  simp [completes, into, complete]

/-- A large reply that is due comes to the queue for the host, or it stays due. -/
theorem ListenerTurn.dueReplies {first : Reassembler} {heard : List Input}
    (turn : ListenerTurn before after before.nextInput?) (served : before.Served)
    (sound : before.listener.Sound) (timely : before.listenerWaits = false)
    (recorded : Recorded first heard before)
    (free : before.completes after = true → before.permits.available = true) :
    ∃ (arrival : Option OutboundReply) (led : List Bytes),
      after.outbound.items workerSubscriber =
        before.outbound.items workerSubscriber ++ arrival.toList ∧
      largeReplies first (after.listener.looked (heard ++ before.nextInput?.toList)) =
        largeReplies first (before.listener.looked heard) ++ led ∧
      before.listener.owedReply.toList.map OutboundReply.data ++ led =
        (arrival.toList ++ after.listener.owedReply.toList).map OutboundReply.data ∧
      after.listener.Sound := by
  generalize next : before.nextInput? = input at turn
  cases turn with
  | aside listened reassembler replies outbound listens =>
      have was := quiet_of_listening listened
      have is := quiet_of_listening listens
      refine ⟨none, [], by rw [outbound]; exact (List.append_nil _).symm, ?_, ?_, is.sound⟩
      · rw [is.looked, was.looked, Option.toList_none, List.append_nil, List.append_nil]
      · rw [was.owedReply, is.owedReply]
        rfl
  | reset listened reassembler replies outbound listens =>
      have was := quiet_of_listening listened
      have is := quiet_of_listening listens
      refine ⟨none, [], by rw [outbound]; exact (List.append_nil _).symm, ?_, ?_, is.sound⟩
      · rw [is.looked, was.looked, largeReplies_append]
        rfl
      · rw [was.owedReply, is.owedReply]
        rfl
  | answering channel data message publication listened asked started reassembler outbound is =>
      -- It is taken up, but looked into only once it is forwarded.
      have was := quiet_of_listening listened
      refine ⟨none, [], by rw [outbound]; exact (List.append_nil _).symm, ?_, ?_, ?_⟩
      · rw [is, was.looked, List.append_nil]
        exact congrArg _ (List.dropLast_concat)
      · rw [was.owedReply, is]
        rfl
      · rw [is]
        exact Publication.started_remaining started
  | looking channel data listened unasked replies looked =>
      have was := quiet_of_listening listened
      obtain ⟨items, due, still, all⟩ := looked.owedReply fun assembled complete =>
        free (completes_of_looking listened next unasked complete)
      refine ⟨none, largeReplies before.reassembler [.push channel data],
        by rw [items]; exact (List.append_nil _).symm, ?_, ?_, still⟩
      · rw [all, was.looked, largeReplies_append, ← recorded.listening listened]
        rfl
      · rw [was.owedReply, largeReplies_push, due]
        rfl
  | forwarding channel data publication later delivered was stepped reassembler outbound is =>
      obtain ⟨-, -, -, once⟩ := served.forwarding_brings sound timely was stepped
      refine ⟨none, [], by rw [outbound]; exact (List.append_nil _).symm, ?_, ?_, ?_⟩
      · rw [was, is, Option.toList_none, List.append_nil, List.append_nil]
        rfl
      · rw [was, is]
        rfl
      · rw [is]
        exact once later delivered rfl
  | forwarded channel data publication result was stepped looked =>
      obtain ⟨earlier, last, gathered⟩ := recorded.forwarding was
      obtain ⟨items, due, still, all⟩ := looked.owedReply fun assembled complete =>
        free (completes_of_forwarded was looked complete)
      refine ⟨none, largeReplies before.reassembler [.push channel data],
        by rw [items]; exact (List.append_nil _).symm, ?_, ?_, still⟩
      · rw [all, was, Option.toList_none, List.append_nil, last, Listener.looked,
          List.dropLast_concat, largeReplies_append, ← gathered]
      · rw [was, largeReplies_push, due]
        rfl
  | replying publication later delivered was stepped reassembler replies is =>
      obtain ⟨arrival, items, owed, once⟩ := served.replying_brings sound timely was stepped
      refine ⟨arrival, [], items, ?_, ?_, ?_⟩
      · rw [was, is, Option.toList_none, List.append_nil, List.append_nil]
        rfl
      · rw [was, is, List.append_nil]
        exact congrArg _ owed
      · rw [is]
        exact once later delivered rfl
  | replied publication result was stepped reassembler replies listens =>
      obtain ⟨arrival, items, owed, -⟩ := served.replying_brings sound timely was stepped
      have is := quiet_of_listening listens
      refine ⟨arrival, [], items, ?_, ?_, is.sound⟩
      · rw [was, is.looked, Option.toList_none, List.append_nil, List.append_nil]
        rfl
      · rw [was, is.owedReply, List.append_nil]
        exact congrArg _ owed

/-! ### Along a run -/

/-- The frames that came to the queue for the bus, in order. -/
def framed (glances : List Glance) : List CanFrame := glances.filterMap Glance.framed

/-- The bytes of the large replies that came to the queue for the host, in order. -/
def queued (glances : List Glance) : List Bytes :=
  glances.filterMap fun glance => glance.queued.map OutboundReply.data

/-- Nothing is held up beyond its time, and no body is completed while the permit is out. -/
def Glance.isSmooth (glance : Glance) : Bool := !glance.late && !glance.busy

/-- All that the listener took up has come to the host's queues or is under way. -/
structure HostSide (first : Reassembler) (glances : List Glance) (bridge : Bridge) : Prop where
  served : bridge.Served
  listening : bridge.listener.Sound
  mapping : bridge.mapper.Sound
  recorded : Recorded first (inputs glances) bridge
  frames : (inputs glances).filterMap Input.answer? = framed glances ++ bridge.dueFrames
  replies : largeReplies first (bridge.listener.looked (inputs glances)) =
    queued glances ++ bridge.listener.owedReply.toList.map OutboundReply.data

variable {first : Reassembler} {glances : List Glance}

theorem framed_seen (glances : List Glance) (seen : Option Glance) :
    framed (glances ++ seen.toList) = framed glances ++ (seen.bind Glance.framed).toList :=
  filterMap_seen Glance.framed glances seen

theorem queued_seen (glances : List Glance) (seen : Option Glance) :
    queued (glances ++ seen.toList) =
      queued glances ++ (seen.bind Glance.queued).toList.map OutboundReply.data := by
  rw [queued, filterMap_seen]
  cases seen with
  | none => rfl
  | some glance => cases shown : glance.queued <;> simp [queued, shown]

theorem HostSide.stepListener (side : HostSide first glances before)
    (moved : before.stepListener = some after)
    (smooth : ∀ glance, glance? (.move .listener) before after = some glance →
      glance.isSmooth = true) :
    HostSide first (glances ++ (glance? (.move .listener) before after).toList) after := by
  have turn := stepListener_turn moved
  obtain ⟨_, _, _, _, _, _, _, _, _, _, same, -⟩ := stepListener_footprint moved
  have mapper : after.mapper = before.mapper := same ▸ rfl
  have gentle := smooth _ rfl
  simp only [Glance.isSmooth, Bool.and_eq_true, Bool.not_eq_true'] at gentle
  obtain ⟨timely, unhindered⟩ := gentle
  have messages := turn.dueMessages side.served side.listening timely
  obtain ⟨arrival, led, items, whole, owed, sound⟩ :=
    turn.dueReplies side.served side.listening timely side.recorded fun completes => by
      simpa [completes] using unhindered
  refine ⟨stepListener_served side.served moved, sound, mapper ▸ side.mapping,
    act_recorded side.recorded moved, ?_, ?_⟩
  · -- Only the mapper brings frames: what is taken up here is due there.
    have frames : after.dueFrames =
        before.dueFrames ++ (before.nextInput?.bind Input.answer?).toList := by
      rw [dueFrames, dueFrames, mapper, messages, filterMap_seen, Option.bind_assoc,
        List.append_assoc]
      rfl
    have nothing : framed (glances ++ (glance? (.move .listener) before after).toList) =
        framed glances := by
      rw [framed_seen]
      exact List.append_nil _
    rw [inputs_seen, filterMap_seen, nothing, frames, ← List.append_assoc, ← side.frames]
    rfl
  · have arrived : queued (glances ++ (glance? (.move .listener) before after).toList) =
        queued glances ++ arrival.toList.map OutboundReply.data := by
      rw [queued_seen]
      simp only [glance?, Option.bind_some, items, arrival?_append]
    rw [inputs_seen, arrived, List.append_assoc, ← List.map_append, ← owed, ← List.append_assoc,
      ← side.replies]
    exact whole

theorem HostSide.stepMapper (side : HostSide first glances before)
    (moved : before.stepMapper = some after)
    (smooth : ∀ glance, glance? (.move .mapper) before after = some glance →
      glance.isSmooth = true) :
    HostSide first (glances ++ (glance? (.move .mapper) before after).toList) after := by
  have turn := stepMapper_turn moved
  obtain ⟨_, _, _, same⟩ := stepMapper_footprint moved
  have listener : after.listener = before.listener := same ▸ rfl
  have gentle := smooth _ rfl
  simp only [Glance.isSmooth, Bool.and_eq_true, Bool.not_eq_true'] at gentle
  obtain ⟨arrival, items, owed, sound⟩ := turn.dueFrames side.served side.mapping gentle.1
  have nothing : inputs (glances ++ (glance? (.move .mapper) before after).toList) =
      inputs glances := by
    rw [inputs_seen]
    exact List.append_nil _
  have unmoved : queued (glances ++ (glance? (.move .mapper) before after).toList) =
      queued glances := by
    rw [queued_seen]
    exact List.append_nil _
  refine ⟨stepMapper_served side.served moved, listener ▸ side.listening, sound,
    act_recorded side.recorded moved, ?_, ?_⟩
  · have arrived : framed (glances ++ (glance? (.move .mapper) before after).toList) =
        framed glances ++ arrival.toList := by
      rw [framed_seen]
      simp only [glance?, Option.bind_some, items, arrival?_append]
    have frames : before.dueFrames = arrival.toList ++ after.dueFrames := by
      simp only [dueFrames, dueMessages, listener, List.filterMap_append, ← List.append_assoc] at owed ⊢
      rw [owed]
    rw [nothing, arrived, List.append_assoc, ← frames]
    exact side.frames
  · rw [nothing, unmoved, listener]
    exact side.replies

theorem HostSide.act {next : Act} (side : HostSide first glances before)
    (acted : before.act next = some after) (goesOn : next.goesOn = true)
    (smooth : ∀ glance, glance? next before after = some glance → glance.isSmooth = true) :
    HostSide first (glances ++ (glance? next before after).toList) after := by
  by_cases listens : next = .move .listener
  · subst listens
    exact side.stepListener acted smooth
  by_cases maps : next = .move .mapper
  · subst maps
    exact side.stepMapper acted smooth
  have unseen : glance? next before after = none := by
    cases next with
    | move task =>
        cases task with
        | listener => exact absurd rfl listens
        | mapper => exact absurd rfl maps
        | _ => rfl
    | _ => rfl
  obtain ⟨⟨listener, mapper, reassembler, replies⟩, served⟩ :=
    act_apart side.served acted goesOn listens maps
  have frames : after.dueFrames = before.dueFrames := by
    rw [dueFrames, dueFrames, dueMessages, dueMessages, mapper, listener, replies]
  rw [unseen, Option.toList_none, List.append_nil]
  exact ⟨served, listener ▸ side.listening, mapper ▸ side.mapping,
    side.recorded.kept listener reassembler, frames ▸ side.frames, listener ▸ side.replies⟩

/-! ### Whole runs -/

/-- A run that goes on and in which nothing is held up beyond its time; it hides what is done, but not
what is seen. -/
structure Smooth (before : Bridge) (glances : List Glance) (after : Bridge) : Prop where
  ran : ∃ acts, before.watch glance? acts = some (glances, after) ∧
    ∀ next ∈ acts, next.goesOn = true
  smooth : ∀ glance ∈ glances, glance.isSmooth = true

theorem HostSide.watch {acts : List Act} {seen : List Glance} (side : HostSide first seen before)
    (watched : before.watch glance? acts = some (glances, after))
    (goesOn : ∀ next ∈ acts, next.goesOn = true)
    (smooth : ∀ glance ∈ glances, glance.isSmooth = true) :
    HostSide first (seen ++ glances) after := by
  induction acts generalizing before seen glances with
  | nil =>
      cases watched
      rw [List.append_nil]
      exact side
  | cons next rest ih =>
      obtain ⟨middle, later, acted, remaining, rfl⟩ := watch_cons_invert watched
      have moved := side.act acted (goesOn next (by simp)) fun glance shown =>
        smooth glance (by simp [shown])
      rw [← List.append_assoc]
      exact ih moved remaining (fun act member => goesOn act (by simp [member]))
        fun glance member => smooth glance (List.mem_append_right _ member)

/-- Listener and mapper wait for something new, and all that was for the mapper has been taken. -/
structure Settled (bridge : Bridge) : Prop where
  listening : bridge.isListening = true
  mapping : bridge.mapper = .listening
  taken : bridge.replies.items workerSubscriber = []

theorem Settled.hostSide (settled : bridge.Settled) (served : bridge.Served) :
    HostSide bridge.reassembler [] bridge := by
  obtain ⟨listening, mapping, taken⟩ := settled
  have quiet := quiet_of_listening listening
  refine ⟨served, quiet.sound, mapping ▸ trivial, .of_listening listening rfl, ?_, ?_⟩
  · rw [dueFrames, dueMessages, mapping, taken, quiet.owedMessage]
    rfl
  · rw [quiet.looked, quiet.owedReply]
    rfl

/-- In a settled bridge, all that was due has come. -/
theorem HostSide.settled (side : HostSide first glances bridge) (settled : bridge.Settled) :
    framed glances = (inputs glances).filterMap Input.answer? ∧
      queued glances = largeReplies first (inputs glances) := by
  obtain ⟨listening, mapping, taken⟩ := settled
  have quiet := quiet_of_listening listening
  have frames := side.frames
  have replies := side.replies
  rw [dueFrames, dueMessages, mapping, taken, quiet.owedMessage] at frames
  rw [quiet.looked, quiet.owedReply] at replies
  exact ⟨(frames.trans (List.append_nil _)).symm, (replies.trans (List.append_nil _)).symm⟩

/-- As long as it is not settled, the listener or the mapper moves, unless it has to wait for room or
for others who publish. -/
theorem HostSide.moves (side : HostSide first glances bridge) (timely : bridge.listenerWaits = false)
    (prompt : bridge.mapperWaits = false) (still : ¬ bridge.Settled) :
    (bridge.step .listener).isSome = true ∨ (bridge.step .mapper).isSome = true := by
  have steps : ∀ {Content : Type} {publication : Publication Content} {topic : Topic Content},
      publication.waits topic = false →
      ∃ after progress, publication.step bridge.now topic = some (after, progress) := by
    intro Content publication topic ready
    obtain ⟨⟨after, progress⟩, stepped⟩ :=
      Option.isSome_iff_exists.mp (Publication.step_isSome ready bridge.now)
    exact ⟨after, progress, stepped⟩
  cases listener : bridge.listener with
  | forwarding channel data publication =>
      simp only [listenerWaits, listener] at timely
      obtain ⟨replies, progress, stepped⟩ := steps timely
      left
      cases progress <;> simp [step, Bridge.stepListener, listener, stepReply, stepped]
  | replying publication =>
      simp only [listenerWaits, listener] at timely
      obtain ⟨outbound, progress, stepped⟩ := steps timely
      left
      cases progress <;> simp [step, Bridge.stepListener, listener, stepOutbound, stepped]
  | stopped =>
      have sound := side.listening
      rw [listener] at sound
      exact sound.elim
  | listening silence =>
      right
      cases mapper : bridge.mapper with
      | publishing publication =>
          simp only [mapperWaits, mapper] at prompt
          obtain ⟨canFrames, progress, stepped⟩ := steps prompt
          cases progress <;> simp [step, Bridge.stepMapper, mapper, stepFrame, stepped]
      | stopped =>
          have sound := side.mapping
          rw [mapper] at sound
          exact sound.elim
      | listening =>
          have listens : bridge.isListening = true := by rw [isListening, listener]
          have waiting : bridge.replies.receive workerSubscriber ≠ none := fun nothing =>
            still ⟨listens, mapper, Topic.items_of_receive_none nothing⟩
          obtain ⟨received, found⟩ := Option.ne_none_iff_exists'.mp waiting
          simp [step, Bridge.stepMapper, mapper, found]

end Bridge

end CameraBridge
