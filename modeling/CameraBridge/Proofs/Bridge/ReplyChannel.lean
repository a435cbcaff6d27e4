import CameraBridge.Proofs.Bridge.Gathering
import CameraBridge.Proofs.Reassembly.History
import CameraBridge.Proofs.Record.RoundTrip

namespace CameraBridge

/-! The channel that a large reply names. What is learnt from a body is learnt for the channel of its
start frame, but the reply for the host goes under the channel of the notification that completed it.
The two agree for a camera that does not begin a message on one channel and go on with it on
another. -/

open Reassembler (Input Opened Completes gathered partAt)

namespace Header

/-- A start frame declares no more than its sixteen bits can say. -/
theorem declared_lt {frame : Bytes} {lengthClass : LengthClass} {declared : Nat}
    {feature action : Option UInt8}
    (read : Header.read frame = .ok (.start lengthClass declared feature action)) :
    declared < 65536 := by
  unfold Header.read at read
  split at read
  · cases read
  · next first rest =>
      have bound := first.toNat_lt
      split at read
      · cases read
      · split at read
        · cases read
          omega
        · split at read
          · split at read
            · next low tail =>
                have small := low.toNat_lt
                cases read
                omega
            · cases read
          · split at read
            · split at read
              · next high low tail =>
                  have large := high.toNat_lt
                  have small := low.toNat_lt
                  cases read
                  omega
              · cases read
            · cases read

end Header

namespace Reassembler

variable {inputs : List Input} {position first : Nat} {channel : Channel}

/-- The notification that completes a body brings some of it. -/
theorem Completes.last_part {assembled : Assembled} (completes : Completes inputs position assembled) :
    partAt inputs position ≠ [] := by
  obtain ⟨first, channel, declared, opened, unfilled, whole, -⟩ := completes
  have before := opened.before
  have positive := opened.positive
  have grown : gathered inputs first (position + 1) =
      gathered inputs first position ++ partAt inputs position := gathered_succ (by omega)
  intro nothing
  rw [grown, nothing, List.append_nil] at whole
  rcases Nat.lt_or_eq_of_le (Nat.lt_succ_iff.mp before) with earlier | rfl
  · have short := unfilled position earlier (Nat.le_refl _)
    omega
  · rw [gathered_self, List.length_nil] at whole
    omega

end Reassembler

namespace Bridge

open Reassembler

variable {before after : Bridge} {channel : Channel} {data : Bytes}

/-- All bytes of a body came on its channel. -/
def OnChannel (heard : List Input) (first : Nat) (channel : Channel) : Prop :=
  ∀ position target frame, first ≤ position → heard[position]? = some (.push target frame) →
    partAt heard position ≠ [] → target = channel

theorem reply?_of_listening {bridge : Bridge} (listens : bridge.isListening = true) :
    bridge.listener.reply? = none := by
  obtain ⟨silence, listening⟩ := listener_of_listening listens
  rw [listening]
  rfl

/-- A large reply that the listener hands over is the body that its last notification completes. -/
theorem handed_complete {first : Reassembler} {glances : List Glance} {glance : Glance} {next : Act}
    {reply : OutboundReply} (recorded : Recorded first (inputs glances) before)
    (acted : before.act next = some after) (seen : glance? next before after = some glance)
    (handed : glance.handed = some reply) :
    ∃ earlier channel data assembled,
      inputs (glances ++ [glance]) = earlier ++ [.push channel data] ∧
      ((first.run earlier).push channel data).2 = .ok (some assembled) ∧
      after.device = (Demuxed.ofReply assembled before.device).2 ∧
      reply.data = (Envelope.toChannel channel assembled.body).toBytes := by
  have listens : next = .move .listener := by
    cases next with
    | move task =>
        cases task with
        | listener => rfl
        | mapper => cases seen; cases handed
        | _ => cases seen
    | _ => cases seen
  subst listens
  have turn := stepListener_turn acted
  have grown : inputs (glances ++ [glance]) = inputs glances ++ before.nextInput?.toList := by
    cases seen
    exact inputs_seen glances (some _)
  have begun : before.listener.reply? = none ∧
      after.listener.reply?.map Publication.message = some reply := by
    cases seen
    simp only at handed
    split at handed
    · next quiet => exact ⟨quiet, handed⟩
    · cases handed
  obtain ⟨quiet, begun⟩ := begun
  have looked : ∀ {earlier channel data}, Looked before.lookDesk channel data after →
      before.reassembler = first.run earlier → ∃ assembled,
        ((first.run earlier).push channel data).2 = .ok (some assembled) ∧
        after.device = (Demuxed.ofReply assembled before.device).2 ∧
        reply.data = (Envelope.toChannel channel assembled.body).toBytes := by
    intro earlier channel data looked gathered
    rw [← gathered]
    cases looked with
    | incomplete nothing reassembler outbound listens =>
        rw [reply?_of_listening listens] at begun
        cases begun
    | kept assembled complete small reassembler device outbound listens =>
        rw [reply?_of_listening listens] at begun
        cases begun
    | handed assembled publication grant complete large available reassembler device started is =>
        rw [is] at begun
        have message := Publication.started_message started
        refine ⟨assembled, complete, device, ?_⟩
        rw [← Option.some.inj begun, message]
  rw [grown]
  generalize before.nextInput? = input at turn
  cases turn with
  | aside listened reassembler replies outbound listens =>
      rw [reply?_of_listening listens] at begun
      cases begun
  | reset listened reassembler replies outbound listens =>
      rw [reply?_of_listening listens] at begun
      cases begun
  | answering channel data message publication listened asked started reassembler outbound is =>
      rw [is] at begun
      cases begun
  | looking channel data listened unasked replies looking =>
      obtain ⟨assembled, found⟩ := looked looking (recorded.listening listened)
      exact ⟨inputs glances, channel, data, assembled, rfl, found⟩
  | forwarding channel data publication later delivered was stepped reassembler outbound is =>
      rw [is] at begun
      cases begun
  | forwarded channel data publication result was stepped looking =>
      obtain ⟨earlier, last, gathered⟩ := recorded.forwarding was
      obtain ⟨assembled, found⟩ := looked looking gathered
      exact ⟨earlier, channel, data, assembled, by rw [Option.toList_none, List.append_nil, last],
        found⟩
  | replying publication later delivered was =>
      rw [was] at quiet
      cases quiet
  | replied publication result was =>
      rw [was] at quiet
      cases quiet

theorem start_recorded (timing : Timing) (queueDepth : Nat) (state : DeviceState)
    (links : OpenLinks) : Recorded .idle [] (start timing queueDepth state links) := by
  obtain ⟨camera, bus⟩ := links
  cases camera with
  | true => exact .of_listening rfl rfl
  | false => exact .stopped rfl

theorem recorded_watch {timing : Timing} {queueDepth : Nat} {state : DeviceState}
    {links : OpenLinks} {acts : List Act} {glances : List Glance} {last : Bridge}
    (watched : (start timing queueDepth state links).watch glance? acts = some (glances, last)) :
    Recorded .idle (inputs glances) last :=
  watch_history (fun glances bridge => Recorded .idle (inputs glances) bridge)
    (fun _ _ _ _ recorded acted => act_recorded recorded acted)
    (start_recorded timing queueDepth state links) watched

/-- Whatever the camera notifies, a large reply carries one message, and what is learnt from it is
learnt for the channel of its start frame. The bytes are those of the frames since then, on whatever
channels they came. If all of them came on that channel, the reply names it. -/
theorem large_reply_of_one_message {timing : Timing} {queueDepth : Nat} {state : DeviceState}
    {links : OpenLinks} {acts : List Act} {earlier later : List Glance} {glance : Glance}
    {last : Bridge} {reply : OutboundReply}
    (watched : (start timing queueDepth state links).watch glance? acts =
      some (earlier ++ glance :: later, last))
    (handed : glance.handed = some reply) :
    let heard := inputs (earlier ++ [glance])
    ∃ first channel declared envelope, Opened heard first heard.length channel declared ∧
      Envelope.ofBytes reply.data = .ok envelope ∧
      envelope.data = gathered heard first heard.length ∧ envelope.data.length = declared ∧
      (∃ done next rest before after, acts = done ++ next :: rest ∧
        (start timing queueDepth state links).watch glance? done = some (earlier, before) ∧
        before.act next = some after ∧
        after.device =
          (Demuxed.ofReply ⟨channel, envelope.data, heard.length - first⟩ before.device).2) ∧
      (OnChannel heard first channel → envelope.destination = .ok (.channel channel)) := by
  obtain ⟨done, next, rest, before, after, split, walked, acted, seen, -⟩ := watch_split watched
  obtain ⟨past, target, data, assembled, heard, complete, device, bytes⟩ :=
    handed_complete (recorded_watch walked) acted seen handed
  intro all
  have every : all = past ++ [.push target data] := heard
  clear_value all
  subst every
  have found : (past ++ [.push target data])[past.length]? = some (Input.push target data) := by
    simp
  have count : (past ++ [Input.push target data]).length = past.length + 1 := by simp
  have whole : Completes (past ++ [.push target data]) past.length assembled := by
    rw [← outcomeAt_completes_iff, outcomeAt_push found, reached, List.take_left, complete]
  have brings := whole.last_part
  obtain ⟨first, channel, declared, opened, -, filled, rfl⟩ := whole
  have bounded : declared < 65536 := by
    obtain ⟨frame, lengthClass, feature, action, -, read⟩ := opened.opens
    exact Header.declared_lt read
  have ordered := opened.before
  have size : past.length + 1 - first = past.length - first + 1 := by omega
  rw [count]
  let body := gathered (past ++ [Input.push target data]) first (past.length + 1)
  refine ⟨first, channel, declared, Envelope.toChannel target body, opened, ?_, rfl, filled,
    ⟨done, next, rest, before, after, split, walked, acted, ?_⟩, ?_⟩
  · rw [bytes]
    have size : body.length = declared := filled
    apply Envelope.ofBytes_toBytes
    change body.length < 2 ^ 64
    omega
  · rw [device, size]
    rfl
  · intro same
    have agree : target = channel := same past.length target data (by omega) found brings
    rw [Envelope.destination_toChannel, agree]

/-- A body of twenty-one bytes that begins on the query channel. -/
def crossedStart : Bytes := 0x20 :: 0x15 :: List.replicate 18 7

def crossedEnd : Bytes := [0x80, 1, 2, 3]

/-- Two notifications, and the moves in which the listener forwards the first and looks into both. -/
def twoNotifications (ending : Channel) : List Act :=
  [.relink
      { events :=
          { unread := [.notification .query crossedStart, .notification ending crossedEnd] } }
      {} {} {}] ++
    List.replicate 5 (.move .listener)

def crossedReply (ending : Channel) : OutboundReply :=
  ⟨(Envelope.toChannel ending (List.replicate 18 7 ++ [1, 2, 3])).toBytes, 0⟩

def crossedGlances (ending : Channel) : List Glance :=
  [{ input := some (.push .query crossedStart) }, {}, {}, {},
    { input := some (.push ending crossedEnd), handed := some (crossedReply ending) }]

theorem watch_twoNotifications (ending : Channel) :
    ((start {} 16 {} {}).watch glance? (twoNotifications ending)).map Prod.fst =
      some (crossedGlances ending) := by
  cases ending <;> decide +kernel

/-- A body that begins on the query channel and ends on the settings channel goes to the host under
the settings channel. -/
theorem large_reply_of_crossed_channels : ¬ ∀ (timing : Timing) (queueDepth : Nat)
    (state : DeviceState) (links : OpenLinks) (acts : List Act) (earlier later : List Glance)
    (glance : Glance) (last : Bridge) (reply : OutboundReply),
    (start timing queueDepth state links).watch glance? acts =
        some (earlier ++ glance :: later, last) →
      glance.handed = some reply →
        ∀ first channel declared envelope,
          Opened (inputs (earlier ++ [glance])) first (inputs (earlier ++ [glance])).length channel
            declared →
          Envelope.ofBytes reply.data = .ok envelope →
            envelope.destination = .ok (.channel channel) := by
  intro named
  obtain ⟨⟨glances, last⟩, watched, shown⟩ :=
    Option.map_eq_some_iff.mp (watch_twoNotifications .settings)
  simp only at shown
  subst shown
  have opened : Opened (inputs (crossedGlances .settings)) 0 2 .query 21 := by
    refine ⟨by decide, ⟨crossedStart, .medium, some 7, some 7, rfl, rfl⟩, by decide, ?_⟩
    intro position after inside
    obtain rfl : position = 1 := by omega
    exact ⟨.settings, crossedEnd, 0, rfl, rfl⟩
  have same := named {} 16 {} {} _ ((crossedGlances .settings).take 4) [] _ last _ watched rfl 0
    .query 21 _ opened (Envelope.ofBytes_toBytes _ (by decide))
  rw [Envelope.destination_toChannel] at same
  cases same

/-- The same body, all of it on the query channel. -/
theorem large_reply_of_one_message_on_query : ∃ reply envelope,
    ((crossedGlances .query).map Glance.handed) = [none, none, none, none, some reply] ∧
      Envelope.ofBytes reply.data = .ok envelope ∧
      envelope.destination = .ok (.channel .query) := by
  obtain ⟨⟨glances, last⟩, watched, shown⟩ :=
    Option.map_eq_some_iff.mp (watch_twoNotifications .query)
  simp only at shown
  subst shown
  have split : crossedGlances .query = (crossedGlances .query).take 4 ++
      ⟨some (.push .query crossedEnd), some (crossedReply .query), none, none, false, false⟩ :: [] :=
    rfl
  rw [split] at watched
  obtain ⟨first, channel, declared, envelope, opened, read, -, -, -, named⟩ :=
    large_reply_of_one_message watched rfl
  have query : ∀ (position : Nat) (target : Channel) (frame : Bytes),
      (inputs (crossedGlances .query))[position]? = some (Input.push target frame) →
        target = .query := by
    intro position target frame found
    match position with
    | 0 | 1 => cases found; rfl
    | _ + 2 => cases found
  obtain ⟨frame, lengthClass, feature, action, found, -⟩ := opened.opens
  obtain rfl := query first channel frame found
  exact ⟨_, envelope, rfl, read, named fun position target frame _ found _ =>
    query position target frame found⟩

end Bridge

end CameraBridge
