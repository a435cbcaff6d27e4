import CameraBridge.Bridge.Policy
import CameraBridge.Proofs.Framing.RoundTrip
import CameraBridge.Proofs.Record.RoundTrip
import CameraBridge.Reply
import Mathlib.Data.List.Forall2

namespace CameraBridge

/-! What the host is to get of the camera's notifications: a frame for each that starts a message, and
a large reply for each body that no single frame holds. -/

open Reassembler (Input Outcome notifications allNotifications arrival arrival_succ observe_ofBody)

/-- The frame that answers a message, if its channel has one. -/
def Message.frame? (message : Message) : Option CanFrame :=
  (ReplyFrame.ofNotification? message.channel message.payload).map ReplyFrame.frame

namespace Reassembler.Input

/-- The message that a notification is answered with. -/
def message? : Input → Option Message
  | .push channel data => forwarded? channel data
  | .reset => none

/-- The frame that a notification is answered with. -/
def answer? (input : Input) : Option CanFrame := input.message?.bind Message.frame?

end Reassembler.Input

/-- The large reply that a notification leads to, with the outcome of gathering it. -/
def largeReply? (input : Input) (outcome : Option Outcome) : Option Bytes :=
  match input, outcome with
  | .push channel data, some (.ok (some assembled)) =>
      if assembled.isLarge data then some (Envelope.toChannel channel assembled.body).toBytes
      else none
  | _, _ => none

/-- The large replies that notifications lead to, in order. -/
def largeReplies (reassembler : Reassembler) : List Input → List Bytes
  | [] => []
  | input :: rest =>
      (largeReply? input (reassembler.outcome? input)).toList ++
        largeReplies (reassembler.after input) rest

theorem largeReplies_append (reassembler : Reassembler) (earlier later : List Input) :
    largeReplies reassembler (earlier ++ later) =
      largeReplies reassembler earlier ++ largeReplies (reassembler.run earlier) later := by
  induction earlier generalizing reassembler with
  | nil => rfl
  | cons input rest ih =>
      simp only [List.cons_append, largeReplies, ih, List.append_assoc]
      rfl

theorem largeReplies_push (reassembler : Reassembler) (channel : Channel) (data : Bytes) :
    largeReplies reassembler [.push channel data] =
      (largeReply? (.push channel data) (some (reassembler.push channel data).2)).toList :=
  List.append_nil _

/-- Notifications of which only the last one completes a body lead to the large reply of that one. -/
theorem largeReplies_of_arrival {reassembler : Reassembler} {channel : Channel}
    {earlier : List Bytes} {last : Bytes} {assembled : Assembled}
    (observed : reassembler.observe (notifications channel (earlier ++ [last])) =
      arrival (earlier.length + 1) assembled) :
    largeReplies reassembler (notifications channel (earlier ++ [last])) =
      (largeReply? (.push channel last) (some (.ok (some assembled)))).toList := by
  induction earlier generalizing reassembler with
  | nil =>
      obtain ⟨⟨outcome, -⟩, -⟩ := List.cons.inj observed |>.imp_left Prod.mk.inj
      have complete : (reassembler.push channel last).2 = .ok (some assembled) :=
        Option.some.inj outcome
      rw [← complete]
      exact largeReplies_push reassembler channel last
  | cons frame rest ih =>
      rw [List.length_cons, arrival_succ (Nat.succ_pos _)] at observed
      obtain ⟨⟨outcome, -⟩, remaining⟩ := List.cons.inj observed |>.imp_left Prod.mk.inj
      have nothing : largeReply? (.push channel frame)
          (reassembler.outcome? (.push channel frame)) = none := by
        rw [outcome]
        rfl
      rw [← ih remaining]
      change (largeReply? _ _).toList ++ largeReplies _ _ = _
      rw [nothing]
      rfl

/-! ### The frames of a body -/

section

variable {channel : Channel} {data body : Bytes}

theorem forwarded?_start {lengthClass : LengthClass} {declared : Nat} {feature action : Option UInt8}
    (read : Header.read data = .ok (.start lengthClass declared feature action))
    (fits : data.length ≤ maxWrite) : forwarded? channel data = some ⟨channel, data, fits⟩ := by
  simp only [forwarded?, read, Message.make, dif_pos fits]
  rfl

theorem forwarded?_continuations (channel : Channel) (sequence : Nat) (rest : Bytes) :
    ∀ frame ∈ Frame.continuations sequence rest, forwarded? channel frame = none := by
  -- On the number of bytes that are left, of which each continuation takes nineteen.
  induction size : rest.length using Nat.strongRecOn generalizing sequence rest with
  | ind size ih =>
      subst size
      intro frame member
      cases rest with
      | nil => simp [Frame.continuations] at member
      | cons byte tail =>
          rw [Frame.continuations_cons sequence (List.cons_ne_nil byte tail)] at member
          rcases List.mem_cons.mp member with rfl | later
          · simp only [forwarded?, Header.read_continuation]
          · refine ih _ ?_ (sequence + 1) _ rfl frame later
            simp only [Frame.chunk, maxWrite, List.length_drop, List.length_cons]
            omega

/-- What the frames of a body have to do with its length. -/
inductive Split (body : Bytes) : List Bytes → Prop where
  | alone (fits : body.length ≤ Frame.chunk) : Split body [UInt8.ofNat body.length :: body]
  | several (first : Bytes) (rest : List Bytes) (long : Frame.chunk < body.length)
      (full : first.length = maxWrite) (more : rest ≠ []) : Split body (first :: rest)

/-- The first frame of a body is answered and no other one is. -/
theorem answered_fill {header : Bytes} (lengthClass : LengthClass) {feature action : Option UInt8}
    (channel : Channel) (wide : 0 < header.length) (narrow : header.length ≤ 3)
    (read : Header.read (header ++ body.take (maxWrite - header.length)) =
      .ok (.start lengthClass body.length feature action))
    (long : Frame.chunk < body.length) :
    ∃ first rest, Frame.fill header body = first :: rest ∧ Split body (first :: rest) ∧
      (∃ fits, forwarded? channel first = some ⟨channel, first, fits⟩) ∧
      ∀ frame ∈ rest, forwarded? channel frame = none := by
  simp only [Frame.chunk, maxWrite, Nat.reduceSub] at long
  have full : (header ++ body.take (maxWrite - header.length)).length = maxWrite := by
    rw [List.length_append, List.length_take]
    simp only [maxWrite]
    omega
  have left : body.drop (maxWrite - header.length) ≠ [] := by
    intro empty
    have covered := List.drop_eq_nil_iff.mp empty
    simp only [maxWrite] at covered
    omega
  have more := Frame.continuations_length_pos 0 left
  refine ⟨_, _, rfl, .several _ _ (by simpa [Frame.chunk, maxWrite] using long) full ?_,
    ⟨_, forwarded?_start read (Nat.le_of_eq full)⟩, forwarded?_continuations channel 0 _⟩
  exact List.ne_nil_of_length_pos more

theorem answered_ofBody (channel : Channel) {frames : List Bytes}
    (made : Frame.ofBody body = .ok frames) :
    ∃ first rest, frames = first :: rest ∧ Split body (first :: rest) ∧
      (∃ fits, forwarded? channel first = some ⟨channel, first, fits⟩) ∧
      ∀ frame ∈ rest, forwarded? channel frame = none := by
  cases Frame.framed_of_ofBody made with
  | alone short =>
      have fits : (UInt8.ofNat body.length :: body).length ≤ maxWrite := by
        simp only [Frame.chunk, maxWrite, List.length_cons] at short ⊢
        omega
      have read := Header.read_short
        (show body.length < 32 by simp only [Frame.chunk, maxWrite] at short; omega) body
      exact ⟨_, [], rfl, .alone short, ⟨fits, forwarded?_start read fits⟩, by simp⟩
  | filled long width read =>
      have bounds := (LengthClass.ofLength body.length).headerLength_bounds
      rw [← width] at bounds
      exact answered_fill _ channel bounds.1 bounds.2 (read _) long

/-! ### What the host gets of a body -/

/-- A short body is one frame under the channel's identifier, which is every other one from `773` on; any
other body is a large reply, and on the bus the fixed error frame: the byte `FF` under the identifier
`740`. -/
inductive Delivered (channel : Channel) (body : Bytes) : CanFrame → Option Bytes → Prop where
  | framed (frame : CanFrame) (short : body.length ≤ 7) (id : channel.replyId? = some frame.id)
      (number : frame.id = 0x773 + 2 * channel.wire.toUInt16)
      (whole : Frame.ofBody body = .ok [frame.payload])
      (clean : ReplyFrame.ofNotification? channel frame.payload = some ⟨frame, none⟩) :
      Delivered channel body frame none
  | enveloped (frame : CanFrame) (reply : Bytes) (envelope : Envelope) (long : 7 < body.length)
      (id : frame.id = 0x740) (dlc : frame.dlc = 1)
      (data : frame.data = [0xFF, 0, 0, 0, 0, 0, 0, 0])
      (decoded : Envelope.ofBytes reply = .ok envelope)
      (target : envelope.destination = .ok (.channel channel)) (whole : envelope.data = body) :
      Delivered channel body frame (some reply)

theorem replyId?_of_isBle (ble : channel.isBle = true) :
    channel.replyId? = some (0x773 + 2 * channel.wire.toUInt16) := by
  cases channel with
  | control => cases ble
  | cmd | settings | query | net => decide

theorem payload_raw (id : UInt16) {payload : Bytes} (fits : payload.length ≤ maxFrame) :
    (CanFrame.raw id (UInt8.ofNat payload.length) payload).payload = payload := by
  have value : (UInt8.ofNat payload.length).toNat = payload.length :=
    UInt8.toNat_ofNat_of_lt' (Nat.lt_of_le_of_lt fits (by decide))
  simp only [CanFrame.payload, CanFrame.raw, value, CanFrame.pad, List.take_take,
    Nat.min_eq_left fits, List.take_left]

theorem ofNotification?_oversize {id : UInt16} {payload : Bytes} (replies : channel.replyId? = some id)
    (oversize : maxFrame < payload.length) :
    ReplyFrame.ofNotification? channel payload =
      some ⟨CanFrame.errorFrame, some (.oversize payload.length)⟩ := by
  simp only [ReplyFrame.ofNotification?, replies, Option.map_some, if_pos oversize]

theorem ofNotification?_short {id : UInt16} (replies : channel.replyId? = some id)
    (short : body.length ≤ 7) :
    let payload := UInt8.ofNat body.length :: body
    ReplyFrame.ofNotification? channel payload =
      some ⟨CanFrame.raw id (UInt8.ofNat payload.length) payload, none⟩ := by
  have fits : ¬ maxFrame < (UInt8.ofNat body.length :: body).length := by
    simp only [maxFrame, List.length_cons]
    omega
  have value : (UInt8.ofNat body.length).toNat = body.length :=
    UInt8.toNat_ofNat_of_lt' (Nat.lt_of_le_of_lt short (by decide))
  simp only [ReplyFrame.ofNotification?, replies, Option.map_some, if_neg fits,
    ReplyFrame.lengthWarning, value, if_true]

theorem decoded_reply (channel : Channel) (bounded : body.length ≤ Frame.maxBody) :
    Envelope.ofBytes (Envelope.toChannel channel body).toBytes =
      .ok (Envelope.toChannel channel body) := by
  apply Envelope.ofBytes_toBytes
  exact Nat.lt_of_le_of_lt bounded (by decide)

/-- A body goes out as a large reply if and only if no single frame holds its notification. -/
theorem Split.isLarge_eq {earlier : List Bytes} {last : Bytes} (split : Split body (earlier ++ [last]))
    (channel : Channel) :
    Assembled.isLarge ⟨channel, body, (earlier ++ [last]).length⟩ last =
      decide (7 < body.length) := by
  generalize whole : earlier ++ [last] = frames at split
  cases split with
  | alone fits =>
      obtain ⟨-, same⟩ := List.append_inj' (whole.trans (List.nil_append _).symm) rfl
      cases same
      simp only [Assembled.isLarge, List.length_singleton, Nat.lt_irrefl, decide_false, Bool.false_or]
      exact decide_eq_decide.mpr Nat.succ_lt_succ_iff
  | several first rest long full more =>
      have count : 1 < (first :: rest).length := Nat.succ_lt_succ (List.length_pos_iff.mpr more)
      have later : 7 < body.length := Nat.lt_of_le_of_lt (by decide) long
      simp only [Assembled.isLarge, count, later, decide_true, Bool.true_or]

theorem Split.first_long {first : Bytes} {rest : List Bytes} (split : Split body (first :: rest))
    (long : 7 < body.length) : maxFrame < first.length := by
  cases split with
  | alone fits => exact Nat.succ_lt_succ long
  | several _ _ long full more =>
      rw [full]
      decide

theorem Split.first_short {first : Bytes} {rest : List Bytes} (split : Split body (first :: rest))
    (short : body.length ≤ 7) : first = UInt8.ofNat body.length :: body ∧ rest = [] := by
  cases split with
  | alone fits => exact ⟨rfl, rfl⟩
  | several _ _ long => exact absurd (Nat.lt_of_lt_of_le long short) (by decide)

/-- The notifications of a body are answered by what the first of them is answered with. -/
theorem answers_eq {first : Bytes} {rest : List Bytes} {answer : ReplyFrame}
    (answered : ∃ fits, forwarded? channel first = some ⟨channel, first, fits⟩)
    (unanswered : ∀ frame ∈ rest, forwarded? channel frame = none)
    (mapped : ReplyFrame.ofNotification? channel first = some answer) :
    (notifications channel (first :: rest)).filterMap Input.answer? = [answer.frame] := by
  obtain ⟨fits, answered⟩ := answered
  have answer : Input.answer? (.push channel first) = some answer.frame := by
    simp only [Input.answer?, Input.message?, answered, Option.bind_some, Message.frame?, mapped,
      Option.map_some]
  have others : (notifications channel rest).filterMap Input.answer? = [] := by
    rw [List.filterMap_eq_nil_iff]
    intro input member
    obtain ⟨frame, inside, rfl⟩ := List.mem_map.mp member
    simp only [Input.answer?, Input.message?, unanswered frame inside, Option.bind_none]
  change (Input.push channel first :: notifications channel rest).filterMap Input.answer? = _
  rw [List.filterMap_cons_some answer, others]

/-- The frames of a body lead to one large reply, with the whole body, if the body is long. -/
theorem largeReplies_ofBody {frames : List Bytes} (nonempty : 1 ≤ body.length)
    (bounded : body.length ≤ Frame.maxBody) (made : Frame.ofBody body = .ok frames)
    (split : Split body frames) (reassembler : Reassembler) :
    largeReplies reassembler (notifications channel frames) =
      if 7 < body.length then [(Envelope.toChannel channel body).toBytes] else [] := by
  obtain ⟨same, made', observed, -⟩ := observe_ofBody reassembler channel body nonempty bounded
  cases made.symm.trans made'
  have any : frames ≠ [] := by cases split <;> exact List.cons_ne_nil _ _
  obtain ⟨earlier, last, rfl⟩ : ∃ earlier last, frames = earlier ++ [last] :=
    ⟨_, _, (List.dropLast_concat_getLast any).symm⟩
  rw [List.length_append, List.length_singleton] at observed
  rw [largeReplies_of_arrival observed, largeReply?]
  have large := split.isLarge_eq channel
  rw [List.length_append, List.length_singleton] at large
  simp only [large, decide_eq_true_eq]
  split <;> rfl

/-- The frames of a body are answered by one frame, and lead to one large reply if it is long. -/
theorem delivered_ofBody {frames : List Bytes} (ble : channel.isBle = true)
    (nonempty : 1 ≤ body.length) (bounded : body.length ≤ Frame.maxBody)
    (made : Frame.ofBody body = .ok frames) (reassembler : Reassembler) :
    ∃ frame reply, (notifications channel frames).filterMap Input.answer? = [frame] ∧
      largeReplies reassembler (notifications channel frames) = Option.toList reply ∧
      Delivered channel body frame reply := by
  obtain ⟨first, rest, rfl, split, answered, unanswered⟩ := answered_ofBody channel made
  have replies := replyId?_of_isBle ble
  have led := @largeReplies_ofBody channel body _ nonempty bounded made split reassembler
  -- A notification is one byte longer than its body, so that the two limits are the same.
  by_cases long : 7 < body.length
  · have oversize := split.first_long long
    rw [if_pos long] at led
    have answer := answers_eq answered unanswered (ofNotification?_oversize replies oversize)
    rw [CanFrame.errorFrame_eq] at answer
    exact ⟨_, some _, answer, led,
      .enveloped _ _ _ long rfl rfl rfl (decoded_reply channel bounded)
        (Envelope.destination_toChannel channel body) rfl⟩
  · rw [if_neg long] at led
    have short := Nat.le_of_not_lt long
    obtain ⟨rfl, rfl⟩ := split.first_short short
    have clean := ofNotification?_short replies short
    have payload := @payload_raw (0x773 + 2 * channel.wire.toUInt16) (UInt8.ofNat body.length :: body)
      (Nat.succ_le_succ short)
    refine ⟨_, none, answers_eq answered unanswered clean, led, .framed _ short replies rfl ?_ ?_⟩
    · rw [payload]
      exact made
    · rw [payload]
      exact clean

end

/-- Bodies one after the other are each delivered, in order. -/
theorem delivered_bodies {bodies : List (Channel × Bytes)} {framed : List (List Bytes)}
    (sized : ∀ entry ∈ bodies, entry.1.isBle = true ∧ 1 ≤ entry.2.length ∧
      entry.2.length ≤ Frame.maxBody)
    (made : bodies.mapM (fun entry => Frame.ofBody entry.2) = .ok framed)
    (reassembler : Reassembler) :
    ∃ outcomes : List (CanFrame × Option Bytes),
      (allNotifications bodies framed).filterMap Input.answer? = outcomes.map Prod.fst ∧
      largeReplies reassembler (allNotifications bodies framed) = outcomes.filterMap Prod.snd ∧
      List.Forall₂ (fun entry outcome => Delivered entry.1 entry.2 outcome.1 outcome.2)
        bodies outcomes := by
  induction bodies generalizing framed reassembler with
  | nil => exact ⟨[], rfl, rfl, .nil⟩
  | cons entry rest ih =>
      obtain ⟨ble, nonempty, bounded⟩ := sized entry (by simp)
      rw [List.mapM_cons] at made
      cases first : Frame.ofBody entry.2 with
      | error cause => rw [first] at made; cases made
      | ok frames =>
          rw [first] at made
          cases others : rest.mapM (fun entry => Frame.ofBody entry.2) with
          | error cause => rw [others] at made; cases made
          | ok framed =>
              rw [others] at made
              cases made
              obtain ⟨frame, reply, answers, led, delivered⟩ :=
                delivered_ofBody ble nonempty bounded first reassembler
              obtain ⟨outcomes, restAnswers, restLed, restDelivered⟩ :=
                ih (fun other member => sized other (by simp [member])) others
                  (reassembler.run (notifications entry.1 frames))
              have whole : allNotifications (entry :: rest) (frames :: framed) =
                  notifications entry.1 frames ++ allNotifications rest framed := rfl
              refine ⟨(frame, reply) :: outcomes, ?_, ?_, .cons delivered restDelivered⟩
              · rw [whole, List.filterMap_append, answers, restAnswers]
                rfl
              · rw [whole, largeReplies_append, led, restLed]
                cases reply <;> rfl

end CameraBridge
