import CameraBridge.Reception.Basic

namespace CameraBridge

/-! What the items of the inbound link amount to, read one after the other: which of them complete a
payload. The transfers of a well-behaved link come out whole, each with its last segment, whatever
losses there are between them. -/

abbrev LinkItem := Except LinkError Segment

instance : DecidableEq LinkItem
  | .error cause, .error other => decidable_of_iff (cause = other) ⟨congrArg _, Except.error.inj⟩
  | .ok segment, .ok other => decidable_of_iff (segment = other) ⟨congrArg _, Except.ok.inj⟩
  | .error _, .ok _ | .ok _, .error _ => .isFalse nofun

/-- What is gathered with a segment, unless it does not fit. -/
def Segment.gathered (segment : Segment) : Option Gathering → Option Gathering
  | none =>
      if Receiver.maxBuffer < segment.data.length + segment.remaining then none
      else some ⟨segment.data.reverse, segment.remaining⟩
  | some gathering =>
      if gathering.room < segment.data.length then none
      else some ⟨segment.data.reverse ++ gathering.received, gathering.room - segment.data.length⟩

/-- What is still gathered after an item. -/
def LinkItem.leaves (item : LinkItem) (gathered : Option Gathering) : Option Gathering :=
  match item with
  | .error _ => none
  | .ok segment => if segment.remaining = 0 then none else segment.gathered gathered

/-- The payload that an item completes. -/
def LinkItem.payload (item : LinkItem) (gathered : Option Gathering) : Option Bytes :=
  match item with
  | .error _ => none
  | .ok segment =>
      if segment.remaining = 0 then
        (segment.gathered gathered).map fun gathering => gathering.received.reverse
      else none

/-- The payloads that items complete, beginning with what is gathered already. -/
def completed (gathered : Option Gathering) : List LinkItem → List Bytes
  | [] => []
  | item :: rest =>
      (LinkItem.payload item gathered).toList ++ completed (LinkItem.leaves item gathered) rest

/-! ### Receptions read so -/

/-- What a reception makes of an item. -/
inductive ItemRead (receiver : Receiver) (item : LinkItem) (gathered : Option Gathering) :
    Receiver × ReceptionProgress → Prop where
  | more {gathering : Gathering} (left : item.leaves gathered = some gathering)
      (incomplete : item.payload gathered = none) :
      ItemRead receiver item gathered (receiver, .going (.opening (some gathering)))
  | failure {cause : ReceptionError} (left : item.leaves gathered = none)
      (incomplete : item.payload gathered = none) (other : cause ≠ .busy)
      (open? : cause = .link .connectionClosed → item = .error .connectionClosed) :
      ItemRead receiver item gathered (receiver.fail cause)
  | whole {data : Bytes} (left : item.leaves gathered = none)
      (complete : item.payload gathered = some data) :
      ItemRead receiver item gathered (receiver.handOut data)

variable {receiver : Receiver} {segment : Segment} {gathered : Option Gathering}

theorem gather_read {gathering : Gathering} (fits : segment.gathered gathered = some gathering) :
    ItemRead receiver (.ok segment) gathered (receiver.gather gathering segment.remaining) := by
  unfold Receiver.gather
  by_cases last : segment.remaining = 0
  · rw [if_pos last]
    exact .whole (by simp [LinkItem.leaves, last]) (by simp [LinkItem.payload, last, fits])
  · rw [if_neg last]
    exact .more (by simp [LinkItem.leaves, last, fits]) (by simp [LinkItem.payload, last])

theorem overrun_read {cause : ReceptionError} (excess : segment.gathered gathered = none)
    (other : cause ≠ .busy) (open? : cause ≠ .link .connectionClosed) :
    ItemRead receiver (.ok segment) gathered (receiver.fail cause) := by
  refine .failure ?_ ?_ other fun same => absurd same open?
  · simp [LinkItem.leaves, excess]
  · simp [LinkItem.payload, excess]

theorem take_read (segment : Segment) (gathered : Option Gathering) (receiver : Receiver) :
    ItemRead receiver (.ok segment) gathered (receiver.take segment gathered) := by
  unfold Receiver.take
  cases gathered with
  | none =>
      by_cases large : Receiver.maxBuffer < segment.data.length + segment.remaining
      · simp only [if_pos large]
        exact overrun_read (by simp [Segment.gathered, large]) nofun nofun
      · simp only [if_neg large]
        exact gather_read (by simp [Segment.gathered, large])
  | some gathering =>
      by_cases large : gathering.room < segment.data.length
      · simp only [if_pos large]
        exact overrun_read (by simp [Segment.gathered, large]) nofun nofun
      · simp only [if_neg large]
        exact gather_read (by simp [Segment.gathered, large])

/-- A reception that waits finds the payload handed out last consumed, or its time over. -/
theorem waiting_moved {now deadline : Time} {previous : Nat} {link linkAfter : SegmentLink}
    {receiverAfter : Receiver} {progress : ReceptionProgress}
    (stepped : receiver.step now link (.waiting deadline previous) =
      some (linkAfter, receiverAfter, progress)) :
    linkAfter = link ∧
      (receiver.isFree previous = true ∧ receiverAfter = receiver ∧
          progress = .going (.opening none) ∨
        receiver.isFree previous = false ∧ deadline ≤ now ∧
          (receiverAfter, progress) = { receiver with outstanding := some previous }.fail .busy) := by
  simp only [Receiver.step] at stepped
  split at stepped
  · next free =>
      cases stepped
      exact ⟨rfl, .inl ⟨free, rfl, rfl⟩⟩
  · next kept =>
      split at stepped
      · cases stepped
      · next late =>
          cases stepped
          exact ⟨rfl, .inr ⟨eq_false_of_ne_true kept, Nat.le_of_not_lt late, rfl⟩⟩

theorem opening_moved {now : Time} {link linkAfter : SegmentLink} {receiverAfter : Receiver}
    {progress : ReceptionProgress}
    (stepped : receiver.step now link (.opening gathered) =
      some (linkAfter, receiverAfter, progress)) :
    linkAfter = link ∧
      (link.closed = true ∧
          (receiverAfter, progress) = receiver.fail (.link .connectionClosed) ∨
        link.closed = false ∧ receiverAfter = receiver ∧ progress = .going (.reading gathered)) := by
  simp only [Receiver.step] at stepped
  split at stepped
  · next closed =>
      cases stepped
      exact ⟨rfl, .inl ⟨closed, rfl⟩⟩
  · next goesOn =>
      cases stepped
      exact ⟨rfl, .inr ⟨eq_false_of_ne_true goesOn, rfl, rfl⟩⟩

/-- What a receiver makes of an item that a reception reads. -/
def Receiver.read (item : LinkItem) (gathered : Option Gathering) (receiver : Receiver) :
    Receiver × ReceptionProgress :=
  match item with
  | .error cause => receiver.fail (.link cause)
  | .ok segment => receiver.take segment gathered

/-- A reception that reads takes the next item. -/
theorem reading_moved {now : Time} {link linkAfter : SegmentLink} {receiverAfter : Receiver}
    {progress : ReceptionProgress}
    (stepped : receiver.step now link (.reading gathered) =
      some (linkAfter, receiverAfter, progress)) :
    ∃ item rest, link.incoming = item :: rest ∧ linkAfter = { link with incoming := rest } ∧
      (receiverAfter, progress) = receiver.read item gathered := by
  cases ready : link.incoming with
  | nil => simp [Receiver.step, ready] at stepped
  | cons item rest =>
      refine ⟨item, rest, rfl, ?_⟩
      cases item <;>
      · simp only [Receiver.step, ready, Option.some.injEq, Prod.mk.injEq] at stepped
        exact ⟨stepped.1.symm, stepped.2.symm⟩

theorem read_read (item : LinkItem) (gathered : Option Gathering) (receiver : Receiver) :
    ItemRead receiver item gathered (receiver.read item gathered) := by
  cases item with
  | error cause => exact .failure rfl rfl nofun fun same => by cases same; rfl
  | ok segment => exact take_read segment gathered receiver

/-- A reception that reads makes of the next item what it amounts to. -/
theorem reading_read {now : Time} {link linkAfter : SegmentLink} {receiverAfter : Receiver}
    {progress : ReceptionProgress}
    (stepped : receiver.step now link (.reading gathered) =
      some (linkAfter, receiverAfter, progress)) :
    ∃ item rest, link.incoming = item :: rest ∧ linkAfter = { link with incoming := rest } ∧
      ItemRead receiver item gathered (receiverAfter, progress) := by
  obtain ⟨item, rest, ready, taken, same⟩ := reading_moved stepped
  exact ⟨item, rest, ready, taken, same ▸ read_read item gathered receiver⟩

theorem ItemRead.other {item : LinkItem} {after : Receiver} {progress : ReceptionProgress}
    (read : ItemRead receiver item gathered (after, progress)) :
    progress ≠ .finished (.error .busy) := by
  cases read with
  | more | whole => exact nofun
  | failure _ _ other =>
      intro same
      cases same
      exact other rfl

/-- A reception that reads can go on when the link has something ready. -/
theorem reading_able {link : SegmentLink} {item : LinkItem} {rest : List LinkItem} (now : Time)
    (ready : link.incoming = item :: rest) :
    (receiver.step now link (.reading gathered)).isSome = true := by
  cases item <;> simp only [Receiver.step, ready, Option.isSome_some]

/-! ### What a link delivers -/

/-- A payload in parts. What comes after the first one ends with a part that brings something. -/
structure Transfer where
  first : Bytes
  others : List Bytes
  filled : ∀ part ∈ others.getLast?, part ≠ []
  /-- No payload is larger than the largest buffer. -/
  bounded : (first ++ others.flatten).length ≤ Receiver.maxBuffer

def Transfer.payload (transfer : Transfer) : Bytes := transfer.first ++ transfer.others.flatten

/-- Parts as segments, each with the count of what is still to come after it. -/
def segments : List Bytes → List Segment
  | [] => []
  | part :: rest => ⟨part, rest.flatten.length⟩ :: segments rest

/-- A whole transfer, or an error that does not end the link. -/
inductive Delivery where
  | transfer (transfer : Transfer)
  | loss (cause : LinkError) (goesOn : cause ≠ .connectionClosed)

namespace Delivery

def items : Delivery → List LinkItem
  | .transfer sent => (segments (sent.first :: sent.others)).map .ok
  | .loss cause _ => [.error cause]

def payload? : Delivery → Option Bytes
  | .transfer sent => some sent.payload
  | .loss _ _ => none

theorem goesOn (delivery : Delivery) : .error .connectionClosed ∉ delivery.items := by
  cases delivery with
  | transfer => simp [items]
  | loss cause goesOn => simpa [items] using goesOn.symm

end Delivery

theorem flatten_positive {next : Bytes} {rest : List Bytes}
    (filled : ∀ part ∈ (next :: rest).getLast?, part ≠ []) :
    (next :: rest).flatten.length ≠ 0 := by
  intro empty
  have blank := List.flatten_eq_nil_iff.mp (List.length_eq_zero_iff.mp empty)
  cases last : (next :: rest).getLast? with
  | none => simp at last
  | some part => exact filled part last (blank part (List.mem_of_getLast? last))

/-- Where there is a further part, it decides. -/
theorem filled_tail {next : Bytes} {rest : List Bytes}
    (filled : ∀ part ∈ (next :: rest).getLast?, part ≠ []) : ∀ part ∈ rest.getLast?, part ≠ [] := by
  cases rest with
  | nil => simp
  | cons => exact filled

/-- Parts that fit what is gathered come out as their payload, and leave nothing behind. -/
theorem completed_parts {payload : Bytes} {parts : List Bytes} (part : Bytes)
    (gathering : Gathering) (filled : ∀ other ∈ parts.getLast?, other ≠ [])
    (room : gathering.room = (part :: parts).flatten.length)
    (whole : gathering.received.reverse ++ (part :: parts).flatten = payload)
    (later : List LinkItem) :
    completed (some gathering) ((segments (part :: parts)).map .ok ++ later) =
      payload :: completed none later := by
  -- The room left is for all that is still to come, so each part fits and only the last one fills it.
  induction parts generalizing gathering part with
  | nil =>
      have fits : ¬ gathering.room < part.length := by simp [room]
      simp only [List.flatten_cons, List.flatten_nil, List.append_nil] at whole
      simp [segments, completed, LinkItem.leaves, LinkItem.payload, Segment.gathered, fits, whole]
  | cons next rest ih =>
      have fits : ¬ gathering.room < part.length := by simp [room]
      have more := flatten_positive filled
      have onward := ih next
        ⟨part.reverse ++ gathering.received, gathering.room - part.length⟩ (filled_tail filled)
        (by simp [room]) (by simpa using whole)
      rw [segments, List.map_cons, List.cons_append, completed]
      simp only [LinkItem.leaves, LinkItem.payload, Segment.gathered, if_neg more, if_neg fits,
        onward, Option.toList_none, List.nil_append]

theorem completed_delivery (delivery : Delivery) (later : List LinkItem) :
    completed none (delivery.items ++ later) =
      delivery.payload?.toList ++ completed none later := by
  cases delivery with
  | loss cause goesOn => rfl
  | transfer transfer =>
      obtain ⟨first, others, filled, bounded⟩ := transfer
      rw [List.length_append] at bounded
      have fits : ¬ Receiver.maxBuffer < first.length + others.flatten.length := Nat.not_lt.mpr bounded
      cases others with
      | nil =>
          simp only [List.flatten_nil, List.length_nil, Nat.add_zero] at fits
          simp [Delivery.items, Delivery.payload?, segments, completed, LinkItem.leaves,
            LinkItem.payload, Segment.gathered, fits, Transfer.payload]
      | cons next rest =>
          have more := flatten_positive filled
          have onward := completed_parts next ⟨first.reverse, (next :: rest).flatten.length⟩
            (filled_tail filled) rfl (by rw [List.reverse_reverse]) later
          rw [Delivery.items, segments, List.map_cons, List.cons_append, completed]
          simp only [LinkItem.leaves, LinkItem.payload, Segment.gathered, if_neg more, if_neg fits,
            onward]
          rfl

/-- What a well-behaved link delivers comes out whole and in order. -/
theorem completed_stream (stream : List Delivery) :
    completed none (stream.flatMap Delivery.items) = stream.filterMap Delivery.payload? := by
  induction stream with
  | nil => rfl
  | cons delivery rest ih =>
      rw [List.flatMap_cons, completed_delivery, ih]
      cases sent : delivery.payload? <;> simp [sent]

theorem completed_append (gathered : Option Gathering) (earlier later : List LinkItem) :
    ∃ still, completed gathered (earlier ++ later) =
      completed gathered earlier ++ completed still later := by
  induction earlier generalizing gathered with
  | nil => exact ⟨gathered, rfl⟩
  | cons item rest ih =>
      obtain ⟨still, onward⟩ := ih (LinkItem.leaves item gathered)
      exact ⟨still, by simp only [List.cons_append, completed, onward, List.append_assoc]⟩

theorem completed_prefix {earlier items : List LinkItem} (before : earlier <+: items) :
    completed none earlier <+: completed none items := by
  obtain ⟨later, rfl⟩ := before
  obtain ⟨still, onward⟩ := completed_append none earlier later
  exact ⟨_, onward.symm⟩

end CameraBridge
