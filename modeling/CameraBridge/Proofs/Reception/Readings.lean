import CameraBridge.Proofs.Reception.Discipline
import CameraBridge.Proofs.Reception.Transfers

namespace CameraBridge

/-! What a call has taken from the link tells all there is to know about it: whether it goes on, and with
what result it returned. In particular no payload is longer than its first segment announced. It may be
shorter, since a segment that announces nothing more ends its transfer whatever is missing. -/

/-- The length of the transfer that a segment opens. -/
def Segment.announced (first : Segment) : Nat := first.data.length + first.remaining

/-- What segments bring, one after the other. -/
def content (segments : List Segment) : Bytes := segments.flatMap Segment.data

theorem content_snoc (segments : List Segment) (last : Segment) :
    content (segments ++ [last]) = content segments ++ last.data := by
  simp [content]

def ReceptionPhase.gathered? : ReceptionPhase → Option Gathering
  | .waiting _ _ => none
  | .opening gathered | .reading gathered => gathered

namespace Segment

/-- What was gathered with an opening segment and those that came after it. -/
def gathering (first : Segment) (others : List Segment) : Gathering where
  received := (content (first :: others)).reverse
  room := first.announced - (content (first :: others)).length

/-- Segments of one transfer, none of which is the last one. -/
structure IsOpen (first : Segment) (others : List Segment) : Prop where
  small : first.announced ≤ Receiver.maxBuffer
  fits : (content (first :: others)).length ≤ first.announced
  goesOn : ∀ segment ∈ first :: others, segment.remaining ≠ 0

/-- Segments of one transfer with the last one, which does not exceed what was announced. -/
structure IsEnded (first : Segment) (others : List Segment) : Prop where
  small : first.announced ≤ Receiver.maxBuffer
  fits : (content (first :: others)).length ≤ first.announced
  goesOn : ∀ segment ∈ (first :: others).dropLast, segment.remaining ≠ 0
  ends : ∀ segment ∈ (first :: others).getLast?, segment.remaining = 0

/-- No segment announces less than what is missing after it. -/
def IsCandid (first : Segment) (others : List Segment) : Prop :=
  ∀ earlier segment later, first :: others = earlier ++ segment :: later →
    first.announced ≤ (content (earlier ++ [segment])).length + segment.remaining

variable {first last : Segment} {others : List Segment}

theorem IsOpen.expected (isOpen : first.IsOpen others) :
    (first.gathering others).expected = first.announced := by
  have fits := isOpen.fits
  simp only [gathering, Gathering.expected, List.length_reverse]
  omega

theorem IsOpen.next (isOpen : first.IsOpen others)
    (fits : (content (first :: (others ++ [last]))).length ≤ first.announced)
    (goesOn : last.remaining ≠ 0) : first.IsOpen (others ++ [last]) where
  small := isOpen.small
  fits := fits
  goesOn segment member := by
    rw [← List.cons_append, List.mem_append, List.mem_singleton] at member
    rcases member with earlier | rfl
    · exact isOpen.goesOn segment earlier
    · exact goesOn

theorem IsOpen.ended (isOpen : first.IsOpen others)
    (fits : (content (first :: (others ++ [last]))).length ≤ first.announced)
    (ends : last.remaining = 0) : first.IsEnded (others ++ [last]) where
  small := isOpen.small
  fits := fits
  goesOn segment member := by
    rw [← List.cons_append, List.dropLast_concat] at member
    exact isOpen.goesOn segment member
  ends segment member := by
    rw [← List.cons_append, List.getLast?_concat, Option.mem_some_iff] at member
    exact member ▸ ends

theorem IsOpen.not_ended (isOpen : first.IsOpen others) : ¬ first.IsEnded others := by
  intro isEnded
  have final := List.getLast?_eq_some_getLast (List.cons_ne_nil first others)
  exact isOpen.goesOn _ (List.mem_of_getLast? final) (isEnded.ends _ final)

theorem IsEnded.complete (isEnded : first.IsEnded others) (candid : first.IsCandid others) :
    (content (first :: others)).length = first.announced := by
  have final := List.getLast?_eq_some_getLast (List.cons_ne_nil first others)
  obtain ⟨earlier, split⟩ := List.getLast?_eq_some_iff.mp final
  have announced := candid earlier _ [] split
  rw [← split, isEnded.ends _ final] at announced
  exact Nat.le_antisymm isEnded.fits announced

end Segment

/-- Where a call stands after it has taken some items. -/
inductive Read : List LinkItem → ReceptionCall → Prop where
  | idle {phase : ReceptionPhase} (nothing : phase.gathered? = none) : Read [] (.running phase)
  | gathering {first : Segment} {others : List Segment} {phase : ReceptionPhase}
      (isOpen : first.IsOpen others) (gathered : phase.gathered? = some (first.gathering others)) :
      Read ((first :: others).map .ok) (.running phase)
  | busy : Read [] (.finished (.error .busy))
  | closed {items : List LinkItem} {phase : ReceptionPhase} (before : Read items (.running phase)) :
      Read items (.finished (.error (.link .connectionClosed)))
  | failed {items : List LinkItem} {phase : ReceptionPhase} (before : Read items (.running phase))
      (cause : LinkError) : Read (items ++ [.error cause]) (.finished (.error (.link cause)))
  | unallocated {first : Segment} (large : Receiver.maxBuffer < first.announced) :
      Read [.ok first] (.finished (.error (.allocation first.announced)))
  | overrun {first last : Segment} {others : List Segment} (isOpen : first.IsOpen others)
      (excess : first.announced < (content (first :: (others ++ [last]))).length) :
      Read ((first :: (others ++ [last])).map .ok)
        (.finished (.error
          (.overflow first.announced (content (first :: (others ++ [last]))).length)))
  | whole {first : Segment} {others : List Segment} (isEnded : first.IsEnded others) (hold : Nat) :
      Read ((first :: others).map .ok) (.finished (.ok ⟨content (first :: others), hold⟩))

namespace Read

variable {items : List LinkItem} {phase next : ReceptionPhase} {receiver : Receiver}
  {segment first : Segment} {others : List Segment} {gathered : Option Gathering}

/-- Of a call that goes on only matters what it has gathered. -/
theorem onward (read : Read items (.running phase)) (same : next.gathered? = phase.gathered?) :
    Read items (.running next) := by
  cases read with
  | idle nothing => exact .idle (same.trans nothing)
  | gathering isOpen gathered => exact .gathering isOpen (same.trans gathered)

theorem idle_or_gathering (read : Read items (.running phase)) :
    items = [] ∧ phase.gathered? = none ∨
      ∃ first others, items = ((first :: others).map .ok : List LinkItem) ∧ first.IsOpen others ∧
        phase.gathered? = some (first.gathering others) := by
  cases read with
  | idle nothing => exact .inl ⟨rfl, nothing⟩
  | gathering isOpen gathered => exact .inr ⟨_, _, rfl, isOpen, gathered⟩

theorem opening (segment : Segment) (receiver : Receiver) :
    Read [.ok segment] (receiver.take segment none).2.call := by
  have alone : content [segment] = segment.data := by simp [content]
  have fits : (content [segment]).length ≤ segment.announced := by
    rw [alone]
    exact Nat.le_add_right _ _
  simp only [Receiver.take]
  split
  · next large => exact .unallocated large
  · next small =>
      have small : segment.announced ≤ Receiver.maxBuffer := Nat.le_of_not_lt small
      unfold Receiver.gather
      split
      · next last =>
          have isEnded : segment.IsEnded [] := ⟨small, fits, by simp, by simpa using last⟩
          simpa [Receiver.handOut, ReceptionProgress.call, alone] using
            Read.whole isEnded receiver.holds.length
      · next more =>
          have isOpen : segment.IsOpen [] := ⟨small, fits, by simpa using more⟩
          have kept : segment.gathering [] = ⟨segment.data.reverse, segment.remaining⟩ := by
            simp [Segment.gathering, alone, Segment.announced]
          exact .gathering isOpen (congrArg some kept.symm)

/-- A segment that does not fit is refused with the length that was announced and the one that came. -/
theorem further (isOpen : first.IsOpen others) (segment : Segment) (receiver : Receiver) :
    Read ((first :: (others ++ [segment])).map .ok)
      (receiver.take segment (some (first.gathering others))).2.call := by
  have grown : content (first :: (others ++ [segment])) = content (first :: others) ++ segment.data :=
    content_snoc (first :: others) segment
  have total : (content (first :: (others ++ [segment]))).length =
      (first.gathering others).received.length + segment.data.length := by
    simp [grown, Segment.gathering]
  have room : (first.gathering others).room < segment.data.length ↔
      first.announced < (content (first :: (others ++ [segment]))).length := by
    have fits := isOpen.fits
    rw [grown, List.length_append]
    simp only [Segment.gathering]
    omega
  simp only [Receiver.take, room]
  split
  · next excess =>
      rw [isOpen.expected, ← total]
      exact .overrun isOpen excess
  · next fits =>
      have fits := Nat.le_of_not_lt fits
      unfold Receiver.gather
      split
      · next last =>
          simpa [Receiver.handOut, ReceptionProgress.call, Segment.gathering, grown] using
            Read.whole (isOpen.ended fits last) receiver.holds.length
      · next more =>
          have kept : first.gathering (others ++ [segment]) =
              ⟨segment.data.reverse ++ (first.gathering others).received,
                (first.gathering others).room - segment.data.length⟩ := by
            rw [Segment.gathering, grown]
            simp only [Segment.gathering, List.reverse_append, List.length_append, Nat.sub_sub]
          exact .gathering (isOpen.next fits more) (congrArg some kept.symm)

/-- A call takes the next item of the link, or nothing. -/
theorem step {now : Time} {link linkAfter : SegmentLink} {receiverAfter : Receiver}
    {progress : ReceptionProgress} (read : Read items (.running phase))
    (stepped : receiver.step now link phase = some (linkAfter, receiverAfter, progress)) :
    linkAfter = link ∧ Read items progress.call ∨
      ∃ item rest, link.incoming = item :: rest ∧ linkAfter = { link with incoming := rest } ∧
        Read (items ++ [item]) progress.call := by
  cases phase with
  | waiting deadline previous =>
      obtain ⟨rfl, ⟨-, -, rfl⟩ | ⟨-, -, failed⟩⟩ := waiting_moved stepped
      · exact .inl ⟨rfl, read.onward rfl⟩
      · cases failed
        obtain ⟨rfl, -⟩ | ⟨_, _, -, -, gathered⟩ := read.idle_or_gathering
        · exact .inl ⟨rfl, .busy⟩
        · cases gathered
  | opening gathered =>
      obtain ⟨rfl, ⟨-, failed⟩ | ⟨-, -, rfl⟩⟩ := opening_moved stepped
      · cases failed
        exact .inl ⟨rfl, .closed read⟩
      · exact .inl ⟨rfl, read.onward rfl⟩
  | reading gathered =>
      obtain ⟨item, rest, ready, taken, same⟩ := reading_moved stepped
      refine .inr ⟨item, rest, ready, taken, ?_⟩
      rw [show progress = (receiver.read item gathered).2 from congrArg Prod.snd same]
      cases item with
      | error cause => exact .failed read cause
      | ok segment =>
          obtain ⟨rfl, nothing⟩ | ⟨first, others, rfl, isOpen, whole⟩ := read.idle_or_gathering
          · obtain rfl : gathered = none := nothing
            exact opening segment receiver
          · cases whole
            simpa [Receiver.read] using further isOpen segment receiver

theorem payload_content {payload : InboundPayload} (read : Read items (.finished (.ok payload))) :
    ∃ first others, items = ((first :: others).map .ok : List LinkItem) ∧ first.IsEnded others ∧
      payload.data = content (first :: others) := by
  cases read with
  | whole isEnded hold => exact ⟨_, _, rfl, isEnded, rfl⟩

/-- Segments alone leave a call in one of four ways. -/
theorem of_segments {state : ReceptionCall} (read : Read items state)
    (segments : items = (first :: others).map .ok) :
    first.IsOpen others ∨ Receiver.maxBuffer < first.announced ∨
      first.announced < (content (first :: others)).length ∧
          state = .finished (.error (.overflow first.announced (content (first :: others)).length)) ∨
        first.IsEnded others ∧ ∃ hold, state = .finished (.ok ⟨content (first :: others), hold⟩) := by
  have same : ∀ {opening : Segment} {rest : List Segment},
      ((opening :: rest).map .ok : List LinkItem) = (first :: others).map .ok →
        opening = first ∧ rest = others := by
    intro opening rest equal
    exact List.cons.inj ((List.map_inj_right fun _ _ => Except.ok.inj).mp equal)
  have undecided : ∀ {phase : ReceptionPhase}, Read items (.running phase) → first.IsOpen others := by
    intro phase before
    obtain ⟨rfl, -⟩ | ⟨opening, rest, rfl, isOpen, -⟩ := before.idle_or_gathering
    · cases segments
    · obtain ⟨rfl, rfl⟩ := same segments
      exact isOpen
  cases read with
  | idle nothing => exact .inl (undecided (.idle nothing))
  | gathering isOpen gathered => exact .inl (undecided (.gathering isOpen gathered))
  | busy => cases segments
  | closed before => exact .inl (undecided before)
  | failed before cause =>
      have member : .error cause ∈ ((first :: others).map .ok : List LinkItem) := by
        rw [← segments]
        exact List.mem_concat_self
      simp at member
  | unallocated large =>
      obtain rfl := Except.ok.inj (List.cons.inj segments).1
      exact .inr (.inl large)
  | overrun isOpen excess =>
      obtain ⟨rfl, rfl⟩ := same segments
      exact .inr (.inr (.inl ⟨excess, rfl⟩))
  | whole isEnded hold =>
      obtain ⟨rfl, rfl⟩ := same segments
      exact .inr (.inr (.inr ⟨isEnded, hold, rfl⟩))

end Read

namespace ReceptionSession

/-- An item that a call took from the link. -/
structure Reading where
  call : Nat
  item : LinkItem
  deriving DecidableEq

/-- What an act takes from the link, which only the move of a call can do. -/
def reading? (next : Act) (before after : ReceptionSession) : Option Reading :=
  match next with
  | .move call =>
      if after.link.incoming.length < before.link.incoming.length then
        before.link.incoming.head?.map (⟨call, ·⟩)
      else none
  | _ => none

theorem reading_none {call : Nat} {before after : ReceptionSession}
    (same : after.link = before.link) : reading? (.move call) before after = none := by
  simp [reading?, same]

theorem reading_head {call : Nat} {before after : ReceptionSession} {item : LinkItem}
    {rest : List LinkItem} (ready : before.link.incoming = item :: rest)
    (left : after.link.incoming = rest) :
    reading? (.move call) before after = some ⟨call, item⟩ := by
  simp [reading?, ready, left]

/-- The items that a call took, in order. -/
def taken (call : Nat) (readings : List Reading) : List LinkItem :=
  readings.filterMap fun reading => if reading.call = call then some reading.item else none

section Taken

variable (readings : List Reading) (call : Nat) (item : Option LinkItem)

theorem taken_own : taken call (readings ++ (item.map (⟨call, ·⟩)).toList) =
    taken call readings ++ item.toList := by
  rw [taken, List.filterMap_append]
  cases item <;> simp [taken]

theorem taken_apart {other : Nat} (different : other ≠ call) :
    taken other (readings ++ (item.map (⟨call, ·⟩)).toList) = taken other readings := by
  rw [taken, List.filterMap_append]
  cases item <;> simp [taken, Ne.symm different]

end Taken

/-- Every call stands where the items it took have brought it. -/
structure AllRead (readings : List Reading) (calls : List ReceptionCall) : Prop where
  read : ∀ call state, calls[call]? = some state → Read (taken call readings) state
  fresh : ∀ call, calls.length ≤ call → taken call readings = []

variable {session after last : ReceptionSession} {readings : List Reading} {acts : List Act}
  {calls : List ReceptionCall} {call : Nat}

theorem AllRead.admit {state : ReceptionCall} (allRead : AllRead readings calls)
    (nothing : Read [] state) : AllRead readings (calls ++ [state]) := by
  constructor
  · intro call other found
    rw [List.getElem?_append] at found
    split at found
    · exact allRead.read call other found
    · next beyond =>
        rw [allRead.fresh call (Nat.le_of_not_lt beyond)]
        rw [List.getElem?_singleton, Option.ite_none_right_eq_some, Option.some.injEq] at found
        exact found.2 ▸ nothing
  · intro call beyond
    rw [List.length_append] at beyond
    exact allRead.fresh call (Nat.le_of_add_right_le beyond)

theorem AllRead.proceed {state : ReceptionCall} (item : Option LinkItem)
    (allRead : AllRead readings calls) (bound : call < calls.length)
    (read : Read (taken call readings ++ item.toList) state) :
    AllRead (readings ++ (item.map (⟨call, ·⟩)).toList) (calls.set call state) := by
  constructor
  · intro other found called
    by_cases same : other = call
    · subst same
      rw [List.getElem?_set_self bound, Option.some.injEq] at called
      rw [taken_own, ← called]
      exact read
    · rw [List.getElem?_set_ne (Ne.symm same)] at called
      rw [taken_apart readings call item same]
      exact allRead.read other found called
  · intro other beyond
    rw [List.length_set] at beyond
    rw [taken_apart readings call item (by omega)]
    exact allRead.fresh other beyond

theorem AllRead.receive (allRead : AllRead readings session.calls) :
    AllRead readings session.receive.calls := by
  unfold ReceptionSession.receive Receiver.begin
  cases session.receiver.running with
  | true => exact allRead.admit .busy
  | false => cases session.receiver.outstanding <;> exact allRead.admit (.idle rfl)

theorem AllRead.move (allRead : AllRead readings session.calls)
    (moved : session.stepCall call = some after) :
    AllRead (readings ++ (reading? (.move call) session after).toList) after.calls := by
  obtain ⟨phase, link, receiver, progress, own, stepped, rfl⟩ := stepCall_invert moved
  have bound := lt_length_of_running own
  obtain ⟨rfl, read⟩ | ⟨item, rest, ready, rfl, read⟩ := (allRead.read call _ own).step stepped
  · rw [reading_none]
    · exact allRead.proceed none bound (by simpa using read)
    · rfl
  · rw [reading_head ready]
    · exact allRead.proceed (some item) bound read
    · rfl

theorem AllRead.act {next : Act} (allRead : AllRead readings session.calls)
    (acted : session.act next = some after) :
    AllRead (readings ++ (reading? next session after).toList) after.calls := by
  cases next with
  | receive =>
      cases acted
      simpa [reading?] using allRead.receive
  | move call => exact allRead.move acted
  | pass | relink =>
      cases acted
      simpa [reading?] using allRead
  | use payload usage =>
      obtain ⟨-, rfl⟩ := use_invert acted
      simpa [reading?] using allRead

theorem trace_allRead {permitTimeout : Time}
    (traced : trace act reading? (start permitTimeout) acts = some (readings, last)) :
    AllRead readings last.calls := by
  have kept : ∀ readings next before after, AllRead readings before.calls →
      ReceptionSession.act next before = some after →
      AllRead (readings ++ (reading? next before after).toList) after.calls :=
    fun _ _ _ _ allRead acted => allRead.act acted
  have first : AllRead [] (start permitTimeout).calls := ⟨by simp [start], fun _ _ => rfl⟩
  exact trace_history kept first traced

/-- A payload is what the segments of its call brought, up to the first one that announces nothing more.
It is as long as announced if no segment announced less than what was missing, and never longer. Any
transfer that ends so is returned, also where something is missing, and one that brings too much is not. -/
theorem payload_by_segments {permitTimeout : Time}
    (traced : trace act reading? (start permitTimeout) acts = some (readings, last)) (call : Nat) :
    (∀ payload, last.calls[call]? = some (.finished (.ok payload)) →
      ∃ first others, taken call readings = (first :: others).map .ok ∧ first.IsEnded others ∧
        payload.data = content (first :: others) ∧ payload.data.length ≤ first.announced ∧
        (first.IsCandid others → payload.data.length = first.announced)) ∧
      ∀ first others, taken call readings = (first :: others).map .ok →
        (first.IsEnded others →
          ∃ hold, last.calls[call]? = some (.finished (.ok ⟨content (first :: others), hold⟩))) ∧
        (first.announced ≤ Receiver.maxBuffer →
          first.announced < (content (first :: others)).length →
          last.calls[call]? = some (.finished (.error
            (.overflow first.announced (content (first :: others)).length)))) := by
  have allRead := trace_allRead traced
  constructor
  · intro payload returned
    obtain ⟨first, others, segments, isEnded, data⟩ := (allRead.read call _ returned).payload_content
    refine ⟨first, others, segments, isEnded, data, ?_, ?_⟩
    · exact data ▸ isEnded.fits
    · intro candid
      rw [data, isEnded.complete candid]
  · intro first others segments
    cases found : last.calls[call]? with
    | none =>
        rw [allRead.fresh call (List.getElem?_eq_none_iff.mp found)] at segments
        cases segments
    | some state =>
        have ways := (allRead.read call state found).of_segments segments
        constructor
        · intro isEnded
          obtain isOpen | large | ⟨excess, -⟩ | ⟨-, hold, rfl⟩ := ways
          · exact absurd isEnded isOpen.not_ended
          · exact absurd large (Nat.not_lt.mpr isEnded.small)
          · exact absurd excess (Nat.not_lt.mpr isEnded.fits)
          · exact ⟨hold, rfl⟩
        · intro small excess
          obtain isOpen | large | ⟨-, rfl⟩ | ⟨isEnded, -⟩ := ways
          · exact absurd excess (Nat.not_lt.mpr isOpen.fits)
          · exact absurd large (Nat.not_lt.mpr small)
          · rfl
          · exact absurd excess (Nat.not_lt.mpr isEnded.fits)

/-- A transfer in two segments, and one that brings more than its first segment announced. -/
def wholeAndOversized : SegmentLink :=
  { incoming := [.ok ⟨[1, 2], 1⟩, .ok ⟨[3], 0⟩, .ok ⟨[4], 2⟩, .ok ⟨[5, 6, 7], 0⟩] }

def twoReceptions : List Act :=
  [.relink wholeAndOversized, .receive, .move 0, .move 0, .move 0, .move 0, .use 0 .release,
    .receive, .move 1, .move 1, .move 1, .move 1, .move 1]

theorem payload_by_segments_of_two_receptions : ∃ readings last,
    trace act reading? (start 30) twoReceptions = some (readings, last) ∧
      (∃ payload, last.calls[0]? = some (.finished (.ok payload)) ∧ payload.data.length = 3) ∧
      last.calls[1]? = some (.finished (.error (.overflow 3 4))) := by
  have readings : (trace act reading? (start 30) twoReceptions).map Prod.fst =
      some [⟨0, .ok ⟨[1, 2], 1⟩⟩, ⟨0, .ok ⟨[3], 0⟩⟩, ⟨1, .ok ⟨[4], 2⟩⟩, ⟨1, .ok ⟨[5, 6, 7], 0⟩⟩] := by
    decide +kernel
  obtain ⟨⟨readings, last⟩, traced, seen⟩ := Option.map_eq_some_iff.mp readings
  simp only at seen
  subst seen
  refine ⟨_, last, traced, ?_, ?_⟩
  · have isEnded : Segment.IsEnded ⟨[1, 2], 1⟩ [⟨[3], 0⟩] :=
      ⟨by decide, by decide, by decide, by decide⟩
    obtain ⟨hold, returned⟩ := ((payload_by_segments traced 0).2 _ _ rfl).1 isEnded
    exact ⟨_, returned, rfl⟩
  · exact ((payload_by_segments traced 1).2 ⟨[4], 2⟩ [⟨[5, 6, 7], 0⟩] rfl).2 (by decide) (by decide)

/-- The first segment announces twelve bytes, the second one ends the transfer after three. -/
def shortTransfer : SegmentLink := { incoming := [.ok ⟨[1, 2], 10⟩, .ok ⟨[3], 0⟩] }

theorem short_transfer_accepted :
    (trace act reading? (start 30)
        [.relink shortTransfer, .receive, .move 0, .move 0, .move 0, .move 0]).map
      (fun (readings, last) => (taken 0 readings, last.calls)) =
        some ([.ok ⟨[1, 2], 10⟩, .ok ⟨[3], 0⟩], [.finished (.ok ⟨[1, 2, 3], 0⟩)]) ∧
      [1, 2, 3].length ≠ Segment.announced ⟨[1, 2], 10⟩ := by
  constructor
  · rfl
  · decide

end ReceptionSession

end CameraBridge
