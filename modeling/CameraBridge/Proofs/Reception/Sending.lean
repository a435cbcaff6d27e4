import Mathlib.Data.List.Infix
import CameraBridge.Proofs.Reception.Readings

namespace CameraBridge

/-! A sender that puts transfers on the link, one after the other and each in segments as it likes, and
a receiver whose calls come one at a time, each after the payload before it was released or dropped.
Then every call returns the next payload, and takes the segments of this payload and no others. -/

theorem content_segments (parts : List Bytes) : content (segments parts) = parts.flatten := by
  induction parts with
  | nil => rfl
  | cons part rest ih =>
      rw [content] at ih
      rw [segments, content, List.flatMap_cons, ih, List.flatten_cons]

theorem segments_goOn {parts : List Bytes} (part : Bytes)
    (filled : ∀ other ∈ parts.getLast?, other ≠ []) :
    ∀ segment ∈ (segments (part :: parts)).dropLast, segment.remaining ≠ 0 := by
  induction parts generalizing part with
  | nil => simp [segments]
  | cons next rest ih =>
      intro segment member
      have nonempty : segments (next :: rest) ≠ [] := List.cons_ne_nil _ _
      rw [segments, List.dropLast_cons_of_ne_nil nonempty, List.mem_cons] at member
      obtain rfl | later := member
      · exact flatten_positive filled
      · exact ih next (filled_tail filled) segment later

theorem segments_end (part : Bytes) (parts : List Bytes) :
    ∀ segment ∈ (segments (part :: parts)).getLast?, segment.remaining = 0 := by
  induction parts generalizing part with
  | nil => simp [segments]
  | cons next rest ih =>
      rw [segments, segments, List.getLast?_cons_cons]
      exact ih next

namespace Transfer

/-- The segment that begins a transfer. -/
def opening (transfer : Transfer) : Segment := ⟨transfer.first, transfer.others.flatten.length⟩

def segments (transfer : Transfer) : List Segment :=
  transfer.opening :: CameraBridge.segments transfer.others

def items (transfer : Transfer) : List LinkItem := transfer.segments.map .ok

variable (transfer : Transfer)

theorem content_segments : content transfer.segments = transfer.payload :=
  CameraBridge.content_segments (transfer.first :: transfer.others)

theorem announced_opening : transfer.opening.announced = transfer.payload.length := by
  simp [opening, Segment.announced, payload]

/-- A transfer announces exactly what it brings, and ends with the last of it. -/
theorem isEnded : transfer.opening.IsEnded (CameraBridge.segments transfer.others) where
  small := by
    rw [announced_opening]
    exact transfer.bounded
  fits := by
    rw [announced_opening, ← content_segments]
    exact Nat.le_refl _
  goesOn := segments_goOn transfer.first transfer.filled
  ends := segments_end transfer.first transfer.others

end Transfer

/-- Parts that all bring something are a transfer. -/
theorem Transfer.of_parts {parts : List Bytes} (some? : parts ≠ [])
    (filled : ∀ part ∈ parts, part ≠ []) (bounded : parts.flatten.length ≤ Receiver.maxBuffer) :
    ∃ transfer : Transfer, transfer.payload = parts.flatten ∧
      transfer.segments = CameraBridge.segments parts := by
  cases parts with
  | nil => exact absurd rfl some?
  | cons first others =>
      have last_filled : ∀ part ∈ others.getLast?, part ≠ [] := by
        intro part member
        exact filled part (List.mem_cons_of_mem _ (List.mem_of_getLast? member))
      exact ⟨⟨first, others, last_filled, bounded⟩, rfl, rfl⟩

/-- Parts of one size each, as many as it takes, and of one byte where the size is nothing. -/
theorem split_parts (size : Nat) (payload : Bytes) :
    ∃ parts, (∀ part ∈ parts, part ≠ []) ∧ parts.flatten = payload ∧
      SegmentLink.split size payload = segments parts := by
  fun_induction SegmentLink.split size payload with
  | case1 => exact ⟨[], by simp, rfl, rfl⟩
  | case2 first rest ih =>
      obtain ⟨parts, filled, whole, split⟩ := ih
      refine ⟨(first :: rest.take (size - 1)) :: parts, ?_, ?_, ?_⟩
      · simpa using filled
      · simp [whole]
      · rw [split, segments, whole]

/-! ### Where a transfer ends on the link -/

/-- Segments that announce more reach at most as far as a transfer that begins with them. -/
theorem prefix_of_goesOn {begun whole stream : List Segment} {last : Segment}
    (goesOn : ∀ segment ∈ begun, segment.remaining ≠ 0)
    (ends : ∃ segment ∈ whole, segment.remaining = 0) (taken : begun ++ [last] <+: stream)
    (sent : whole <+: stream) : begun ++ [last] <+: whole := by
  obtain within | beyond := List.prefix_or_prefix_of_prefix taken sent
  · exact within
  · obtain same | earlier := List.prefix_concat_iff.mp beyond
    · rw [same]
    · obtain ⟨segment, member, ended⟩ := ends
      exact absurd ended (goesOn segment (earlier.subset member))

namespace Segment

variable {first opening : Segment} {others rest stream : List Segment}

theorem IsEnded.has_end (isEnded : first.IsEnded others) :
    ∃ segment ∈ first :: others, segment.remaining = 0 := by
  have final := List.getLast?_eq_some_getLast (List.cons_ne_nil first others)
  exact ⟨_, List.mem_of_getLast? final, isEnded.ends _ final⟩

theorem IsEnded.prefix (isEnded : first.IsEnded others) (isWhole : opening.IsEnded rest)
    (taken : first :: others <+: stream) (sent : opening :: rest <+: stream) :
    first :: others <+: opening :: rest := by
  have split := List.dropLast_concat_getLast (List.cons_ne_nil first others)
  rw [← split] at taken ⊢
  exact prefix_of_goesOn isEnded.goesOn isWhole.has_end taken sent

/-- At most one transfer begins a stream. -/
theorem IsEnded.unique (isEnded : first.IsEnded others) (isWhole : opening.IsEnded rest)
    (taken : first :: others <+: stream) (sent : opening :: rest <+: stream) :
    first :: others = opening :: rest := by
  have within := isEnded.prefix isWhole taken sent
  have around := isWhole.prefix isEnded sent taken
  exact within.eq_of_length_le around.length_le

end Segment

theorem content_prefix {begun whole : List Segment} (within : begun <+: whole) :
    (content begun).length ≤ (content whole).length := by
  obtain ⟨rest, rfl⟩ := within
  rw [content, content, List.flatMap_append, List.length_append]
  exact Nat.le_add_right _ _

section Stream

variable {transfers : List Transfer} {begun : List Segment}

theorem flatMap_items (transfers : List Transfer) :
    transfers.flatMap Transfer.items = (transfers.flatMap Transfer.segments).map .ok :=
  List.map_flatMap.symm

/-- What begins the stream of some transfers. -/
theorem first_of_prefix {first : Segment} {others : List Segment}
    (sent : ((first :: others).map .ok : List LinkItem) <+: transfers.flatMap Transfer.items) :
    ∃ transfer later, transfers = transfer :: later ∧ first = transfer.opening ∧
      ∃ stream, first :: others <+: stream ∧ transfer.segments <+: stream := by
  rw [flatMap_items, List.prefix_map_iff_of_injective fun _ _ => Except.ok.inj] at sent
  cases transfers with
  | nil => simp at sent
  | cons transfer later =>
      refine ⟨transfer, later, rfl, ?_, _, sent, List.prefix_append _ _⟩
      exact (List.cons_prefix_cons.mp sent).1

end Stream

/-- A call that takes what transfers brought goes on, or returns the first one. -/
theorem Read.of_transfers {items : List LinkItem} {state : ReceptionCall} {transfers : List Transfer}
    (read : Read items state) (sent : items <+: transfers.flatMap Transfer.items)
    (unhindered : state ≠ .finished (.error .busy))
    (open? : state ≠ .finished (.error (.link .connectionClosed))) :
    (∃ phase, state = .running phase) ∨
      ∃ transfer later, transfers = transfer :: later ∧ items = transfer.items ∧
        ∃ hold, state = .finished (.ok ⟨transfer.payload, hold⟩) := by
  cases read with
  | idle | gathering => exact .inl ⟨_, rfl⟩
  | busy => exact absurd rfl unhindered
  | closed => exact absurd rfl open?
  | failed before cause =>
      have member := sent.subset List.mem_concat_self
      simp [flatMap_items] at member
  | @unallocated first large =>
      have sent : ([first].map .ok : List LinkItem) <+: transfers.flatMap Transfer.items := sent
      obtain ⟨transfer, later, -, rfl, -⟩ := first_of_prefix sent
      exact absurd large (Nat.not_lt.mpr transfer.isEnded.small)
  | @overrun first last others isOpen excess =>
      obtain ⟨transfer, later, -, rfl, stream, taken, whole⟩ := first_of_prefix sent
      have within : transfer.opening :: others ++ [last] <+: transfer.segments :=
        prefix_of_goesOn isOpen.goesOn transfer.isEnded.has_end taken whole
      have bound := content_prefix within
      rw [transfer.content_segments, ← transfer.announced_opening] at bound
      exact absurd excess (Nat.not_lt.mpr bound)
  | whole isEnded hold =>
      obtain ⟨transfer, later, rfl, rfl, stream, taken, whole⟩ := first_of_prefix sent
      have same := isEnded.unique transfer.isEnded taken whole
      refine .inr ⟨transfer, later, rfl, ?_, hold, ?_⟩
      · rw [same]
        rfl
      · rw [same, ← transfer.content_segments]
        rfl

/-- A call that goes on has not taken the whole of a transfer. -/
theorem Read.lacks {items : List LinkItem} {phase : ReceptionPhase}
    (read : Read items (.running phase)) (transfer : Transfer) : ¬ transfer.items <+: items := by
  intro within
  obtain ⟨segment, member, ends⟩ := transfer.isEnded.has_end
  have taken := within.subset (List.mem_map_of_mem member)
  obtain ⟨rfl, -⟩ | ⟨first, others, rfl, isOpen, -⟩ := read.idle_or_gathering
  · cases taken
  · rw [List.mem_map_of_injective fun _ _ => Except.ok.inj] at taken
    exact isOpen.goesOn segment taken ends

/-! ### Runs -/

/-- A receiver with its link, and the segments that are still to come on it. -/
structure Sending where
  session : ReceptionSession
  coming : List Segment

namespace Sending

open ReceptionSession (AllRead Reading start taken taken_own taken_apart)

inductive Act where
  /-- The next segment arrives. -/
  | arrive
  | own (next : ReceptionSession.Act)

/-- What can happen besides: a call comes while no other one is under way and nothing has to be
released, and nobody but the sender changes the link. -/
def allows (next : ReceptionSession.Act) (session : ReceptionSession) : Bool :=
  match next with
  | .receive =>
      !session.receiver.running && session.receiver.outstanding.all session.receiver.isFree
  | .relink _ => false
  | .move _ | .pass _ | .use _ _ => true

def act (next : Act) (sending : Sending) : Option Sending :=
  match next with
  | .arrive =>
      match sending.coming with
      | [] => none
      | segment :: rest => some ⟨sending.session.onLink (SegmentLink.push segment), rest⟩
  | .own next =>
      if allows next sending.session then
        (sending.session.act next).map fun session => { sending with session }
      else none

def reading? (next : Act) (before after : Sending) : Option Reading :=
  match next with
  | .arrive => none
  | .own next => ReceptionSession.reading? next before.session after.session

/-- Nothing has arrived and nobody has called. -/
def begin (permitTimeout : Time) (transfers : List Transfer) : Sending :=
  ⟨start permitTimeout, transfers.flatMap Transfer.segments⟩

/-- What has arrived and what is still to come. -/
def ahead (sending : Sending) : List LinkItem :=
  sending.session.link.incoming ++ sending.coming.map .ok

/-- So many calls have returned, each with its transfer, and the next one may be under way. -/
structure Served (transfers : List Transfer) (served : Nat) (readings : List Reading)
    (sending : Sending) : Prop where
  allRead : AllRead readings sending.session.calls
  calls : sending.session.calls.length = served + sending.session.receiver.running.toNat
  returned : ∀ call < served, ∃ transfer, transfers[call]? = some transfer ∧
    sending.session.calls[call]? = some (.finished (.ok ⟨transfer.payload, call⟩)) ∧
    taken call readings = transfer.items
  /-- The call under way does not wait for a release in vain. -/
  current : sending.session.receiver.running = true → ∃ phase,
    sending.session.calls[served]? = some (.running phase) ∧
    ∀ deadline previous, phase = .waiting deadline previous →
      sending.session.receiver.isFree previous = true
  stream : taken served readings ++ sending.ahead = (transfers.drop served).flatMap Transfer.items
  closed : sending.session.link.closed = false
  holds : sending.session.receiver.holds.length = served

variable {transfers : List Transfer} {served : Nat} {readings : List Reading}
  {sending last : Sending} {session : ReceptionSession} {acts : List Act} {call : Nat}

theorem begin_served (permitTimeout : Time) (transfers : List Transfer) :
    Served transfers 0 [] (begin permitTimeout transfers) where
  allRead := ⟨by simp [begin, start], fun _ _ => rfl⟩
  calls := rfl
  returned := by simp
  current := nofun
  stream := by rw [List.drop_zero, flatMap_items]; rfl
  closed := rfl
  holds := rfl

theorem Served.arrive {segment : Segment} {rest : List Segment}
    (serving : Served transfers served readings sending) (next : sending.coming = segment :: rest) :
    Served transfers served readings ⟨sending.session.onLink (SegmentLink.push segment), rest⟩ where
  allRead := serving.allRead
  calls := serving.calls
  returned := serving.returned
  current := serving.current
  stream := by
    rw [← serving.stream, ahead, ahead, next]
    simp [ReceptionSession.onLink, SegmentLink.push]
  closed := serving.closed
  holds := serving.holds

theorem Served.receive (serving : Served transfers served readings sending)
    (allowed : allows .receive sending.session = true) :
    Served transfers served readings { sending with session := sending.session.receive } := by
  simp only [allows, Bool.and_eq_true, Bool.not_eq_true'] at allowed
  obtain ⟨idle, free⟩ := allowed
  have length : sending.session.calls.length = served := by
    rw [serving.calls, idle]
    rfl
  have began : ∃ phase, sending.session.receive =
      { sending.session with
        receiver := { sending.session.receiver with running := true, outstanding := none }
        calls := sending.session.calls ++ [.running phase] } ∧
      ∀ deadline previous, phase = .waiting deadline previous →
        sending.session.receiver.isFree previous = true := by
    cases owed : sending.session.receiver.outstanding with
    | none =>
        refine ⟨.opening none, ?_, nofun⟩
        simp [ReceptionSession.receive, Receiver.begin, idle, owed]
    | some previous =>
        refine ⟨.waiting (sending.session.now + sending.session.receiver.permitTimeout) previous,
          ?_, ?_⟩
        · simp [ReceptionSession.receive, Receiver.begin, idle, owed]
        · rintro _ _ ⟨⟩
          simpa [owed] using free
  have allRead := serving.allRead.receive
  obtain ⟨phase, began, ready⟩ := began
  rw [began] at allRead ⊢
  refine ⟨allRead, ?_, ?_, ?_, serving.stream, serving.closed, serving.holds⟩
  · simp [length]
  · intro call earlier
    obtain ⟨transfer, sent, found, own⟩ := serving.returned call earlier
    refine ⟨transfer, sent, ?_, own⟩
    rw [List.getElem?_append_left (List.getElem?_eq_some_iff.mp found).1]
    exact found
  · intro _
    refine ⟨phase, ?_, ready⟩
    simp [← length]

theorem Served.use {payload : Nat} (serving : Served transfers served readings sending)
    (usage : ReceptionSession.TokenUse) (held : sending.session.isHeld payload = true) :
    Served transfers served readings { sending with
      session := { sending.session with
        receiver := sending.session.receiver.modify payload usage.change } } where
  allRead := serving.allRead
  calls := serving.calls
  returned := serving.returned
  current running := by
    obtain ⟨phase, own, free⟩ := serving.current running
    refine ⟨phase, own, ?_⟩
    intro deadline previous waits
    exact ReceptionSession.isFree_use usage held (free deadline previous waits)
  stream := serving.stream
  closed := serving.closed
  holds := by
    rw [← serving.holds]
    exact List.length_modify ..

/-- How many moves a call has left while nothing more arrives, at most. -/
def movesLeft (phase : ReceptionPhase) (link : SegmentLink) : Nat :=
  2 * link.incoming.length +
    match phase with
    | .waiting _ _ => 2
    | .opening _ => 1
    | .reading _ => 0

/-- What a move of the call under way leads to: it goes on, with fewer moves left, or has returned. -/
inductive Moved (transfers : List Transfer) (served : Nat) (readings : List Reading)
    (before after : Sending) (phase : ReceptionPhase) : Prop where
  | onward {next : ReceptionPhase} (serving : Served transfers served readings after)
      (own : after.session.calls[served]? = some (.running next))
      (fewer : movesLeft next after.session.link < movesLeft phase before.session.link)
  | returned (serving : Served transfers (served + 1) readings after)

section Move

variable {phase : ReceptionPhase} {after : ReceptionSession}

/-- A call that goes on without reading. -/
theorem Served.proceed (next : ReceptionPhase) (serving : Served transfers served readings sending)
    (own : sending.session.calls[served]? = some (.running phase))
    (same : next.gathered? = phase.gathered?) (awake : next.deadline? = none) :
    Served transfers served readings { sending with
      session := { sending.session with
        calls := sending.session.calls.set served (.running next) } } where
  allRead := by
    have read := (serving.allRead.read served _ own).onward same
    simpa using serving.allRead.proceed none (ReceptionSession.lt_length_of_running own)
      (by simpa using read)
  calls := by
    rw [List.length_set]
    exact serving.calls
  returned call earlier := by
    obtain ⟨transfer, sent, found, took⟩ := serving.returned call earlier
    refine ⟨transfer, sent, ?_, took⟩
    rw [List.getElem?_set_ne (Nat.ne_of_gt earlier)]
    exact found
  current _ := by
    refine ⟨next, ?_, ?_⟩
    · exact List.getElem?_set_self (ReceptionSession.lt_length_of_running own)
    · rintro deadline previous rfl
      cases awake
  stream := serving.stream
  closed := serving.closed
  holds := serving.holds

variable {item : LinkItem} {rest : List LinkItem}

/-- What a call takes is the next item of the stream. -/
theorem Served.stream_taken (serving : Served transfers served readings sending)
    (ready : sending.session.link.incoming = item :: rest) :
    taken served (readings ++ [⟨served, item⟩]) ++ (rest ++ sending.coming.map .ok) =
      (transfers.drop served).flatMap Transfer.items := by
  have own : taken served (readings ++ [⟨served, item⟩]) = taken served readings ++ [item] :=
    taken_own readings served (some item)
  rw [← serving.stream, own, ahead, ready]
  simp

theorem Served.no_error {cause : LinkError} (serving : Served transfers served readings sending)
    (ready : sending.session.link.incoming = .error cause :: rest) : False := by
  have member : .error cause ∈ (transfers.drop served).flatMap Transfer.items := by
    rw [← serving.stream, ahead, ready]
    simp
  simp [flatMap_items] at member

theorem Served.gather {gathering : Gathering}
    (serving : Served transfers served readings sending)
    (own : sending.session.calls[served]? = some (.running phase))
    (ready : sending.session.link.incoming = item :: rest)
    (allRead : AllRead (readings ++ [⟨served, item⟩])
      (sending.session.calls.set served (.running (.opening (some gathering))))) :
    Served transfers served (readings ++ [⟨served, item⟩]) { sending with
      session := { sending.session with
        link := { sending.session.link with incoming := rest }
        calls := sending.session.calls.set served (.running (.opening (some gathering))) } } where
  allRead := allRead
  calls := by
    rw [List.length_set]
    exact serving.calls
  returned call earlier := by
    obtain ⟨transfer, sent, found, took⟩ := serving.returned call earlier
    refine ⟨transfer, sent, ?_, ?_⟩
    · rw [List.getElem?_set_ne (Nat.ne_of_gt earlier)]
      exact found
    · exact (taken_apart readings served (some item) (Nat.ne_of_lt earlier)).trans took
  current _ :=
    ⟨_, List.getElem?_set_self (ReceptionSession.lt_length_of_running own), nofun⟩
  stream := serving.stream_taken ready
  closed := serving.closed
  holds := serving.holds

theorem Served.handOut {data : Bytes} (serving : Served transfers served readings sending)
    (own : sending.session.calls[served]? = some (.running phase))
    (ready : sending.session.link.incoming = item :: rest)
    (allRead : AllRead (readings ++ [⟨served, item⟩])
      (sending.session.calls.set served
        (.finished (.ok ⟨data, sending.session.receiver.holds.length⟩)))) :
    Served transfers (served + 1) (readings ++ [⟨served, item⟩]) { sending with
      session := { sending.session with
        link := { sending.session.link with incoming := rest }
        receiver := { sending.session.receiver with
          running := false
          outstanding := some sending.session.receiver.holds.length
          holds := sending.session.receiver.holds ++ [({} : Hold)] }
        calls := sending.session.calls.set served
          (.finished (.ok ⟨data, sending.session.receiver.holds.length⟩)) } } := by
  have bound := ReceptionSession.lt_length_of_running own
  have stream := serving.stream_taken ready
  have read := allRead.read served _ (List.getElem?_set_self bound)
  obtain ⟨_, going⟩ | ⟨transfer, later, split, whole, hold, result⟩ :=
    read.of_transfers ⟨_, stream⟩ nofun nofun
  · cases going
  cases result
  have sent : transfers[served]? = some transfer := by rw [← List.head?_drop, split]; rfl
  have onward : transfers.drop (served + 1) = later := by rw [← List.tail_drop, split]; rfl
  have length : sending.session.calls.length = served + 1 := by
    have calls := serving.calls
    have atMost := Bool.toNat_le sending.session.receiver.running
    omega
  refine ⟨allRead, ?_, ?_, nofun, ?_, serving.closed, ?_⟩
  · simp [length]
  · intro call earlier
    obtain earlier | rfl := Nat.lt_succ_iff_lt_or_eq.mp earlier
    · obtain ⟨other, other_sent, found, took⟩ := serving.returned call earlier
      refine ⟨other, other_sent, ?_, ?_⟩
      · rw [List.getElem?_set_ne (Nat.ne_of_gt earlier)]
        exact found
      · exact (taken_apart readings served (some item) (Nat.ne_of_lt earlier)).trans took
    · refine ⟨transfer, sent, ?_, whole⟩
      rw [List.getElem?_set_self bound, serving.holds]
  · have fresh : taken (served + 1) (readings ++ [⟨served, item⟩]) = [] := by
      apply allRead.fresh
      rw [List.length_set, length]
    rw [split, whole, List.flatMap_cons, List.append_cancel_left_eq] at stream
    rw [fresh, onward, List.nil_append]
    exact stream
  · simp [serving.holds]

/-- Only the call under way can move. -/
theorem Served.mover (serving : Served transfers served readings sending)
    (own : sending.session.calls[call]? = some (.running phase)) :
    call = served ∧ ∀ deadline previous, phase = .waiting deadline previous →
      sending.session.receiver.isFree previous = true := by
  have bound := ReceptionSession.lt_length_of_running own
  have length := serving.calls
  have last : ¬ call < served := by
    intro earlier
    obtain ⟨transfer, -, found, -⟩ := serving.returned call earlier
    rw [own] at found
    cases found
  cases running : sending.session.receiver.running with
  | false =>
      rw [running, Bool.toNat_false] at length
      omega
  | true =>
      rw [running, Bool.toNat_true] at length
      obtain rfl : call = served := by omega
      obtain ⟨same, found, free⟩ := serving.current running
      rw [own] at found
      cases found
      exact ⟨rfl, free⟩

theorem Served.move (serving : Served transfers served readings sending)
    (own : sending.session.calls[served]? = some (.running phase))
    (moved : sending.session.stepCall served = some after) :
    Moved transfers served
      (readings ++ (ReceptionSession.reading? (.move served) sending.session after).toList)
      sending { sending with session := after } phase := by
  have allRead := serving.allRead.move moved
  have ready := (serving.mover own).2
  have kept : ∀ state, (sending.session.calls.set served state)[served]? = some state :=
    fun _ => List.getElem?_set_self (ReceptionSession.lt_length_of_running own)
  obtain ⟨same, link, receiver, progress, found, stepped, rfl⟩ :=
    ReceptionSession.stepCall_invert moved
  cases own.symm.trans found
  cases phase with
  | waiting deadline previous =>
      obtain ⟨rfl, ⟨-, rfl, rfl⟩ | ⟨held, -⟩⟩ := waiting_moved stepped
      · rw [ReceptionSession.reading_none, Option.toList_none, List.append_nil]
        · exact .onward (serving.proceed (.opening none) own rfl rfl) (kept _) (by simp [movesLeft])
        · rfl
      · rw [ready deadline previous rfl] at held
        cases held
  | opening gathered =>
      obtain ⟨rfl, ⟨shut, -⟩ | ⟨-, rfl, rfl⟩⟩ := opening_moved stepped
      · rw [serving.closed] at shut
        cases shut
      · rw [ReceptionSession.reading_none, Option.toList_none, List.append_nil]
        · exact .onward (serving.proceed (.reading gathered) own rfl rfl) (kept _) (by simp [movesLeft])
        · rfl
  | reading gathered =>
      obtain ⟨item, rest, next, rfl, read⟩ := reading_read stepped
      have same {after : ReceptionSession} (left : after.link.incoming = rest) :
          ReceptionSession.reading? (.move served) sending.session after = some ⟨served, item⟩ :=
        ReceptionSession.reading_head next left
      rw [same rfl] at allRead ⊢
      generalize shape : (receiver, progress) = pair at read
      cases read with
      | more left incomplete =>
          cases shape
          exact .onward (serving.gather own next allRead) (kept _) (by simp [movesLeft, next]; omega)
      | failure left incomplete other open? =>
          cases shape
          have lost : item ≠ .error .connectionClosed := by
            rintro rfl
            exact serving.no_error next
          obtain ⟨_, going⟩ | ⟨_, _, -, -, _, result⟩ :=
            (allRead.read served _ (kept _)).of_transfers ⟨_, serving.stream_taken next⟩
              (fun same => other (by cases same; rfl))
              (fun same => lost (open? (by cases same; rfl)))
          · cases going
          · cases result
      | whole left complete =>
          cases shape
          exact .returned (serving.handOut own next allRead)

end Move

theorem Served.own {next : ReceptionSession.Act} {after : ReceptionSession}
    (serving : Served transfers served readings sending)
    (allowed : allows next sending.session = true)
    (acted : sending.session.act next = some after) :
    ∃ still, Served transfers still
      (readings ++ (ReceptionSession.reading? next sending.session after).toList)
      { sending with session := after } := by
  cases next with
  | receive =>
      cases acted
      refine ⟨served, ?_⟩
      simp only [ReceptionSession.reading?, Option.toList_none, List.append_nil]
      exact serving.receive allowed
  | relink link => cases allowed
  | pass span =>
      cases acted
      refine ⟨served, ?_⟩
      simp only [ReceptionSession.reading?, Option.toList_none, List.append_nil]
      exact ⟨serving.allRead, serving.calls, serving.returned, serving.current,
        serving.stream, serving.closed, serving.holds⟩
  | use payload usage =>
      obtain ⟨held, rfl⟩ := ReceptionSession.use_invert acted
      refine ⟨served, ?_⟩
      simp only [ReceptionSession.reading?, Option.toList_none, List.append_nil]
      exact serving.use usage held
  | move call =>
      obtain ⟨phase, -, -, -, own, -, -⟩ := ReceptionSession.stepCall_invert acted
      obtain ⟨rfl, -⟩ := serving.mover own
      cases serving.move own acted with
      | onward still => exact ⟨_, still⟩
      | returned still => exact ⟨_, still⟩

theorem Served.kept {next : Act} {after : Sending}
    (serving : Served transfers served readings sending) (acted : sending.act next = some after) :
    ∃ still, Served transfers still (readings ++ (reading? next sending after).toList) after := by
  cases next with
  | arrive =>
      cases coming : sending.coming with
      | nil => simp [act, coming] at acted
      | cons segment rest =>
          simp only [act, coming, Option.some.injEq] at acted
          subst acted
          refine ⟨served, ?_⟩
          rw [reading?, Option.toList_none, List.append_nil]
          exact serving.arrive coming
  | own next =>
      simp only [act] at acted
      split at acted
      · next allowed =>
          obtain ⟨session, turned, rfl⟩ := Option.map_eq_some_iff.mp acted
          exact serving.own allowed turned
      · cases acted

theorem trace_served {permitTimeout : Time}
    (traced : trace act reading? (begin permitTimeout transfers) acts = some (readings, last)) :
    ∃ served, Served transfers served readings last := by
  have kept : ∀ readings next before after, (∃ served, Served transfers served readings before) →
      act next before = some after →
      ∃ served, Served transfers served (readings ++ (reading? next before after).toList) after := by
    rintro readings next before after ⟨served, serving⟩ acted
    exact serving.kept acted
  exact trace_history kept ⟨0, begin_served permitTimeout transfers⟩ traced

/-- A call need not wait while something of its transfer is there. -/
theorem Served.able {phase : ReceptionPhase} {transfer : Transfer}
    (serving : Served transfers served readings sending)
    (own : sending.session.calls[served]? = some (.running phase))
    (arrived : transfer.items <+: taken served readings ++ sending.session.link.incoming) :
    ∃ after, sending.session.stepCall served = some after := by
  have stepped : (sending.session.receiver.step sending.session.now sending.session.link
      phase).isSome = true := by
    cases phase with
    | waiting deadline previous =>
        have free := (serving.mover own).2 deadline previous rfl
        simp [Receiver.step, free]
    | opening gathered =>
        simp only [Receiver.step]
        split <;> rfl
    | reading gathered =>
        cases ready : sending.session.link.incoming with
        | nil =>
            rw [ready, List.append_nil] at arrived
            exact absurd arrived ((serving.allRead.read served _ own).lacks transfer)
        | cons item rest => exact reading_able _ ready
  obtain ⟨outcome, stepped⟩ := Option.isSome_iff_exists.mp stepped
  simp only [ReceptionSession.stepCall, own, stepped]
  exact ⟨_, rfl⟩

/-- Once its transfer has arrived a call returns, by its own moves. -/
theorem Served.returns {phase : ReceptionPhase} {transfer : Transfer}
    (serving : Served transfers served readings sending)
    (own : sending.session.calls[served]? = some (.running phase))
    (arrived : transfer.items <+: taken served readings ++ sending.session.link.incoming) :
    ∃ moves more final,
      trace act reading? sending (List.replicate moves (.own (.move served))) = some (more, final) ∧
        Served transfers (served + 1) (readings ++ more) final := by
  induction left : movesLeft phase sending.session.link using Nat.strong_induction_on
    generalizing readings sending phase with
  | _ left ih =>
      subst left
      obtain ⟨after, moved⟩ := serving.able own arrived
      have acted : act (.own (.move served)) sending = some { sending with session := after } := by
        simp [act, allows, ReceptionSession.act, moved]
      have first : trace act reading? sending [.own (.move served)] =
          some ((ReceptionSession.reading? (.move served) sending.session after).toList,
            { sending with session := after }) := by
        simp [trace, acted, reading?]
      cases serving.move own moved with
      | returned still => exact ⟨1, _, _, first, still⟩
      | onward still own fewer =>
          -- Nothing arrives, so what the call has taken and what is there stay the same together.
          have same := still.stream.trans serving.stream.symm
          simp only [ahead, ← List.append_assoc] at same
          rw [← List.append_cancel_right same] at arrived
          obtain ⟨moves, more, final, onward, returned⟩ := ih _ fewer still own arrived rfl
          refine ⟨moves + 1, _, final, trace_append first onward, ?_⟩
          rw [← List.append_assoc]
          exact returned

/-- Whoever calls for one payload after the other, each after the one before was released or dropped,
gets the payloads of all transfers in order, each from its own segments alone, and as soon as these have
arrived. Between two calls the link holds what has arrived of the transfers to come. All this is so for
any payloads that bring something and any parts of them. -/
theorem transfers_received {permitTimeout : Time}
    (traced : trace act reading? (begin permitTimeout transfers) acts = some (readings, last)) :
    (∀ call result, last.session.calls[call]? = some (.finished result) →
      ∃ transfer, transfers[call]? = some transfer ∧ result = .ok ⟨transfer.payload, call⟩ ∧
        taken call readings = transfer.items) ∧
      (∀ call phase transfer, last.session.calls[call]? = some (.running phase) →
        transfers[call]? = some transfer →
        transfer.items <+: taken call readings ++ last.session.link.incoming →
        ∃ moves more final,
          trace act reading? last (List.replicate moves (.own (.move call))) = some (more, final) ∧
            final.session.calls[call]? = some (.finished (.ok ⟨transfer.payload, call⟩)) ∧
            taken call (readings ++ more) = transfer.items) ∧
      (last.session.receiver.running = false →
        last.ahead = (transfers.drop last.session.calls.length).flatMap Transfer.items) ∧
      (∀ parts : List Bytes, parts ≠ [] → (∀ part ∈ parts, part ≠ []) →
        parts.flatten.length ≤ Receiver.maxBuffer →
        ∃ transfer : Transfer, transfer.payload = parts.flatten ∧
          transfer.segments = segments parts) ∧
      ∀ size payload, payload ≠ [] → payload.length ≤ Receiver.maxBuffer →
        ∃ transfer : Transfer, transfer.payload = payload ∧
          transfer.segments = SegmentLink.split size payload := by
  obtain ⟨served, serving⟩ := trace_served traced
  refine ⟨?_, ?_, ?_, fun _ => Transfer.of_parts, ?_⟩
  · intro call result found
    have bound := (List.getElem?_eq_some_iff.mp found).1
    rw [serving.calls] at bound
    by_cases earlier : call < served
    · obtain ⟨transfer, sent, own, took⟩ := serving.returned call earlier
      rw [found, Option.some.injEq, Call.finished.injEq] at own
      exact ⟨transfer, sent, own, took⟩
    · cases running : last.session.receiver.running with
      | false =>
          rw [running] at bound
          exact absurd bound earlier
      | true =>
          obtain ⟨phase, own, -⟩ := serving.current running
          rw [running, Bool.toNat_true] at bound
          obtain rfl : call = served := by omega
          rw [found] at own
          cases own
  · intro call phase transfer own sent arrived
    obtain ⟨rfl, -⟩ := serving.mover own
    obtain ⟨moves, more, final, onward, still⟩ := serving.returns own arrived
    obtain ⟨same, again, returned, took⟩ := still.returned call (Nat.lt_succ_self call)
    obtain rfl : transfer = same := Option.some.inj (sent.symm.trans again)
    exact ⟨moves, more, final, onward, returned, took⟩
  · intro idle
    have length := serving.calls
    rw [idle, Bool.toNat_false, Nat.add_zero] at length
    have stream := serving.stream
    rwa [serving.allRead.fresh served (Nat.le_of_eq length), List.nil_append, ← length] at stream
  · intro size payload some? bounded
    obtain ⟨parts, filled, rfl, split⟩ := split_parts size payload
    rw [split]
    exact Transfer.of_parts (by rintro rfl; exact some? rfl) filled bounded

/-- Three bytes in two segments, and two more in two. -/
def smallTransfers : List Transfer :=
  [⟨[5, 6], [[7]], by decide, by decide⟩, ⟨[8], [[9]], by decide, by decide⟩]

/-- The second call comes after the release of the first payload, and before it has moved. -/
def callsInTurn : List Act :=
  [.arrive, .own .receive, .own (.move 0), .own (.move 0), .arrive, .arrive, .own (.move 0),
    .own (.move 0), .own (.use 0 .release), .arrive, .own .receive]

theorem transfers_received_in_turn : ∃ readings last,
    trace act reading? (begin 30 smallTransfers) callsInTurn = some (readings, last) ∧
      last.session.calls[0]? = some (.finished (.ok ⟨[5, 6, 7], 0⟩)) ∧
      taken 0 readings = [.ok ⟨[5, 6], 1⟩, .ok ⟨[7], 0⟩] ∧
      ∃ moves more final,
        trace act reading? last (List.replicate moves (.own (.move 1))) = some (more, final) ∧
          final.session.calls[1]? = some (.finished (.ok ⟨[8, 9], 1⟩)) ∧
          taken 1 (readings ++ more) = [.ok ⟨[8], 1⟩, .ok ⟨[9], 0⟩] := by
  have run : (trace act reading? (begin 30 smallTransfers) callsInTurn).map
      (fun (readings, last) => (taken 1 readings, last.session.calls, last.session.link.incoming)) =
        some ([], [.finished (.ok ⟨[5, 6, 7], 0⟩), .running (.waiting 30 0)],
          [.ok ⟨[8], 1⟩, .ok ⟨[9], 0⟩]) := rfl
  obtain ⟨⟨readings, last⟩, traced, seen⟩ := Option.map_eq_some_iff.mp run
  simp only [Prod.mk.injEq] at seen
  obtain ⟨unread, calls, incoming⟩ := seen
  obtain ⟨returned, onward, -⟩ := transfers_received traced
  have first : last.session.calls[0]? = some (.finished (.ok ⟨[5, 6, 7], 0⟩)) := by rw [calls]; rfl
  have second : last.session.calls[1]? = some (.running (.waiting 30 0)) := by rw [calls]; rfl
  obtain ⟨transfer, sent, -, own⟩ := returned 0 _ first
  cases sent
  refine ⟨readings, last, traced, first, own, ?_⟩
  apply onward 1 _ ⟨[8], [[9]], by decide, by decide⟩ second rfl
  rw [unread, incoming]
  exact List.prefix_refl _

end Sending

end CameraBridge
