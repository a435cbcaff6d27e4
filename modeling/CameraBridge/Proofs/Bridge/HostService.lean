import CameraBridge.Proofs.Bridge.HostPassage

namespace CameraBridge.Bridge

/-! What becomes of the host's payloads in the long run. If neither of the two workers is passed over and
the clock goes on, the consumer comes to act on all that the link brings, and is done with it. -/

open Passage

/-- A run in which nobody ends it and neither worker is passed over. -/
structure Unending.Serves {first : Bridge} (run : Unending first) : Prop where
  going : ∀ moment, run.next moment ≠ .shutdown
  intake : run.IsFair .intake
  consumer : run.IsFair .consumer
  timely : run.IsTimely

namespace Unending

variable {first : Bridge} {run : Unending first} {place following : Place} {start moment : Nat}

theorem Serves.fair (serves : run.Serves) (place : Place) : run.IsFair place.worker := by
  cases place with
  | settled | offered => exact serves.intake
  | queued | inHand => exact serves.consumer

/-- At some moment of a run the newest payload is at some place. -/
structure At (run : Unending first) (moment : Nat) (place : Place) : Prop where
  placed : Placed place (run.bridge moment).hostDesk
  kept : Kept place (run.seen passageSight? moment)

/-- What was read up to some moment. -/
def readBy (run : Unending first) (moment : Nat) : List (LinkItem × Option Bytes) :=
  reads (run.seen passageSight? moment)

theorem readBy_succ (run : Unending first) (moment : Nat) :
    run.readBy (moment + 1) = run.readBy moment ++
      ((passageSight? (run.next moment) (run.bridge moment) (run.bridge (moment + 1))).bind
        PassageSight.read?).toList :=
  reads_seen _ _

/-- The intake has stopped, or the link brings nothing. -/
def IsIdle (run : Unending first) (moment : Nat) : Prop :=
  (run.bridge moment).intake = .stopped ∨ (run.bridge moment).hostLink.incoming = []

/-! ### From one place to the next -/

/-- Nothing has happened to the newest payload since some moment, and its worker has not moved. -/
structure Waits (run : Unending first) (start : Nat) (place : Place) (moment : Nat) : Prop where
  here : run.At moment place
  stand : place.stand (run.bridge moment) = place.stand (run.bridge start)
  unread : run.readBy moment = run.readBy start

/-- The payload has come nearer to its end. If it is settled, something new was read or there is
nothing to read. -/
def GetsOn (run : Unending first) (start : Nat) (place : Place) (moment : Nat) : Prop :=
  ∃ following, run.At moment following ∧
    (run.readBy moment = run.readBy start ∧
        following.rank (run.bridge moment) < place.rank (run.bridge start) ∨
      (∃ gathered, place = .settled gathered) ∧
        ((run.readBy start).length < (run.readBy moment).length ∨ run.IsIdle moment))

/-- What one act can do to a payload that waits. -/
theorem Waits.passes (waits : run.Waits start place moment)
    (onward : Placed following (run.bridge (moment + 1)).hostDesk)
    (passes : Passes place
      (passageSight? (run.next moment) (run.bridge moment) (run.bridge (moment + 1))) following)
    (nearer : (∃ item payload,
        passageSight? (run.next moment) (run.bridge moment) (run.bridge (moment + 1)) =
          some (.read item payload)) ∨
      following.rank (run.bridge (moment + 1)) < place.rank (run.bridge moment)) :
    run.GetsOn start place (moment + 1) := by
  have there : run.At (moment + 1) following := ⟨onward, waits.here.kept.passes passes⟩
  have grown := readBy_succ run moment
  rw [waits.unread] at grown
  have read {item : LinkItem} {payload : Option Bytes}
      (seen : passageSight? (run.next moment) (run.bridge moment) (run.bridge (moment + 1)) =
        some (.read item payload)) : run.GetsOn start place (moment + 1) := by
    rw [seen] at passes grown
    refine ⟨following, there, .inr ⟨?_, .inl (by simp [grown, PassageSight.read?])⟩⟩
    cases passes with
    | read | received => exact ⟨_, rfl⟩
  obtain ⟨item, payload, seen⟩ | nearer := nearer
  · exact read seen
  · obtain ⟨item, payload, seen⟩ | ⟨unread, -⟩ := passes.onward
    · exact read seen
    · rw [unread, Option.toList_none, List.append_nil] at grown
      rw [Place.rank_congr waits.stand] at nearer
      exact ⟨following, there, .inl ⟨grown, nearer⟩⟩

theorem Waits.succ (waits : run.Waits start place moment) (serves : run.Serves)
    (other : run.next moment ≠ .move place.worker) :
    run.GetsOn start place (moment + 1) ∨ run.Waits start place (moment + 1) := by
  obtain ⟨following, onward, passes⟩ :=
    act_passes (serves.going moment) waits.here.placed (run.follows moment)
  obtain read | ⟨unread, rfl | lower⟩ := passes.onward
  · exact .inl (waits.passes onward passes (.inl read))
  · have still := act_stand (serves.going moment) other (run.follows moment)
    refine .inr ⟨⟨onward, waits.here.kept.passes passes⟩, still.trans waits.stand, ?_⟩
    rw [readBy_succ, unread, Option.toList_none, List.append_nil, waits.unread]
  · exact .inl (waits.passes onward passes (.inr (Place.rank_lt_of_level lower)))

theorem Waits.able (waits : run.Waits start place moment)
    (late : ∀ deadline ∈ place.deadlines (run.bridge start), deadline ≤ (run.bridge moment).now) :
    run.GetsOn start place moment ∨
      ((run.bridge moment).step place.worker).isSome = true := by
  have same : place.deadlines (run.bridge moment) = place.deadlines (run.bridge start) :=
    congrArg (Sum.elim Intake.deadlines Consumer.deadlines) waits.stand
  obtain moves | idle := worker_able waits.here.placed (same ▸ late)
  · exact .inr moves
  · exact .inl ⟨place, waits.here, .inr ⟨idle.1, .inr idle.2⟩⟩

theorem gets_on (serves : run.Serves) (here : run.At start place) :
    ∃ moment, start ≤ moment ∧ run.GetsOn start place moment := by
  have first : run.Waits start place start := ⟨here, rfl, rfl⟩
  obtain ⟨moment, later, goesOn | ⟨waits, moves⟩⟩ :=
    comes (serves.fair place) serves.timely first (fun _ waits => waits.succ serves)
      fun _ waits => waits.able
  · exact ⟨moment, later, goesOn⟩
  · have moved := run.follows moment
    rw [moves] at moved
    obtain ⟨following, onward, passes, nearer⟩ := worker_nearer waits.here.placed moved
    rw [← moves] at passes nearer
    exact ⟨moment + 1, Nat.le_succ_of_le later, waits.passes onward passes nearer⟩

/-! ### To the end, and to the next item -/

/-- Every payload is settled in the end, and nothing else is read before. -/
theorem settles (serves : run.Serves) (here : run.At start place) :
    ∃ moment gathered, start ≤ moment ∧ run.At moment (.settled gathered) ∧
      run.readBy moment = run.readBy start := by
  -- Whatever happens to a payload that is not settled lowers its rank.
  induction rank : place.rank (run.bridge start) using WellFoundedLT.induction
    generalizing start place with
  | ind bound ih =>
      by_cases settled : ∃ gathered, place = .settled gathered
      · obtain ⟨gathered, rfl⟩ := settled
        exact ⟨start, gathered, le_refl _, here, rfl⟩
      · obtain ⟨between, later, following, there, ⟨unread, nearer⟩ | ⟨done, -⟩⟩ := gets_on serves here
        · obtain ⟨moment, gathered, after, ends, same⟩ := ih _ (rank ▸ nearer) there rfl
          exact ⟨moment, gathered, le_trans later after, ends, same.trans unread⟩
        · exact absurd done settled

/-- The intake reads on while there is something to read. -/
theorem reads_on (serves : run.Serves) (here : run.At start place) :
    ∃ moment, start ≤ moment ∧
      ((run.readBy start).length < (run.readBy moment).length ∨ run.IsIdle moment) := by
  induction rank : place.rank (run.bridge start) using WellFoundedLT.induction
    generalizing start place with
  | ind bound ih =>
      obtain ⟨between, later, following, there, ⟨unread, nearer⟩ | ⟨-, done⟩⟩ := gets_on serves here
      · obtain ⟨moment, after, read⟩ := ih _ (rank ▸ nearer) there rfl
        exact ⟨moment, le_trans later after, unread ▸ read⟩
      · exact ⟨between, later, done⟩

/-! ### All that the link brings -/

section Started

variable {timing : Timing} {queueDepth : Nat} {state : DeviceState} {links : OpenLinks}
  {run : Unending (Bridge.start timing queueDepth state links)}

theorem at_every_moment (serves : run.Serves) (moment : Nat) : ∃ place, run.At moment place := by
  have going : .shutdown ∉ (List.range moment).map run.next := by
    rw [List.mem_map]
    rintro ⟨before, -, ends⟩
    exact serves.going before ends
  obtain ⟨place, placed, kept⟩ := watch_kept going (run.watched moment)
  exact ⟨place, placed, kept⟩

/-- The consumer comes to act on all that was received, and is done with it. -/
theorem consumes (serves : run.Serves) (moment : Nat) :
    ∃ later, moment ≤ later ∧
      consumed (run.seen passageSight? later) = received (run.seen passageSight? moment) ∧
      finished (run.seen passageSight? later) =
        (received (run.seen passageSight? moment)).length := by
  obtain ⟨place, here⟩ := at_every_moment serves moment
  obtain ⟨later, gathered, after, there, unread⟩ := settles serves here
  have same : received (run.seen passageSight? later) = received (run.seen passageSight? moment) :=
    congrArg (List.filterMap Prod.snd) unread
  obtain ⟨all, done⟩ := there.kept.account
  exact ⟨later, after, all.trans same, by rw [done, all, same]⟩

/-- On a link that stays open the intake stops at an item only. -/
theorem stopped_reads (serves : run.Serves)
    (opened : ∀ moment, (run.bridge moment).hostLink.closed = false)
    (stopped : (run.bridge moment).intake = .stopped) :
    .error .connectionClosed ∈ items (run.seen passageSight? moment) := by
  induction moment with
  | zero =>
      rw [run.starts] at stopped
      exact absurd stopped (beginReception_goesOn _)
  | succ moment ih =>
      have grown : items (run.seen passageSight? (moment + 1)) = _ :=
        congrArg (List.map Prod.fst) (run.readBy_succ moment)
      rw [List.map_append] at grown
      rw [grown, List.mem_append]
      by_cases moved : run.next moment = .move .intake
      · have acted := run.follows moment
        rw [moved] at acted
        obtain closed | ⟨payload, read⟩ := stepIntake_stops acted stopped
        · exact absurd closed (by simp [opened moment])
        · right
          rw [moved]
          simp [passageSight?, read, PassageSight.read?]
      · have still : (Place.settled none).stand (run.bridge (moment + 1)) =
            (Place.settled none).stand (run.bridge moment) :=
          act_stand (serves.going moment) moved (run.follows moment)
        exact .inl (ih (Sum.inl.inj still ▸ stopped))

/-- What a link that stays open brings for good is read. -/
theorem reads_all (serves : run.Serves)
    (opened : ∀ moment, (run.bridge moment).hostLink.closed = false) {stream : List Delivery}
    {start : Nat} (brings : ∀ moment, start ≤ moment → stream.flatMap Delivery.items <+:
      items (run.seen passageSight? moment) ++ (run.bridge moment).hostLink.incoming) :
    ∃ moment, start ≤ moment ∧
      stream.flatMap Delivery.items <+: items (run.seen passageSight? moment) := by
  -- Each item read leaves fewer of them missing. Reading can only end when none is.
  induction missing : (stream.flatMap Delivery.items).length + 1 -
      (items (run.seen passageSight? start)).length using Nat.strong_induction_on
    generalizing start with
  | h bound ih =>
      obtain all | part := List.prefix_or_prefix_of_prefix (brings start (le_refl _))
        (List.prefix_append _ _)
      · exact ⟨start, le_refl _, all⟩
      obtain ⟨place, here⟩ := at_every_moment serves start
      obtain ⟨moment, later, longer | stopped | nothing⟩ := reads_on serves here
      · have length (moment : Nat) : (items (run.seen passageSight? moment)).length =
            (run.readBy moment).length := List.length_map _
        have fewer := part.length_le
        have before := length start
        have after := length moment
        obtain ⟨last, onward, all⟩ := ih _ (by omega)
          (fun other beyond => brings other (le_trans later beyond)) rfl
        exact ⟨last, le_trans later onward, all⟩
      · obtain all | part := List.prefix_or_prefix_of_prefix (brings moment later)
          (List.prefix_append _ _)
        · exact ⟨moment, later, all⟩
        · have closed := part.subset (stopped_reads serves opened stopped)
          obtain ⟨delivery, -, within⟩ := List.mem_flatMap.mp closed
          exact absurd within delivery.goesOn
      · have all := brings moment later
        rw [nothing, List.append_nil] at all
        exact ⟨moment, later, all⟩

end Started

end Unending

/-- In every run, whatever the waits and however fast the consumer is, payloads of the host are acted on
once and in order, and the next one is read only after that; what is seen to be acted on is what the
consumer takes from its queue and acts on. If neither worker is passed over and the clock goes on, then
all that was received is acted on in the end. And on a link that stays open, so are the payloads of all
transfers that it brings, whatever losses there are between them. -/
theorem host_payloads_in_order (timing : Timing) (queueDepth : Nat) (state : DeviceState)
    (links : OpenLinks) :
    (∀ acts sights last, .shutdown ∉ acts →
      (start timing queueDepth state links).watch passageSight? acts = some (sights, last) →
      InOrder sights ∧ ∀ next after data done, last.act next = some after →
        passageSight? next last after = some (.consumed data done) →
        Consumes next last after data done) ∧
    ∀ run : Unending (start timing queueDepth state links), run.Serves →
      (∀ moment, ∃ later, moment ≤ later ∧
        consumed (run.seen passageSight? later) = received (run.seen passageSight? moment) ∧
        finished (run.seen passageSight? later) =
          (received (run.seen passageSight? moment)).length) ∧
      ((∀ moment, (run.bridge moment).hostLink.closed = false) →
        ∀ (stream : List Delivery) (since : Nat),
          (∀ moment, since ≤ moment → stream.flatMap Delivery.items <+:
            items (run.seen passageSight? moment) ++ (run.bridge moment).hostLink.incoming) →
          ∃ later, stream.filterMap Delivery.payload? <+: consumed (run.seen passageSight? later) ∧
            finished (run.seen passageSight? later) =
              (consumed (run.seen passageSight? later)).length) := by
  refine ⟨fun acts sights last going watched => ⟨watch_inOrder going watched,
    fun next after data done acted seen => passageSight?_consumes acted seen⟩, ?_⟩
  intro run serves
  refine ⟨Unending.consumes serves, fun opened stream since brings => ?_⟩
  obtain ⟨moment, -, all⟩ := Unending.reads_all serves opened brings
  obtain ⟨later, -, acted, done⟩ := Unending.consumes serves moment
  obtain ⟨place, here⟩ := Unending.at_every_moment serves moment
  refine ⟨later, ?_, by rw [done, acted]⟩
  rw [acted, ← here.kept.completed, ← completed_stream]
  exact completed_prefix all

/-- A command for the camera, whole in one segment. -/
def commandPayload : Bytes := (Envelope.toChannel .control [1]).toBytes

/-- Three bytes that mean nothing, in two segments, then a loss, then a command. -/
def twoTransfers : List Delivery :=
  [.transfer ⟨[1, 2], [[3]], by simp, by decide⟩, .loss (.receiveFailed "segment lost") nofun,
    .transfer ⟨commandPayload, [], by simp, by decide +kernel⟩]

def receiveTwoTransfers : List Act :=
  .relink {} {} { incoming := twoTransfers.flatMap Delivery.items } {} ::
    List.replicate 7 (.move .intake) ++ [.move .consumer] ++ List.replicate 3 (.move .intake) ++
    [.pass 100] ++ List.replicate 6 (.move .intake) ++ List.replicate 4 (.move .consumer) ++
    List.replicate 2 (.move .intake)

theorem watch_receiveTwoTransfers :
    ((start {} 8 {} {}).watch passageSight? receiveTwoTransfers).any (fun (sights, last) =>
      items sights = twoTransfers.flatMap Delivery.items ∧
        last.intake = .receiving (.reading none) ∧ last.hostLink.incoming = [] ∧
        last.hostLink.closed = false ∧ last.consumer = .listening ∧
        last.inbound.receive workerSubscriber = none) = true := by
  decide +kernel

theorem receiveTwoTransfers_opened :
    ((List.range receiveTwoTransfers.length).all fun moment =>
      ((start {} 8 {} {}).watch passageSight? (receiveTwoTransfers.take moment)).any fun reached =>
        !reached.2.hostLink.closed) = true := by
  decide +kernel

/-- The acts, and then nothing but that time passes. -/
theorem receiveTwoTransfers_serves : ∃ sights last,
    (start {} 8 {} {}).watch passageSight? receiveTwoTransfers = some (sights, last) ∧
    ∃ run : Unending (start {} 8 {} {}), run.Serves ∧
      (∀ moment, (run.bridge moment).hostLink.closed = false) ∧
      ∀ moment, receiveTwoTransfers.length ≤ moment → twoTransfers.flatMap Delivery.items <+:
        items (run.seen passageSight? moment) ++ (run.bridge moment).hostLink.incoming := by
  obtain ⟨⟨sights, last⟩, watched, facts⟩ :=
    (Option.any_eq_true _ _).mp watch_receiveTwoTransfers
  obtain ⟨brought, reading, nothing, opened, listening, empty⟩ := of_decide_eq_true facts
  obtain ⟨run, same, onward⟩ := Unending.continues watched (Unending.idle last)
  have later {moment : Nat} (after : receiveTwoTransfers.length ≤ moment) :
      run.next moment = .pass 1 ∧ run.seen passageSight? moment = sights ∧
        run.bridge moment =
          { last with now := last.now + (moment - receiveTwoTransfers.length) } := by
    obtain ⟨span, rfl⟩ := Nat.exists_eq_add_of_le after
    obtain ⟨passes, stays, seen⟩ := onward span
    rw [Unending.seen_idle (fun _ _ => rfl), List.append_nil] at seen
    exact ⟨passes, seen, by rw [stays, Nat.add_sub_cancel_left]; rfl⟩
  refine ⟨sights, last, watched, run, ⟨fun moment ends => ?_, ?_, ?_, fun reading => ?_⟩,
    fun moment => ?_, fun moment after => ?_⟩
  · obtain before | after := Nat.lt_or_ge moment receiveTwoTransfers.length
    · have member : run.next moment ∈ receiveTwoTransfers :=
        same ▸ List.mem_map_of_mem (List.mem_range.mpr before)
      rw [ends] at member
      simp [receiveTwoTransfers] at member
    · rw [(later after).1] at ends
      cases ends
  · refine Unending.isFair_of_waits receiveTwoTransfers.length fun moment after => ?_
    rw [(later after).2.2]
    simp only [step, stepIntake, reading, Receiver.step, nothing]
  · refine Unending.isFair_of_waits receiveTwoTransfers.length fun moment after => ?_
    rw [(later after).2.2]
    simp only [step, stepConsumer, listening, empty, Option.map_none]
  · refine ⟨receiveTwoTransfers.length + reading, fun moment after => ?_⟩
    rw [(later (Nat.le_of_add_right_le after)).2.2]
    exact Nat.le_trans (Nat.le_sub_of_add_le' after) (Nat.le_add_left _ _)
  · obtain before | after := Nat.lt_or_ge moment receiveTwoTransfers.length
    · have reached : (start {} 8 {} {}).watch passageSight? ((List.range moment).map run.next) =
          some (_, run.bridge moment) := run.watched moment
      have part : (List.range moment).map run.next = receiveTwoTransfers.take moment := by
        rw [← same, ← List.map_take, List.take_range, Nat.min_eq_left before.le]
      have stays :=
        List.all_eq_true.mp receiveTwoTransfers_opened moment (List.mem_range.mpr before)
      rw [← part, reached] at stays
      simpa using stays
    · rw [(later after).2.2]
      exact opened
  · rw [(later after).2.1, brought]
    exact List.prefix_append _ _

/-- Both payloads are acted on, the one that means nothing too, also if nothing happens any more. -/
theorem host_payloads_in_order_of_two_transfers :
    .shutdown ∉ receiveTwoTransfers ∧ ∃ sights last,
      (start {} 8 {} {}).watch passageSight? receiveTwoTransfers = some (sights, last) ∧
      InOrder sights ∧
      ∃ run : Unending (start {} 8 {} {}), run.Serves ∧
        (∀ moment, (run.bridge moment).hostLink.closed = false) ∧
        (∀ moment, receiveTwoTransfers.length ≤ moment → twoTransfers.flatMap Delivery.items <+:
          items (run.seen passageSight? moment) ++ (run.bridge moment).hostLink.incoming) ∧
        ∃ later, [[1, 2, 3], commandPayload] <+: consumed (run.seen passageSight? later) ∧
          finished (run.seen passageSight? later) =
            (consumed (run.seen passageSight? later)).length := by
  have going : .shutdown ∉ receiveTwoTransfers := by simp [receiveTwoTransfers]
  obtain ⟨sights, last, watched, run, serves, opened, brings⟩ := receiveTwoTransfers_serves
  obtain ⟨ordered, served⟩ := host_payloads_in_order {} 8 {} {}
  obtain ⟨-, delivered⟩ := served run serves
  have payloads : twoTransfers.filterMap Delivery.payload? = [[1, 2, 3], commandPayload] := by
    decide +kernel
  rw [← payloads]
  exact ⟨going, sights, last, watched, (ordered _ _ _ going watched).1, run, serves, opened, brings,
    delivered opened twoTransfers _ brings⟩

end CameraBridge.Bridge
