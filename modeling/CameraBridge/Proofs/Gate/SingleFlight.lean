import CameraBridge.Proofs.Gate.Ledger

namespace CameraBridge

/-! Single flight: one write at a time, each with an acknowledgement of its own. -/

variable {events : List FlightEvent} {event : FlightEvent} {place ack : Nat}

/-- A completion is the one an acknowledgement is about: no write began in between. -/
structure AccountsFor (events : List FlightEvent) (place ack : Nat) : Prop where
  before : place < ack
  completed : events[place]? = some .completed
  same : ∀ between granted, place < between → between < ack →
    events[between]? ≠ some (.began granted)

/-- Nothing is pending when a write begins or a wait has returned, and each acknowledgement has a
completion of its own, which came after its write began. -/
structure SingleFlight (events : List FlightEvent) : Prop where
  granted : ∀ result, FlightEvent.began result ∈ events → result = true
  settled : ∀ outcome pending, FlightEvent.returned outcome pending ∈ events → pending = false
  accounted : ∀ ack pending, events[ack]? = some (.returned .acked pending) →
    ∃ place, AccountsFor events place ack
  apart : ∀ place ack other first second,
    events[ack]? = some (.returned .acked first) → events[other]? = some (.returned .acked second) →
    AccountsFor events place ack → AccountsFor events place other → ack = other

def Begun (events : List FlightEvent) : Prop :=
  ∃ (start : Nat) (granted : Bool), events[start]? = some (.began granted) ∧
    ∀ (later : Nat) (outcome : AckOutcome) (pending : Bool), start < later →
      events[later]? ≠ some (.returned outcome pending)

theorem getElem?_snoc {index : Nat} {found : FlightEvent}
    (stands : (events ++ [event])[index]? = some found) :
    index < events.length ∧ events[index]? = some found ∨ index = events.length ∧ found = event := by
  by_cases inside : index < events.length
  · rw [List.getElem?_append_left inside] at stands
    exact .inl ⟨inside, stands⟩
  · rw [List.getElem?_append_right (Nat.le_of_not_lt inside)] at stands
    obtain ⟨position, equal⟩ := List.getElem?_eq_some_iff.mp stands
    have first : index - events.length = 0 := by simpa using position
    simp only [first, List.getElem_singleton] at equal
    exact .inr ⟨by omega, equal.symm⟩

theorem AccountsFor.snoc_iff (inside : ack < events.length) :
    AccountsFor (events ++ [event]) place ack ↔ AccountsFor events place ack := by
  have unchanged : ∀ index, index ≤ ack → (events ++ [event])[index]? = events[index]? :=
    fun index early => List.getElem?_append_left (Nat.lt_of_le_of_lt early inside)
  constructor
  · intro accounts
    refine ⟨accounts.before, ?_, ?_⟩
    · rw [← unchanged place (Nat.le_of_lt accounts.before)]
      exact accounts.completed
    · intro between granted later earlier
      rw [← unchanged between (Nat.le_of_lt earlier)]
      exact accounts.same between granted later earlier
  · intro accounts
    refine ⟨accounts.before, ?_, ?_⟩
    · rw [unchanged place (Nat.le_of_lt accounts.before)]
      exact accounts.completed
    · intro between granted later earlier
      rw [unchanged between (Nat.le_of_lt earlier)]
      exact accounts.same between granted later earlier

theorem Begun.snoc (begun : Begun events)
    (unreturned : ∀ outcome pending, event ≠ .returned outcome pending) :
    Begun (events ++ [event]) := by
  obtain ⟨start, granted, began, since⟩ := begun
  have inside := (List.getElem?_eq_some_iff.mp began).1
  refine ⟨start, granted, ?_, ?_⟩
  · rw [List.getElem?_append_left inside]
    exact began
  · intro later outcome pending after stands
    rcases getElem?_snoc stands with ⟨-, earlier⟩ | ⟨-, rfl⟩
    · exact since later outcome pending after earlier
    · exact unreturned outcome pending rfl

theorem Begun.began (granted : Bool) : Begun (events ++ [.began granted]) := by
  refine ⟨events.length, granted, List.getElem?_concat_length, ?_⟩
  intro later outcome pending after stands
  rcases getElem?_snoc stands with ⟨inside, -⟩ | ⟨same, -⟩ <;> omega

namespace SingleFlight

theorem nil : SingleFlight [] where
  granted := by simp
  settled := by simp
  accounted := by simp
  apart := by simp

theorem snoc (single : SingleFlight events)
    (granted : ∀ result, event = .began result → result = true)
    (settled : ∀ outcome pending, event = .returned outcome pending → pending = false)
    (silent : ∀ pending, event ≠ .returned .acked pending) : SingleFlight (events ++ [event]) where
  granted result member := by
    rcases List.mem_append.mp member with earlier | last
    · exact single.granted result earlier
    · exact granted result (List.mem_singleton.mp last).symm
  settled outcome pending member := by
    rcases List.mem_append.mp member with earlier | last
    · exact single.settled outcome pending earlier
    · exact settled outcome pending (List.mem_singleton.mp last).symm
  accounted ack pending stands := by
    rcases getElem?_snoc stands with ⟨inside, earlier⟩ | ⟨-, last⟩
    · obtain ⟨place, accounts⟩ := single.accounted ack pending earlier
      exact ⟨place, (AccountsFor.snoc_iff inside).mpr accounts⟩
    · exact absurd last.symm (silent pending)
  apart place ack other first second one two mine yours := by
    rcases getElem?_snoc one with ⟨inside, one⟩ | ⟨-, last⟩
    · rcases getElem?_snoc two with ⟨within, two⟩ | ⟨-, last⟩
      · exact single.apart place ack other first second one two
          ((AccountsFor.snoc_iff inside).mp mine) ((AccountsFor.snoc_iff within).mp yours)
      · exact absurd last.symm (silent second)
    · exact absurd last.symm (silent first)

/-- A completion accounts for no acknowledgement that lies before a later write. -/
theorem not_accounts (begun : Begun events) {outcome : AckOutcome} {pending : Bool}
    (earlier : events[ack]? = some (.returned outcome pending)) (after : place < ack) :
    ¬ AccountsFor (events ++ [event]) place events.length := by
  intro accounts
  obtain ⟨start, granted, began, since⟩ := begun
  have inside := (List.getElem?_eq_some_iff.mp began).1
  have ordered : ack < start := by
    rcases Nat.lt_trichotomy ack start with first | rfl | last
    · exact first
    · simp [began] at earlier
    · exact absurd earlier (since ack outcome pending last)
  apply accounts.same start granted (by omega) inside
  rw [List.getElem?_append_left inside]
  exact began

theorem snoc_acked (single : SingleFlight events) (completed : events.getLast? = some .completed)
    (begun : Begun events) : SingleFlight (events ++ [.returned .acked false]) where
  granted result member := by
    rcases List.mem_append.mp member with earlier | last
    · exact single.granted result earlier
    · cases List.mem_singleton.mp last
  settled outcome pending member := by
    rcases List.mem_append.mp member with earlier | last
    · exact single.settled outcome pending earlier
    · cases List.mem_singleton.mp last
      rfl
  accounted ack pending stands := by
    rcases getElem?_snoc stands with ⟨inside, earlier⟩ | ⟨rfl, -⟩
    · obtain ⟨place, accounts⟩ := single.accounted ack pending earlier
      exact ⟨place, (AccountsFor.snoc_iff inside).mpr accounts⟩
    · rw [List.getLast?_eq_getElem?] at completed
      have inside := (List.getElem?_eq_some_iff.mp completed).1
      refine ⟨events.length - 1, by omega, ?_, fun between granted _ _ => by omega⟩
      rw [List.getElem?_append_left inside]
      exact completed
  apart place ack other first second one two mine yours := by
    rcases getElem?_snoc one with ⟨inside, one⟩ | ⟨rfl, -⟩
    · rcases getElem?_snoc two with ⟨within, two⟩ | ⟨rfl, -⟩
      · exact single.apart place ack other first second one two
          ((AccountsFor.snoc_iff inside).mp mine) ((AccountsFor.snoc_iff within).mp yours)
      · exact absurd yours (not_accounts begun one mine.before)
    · rcases getElem?_snoc two with ⟨within, two⟩ | ⟨rfl, -⟩
      · exact absurd mine (not_accounts begun two yours.before)
      · rfl

end SingleFlight

namespace Ledger

variable {before after : Ledger} {seen : List FlightEvent}

/-- What a history without late cancellations keeps up. -/
structure Kept (events : List FlightEvent) (ledger : Ledger) : Prop where
  single : SingleFlight events
  balanced : ledger.Balanced
  /-- A wake-up is that of the completion just seen. -/
  fresh : 0 < ledger.held → events.getLast? = some .completed
  begun : ledger.busy = true → Begun events

theorem Kept.entry (kept : Kept events before) (entry : before.Entry seen after)
    (timely : FlightEvent.cancelled false ∉ seen) : Kept (events ++ seen) after := by
  have balanced := entry.balanced kept.balanced timely
  have earlier := kept.balanced
  simp only [Balanced] at balanced earlier
  cases entry with
  | quiet => simpa only [List.append_nil] using kept
  | granted owed held =>
      refine ⟨kept.single.snoc ?_ ?_ ?_, balanced, ?_, fun _ => Begun.began true⟩
      · rintro result ⟨⟩
        rfl
      · rintro outcome pending ⟨⟩
      · rintro pending ⟨⟩
      · simp only [Bool.toNat_false] at earlier
        intro some
        simp only at some
        omega
  | denied held due =>
      simp only [Bool.toNat_false] at earlier
      omega
  | completed some single =>
      refine ⟨kept.single.snoc ?_ ?_ ?_, balanced, ?_, ?_⟩
      · rintro result ⟨⟩
      · rintro outcome pending ⟨⟩
      · rintro pending ⟨⟩
      · exact fun _ => List.getLast?_concat
      · exact fun busy => (kept.begun busy).snoc (by rintro outcome pending ⟨⟩)
  | cancelled owed held pending =>
      refine ⟨kept.single.snoc ?_ ?_ ?_, balanced, ?_, fun busy => absurd busy Bool.false_ne_true⟩
      · rintro result ⟨⟩
      · rintro outcome pending ⟨⟩
      · rintro pending ⟨⟩
      · simp only [Bool.toNat_false] at balanced
        intro some
        simp only at some
        omega
  | @acked owed held pending due =>
      simp only [Bool.toNat_true] at earlier
      have settled : pending = false := by
        cases pending with
        | false => rfl
        | true =>
            simp only [Bool.toNat_true] at due
            omega
      subst settled
      refine ⟨kept.single.snoc_acked (kept.fresh (Nat.succ_pos held)) (kept.begun rfl), balanced, ?_,
        fun busy => absurd busy Bool.false_ne_true⟩
      intro some
      simp only at some
      omega
  | timedOut owed held =>
      simp only [Bool.toNat_true] at earlier
      refine ⟨kept.single.snoc ?_ ?_ ?_, balanced, ?_, fun busy => absurd busy Bool.false_ne_true⟩
      · rintro result ⟨⟩
      · rintro outcome pending ⟨⟩
        rfl
      · rintro pending ⟨⟩
      · intro some
        simp only at some
        omega

variable {start ledger : Ledger}

theorem Entries.kept (entries : Entries ⟨false, 0, 0⟩ events ledger)
    (timely : FlightEvent.cancelled false ∉ events) : Kept events ledger := by
  induction entries with
  | none =>
      exact ⟨SingleFlight.nil, rfl, fun some => absurd some (Nat.lt_irrefl 0),
        fun busy => absurd busy Bool.false_ne_true⟩
  | next earlier entry ih =>
      obtain ⟨first, last⟩ : _ ∧ _ := by simpa using timely
      exact (ih first).entry entry last

theorem Entries.covered (entries : Entries start events ledger) (covered : start.Covered) :
    ledger.Covered := by
  induction entries with
  | none => exact covered
  | next earlier entry ih => exact entry.covered ih

/-- After a late cancellation there is something left between two writes. -/
theorem Entries.late (entries : Entries ⟨false, 0, 0⟩ events ledger)
    (last : events.getLast? = some (.cancelled false)) :
    ledger.busy = false ∧ 0 < ledger.owed + ledger.held := by
  induction entries with
  | none => simp at last
  | @next middle after events seen earlier entry ih =>
      have covered := earlier.covered (fun busy => absurd busy Bool.false_ne_true)
      cases entry with
      | quiet => exact ih (by simpa using last)
      | cancelled owed held pending =>
          simp only [List.getLast?_concat, Option.some.injEq, FlightEvent.cancelled.injEq] at last
          subst last
          exact ⟨rfl, covered rfl⟩
      | granted | denied | completed | acked | timedOut => simp at last

end Ledger

def FlightMove.completes : FlightMove → Bool
  | .complete _ | .reset | .clear _ => true
  | _ => false

namespace Flight

variable {channel : Channel} {flight last : Flight} {gate : Gate} {moves : List FlightMove}

theorem poll_woken (flight : Flight) {call : Nat} {wait : AckWait}
    (waits : flight.stage = .waiting call)
    (found : flight.session.gates.gate? channel = some gate)
    (running : flight.session.calls[call]? = some (.running ⟨channel, wait⟩))
    (woken : call ∈ gate.woken) :
    ∃ last, flight.move channel .poll = some ([.returned .acked gate.pending], last) := by
  have inside : call < flight.session.calls.length := (List.getElem?_eq_some_iff.mp running).1
  have collected := WriteGates.gate?_setGate found (gate.collect call)
  have kept : (gate.collect call).pending = gate.pending := rfl
  simp [move, waits, GateSession.stepCall, running, WriteGates.stepWait_eq found,
    AckWait.step_woken woken, List.getElem?_set_self inside, WriteGates.isPending_eq collected, kept]

/-- A wake-up left over acknowledges the next write at once, which stays pending. -/
theorem stale_wake_up (found : flight.session.gates.gate? channel = some gate)
    (idle : flight.stage = .idle) (pending : gate.pending = false) (stored : gate.stored = true) :
    ∃ last, flight.run channel [.begin, .accept 0, .poll] =
      some ([.began true, .returned .acked true], last) := by
  let began : Flight := { flight.onGates (·.begin channel) with stage := .writing }
  let waits : Flight := { began with
    session := began.session.waitAck channel 0
    stage := .waiting began.session.calls.length }
  have first : flight.move channel .begin = some ([.began true], began) := by
    simp [move, idle, WriteGates.canBegin_eq found, pending, began]
  have second : began.move channel (.accept 0) = some ([], waits) := rfl
  have marked : began.session.gates.gate? channel = some gate.mark :=
    WriteGates.gate?_modify found Gate.mark
  have taken := WriteGates.gate?_modify marked (Gate.enqueue began.session.calls.length)
  have woken : began.session.calls.length ∈
      (gate.mark.enqueue began.session.calls.length).woken := by
    simp [Gate.enqueue, Gate.mark, stored]
  have still : (gate.mark.enqueue began.session.calls.length).pending = true := by
    simp [Gate.enqueue, Gate.mark, stored]
  obtain ⟨last, third⟩ := poll_woken waits rfl taken List.getElem?_concat_length woken
  rw [still] at third
  exact ⟨last, by simp only [run, first, second, third, List.append_nil, List.nil_append,
    List.singleton_append]⟩

/-- What is left over between two writes is a wake-up, once no completion is half done. -/
theorem wake_up_stored (sound : flight.Sound channel gate) (idle : flight.stage = .idle)
    (pending : gate.pending = false)
    (left : 0 < (flight.ledger channel gate).owed + (flight.ledger channel gate).held) :
    ∃ moves seen ready changed, (∀ next ∈ moves, next.completes = false) ∧
      flight.run channel moves = some (seen, ready) ∧ ready.stage = .idle ∧
      ready.session.gates.gate? channel = some changed ∧ changed.pending = false ∧
      changed.stored = true := by
  have queued := sound.queued
  rw [idle] at queued
  cases queued with
  | idle nobody nothing =>
      simp only [ledger, pending, Gate.held, nothing, List.length_nil, Bool.toNat_false,
        Nat.zero_add, Nat.add_zero] at left
      cases halfway : flight.halfway with
      | none =>
          have stored : gate.stored = true := by
            cases stored : gate.stored with
            | true => rfl
            | false => simp [halfway, stored] at left
          exact ⟨[], [], flight, gate, by simp, rfl, idle, sound.found, pending, stored⟩
      | some target =>
          have moved : flight.move channel .notify = some (completion (target = channel),
              { flight.onGates (·.modify target Gate.notify) with halfway := none }) := by
            simp only [move, halfway]
          have ran : flight.run channel [.notify] = some (completion (target = channel),
              { flight.onGates (·.modify target Gate.notify) with halfway := none }) := by
            simp only [run, moved, List.append_nil]
          by_cases same : target = channel
          · subst same
            exact ⟨[.notify], _, _, gate.notify, by simp [FlightMove.completes], ran, idle,
              WriteGates.gate?_modify sound.found Gate.notify,
              (Gate.pending_notify gate).trans pending, by simp [Gate.notify, nobody]⟩
          · have stored : gate.stored = true := by
              cases stored : gate.stored with
              | true => rfl
              | false => simp [halfway, same, stored] at left
            exact ⟨[.notify], _, _, gate, by simp [FlightMove.completes], ran, idle,
              (WriteGates.gate?_modify_other same Gate.notify).trans sound.found, pending, stored⟩

/-- Whatever is left over between two writes spoils the next one. -/
theorem left_over (sound : flight.Sound channel gate) (idle : flight.stage = .idle)
    (left : 0 < (flight.ledger channel gate).owed + (flight.ledger channel gate).held) :
    ∃ later more last, (∀ next ∈ later, next.completes = false) ∧
      flight.run channel later = some (more, last) ∧
      (.began false ∈ more ∨ .returned .acked true ∈ more) := by
  cases pending : gate.pending with
  | true =>
      have ran : flight.run channel [.begin] =
          some ([.began false], { flight.onGates (·.begin channel) with stage := .writing }) := by
        simp [run, move, idle, WriteGates.canBegin_eq sound.found, pending]
      exact ⟨[.begin], [.began false], _, by simp [FlightMove.completes], ran, .inl (by simp)⟩
  | false =>
      obtain ⟨first, seen, ready, changed, calm, ran, still, found, unmarked, stored⟩ :=
        wake_up_stored sound idle pending left
      obtain ⟨last, stale⟩ := stale_wake_up found still unmarked stored
      refine ⟨first ++ [.begin, .accept 0, .poll], _, last, ?_, run_append ran stale,
        .inr (by simp)⟩
      intro next member
      rcases List.mem_append.mp member with earlier | later
      · exact calm next earlier
      · simp only [List.mem_cons, List.not_mem_nil, or_false] at later
        rcases later with rfl | rfl | rfl <;> rfl

theorem initial (ble : channel.isBle = true) : ∃ gate, Sound channel {} gate ∧
    ledger channel {} gate = ⟨false, 0, 0⟩ := by
  cases channel <;> first
    | exact ⟨{}, ⟨rfl, .idle rfl rfl⟩, rfl⟩
    | exact nomatch ble

/-- Single flight holds as long as every write that fails is still pending when it is cancelled. A
completion that came before a cancellation leaves its wake-up behind, which the next write takes
for its own: then single flight can always be broken, without another completion. -/
theorem single_flight_unless_cancelled_late (ble : channel.isBle = true)
    (ran : run channel {} moves = some (events, flight)) :
    (.cancelled false ∉ events → SingleFlight events) ∧
      (events.getLast? = some (.cancelled false) → ∃ later more last,
        (∀ next ∈ later, next.completes = false) ∧
        run channel {} (moves ++ later) = some (events ++ more, last) ∧
        ¬ SingleFlight (events ++ more)) := by
  obtain ⟨gate, sound, clean⟩ := initial ble
  have opened : Ledger.Entries ⟨false, 0, 0⟩ [] (ledger channel {} gate) := by
    rw [clean]
    exact .none
  obtain ⟨changed, final, entries⟩ := run_booked sound opened ran
  rw [List.nil_append] at entries
  refine ⟨fun timely => (entries.kept timely).single, ?_⟩
  intro late
  obtain ⟨rested, left⟩ := entries.late late
  have idle : flight.stage = .idle := by simpa [ledger] using rested
  obtain ⟨later, more, last, calm, continued, broken⟩ := left_over final idle left
  refine ⟨later, more, last, calm, run_append ran continued, ?_⟩
  intro single
  rcases broken with denied | unsettled
  · have granted := single.granted false (List.mem_append_right _ denied)
    cases granted
  · have settled := single.settled .acked true (List.mem_append_right _ unsettled)
    cases settled

/-- A write that is acknowledged in time, and one whose completion came before it failed. -/
theorem single_flight_in_time_and_late :
    SingleFlight [.began true, .completed, .returned .acked false] ∧
      ∃ later more last, (∀ next ∈ later, FlightMove.completes next = false) ∧
        run .cmd {} ([.begin, .complete .cmd, .refuse] ++ later) =
          some ([.began true, .completed, .cancelled false] ++ more, last) ∧
        ¬ SingleFlight ([.began true, .completed, .cancelled false] ++ more) := by
  have acknowledged : ∃ last, run .cmd {} [.begin, .accept 10, .complete .cmd, .poll] =
      some ([.began true, .completed, .returned .acked false], last) := ⟨_, rfl⟩
  have refused : ∃ last, run .cmd {} [.begin, .complete .cmd, .refuse] =
      some ([.began true, .completed, .cancelled false], last) := ⟨_, rfl⟩
  obtain ⟨_, inTime⟩ := acknowledged
  obtain ⟨_, late⟩ := refused
  exact ⟨(single_flight_unless_cancelled_late rfl inTime).1 (by decide),
    (single_flight_unless_cancelled_late rfl late).2 rfl⟩

/-- The write fails after its completion, and the next one is acknowledged by that completion. -/
theorem acknowledged_by_another_write :
    ∃ last, run .cmd {} [.begin, .complete .cmd, .refuse, .begin, .accept 10, .poll] =
        some ([.began true, .completed, .cancelled false, .began true, .returned .acked true], last) ∧
      ¬ SingleFlight
        [.began true, .completed, .cancelled false, .began true, .returned .acked true] :=
  ⟨_, rfl, fun single => nomatch single.settled .acked true (by simp)⟩

end Flight

end CameraBridge
