import CameraBridge.Proofs.Gate.Flight

namespace CameraBridge

/-! The books of a flight. A write that began is owed a completion; a completion becomes a wake-up,
which is held until the writer takes it. Every move of a flight is one entry in these books, or none,
so what holds of all entries holds of all runs. -/

/-- What the gate of a channel has on account for its writer. -/
structure Ledger where
  /-- The writer is between the beginning of a write and its end. -/
  busy : Bool
  /-- Completions to come, of the write that is pending and of the one half completed. -/
  owed : Nat
  /-- Wake-ups that the writer has not taken. -/
  held : Nat

namespace Ledger

inductive Entry : Ledger → List FlightEvent → Ledger → Prop where
  | quiet (ledger : Ledger) : Entry ledger [] ledger
  | granted (owed held : Nat) :
      Entry ⟨false, owed, held⟩ [.began true] ⟨true, owed + 1, held⟩
  | denied {owed : Nat} (held : Nat) (due : 0 < owed) :
      Entry ⟨false, owed, held⟩ [.began false] ⟨true, owed, held⟩
  /-- The wake-up of a completion is lost if one is stored already. -/
  | completed {busy : Bool} {owed held later : Nat} (kept : 0 < later) (single : later ≤ held + 1) :
      Entry ⟨busy, owed + 1, held⟩ [.completed] ⟨busy, owed, later⟩
  | cancelled (owed held : Nat) (pending : Bool) :
      Entry ⟨true, owed + pending.toNat, held⟩ [.cancelled pending] ⟨false, owed, held⟩
  | acked {owed : Nat} (held : Nat) {pending : Bool} (due : pending.toNat ≤ owed) :
      Entry ⟨true, owed, held + 1⟩ [.returned .acked pending] ⟨false, owed, held⟩
  | timedOut (owed held : Nat) :
      Entry ⟨true, owed + 1, held⟩ [.returned .timedOut false] ⟨false, owed, held⟩

/-- Entries one after the other, and the history they make. -/
inductive Entries (start : Ledger) : List FlightEvent → Ledger → Prop where
  | none : Entries start [] start
  | next {middle after : Ledger} {events seen : List FlightEvent}
      (earlier : Entries start events middle) (entry : middle.Entry seen after) :
      Entries start (events ++ seen) after

/-- The writer in its cycle has something to wait for. -/
def Covered (ledger : Ledger) : Prop := ledger.busy = true → 0 < ledger.owed + ledger.held

/-- A write is owed one completion or holds one wake-up; between writes nothing is left. -/
def Balanced (ledger : Ledger) : Prop := ledger.owed + ledger.held = ledger.busy.toNat

variable {before after : Ledger} {seen : List FlightEvent}

theorem Entry.covered (entry : before.Entry seen after) (covered : before.Covered) :
    after.Covered := by
  cases entry with
  | quiet => exact covered
  | granted | denied | completed =>
      intro
      simp only
      omega
  | cancelled | acked | timedOut => exact fun busy => nomatch busy

/-- Only a cancellation that came too late spoils the balance. -/
theorem Entry.balanced (entry : before.Entry seen after) (balanced : before.Balanced)
    (timely : FlightEvent.cancelled false ∉ seen) : after.Balanced := by
  cases entry with
  | quiet => exact balanced
  | granted owed held | denied held due | acked held due | timedOut owed held =>
      simp only [Balanced, Bool.toNat_false, Bool.toNat_true] at balanced ⊢
      omega
  | @completed busy owed held later kept single =>
      have short : busy.toNat ≤ 1 := Bool.toNat_le busy
      simp only [Balanced] at balanced ⊢
      omega
  | cancelled owed held pending =>
      cases pending with
      | true =>
          simp only [Balanced, Bool.toNat_false, Bool.toNat_true] at balanced ⊢
          omega
      | false => simp at timely

end Ledger

namespace Gate

def held (gate : Gate) : Nat := gate.stored.toNat + gate.woken.length

variable {gate : Gate}

theorem held_notify (gate : Gate) : 0 < gate.notify.held ∧ gate.notify.held ≤ gate.held + 1 := by
  cases queue : gate.waiting with
  | nil =>
      simp only [notify, queue, held, Bool.toNat_true]
      omega
  | cons first rest =>
      simp only [notify, queue, held, List.length_append, List.length_singleton]
      omega

theorem pending_notify (gate : Gate) : gate.notify.pending = gate.pending := by
  unfold notify
  split <;> rfl

/-- The writer of a channel is the only one who waits at its gate. -/
inductive Queued (channel : Channel) (calls : List (Call AckCall AckOutcome)) (gate : Gate) :
    FlightStage → Prop where
  | idle (nobody : gate.waiting = []) (none : gate.woken = []) : Queued channel calls gate .idle
  | writing (nobody : gate.waiting = []) (none : gate.woken = []) :
      Queued channel calls gate .writing
  | asleep {call : Nat} {wait : AckWait} (running : calls[call]? = some (.running ⟨channel, wait⟩))
      (alone : gate.waiting = [call]) (none : gate.woken = []) (empty : gate.stored = false) :
      Queued channel calls gate (.waiting call)
  | awake {call : Nat} {wait : AckWait} (running : calls[call]? = some (.running ⟨channel, wait⟩))
      (nobody : gate.waiting = []) (one : gate.woken = [call]) :
      Queued channel calls gate (.waiting call)

variable {channel : Channel} {calls : List (Call AckCall AckOutcome)} {stage : FlightStage}

theorem Queued.congr {other : Gate} (queued : gate.Queued channel calls stage)
    (waiting : other.waiting = gate.waiting) (woken : other.woken = gate.woken)
    (stored : other.stored = gate.stored) : other.Queued channel calls stage := by
  cases queued with
  | idle nobody none => exact .idle (waiting.trans nobody) (woken.trans none)
  | writing nobody none => exact .writing (waiting.trans nobody) (woken.trans none)
  | asleep running alone none empty =>
      exact .asleep running (waiting.trans alone) (woken.trans none) (stored.trans empty)
  | awake running nobody one => exact .awake running (waiting.trans nobody) (woken.trans one)

theorem Queued.notify (queued : gate.Queued channel calls stage) :
    gate.notify.Queued channel calls stage := by
  cases queued with
  | idle nobody none =>
      exact .idle (by simp only [Gate.notify, nobody]) (by simp only [Gate.notify, nobody, none])
  | writing nobody none =>
      exact .writing (by simp only [Gate.notify, nobody]) (by simp only [Gate.notify, nobody, none])
  | asleep running alone none empty =>
      exact .awake running (by simp only [Gate.notify, alone])
        (by simp only [Gate.notify, alone, none, List.nil_append])
  | awake running nobody one =>
      exact .awake running (by simp only [Gate.notify, nobody])
        (by simp only [Gate.notify, nobody, one])

end Gate

namespace Flight

variable {channel : Channel} {flight after : Flight} {gate changed : Gate}

/-- The books of a flight, read off the gate of its channel. -/
def ledger (channel : Channel) (flight : Flight) (gate : Gate) : Ledger where
  busy := flight.stage ≠ .idle
  owed := gate.pending.toNat + (decide (flight.halfway = some channel)).toNat
  held := gate.held

structure Sound (channel : Channel) (flight : Flight) (gate : Gate) : Prop where
  found : flight.session.gates.gate? channel = some gate
  queued : gate.Queued channel flight.session.calls flight.stage

/-- What is seen of a move is entered in the books, and the flight stays sound. -/
def Booked (channel : Channel) (flight : Flight) (gate : Gate) (seen : List FlightEvent)
    (after : Flight) : Prop :=
  ∃ changed, after.Sound channel changed ∧
    (flight.ledger channel gate).Entry seen (after.ledger channel changed)

variable {seen : List FlightEvent}

/-- What concerns the gate in its subscription only, or another gate, is no entry. -/
theorem booked_quiet (sound : flight.Sound channel gate)
    (found : after.session.gates.gate? channel = some changed)
    (calls : after.session.calls = flight.session.calls) (stage : after.stage = flight.stage)
    (halfway : after.halfway = some channel ↔ flight.halfway = some channel)
    (pending : changed.pending = gate.pending) (waiting : changed.waiting = gate.waiting)
    (woken : changed.woken = gate.woken) (stored : changed.stored = gate.stored) :
    flight.Booked channel gate [] after := by
  have same : after.ledger channel changed = flight.ledger channel gate := by
    simp only [ledger, Gate.held, stage, pending, woken, stored, halfway]
  refine ⟨changed, ⟨found, ?_⟩, ?_⟩
  · rw [calls, stage]
    exact sound.queued.congr waiting woken stored
  · rw [same]
    exact .quiet _

theorem booked_completed (sound : flight.Sound channel gate) (pending : gate.pending = true)
    (found : after.session.gates.gate? channel = some changed)
    (calls : after.session.calls = flight.session.calls) (stage : after.stage = flight.stage)
    (halfway : after.halfway = flight.halfway)
    (notified : ∃ on, changed = { gate.clear.notify with subscribed := on }) :
    flight.Booked channel gate [.completed] after := by
  obtain ⟨on, rfl⟩ := notified
  refine ⟨_, ⟨found, ?_⟩, ?_⟩
  · rw [calls, stage]
    have cleared : gate.clear.Queued channel flight.session.calls flight.stage :=
      sound.queued.congr rfl rfl rfl
    exact cleared.notify.congr rfl rfl rfl
  · obtain ⟨kept, single⟩ := Gate.held_notify gate.clear
    have due : flight.ledger channel gate =
        ⟨flight.stage ≠ .idle, (decide (flight.halfway = some channel)).toNat + 1, gate.held⟩ := by
      simp only [ledger, pending, Bool.toNat_true, Nat.add_comm]
    have paid : after.ledger channel { gate.clear.notify with subscribed := on } =
        ⟨flight.stage ≠ .idle, (decide (flight.halfway = some channel)).toNat,
          gate.clear.notify.held⟩ := by
      simp only [ledger, stage, halfway, Gate.pending_notify, Gate.clear, Bool.toNat_false,
        Nat.zero_add, Gate.held]
    rw [due, paid]
    exact .completed kept single

theorem begin_booked (sound : flight.Sound channel gate)
    (moved : flight.move channel .begin = some (seen, after)) :
    flight.Booked channel gate seen after := by
  simp only [move, Option.ite_none_right_eq_some, Option.some.injEq, Prod.mk.injEq] at moved
  obtain ⟨idle, rfl, rfl⟩ := moved
  have queued := sound.queued
  rw [idle] at queued
  cases queued with
  | idle nobody none =>
      refine ⟨gate.mark, ⟨WriteGates.gate?_modify sound.found Gate.mark, .writing nobody none⟩, ?_⟩
      rw [WriteGates.canBegin_eq sound.found]
      cases pending : gate.pending with
      | false =>
          simp only [ledger, idle, pending, onGates, Gate.mark, Gate.held, Bool.toNat_false,
            Bool.toNat_true, Nat.zero_add, Nat.add_comm 1]
          exact .granted _ _
      | true =>
          simp only [ledger, idle, pending, onGates, Gate.mark, Gate.held, Bool.toNat_true]
          exact .denied _ (Nat.lt_add_right _ Nat.one_pos)

theorem refuse_booked (sound : flight.Sound channel gate)
    (moved : flight.move channel .refuse = some (seen, after)) :
    flight.Booked channel gate seen after := by
  simp only [move, Option.ite_none_right_eq_some, Option.some.injEq, Prod.mk.injEq] at moved
  obtain ⟨writing, rfl, rfl⟩ := moved
  have queued := sound.queued
  rw [writing] at queued
  cases queued with
  | writing nobody none =>
      refine ⟨gate.clear, ⟨WriteGates.gate?_modify sound.found Gate.clear, .idle nobody none⟩, ?_⟩
      simp only [isPending, WriteGates.isPending_eq sound.found, ledger, writing, onGates,
        Gate.clear, Gate.held, Bool.toNat_false, Nat.zero_add, Nat.add_comm gate.pending.toNat]
      exact .cancelled _ _ _

theorem accept_booked {timeout : Time} (sound : flight.Sound channel gate)
    (moved : flight.move channel (.accept timeout) = some (seen, after)) :
    flight.Booked channel gate seen after := by
  simp only [move, Option.ite_none_right_eq_some, Option.some.injEq, Prod.mk.injEq] at moved
  obtain ⟨writing, rfl, rfl⟩ := moved
  have queued := sound.queued
  rw [writing] at queued
  cases queued with
  | writing nobody none =>
      have running : (flight.session.calls ++
          [.running ⟨channel, .timed (flight.session.now + timeout)⟩])[flight.session.calls.length]? =
            some (.running ⟨channel, .timed (flight.session.now + timeout)⟩) :=
        List.getElem?_concat_length
      refine ⟨gate.enqueue flight.session.calls.length,
        ⟨WriteGates.gate?_modify sound.found _, ?_⟩, ?_⟩
      · cases stored : gate.stored with
        | false =>
            exact .asleep running (by simp [Gate.enqueue, stored, nobody])
              (by simp [Gate.enqueue, stored, none]) (by simp [Gate.enqueue, stored])
        | true =>
            exact .awake running (by simp [Gate.enqueue, stored, nobody])
              (by simp [Gate.enqueue, stored, none])
      · have same : ledger channel { flight with
              session := flight.session.waitAck channel timeout
              stage := .waiting flight.session.calls.length }
            (gate.enqueue flight.session.calls.length) = flight.ledger channel gate := by
          cases stored : gate.stored <;>
            simp [ledger, writing, Gate.held, Gate.enqueue, stored, none]
        rw [same]
        exact .quiet _

theorem poll_invert {call : Nat} {wait : AckWait} (waits : flight.stage = .waiting call)
    (running : flight.session.calls[call]? = some (.running ⟨channel, wait⟩))
    (found : flight.session.gates.gate? channel = some gate)
    (moved : flight.move channel .poll = some (seen, after)) :
    ∃ next progress, wait.step flight.session.now call gate = some (next, progress) ∧
      after.session = { flight.session with
        gates := flight.session.gates.setGate channel next
        calls := flight.session.calls.set call (GateSession.callAfter channel progress) } ∧
      after.halfway = flight.halfway ∧
      match progress with
      | .inl _ => seen = [] ∧ after.stage = flight.stage
      | .inr outcome => seen = [.returned outcome next.pending] ∧ after.stage = .idle := by
  cases stepped : flight.session.stepCall call with
  | none => simp [move, waits, stepped] at moved
  | some session =>
      obtain ⟨next, progress, step, rfl⟩ := GateSession.stepCall_invert running found stepped
      have inside : call < flight.session.calls.length :=
        (List.getElem?_eq_some_iff.mp running).1
      have changed := WriteGates.gate?_setGate found next
      refine ⟨next, progress, step, ?_⟩
      cases progress with
      | inl wait =>
          simp only [move, waits, stepped, List.getElem?_set_self inside, GateSession.callAfter,
            Option.some.injEq, Prod.mk.injEq] at moved
          obtain ⟨rfl, rfl⟩ := moved
          exact ⟨rfl, rfl, rfl, waits.symm⟩
      | inr outcome =>
          simp only [move, waits, stepped, List.getElem?_set_self inside, GateSession.callAfter,
            WriteGates.isPending_eq changed, Option.some.injEq, Prod.mk.injEq] at moved
          obtain ⟨rfl, rfl⟩ := moved
          exact ⟨rfl, rfl, rfl, rfl⟩

theorem awake_booked {call : Nat} {wait : AckWait} (waits : flight.stage = .waiting call)
    (found : flight.session.gates.gate? channel = some gate)
    (running : flight.session.calls[call]? = some (.running ⟨channel, wait⟩))
    (nobody : gate.waiting = []) (one : gate.woken = [call])
    (moved : flight.move channel .poll = some (seen, after)) :
    flight.Booked channel gate seen after := by
  obtain ⟨next, progress, step, session, halfway, rest⟩ := poll_invert waits running found moved
  rw [AckWait.step_woken (by simp [one])] at step
  cases step
  obtain ⟨rfl, idle⟩ := rest
  have collected : (gate.collect call).woken = [] := by simp [Gate.collect, one]
  have due : flight.ledger channel gate =
      ⟨true, gate.pending.toNat + (decide (flight.halfway = some channel)).toNat,
        gate.stored.toNat + 1⟩ := by
    simp [ledger, waits, Gate.held, one]
  have taken : after.ledger channel (gate.collect call) =
      ⟨false, gate.pending.toNat + (decide (flight.halfway = some channel)).toNat,
        gate.stored.toNat⟩ := by
    simp only [ledger, idle, halfway, Gate.held, collected]
    rfl
  refine ⟨gate.collect call, ⟨?_, ?_⟩, ?_⟩
  · rw [session]
    exact WriteGates.gate?_setGate found _
  · rw [idle]
    exact .idle nobody collected
  · rw [due, taken]
    exact .acked _ (Nat.le_add_right _ _)

/-- A writer that was not woken gives up the pending write, or waits on for the wake-up of a
completion that cleared it. -/
theorem asleep_booked {call : Nat} {wait : AckWait} (waits : flight.stage = .waiting call)
    (found : flight.session.gates.gate? channel = some gate)
    (running : flight.session.calls[call]? = some (.running ⟨channel, wait⟩))
    (alone : gate.waiting = [call]) (none : gate.woken = []) (empty : gate.stored = false)
    (moved : flight.move channel .poll = some (seen, after)) :
    flight.Booked channel gate seen after := by
  obtain ⟨next, progress, step, session, halfway, rest⟩ := poll_invert waits running found moved
  have inside : call < flight.session.calls.length := (List.getElem?_eq_some_iff.mp running).1
  have changed : after.session.gates.gate? channel = some next := by
    rw [session]
    exact WriteGates.gate?_setGate found _
  have left : (gate.leave call).waiting = [] := by simp [Gate.leave, alone]
  obtain ⟨-, ⟨pending, rfl, rfl⟩ | ⟨pending, rfl, rfl⟩⟩ :=
    AckWait.step_asleep (by simp [none]) step
  · obtain ⟨rfl, idle⟩ := rest
    refine ⟨_, ⟨changed, ?_⟩, ?_⟩
    · rw [idle]
      exact .idle left none
    · simp only [ledger, waits, idle, halfway, pending, Gate.held, Gate.clear, Gate.leave,
        Bool.toNat_true, Bool.toNat_false, Nat.zero_add, Nat.add_comm 1]
      exact .timedOut _ _
  · obtain ⟨rfl, still⟩ := rest
    have again : (gate.leave call).enqueue call = { gate with waiting := [call] } := by
      simp [Gate.enqueue, Gate.leave, alone, empty]
    rw [again] at changed
    have same : after.ledger channel { gate with waiting := [call] } =
        flight.ledger channel gate := by
      simp only [ledger, still, halfway, Gate.held]
    refine ⟨_, ⟨changed, ?_⟩, ?_⟩
    · rw [session, still, waits]
      exact .asleep (List.getElem?_set_self inside) rfl none empty
    · rw [same]
      exact .quiet _

theorem poll_booked (sound : flight.Sound channel gate)
    (moved : flight.move channel .poll = some (seen, after)) :
    flight.Booked channel gate seen after := by
  have queued := sound.queued
  cases waits : flight.stage with
  | idle => simp [move, waits] at moved
  | writing => simp [move, waits] at moved
  | waiting call =>
      rw [waits] at queued
      cases queued with
      | asleep running alone none empty =>
          exact asleep_booked waits sound.found running alone none empty moved
      | awake running nobody one => exact awake_booked waits sound.found running nobody one moved

theorem complete_booked {target : Channel} (sound : flight.Sound channel gate)
    (moved : flight.move channel (.complete target) = some (seen, after)) :
    flight.Booked channel gate seen after := by
  simp only [move, Option.ite_none_right_eq_some, Option.some.injEq, Prod.mk.injEq] at moved
  obtain ⟨whole, rfl, rfl⟩ := moved
  by_cases same : target = channel
  · subst same
    have found := WriteGates.gate?_modify sound.found Gate.complete
    simp only [isPending, WriteGates.isPending_eq sound.found, decide_true, Bool.true_and]
    cases pending : gate.pending with
    | false =>
        have unchanged : gate.complete = gate := by simp [Gate.complete, pending]
        rw [unchanged] at found
        exact booked_quiet sound found rfl rfl .rfl rfl rfl rfl rfl
    | true =>
        have completed : gate.complete = gate.clear.notify := by simp [Gate.complete, pending]
        rw [completed] at found
        exact booked_completed sound pending found rfl rfl rfl ⟨_, rfl⟩
  · have found : (flight.session.gates.complete target).gate? channel = some gate :=
      (WriteGates.gate?_modify_other same _).trans sound.found
    simp only [same, decide_false, Bool.false_and]
    exact booked_quiet sound found rfl rfl .rfl rfl rfl rfl rfl

theorem reset_booked (sound : flight.Sound channel gate)
    (moved : flight.move channel .reset = some (seen, after)) :
    flight.Booked channel gate seen after := by
  simp only [move, Option.ite_none_right_eq_some, Option.some.injEq, Prod.mk.injEq] at moved
  obtain ⟨whole, rfl, rfl⟩ := moved
  have found := WriteGates.gate?_reset sound.found
  simp only [isPending, WriteGates.isPending_eq sound.found]
  cases pending : gate.pending with
  | false =>
      have unchanged : gate.reset = { gate with subscribed := false } := by
        simp [Gate.reset, Gate.complete, pending]
      rw [unchanged] at found
      exact booked_quiet sound found rfl rfl .rfl rfl rfl rfl rfl
  | true =>
      have completed : gate.reset = { gate.clear.notify with subscribed := false } := by
        simp [Gate.reset, Gate.complete, pending]
      rw [completed] at found
      exact booked_completed sound pending found rfl rfl rfl ⟨_, rfl⟩

/-- The mark of a write that is half completed is as good as the write. -/
theorem clear_booked {target : Channel} (sound : flight.Sound channel gate)
    (moved : flight.move channel (.clear target) = some (seen, after)) :
    flight.Booked channel gate seen after := by
  simp only [move, Option.ite_none_right_eq_some] at moved
  obtain ⟨whole, moved⟩ := moved
  by_cases same : target = channel
  · subst same
    simp only [isPending, WriteGates.isPending_eq sound.found] at moved
    cases pending : gate.pending with
    | false =>
        simp only [pending, Bool.false_eq_true, if_false, Option.some.injEq, Prod.mk.injEq] at moved
        obtain ⟨rfl, rfl⟩ := moved
        exact ⟨gate, sound, .quiet _⟩
    | true =>
        simp only [pending, if_true, Option.some.injEq, Prod.mk.injEq] at moved
        obtain ⟨rfl, rfl⟩ := moved
        have carried : ledger target
            { flight.onGates (·.modify target Gate.clear) with halfway := some target } gate.clear =
              flight.ledger target gate := by
          simp [ledger, onGates, Gate.clear, Gate.held, pending, whole]
        refine ⟨gate.clear, ⟨WriteGates.gate?_modify sound.found _, ?_⟩, ?_⟩
        · exact sound.queued.congr rfl rfl rfl
        · rw [carried]
          exact .quiet _
  · split at moved
    · simp only [Option.some.injEq, Prod.mk.injEq] at moved
      obtain ⟨rfl, rfl⟩ := moved
      have found := (WriteGates.gate?_modify_other same Gate.clear).trans sound.found
      exact booked_quiet sound found rfl rfl (by simp [whole, same]) rfl rfl rfl rfl
    · simp only [Option.some.injEq, Prod.mk.injEq] at moved
      obtain ⟨rfl, rfl⟩ := moved
      exact ⟨gate, sound, .quiet _⟩

theorem notify_booked (sound : flight.Sound channel gate)
    (moved : flight.move channel .notify = some (seen, after)) :
    flight.Booked channel gate seen after := by
  cases halfway : flight.halfway with
  | none => simp [move, halfway] at moved
  | some target =>
      simp only [move, halfway, Option.some.injEq, Prod.mk.injEq] at moved
      obtain ⟨rfl, rfl⟩ := moved
      by_cases same : target = channel
      · subst same
        obtain ⟨kept, single⟩ := Gate.held_notify gate
        have due : flight.ledger target gate =
            ⟨flight.stage ≠ .idle, gate.pending.toNat + 1, gate.held⟩ := by
          simp [ledger, halfway]
        have paid : ledger target
            { flight.onGates (·.modify target Gate.notify) with halfway := none } gate.notify =
              ⟨flight.stage ≠ .idle, gate.pending.toNat, gate.notify.held⟩ := by
          simp only [ledger, onGates, Gate.pending_notify]
          rfl
        refine ⟨gate.notify, ⟨WriteGates.gate?_modify sound.found _, sound.queued.notify⟩, ?_⟩
        rw [due, paid]
        simp only [decide_true]
        exact .completed kept single
      · have found := (WriteGates.gate?_modify_other same Gate.notify).trans sound.found
        simp only [same, decide_false]
        exact booked_quiet sound found rfl rfl (by simp [halfway, same]) rfl rfl rfl rfl

theorem subscribe_booked {target : Channel} {on : Bool} (sound : flight.Sound channel gate)
    (moved : flight.move channel (.subscribe target on) = some (seen, after)) :
    flight.Booked channel gate seen after := by
  simp only [move, Option.ite_none_right_eq_some, Option.some.injEq, Prod.mk.injEq] at moved
  obtain ⟨whole, rfl, rfl⟩ := moved
  by_cases same : target = channel
  · subst same
    exact booked_quiet sound (WriteGates.gate?_modify sound.found _) rfl rfl .rfl rfl rfl rfl rfl
  · have found : (flight.session.gates.setSubscribed target on).gate? channel = some gate :=
      (WriteGates.gate?_modify_other same _).trans sound.found
    exact booked_quiet sound found rfl rfl .rfl rfl rfl rfl rfl

theorem move_booked {next : FlightMove} (sound : flight.Sound channel gate)
    (moved : flight.move channel next = some (seen, after)) :
    flight.Booked channel gate seen after := by
  cases next with
  | begin => exact begin_booked sound moved
  | refuse => exact refuse_booked sound moved
  | accept timeout => exact accept_booked sound moved
  | poll => exact poll_booked sound moved
  | complete target => exact complete_booked sound moved
  | reset => exact reset_booked sound moved
  | clear target => exact clear_booked sound moved
  | notify => exact notify_booked sound moved
  | subscribe target on => exact subscribe_booked sound moved
  | pass span =>
      cases moved
      exact booked_quiet sound sound.found rfl rfl .rfl rfl rfl rfl rfl

/-- The books of a whole run. -/
theorem run_booked {start : Ledger} {past events : List FlightEvent} {moves : List FlightMove}
    {last : Flight} (sound : flight.Sound channel gate)
    (entries : start.Entries past (flight.ledger channel gate))
    (ran : flight.run channel moves = some (events, last)) :
    ∃ changed, last.Sound channel changed ∧
      start.Entries (past ++ events) (last.ledger channel changed) := by
  induction moves generalizing flight gate past events with
  | nil =>
      cases ran
      exact ⟨gate, sound, by simpa only [List.append_nil] using entries⟩
  | cons next rest ih =>
      obtain ⟨seen, after, later, moved, remaining, rfl⟩ := run_cons_invert ran
      obtain ⟨changed, kept, entry⟩ := move_booked sound moved
      rw [← List.append_assoc]
      exact ih kept (entries.next entry) remaining

end Flight

end CameraBridge
