import CameraBridge.Proofs.Gate.SingleFlight

namespace CameraBridge

/-! How long a writer waits for an acknowledgement. What it waits for is always on its way: the write is
pending, or its wake-up is there, or the handler is in the middle of the completion. So the second wait,
which has no end of its own, is only for the handler to go on. -/

namespace Gate

theorem pending_complete (gate : Gate) : gate.complete.pending = false := by
  cases pending : gate.pending with
  | true =>
      simp only [complete, pending, if_true, pending_notify]
      rfl
  | false => simp only [complete, pending, Bool.false_eq_true, if_false]

end Gate

namespace WriteGates

variable {gates : WriteGates} {channel target : Channel} {change : Gate → Gate}

/-- A change that marks no gate pending makes no channel pending. -/
theorem isPending_of_modify
    (calm : ∀ gate, (change gate).pending = true → gate.pending = true)
    (pending : (gates.modify target change).isPending channel = true) :
    gates.isPending channel = true := by
  by_cases same : target = channel
  · subst same
    cases found : gates.gate? target with
    | none =>
        simp only [modify, found] at pending
        exact pending
    | some gate =>
        rw [isPending_eq (gate?_modify found change)] at pending
        rw [isPending_eq found]
        exact calm gate pending
  · rw [isPending, gate?_modify_other same] at pending
    exact pending

theorem isPending_reset (gates : WriteGates) (channel : Channel) :
    gates.reset.isPending channel = false := by
  cases found : gates.gate? channel with
  | none =>
      cases channel <;> first
        | rfl
        | exact nomatch found
  | some gate =>
      rw [isPending_eq (gate?_reset found)]
      exact gate.pending_complete

end WriteGates

namespace Flight

variable {channel : Channel} {flight after last : Flight} {gate : Gate} {call : Nat}
  {limit timeout : Time} {next : FlightMove} {moves : List FlightMove}
  {seen events : List FlightEvent}

/-! ### The life of a wait -/

/-- A writer waits until a limit, or beyond it because the mark was gone when the time was up. -/
structure Abides (channel : Channel) (call : Nat) (limit : Time) (flight : Flight) : Prop where
  stage : flight.stage = .waiting call
  wait : flight.session.calls[call]? = some (.running ⟨channel, .timed limit⟩) ∨
    flight.session.calls[call]? = some (.running ⟨channel, .late⟩) ∧
      flight.isPending channel = false

theorem Abides.running (abides : flight.Abides channel call limit) :
    ∃ wait, flight.session.calls[call]? = some (.running ⟨channel, wait⟩) := by
  rcases abides.wait with timed | ⟨late, -⟩
  · exact ⟨_, timed⟩
  · exact ⟨_, late⟩

theorem accept_abides (accepted : flight.move channel (.accept timeout) = some (seen, after)) :
    after.Abides channel flight.session.calls.length (flight.session.now + timeout) := by
  simp only [move, Option.ite_none_right_eq_some, Option.some.injEq, Prod.mk.injEq] at accepted
  obtain ⟨-, -, rfl⟩ := accepted
  exact ⟨rfl, .inl List.getElem?_concat_length⟩

/-- Neither the handler nor the clock touches the writer, and they make nothing pending. -/
theorem others_aside (waits : flight.stage = .waiting call) (apart : next ≠ .poll)
    (moved : flight.move channel next = some (seen, after)) :
    after.stage = .waiting call ∧ after.session.calls = flight.session.calls ∧
      (after.isPending channel = true → flight.isPending channel = true) := by
  cases next with
  | begin | refuse | accept => simp [move, waits] at moved
  | poll => exact absurd rfl apart
  | complete target =>
      simp only [move, Option.ite_none_right_eq_some, Option.some.injEq, Prod.mk.injEq] at moved
      obtain ⟨-, -, rfl⟩ := moved
      refine ⟨waits, rfl, WriteGates.isPending_of_modify ?_⟩
      intro gate pending
      rw [gate.pending_complete] at pending
      cases pending
  | reset =>
      simp only [move, Option.ite_none_right_eq_some, Option.some.injEq, Prod.mk.injEq] at moved
      obtain ⟨-, -, rfl⟩ := moved
      refine ⟨waits, rfl, ?_⟩
      intro pending
      rw [isPending, onGates, GateSession.onGates, WriteGates.isPending_reset] at pending
      cases pending
  | clear target =>
      simp only [move, Option.ite_none_right_eq_some] at moved
      obtain ⟨-, moved⟩ := moved
      split at moved
      · simp only [Option.some.injEq, Prod.mk.injEq] at moved
        obtain ⟨-, rfl⟩ := moved
        refine ⟨waits, rfl, WriteGates.isPending_of_modify ?_⟩
        intro gate pending
        cases pending
      · simp only [Option.some.injEq, Prod.mk.injEq] at moved
        obtain ⟨-, rfl⟩ := moved
        exact ⟨waits, rfl, id⟩
  | notify =>
      cases halfway : flight.halfway with
      | none => simp [move, halfway] at moved
      | some target =>
          simp only [move, halfway, Option.some.injEq, Prod.mk.injEq] at moved
          obtain ⟨-, rfl⟩ := moved
          refine ⟨waits, rfl, WriteGates.isPending_of_modify ?_⟩
          intro gate pending
          rwa [gate.pending_notify] at pending
  | subscribe target on =>
      simp only [move, Option.ite_none_right_eq_some, Option.some.injEq, Prod.mk.injEq] at moved
      obtain ⟨-, -, rfl⟩ := moved
      exact ⟨waits, rfl, WriteGates.isPending_of_modify fun _ pending => pending⟩
  | pass span =>
      cases moved
      exact ⟨waits, rfl, id⟩

theorem Abides.aside (abides : flight.Abides channel call limit) (apart : next ≠ .poll)
    (moved : flight.move channel next = some (seen, after)) : after.Abides channel call limit := by
  obtain ⟨stage, calls, calm⟩ := others_aside abides.stage apart moved
  refine ⟨stage, ?_⟩
  rw [calls]
  refine abides.wait.imp_right (And.imp_right fun unmarked => ?_)
  rw [← Bool.not_eq_true] at unmarked ⊢
  exact fun pending => unmarked (calm pending)

/-- A poll that does not end the wait leaves it to the completion that has cleared the mark. -/
theorem poll_goesOn {wait : AckWait} (waits : flight.stage = .waiting call)
    (running : flight.session.calls[call]? = some (.running ⟨channel, wait⟩))
    (found : flight.session.gates.gate? channel = some gate)
    (moved : flight.move channel .poll = some (seen, after))
    (goesOn : ∀ outcome pending, .returned outcome pending ∉ seen) :
    after.stage = .waiting call ∧
      after.session.calls[call]? = some (.running ⟨channel, .late⟩) ∧
      after.isPending channel = false := by
  obtain ⟨changed, progress, step, session, -, outcome⟩ := poll_invert waits running found moved
  have inside : call < flight.session.calls.length := (List.getElem?_eq_some_iff.mp running).1
  cases progress with
  | inr result =>
      obtain ⟨rfl, -⟩ := outcome
      exact absurd (List.mem_singleton_self _) (goesOn result changed.pending)
  | inl later =>
      obtain ⟨-, stage⟩ := outcome
      by_cases woken : call ∈ gate.woken
      · rw [AckWait.step_woken woken] at step
        cases step
      · obtain ⟨-, ⟨-, -, ended⟩ | ⟨unmarked, rfl, same⟩⟩ := AckWait.step_asleep woken step
        · cases ended
        · cases same
          have still : ((gate.leave call).enqueue call).pending = gate.pending := by
            unfold Gate.enqueue
            split <;> rfl
          refine ⟨stage.trans waits, ?_, ?_⟩
          · rw [session]
            exact List.getElem?_set_self inside
          · rw [isPending, session, WriteGates.isPending_eq (WriteGates.gate?_setGate found _), still,
              unmarked]

/-- The control channel has no gate, so there is nothing to wait for. -/
theorem poll_gateless {wait : AckWait} (waits : flight.stage = .waiting call)
    (running : flight.session.calls[call]? = some (.running ⟨channel, wait⟩))
    (gateless : flight.session.gates.gate? channel = none) :
    ∃ pending last, flight.move channel .poll = some ([.returned .notApplicable pending], last) := by
  have inside : call < flight.session.calls.length := (List.getElem?_eq_some_iff.mp running).1
  simp [move, waits, GateSession.stepCall, running, WriteGates.stepWait, gateless,
    List.getElem?_set_self inside]

theorem Abides.move (abides : flight.Abides channel call limit)
    (moved : flight.move channel next = some (seen, after))
    (goesOn : ∀ outcome pending, .returned outcome pending ∉ seen) :
    after.Abides channel call limit := by
  by_cases apart : next = .poll
  · subst apart
    obtain ⟨wait, running⟩ := abides.running
    cases found : flight.session.gates.gate? channel with
    | none =>
        obtain ⟨pending, last, ended⟩ := poll_gateless abides.stage running found
        rw [ended] at moved
        cases moved
        exact absurd (List.mem_singleton_self _) (goesOn .notApplicable pending)
    | some gate =>
        obtain ⟨stage, late, unmarked⟩ := poll_goesOn abides.stage running found moved goesOn
        exact ⟨stage, .inr ⟨late, unmarked⟩⟩
  · exact abides.aside apart moved

theorem Abides.run (abides : flight.Abides channel call limit)
    (ran : flight.run channel moves = some (events, last))
    (goesOn : ∀ outcome pending, .returned outcome pending ∉ events) :
    last.Abides channel call limit := by
  induction moves generalizing flight events with
  | nil =>
      cases ran
      exact abides
  | cons next rest ih =>
      obtain ⟨seen, after, later, moved, remaining, rfl⟩ := run_cons_invert ran
      simp only [List.mem_append, not_or] at goesOn
      exact ih (abides.move moved fun outcome pending => (goesOn outcome pending).1) remaining
        fun outcome pending => (goesOn outcome pending).2

/-! ### What it waits for -/

/-- A writer that waits has something to wait for. -/
theorem on_its_way (sound : flight.Sound channel gate)
    (covered : (flight.ledger channel gate).Covered) (waits : flight.stage = .waiting call) :
    gate.pending = true ∨ gate.stored = true ∨ call ∈ gate.woken ∨
      flight.halfway = some channel := by
  have queued := sound.queued
  rw [waits] at queued
  cases queued with
  | awake running nobody one => exact .inr (.inr (.inl (by simp [one])))
  | asleep running alone none empty =>
      have due := covered (by simp [ledger, waits])
      simp only [ledger, Gate.held, none, empty, List.length_nil, Bool.toNat_false,
        Nat.add_zero] at due
      cases pending : gate.pending with
      | true => exact .inl rfl
      | false =>
          rw [pending, Bool.toNat_false, Nat.zero_add] at due
          exact .inr (.inr (.inr (by simpa [Nat.pos_iff_ne_zero] using due)))

/-- Once the mark is gone, its wake-up has come or the handler is about to send it. -/
theorem woken_or_halfway (sound : flight.Sound channel gate)
    (covered : (flight.ledger channel gate).Covered) (waits : flight.stage = .waiting call)
    (unmarked : gate.pending = false) : call ∈ gate.woken ∨ flight.halfway = some channel := by
  have queued := sound.queued
  rw [waits] at queued
  rcases on_its_way sound covered waits with pending | stored | rest
  · rw [unmarked] at pending
    cases pending
  · cases queued with
    | awake running nobody one => exact .inl (by simp [one])
    | asleep running alone none empty =>
        rw [empty] at stored
        cases stored
  · exact rest

/-- When the time is up and no completion is half done, the writer's next move ends the wait. -/
theorem poll_ends (abides : flight.Abides channel call limit) (sound : flight.Sound channel gate)
    (covered : (flight.ledger channel gate).Covered) (elapsed : limit ≤ flight.session.now)
    (whole : flight.halfway ≠ some channel) :
    ∃ outcome pending last,
      flight.move channel .poll = some ([.returned outcome pending], last) := by
  obtain ⟨wait, running⟩ := abides.running
  by_cases woken : call ∈ gate.woken
  · exact ⟨.acked, gate.pending, poll_woken flight abides.stage sound.found running woken⟩
  · have pending : gate.pending = true := by
      rw [← Bool.not_eq_false]
      intro unmarked
      rcases woken_or_halfway sound covered abides.stage unmarked with there | halfway
      · exact woken there
      · exact whole halfway
    rcases abides.wait with timed | ⟨-, unmarked⟩
    · have inside : call < flight.session.calls.length := (List.getElem?_eq_some_iff.mp timed).1
      refine ⟨.timedOut, false, ?_⟩
      simp [move, abides.stage, GateSession.stepCall, timed, WriteGates.stepWait_eq sound.found,
        AckWait.step_expired woken pending elapsed, List.getElem?_set_self inside,
        WriteGates.isPending_eq (WriteGates.gate?_setGate sound.found _), Gate.clear]
    · rw [isPending, WriteGates.isPending_eq sound.found, pending] at unmarked
      cases unmarked

/-- When the handler has finished the completion it is in the middle of, the writer is woken. -/
theorem notify_ends (sound : flight.Sound channel gate) (waits : flight.stage = .waiting call)
    (halfway : flight.halfway = some channel) :
    ∃ pending last, flight.run channel [.notify, .poll] =
      some ([.completed, .returned .acked pending], last) := by
  let notified : Flight :=
    { flight.onGates (·.modify channel Gate.notify) with halfway := none }
  have first : flight.move channel .notify = some ([.completed], notified) := by
    simp [move, halfway, completion, notified]
  have found : notified.session.gates.gate? channel = some gate.notify :=
    WriteGates.gate?_modify sound.found Gate.notify
  have queued := sound.queued
  rw [waits] at queued
  obtain ⟨wait, running, woken⟩ : ∃ wait,
      flight.session.calls[call]? = some (.running ⟨channel, wait⟩) ∧ call ∈ gate.notify.woken := by
    cases queued with
    | asleep running alone none empty => exact ⟨_, running, by simp [Gate.notify, alone]⟩
    | awake running nobody one => exact ⟨_, running, by simp [Gate.notify, nobody, one]⟩
  obtain ⟨last, second⟩ := poll_woken notified waits found running woken
  exact ⟨gate.notify.pending, last, by
    simp only [run, first, second, List.append_nil, List.singleton_append]⟩

/-- Every wait for an acknowledgement is bounded. As long as it lasts, the write is pending, or a wake-up
is stored or has come to the writer, or the handler has a completion to finish. A writer that waits
beyond its time waits for no completion that has not begun: its wake-up has come, or the handler is
about to send it. So once the time is up and no completion is half done, the writer's next move ends
the wait, and if one is, the wait ends when the handler has finished it. -/
theorem wait_bounded {earlier later : List FlightMove} {past : List FlightEvent}
    {before begun : Flight} (ran : run channel {} earlier = some (past, before))
    (accepted : before.move channel (.accept timeout) = some (seen, begun))
    (onward : begun.run channel later = some (events, flight))
    (inside : ∀ outcome pending, .returned outcome pending ∉ events) :
    ∃ call, flight.stage = .waiting call ∧
      (∀ gate, flight.session.gates.gate? channel = some gate →
        (gate.pending = true ∨ gate.stored = true ∨ call ∈ gate.woken ∨
          flight.halfway = some channel) ∧
        (flight.session.calls[call]? = some (.running ⟨channel, .late⟩) →
          gate.pending = false ∧ (call ∈ gate.woken ∨ flight.halfway = some channel)) ∧
        (flight.halfway = some channel → ∃ pending last, flight.run channel [.notify, .poll] =
          some ([.completed, .returned .acked pending], last))) ∧
      (before.session.now + timeout ≤ flight.session.now → flight.halfway ≠ some channel →
        ∃ outcome pending last,
          flight.move channel .poll = some ([.returned outcome pending], last)) := by
  have abides := (accept_abides accepted).run onward inside
  have whole : run channel {} (earlier ++ .accept timeout :: later) =
      some (past ++ (seen ++ events), flight) :=
    run_append ran (by simp only [run, accepted, onward])
  have booked : channel.isBle = true → ∃ gate, flight.Sound channel gate ∧
      (flight.ledger channel gate).Covered := by
    intro ble
    obtain ⟨first, sound, clean⟩ := initial ble
    obtain ⟨gate, final, entries⟩ := run_booked sound .none whole
    refine ⟨gate, final, entries.covered ?_⟩
    rw [clean]
    exact fun busy => absurd busy Bool.false_ne_true
  refine ⟨_, abides.stage, ?_, ?_⟩
  · intro gate found
    obtain ⟨own, sound, covered⟩ := booked (WriteGates.gate?_isBle found)
    obtain rfl : own = gate := Option.some.inj (sound.found.symm.trans found)
    refine ⟨on_its_way sound covered abides.stage, ?_, notify_ends sound abides.stage⟩
    intro late
    have unmarked : own.pending = false := by
      rcases abides.wait with timed | ⟨-, unmarked⟩
      · rw [timed] at late
        cases late
      · rwa [isPending, WriteGates.isPending_eq found] at unmarked
    exact ⟨unmarked, woken_or_halfway sound covered abides.stage unmarked⟩
  · intro elapsed unfinished
    cases found : flight.session.gates.gate? channel with
    | none =>
        obtain ⟨wait, running⟩ := abides.running
        exact ⟨.notApplicable, poll_gateless abides.stage running found⟩
    | some gate =>
        obtain ⟨own, sound, covered⟩ := booked (WriteGates.gate?_isBle found)
        exact poll_ends abides sound covered elapsed unfinished

/-- The writer waits for a write since moment 0, with a limit of 10. -/
def waitsSince : Flight where
  session := {
    gates := { cmd := { pending := true, waiting := [0] } }
    calls := [.running ⟨.cmd, .timed 10⟩] }
  stage := .waiting 0

/-- The limit has been reached in the middle of the completion. -/
def overdue : Flight where
  session := {
    now := 10
    gates := { cmd := { waiting := [0] } }
    calls := [.running ⟨.cmd, .late⟩] }
  stage := .waiting 0
  halfway := some .cmd

/-- A write without a completion is given up at its limit; where half a completion has come, the other
half ends the wait. -/
theorem wait_bounded_at_limit :
    (∃ flight, waitsSince.run .cmd [.pass 10] = some ([], flight) ∧
      ∃ outcome pending last,
        flight.move .cmd .poll = some ([.returned outcome pending], last)) ∧
    waitsSince.run .cmd [.pass 10, .clear .cmd, .poll] = some ([], overdue) ∧
      overdue.session.gates.cmd.pending = false ∧
      ∃ pending last, overdue.run .cmd [.notify, .poll] =
        some ([.completed, .returned .acked pending], last) := by
  let before : Flight := { session := { gates := { cmd := { pending := true } } }, stage := .writing }
  have ran : run .cmd {} [.begin] = some ([.began true], before) := rfl
  have accepted : before.move .cmd (.accept 10) = some ([], waitsSince) := rfl
  have silent : ∀ outcome pending, FlightEvent.returned outcome pending ∉ [] := by simp
  obtain ⟨flight, expired⟩ : ∃ flight, waitsSince.run .cmd [.pass 10] = some ([], flight) ∧
    10 ≤ flight.session.now ∧ flight.halfway = none := ⟨_, rfl, Nat.le_refl 10, rfl⟩
  have late : waitsSince.run .cmd [.pass 10, .clear .cmd, .poll] = some ([], overdue) := rfl
  obtain ⟨_, -, -, ends⟩ := wait_bounded ran accepted expired.1 silent
  obtain ⟨call, stage, gated, -⟩ := wait_bounded ran accepted late silent
  cases stage
  obtain ⟨-, unmarked, finished⟩ := gated _ rfl
  exact ⟨⟨flight, expired.1, ends expired.2.1 (by simp [expired.2.2])⟩, late, (unmarked rfl).1,
    finished rfl⟩

end Flight

end CameraBridge
