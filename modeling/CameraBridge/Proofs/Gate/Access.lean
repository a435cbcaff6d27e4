import CameraBridge.Gate.Session

namespace CameraBridge

namespace WriteGates

/-! The gate of one channel after each change of all gates: a change of one channel leaves the gates
of all others alone. -/

variable {gates : WriteGates} {channel other : Channel} {gate next : Gate}

theorem gate?_exists (gates : WriteGates) (ble : channel.isBle = true) :
    ∃ gate, gates.gate? channel = some gate := by
  cases channel <;> first | exact ⟨_, rfl⟩ | exact nomatch ble

theorem gate?_isBle (found : gates.gate? channel = some gate) : channel.isBle = true := by
  cases channel <;> first | rfl | exact nomatch found

theorem gate?_setGate (found : gates.gate? channel = some gate) (next : Gate) :
    (gates.setGate channel next).gate? channel = some next := by
  cases channel <;> first | rfl | exact nomatch found

theorem gate?_setGate_other (different : other ≠ channel) :
    (gates.setGate other next).gate? channel = gates.gate? channel := by
  cases channel <;> cases other <;> first | rfl | exact absurd rfl different

theorem gate?_modify (found : gates.gate? channel = some gate) (change : Gate → Gate) :
    (gates.modify channel change).gate? channel = some (change gate) := by
  simp only [modify, found, gate?_setGate found (change gate)]

theorem gate?_modify_other (different : other ≠ channel) (change : Gate → Gate) :
    (gates.modify other change).gate? channel = gates.gate? channel := by
  unfold modify
  split
  · exact gate?_setGate_other different
  · rfl

theorem gate?_reset (found : gates.gate? channel = some gate) :
    gates.reset.gate? channel = some gate.reset := by
  cases channel <;> first
    | (cases found; rfl)
    | exact nomatch found

theorem isPending_eq (found : gates.gate? channel = some gate) :
    gates.isPending channel = gate.pending := by
  simp only [isPending, found, Option.any_some]

theorem canBegin_eq (found : gates.gate? channel = some gate) :
    gates.canBegin channel = !gate.pending := by
  simp only [canBegin, found, Option.any_some]

theorem stepWait_eq (found : gates.gate? channel = some gate) (now : Time) (waiter : Nat)
    (wait : AckWait) :
    gates.stepWait now waiter channel wait = (wait.step now waiter gate).map fun moved =>
      (gates.setGate channel moved.1, moved.2) := by
  simp only [stepWait, found]

end WriteGates

theorem Gate.leave_pending (waiter : Nat) (gate : Gate) :
    (gate.leave waiter).pending = gate.pending :=
  rfl

namespace AckWait

variable {now deadline : Time} {waiter : Nat} {gate next : Gate} {wait : AckWait}
  {progress : AckWait ⊕ AckOutcome}

theorem step_woken (woken : waiter ∈ gate.woken) :
    wait.step now waiter gate = some (gate.collect waiter, .inr .acked) := by
  simp only [step, woken, if_true]

theorem step_expired (asleep : waiter ∉ gate.woken) (pending : gate.pending = true)
    (elapsed : deadline ≤ now) :
    (timed deadline).step now waiter gate = some ((gate.leave waiter).clear, .inr .timedOut) := by
  simp only [step, asleep, if_false, Nat.not_lt.mpr elapsed, Gate.leave_pending, pending, if_true]

theorem step_asleep (asleep : waiter ∉ gate.woken)
    (moved : wait.step now waiter gate = some (next, progress)) :
    (∃ deadline, wait = .timed deadline ∧ deadline ≤ now) ∧
      (gate.pending = true ∧ next = (gate.leave waiter).clear ∧ progress = .inr .timedOut ∨
        gate.pending = false ∧ next = (gate.leave waiter).enqueue waiter ∧
          progress = .inl .late) := by
  cases wait with
  | late => simp [step, asleep] at moved
  | timed deadline =>
      by_cases early : now < deadline
      · simp [step, asleep, early] at moved
      · refine ⟨⟨deadline, rfl, Nat.le_of_not_lt early⟩, ?_⟩
        simp only [step, asleep, early, if_false, Gate.leave_pending] at moved
        cases pending : gate.pending with
        | true =>
            simp only [pending, if_true, Option.some.injEq, Prod.mk.injEq] at moved
            exact .inl ⟨rfl, moved.1.symm, moved.2.symm⟩
        | false =>
            simp only [pending, Bool.false_eq_true, if_false, Option.some.injEq,
              Prod.mk.injEq] at moved
            exact .inr ⟨rfl, moved.1.symm, moved.2.symm⟩

end AckWait

namespace GateSession

variable {session after : GateSession} {call : Nat} {channel : Channel} {wait : AckWait}
  {gate : Gate}

def callAfter (channel : Channel) : AckWait ⊕ AckOutcome → Call AckCall AckOutcome
  | .inl wait => .running ⟨channel, wait⟩
  | .inr outcome => .finished outcome

theorem stepCall_invert (running : session.calls[call]? = some (.running ⟨channel, wait⟩))
    (found : session.gates.gate? channel = some gate)
    (moved : session.stepCall call = some after) :
    ∃ next progress, wait.step session.now call gate = some (next, progress) ∧
      after = { session with
        gates := session.gates.setGate channel next
        calls := session.calls.set call (callAfter channel progress) } := by
  simp only [stepCall, running, WriteGates.stepWait_eq found] at moved
  cases step : wait.step session.now call gate with
  | none => simp [step] at moved
  | some pair =>
      obtain ⟨next, progress⟩ := pair
      refine ⟨next, progress, rfl, ?_⟩
      cases progress <;>
        · simp only [step, Option.map_some, Option.some.injEq] at moved
          exact moved.symm

end GateSession

end CameraBridge
