import CameraBridge.Proofs.Reception.Custody

namespace CameraBridge.ReceptionSession

/-! The life of one call: refused at once or begun, perhaps waiting first, then reading until it
returns. Each turn is one step of it at most. -/

/-- The call that a sight is about. -/
def Sight.call? : Sight → Option Nat
  | .called call _ | .read call _ | .returned call _ => some call
  | .used _ _ => none

/-- What a turn means for the call with a number. -/
inductive CallTurn (call : Nat) : Option ReceptionCall → Option Sight → Option ReceptionCall → Prop where
  | aside (state : Option ReceptionCall) {seen : Option Sight}
      (silent : ∀ sight, seen = some sight → sight.call? ≠ some call) : CallTurn call state seen state
  | refused : CallTurn call none (some (.called call (.error .busy))) (some (.finished (.error .busy)))
  | begun {phase : ReceptionPhase} {deadline : Option Time} (patience : phase.deadline? = deadline) :
      CallTurn call none (some (.called call (.ok deadline))) (some (.running phase))
  | freed {previous : Nat} {deadline : Time} {next : ReceptionPhase} (reads : next.deadline? = none) :
      CallTurn call (some (.running (.waiting deadline previous))) none (some (.running next))
  | timedOut {previous : Nat} {deadline : Time} :
      CallTurn call (some (.running (.waiting deadline previous)))
        (some (.returned call (.error .busy))) (some (.finished (.error .busy)))
  | onward {phase next : ReceptionPhase} {seen : Option Sight} (reading : phase.deadline? = none)
      (reads : next.deadline? = none) (shown : seen = none ∨ seen = some (.read call none)) :
      CallTurn call (some (.running phase)) seen (some (.running next))
  | ended {phase : ReceptionPhase} {result : Except ReceptionError InboundPayload} {sight : Sight}
      (reading : phase.deadline? = none) (other : result ≠ .error .busy)
      (shown : sight.result? = some (call, result)) :
      CallTurn call (some (.running phase)) (some sight) (some (.finished result))

variable {session after : ReceptionSession} {seen : Option Sight} {calls : List ReceptionCall}
  {call : Nat}

theorem callTurn_append {state : ReceptionCall} {sight : Sight}
    (about : sight.call? = some calls.length)
    (own : CallTurn calls.length none (some sight) (some state)) (call : Nat) :
    CallTurn call calls[call]? (some sight) (calls ++ [state])[call]? := by
  by_cases same : call = calls.length
  · subst same
    simpa using own
  · have others : (calls ++ [state])[call]? = calls[call]? := by
      rw [List.getElem?_append]
      split
      · rfl
      · rename_i beyond
        have later : call - calls.length ≠ 0 := by omega
        simp [later, Nat.le_of_not_lt beyond]
    rw [others]
    apply CallTurn.aside
    intro _ shown
    cases shown
    rw [about]
    simpa [eq_comm] using same

theorem callTurn_set {mover : Nat} {state next : ReceptionCall} (found : calls[mover]? = some state)
    (about : ∀ sight, seen = some sight → sight.call? = some mover)
    (own : CallTurn mover (some state) seen (some next)) (call : Nat) :
    CallTurn call calls[call]? seen (calls.set mover next)[call]? := by
  have bound : mover < calls.length := (List.getElem?_eq_some_iff.mp found).1
  by_cases same : mover = call
  · subst same
    rw [List.getElem?_set_self bound, found]
    exact own
  · rw [List.getElem?_set_ne same]
    apply CallTurn.aside
    intro sight shown
    rw [about sight shown]
    simpa using same

theorem Turn.callTurn (turn : Turn session seen after) (call : Nat) :
    CallTurn call session.calls[call]? seen after.calls[call]? := by
  cases turn with
  | refused busy => exact callTurn_append rfl .refused call
  | waits idle owed =>
      apply callTurn_append rfl
      exact .begun rfl
  | starts idle owed =>
      apply callTurn_append rfl
      exact .begun rfl
  | freed own free => exact callTurn_set own (by simp) (.freed rfl) call
  | timedOut own held late => exact callTurn_set own (by simp [Sight.call?]) .timedOut call
  | opened own ready => exact callTurn_set own (by simp) (.onward rfl rfl (.inl rfl)) call
  | closed own shut =>
      exact callTurn_set own (by simp [Sight.call?]) (.ended rfl (by simp) rfl) call
  | gathered own ready =>
      exact callTurn_set own (by simp [Sight.call?]) (.onward rfl rfl (.inr rfl)) call
  | failed own ready other =>
      exact callTurn_set own (by simp [Sight.call?]) (.ended rfl (by simpa using other) rfl) call
  | handedOut own ready =>
      exact callTurn_set own (by simp [Sight.call?]) (.ended rfl (by simp) rfl) call
  | elsewhere now link => exact .aside _ (by simp)
  | used usage held => exact .aside _ (by simp [Sight.call?])

/-- A call that reads, or did so until it returned. -/
def Engaged (state : Option ReceptionCall) : Prop :=
  (∃ phase, state = some (.running phase) ∧ phase.deadline? = none) ∨
    ∃ result, state = some (.finished result) ∧ result ≠ .error .busy

/-- A call that was seen like this is not waiting any more. -/
def Sight.Engages (call : Nat) (sight : Sight) : Prop :=
  sight = .called call (.ok none) ∨ ∃ result, sight = .read call result

theorem Sight.Engages.about {sight : Sight} (engages : sight.Engages call) :
    sight.call? = some call := by
  obtain rfl | ⟨result, rfl⟩ := engages <;> rfl

theorem Sight.call_of_result {sight : Sight} {result : Except ReceptionError InboundPayload}
    (returned : sight.result? = some (call, result)) : sight.call? = some call := by
  unfold Sight.result? at returned
  split at returned <;> simp_all [Sight.call?]

section CallTurn

variable {state next : Option ReceptionCall} {sight : Sight}

theorem CallTurn.finished {result : Except ReceptionError InboundPayload}
    (turn : CallTurn call state seen next) (finished : state = some (.finished result)) :
    next = some (.finished result) := by
  cases turn with
  | aside => exact finished
  | _ => simp at finished

theorem CallTurn.engaged (turn : CallTurn call state seen next) (engaged : Engaged state) :
    Engaged next := by
  cases turn with
  | aside => exact engaged
  | refused | begun => simp [Engaged] at engaged
  | freed reads => exact .inl ⟨_, rfl, reads⟩
  | timedOut => simp [Engaged, ReceptionPhase.deadline?] at engaged
  | onward reading reads shown => exact .inl ⟨_, rfl, reads⟩
  | ended reading other shown => exact .inr ⟨_, rfl, other⟩

theorem CallTurn.engages (turn : CallTurn call state (some sight) next)
    (engages : sight.Engages call) : Engaged next := by
  cases turn with
  | aside _ silent => exact absurd engages.about (silent sight rfl)
  | refused => simp [Sight.Engages] at engages
  | begun patience =>
      simp only [Sight.Engages, Sight.called.injEq, Except.ok.injEq, true_and, reduceCtorEq,
        exists_false, or_false] at engages
      exact .inl ⟨_, rfl, patience.trans engages⟩
  | timedOut => simp [Sight.Engages] at engages
  | onward reading reads shown => exact .inl ⟨_, rfl, reads⟩
  | ended reading other shown => exact .inr ⟨_, rfl, other⟩

theorem CallTurn.result {result : Except ReceptionError InboundPayload}
    (turn : CallTurn call state (some sight) next)
    (returned : sight.result? = some (call, result)) : next = some (.finished result) := by
  cases turn with
  | aside _ silent => exact absurd (Sight.call_of_result returned) (silent sight rfl)
  | refused | timedOut =>
      cases returned
      rfl
  | begun patience => cases returned
  | onward reading reads shown =>
      obtain quiet | again := shown
      · cases quiet
      · cases again
        cases returned
  | ended reading other shown =>
      rw [returned] at shown
      cases shown
      rfl

theorem CallTurn.awaited {deadline : Time} {previous : Nat} (turn : CallTurn call state seen next)
    (waits : next = some (.running (.waiting deadline previous))) :
    state = some (.running (.waiting deadline previous)) ∨
      seen = some (.called call (.ok (some deadline))) := by
  cases turn with
  | aside => exact .inl waits
  | refused | timedOut | ended => simp at waits
  | begun patience =>
      simp only [Option.some.injEq, Call.running.injEq] at waits
      subst waits
      rw [← patience]
      exact .inr rfl
  | freed reads | onward _ reads _ =>
      simp only [Option.some.injEq, Call.running.injEq] at waits
      subst waits
      cases reads

end CallTurn

/-- What was seen of calls is still true of them. -/
structure Recorded (sights : List Sight) (session : ReceptionSession) : Prop where
  results : ∀ sight ∈ sights, ∀ call result, sight.result? = some (call, result) →
    session.calls[call]? = some (.finished result)
  engaged : ∀ sight ∈ sights, ∀ call, sight.Engages call → Engaged session.calls[call]?
  awaited : ∀ call deadline previous,
    session.calls[call]? = some (.running (.waiting deadline previous)) →
      .called call (.ok (some deadline)) ∈ sights

theorem Turn.recorded {sights : List Sight} (turn : Turn session seen after)
    (recorded : Recorded sights session) : Recorded (sights ++ seen.toList) after := by
  refine ⟨?_, ?_, ?_⟩
  · intro sight member call result returned
    have step := turn.callTurn call
    obtain older | new := List.mem_append.mp member
    · exact step.finished (recorded.results sight older call result returned)
    · rw [Option.mem_toList.mp new] at step
      exact step.result returned
  · intro sight member call engages
    have step := turn.callTurn call
    obtain older | new := List.mem_append.mp member
    · exact step.engaged (recorded.engaged sight older call engages)
    · rw [Option.mem_toList.mp new] at step
      exact step.engages engages
  · intro call deadline previous waits
    obtain before | shown := (turn.callTurn call).awaited waits
    · exact List.mem_append_left _ (recorded.awaited call deadline previous before)
    · rw [shown]
      simp

/-- A call that returned busy never began to read. -/
theorem Recorded.busy {sights : List Sight} {sight other : Sight} (recorded : Recorded sights session)
    (returned : sight ∈ sights) (busy : sight.result? = some (call, .error .busy))
    (member : other ∈ sights) : ¬ other.Engages call := by
  intro engages
  have ended := recorded.results sight returned call _ busy
  obtain ⟨phase, running, -⟩ | ⟨result, finished, unlike⟩ :=
    recorded.engaged other member call engages
  · rw [running] at ended
    cases ended
  · rw [finished] at ended
    cases ended
    exact unlike rfl

end CameraBridge.ReceptionSession
