import CameraBridge.Proofs.Bridge.Writing

namespace CameraBridge

/-! A writer that waits for an acknowledgement is never forgotten: its write is pending, so that its
time runs out, or it was woken. -/

/-- Nobody waits at a gate, and nobody has been woken. -/
def Gate.IsQuiet (gate : Gate) : Prop := gate.waiting = [] ∧ gate.woken = []

/-- How the gate of a channel stands while the writer is at some place. -/
def Writer.Attended (channel : Channel) (gate : Gate) : Writer → Prop
  | .stopped => True
  | .writing message _ _ =>
      gate.IsQuiet ∧ (message.channel = channel → gate.pending = true ∨ gate.stored = true)
  | .awaiting message wait _ =>
      (message.channel ≠ channel → gate.IsQuiet) ∧
        (message.channel = channel →
          gate.waiting = [Bridge.writerWaiter] ∧ gate.woken = [] ∧ gate.pending = true ∧
              (∃ deadline, wait = .timed deadline) ∨
            gate.waiting = [] ∧ gate.woken = [Bridge.writerWaiter])
  | _ => gate.IsQuiet

theorem Gate.IsQuiet.notify {gate : Gate} (quiet : gate.IsQuiet) : gate.notify.IsQuiet := by
  obtain ⟨nobody, none⟩ := quiet
  simp only [IsQuiet, Gate.notify, nobody, none, and_self]

namespace Writer

variable {channel : Channel} {gate : Gate} {writer : Writer}

theorem Attended.subscribed (attended : writer.Attended channel gate) (on : Bool) :
    writer.Attended channel { gate with subscribed := on } := by
  cases writer <;> exact attended

theorem Attended.complete (attended : writer.Attended channel gate) :
    writer.Attended channel gate.complete := by
  cases pending : gate.pending with
  | false =>
      simpa only [Gate.complete, pending, Bool.false_eq_true, if_false] using attended
  | true =>
      have completed : gate.complete = gate.clear.notify := by
        simp only [Gate.complete, pending, if_true]
      rw [completed]
      cases writer with
      | stopped => trivial
      | writing message accepted rest =>
          have quiet : gate.clear.IsQuiet := attended.1
          exact ⟨quiet.notify, fun _ => .inr (by simp only [Gate.notify, quiet.1])⟩
      | awaiting message wait rest =>
          refine ⟨fun other => ?_, fun same => .inr ?_⟩
          · have quiet : gate.clear.IsQuiet := attended.1 other
            exact quiet.notify
          · obtain ⟨alone, asleep, -⟩ | ⟨nobody, woken⟩ := attended.2 same
            · simp [Gate.notify, Gate.clear, alone, asleep]
            · simp [Gate.notify, Gate.clear, nobody, woken]
      | idle | sending | naming =>
          have quiet : gate.clear.IsQuiet := attended
          exact quiet.notify

theorem Attended.reset (attended : writer.Attended channel gate) :
    writer.Attended channel gate.reset :=
  attended.complete.subscribed false

end Writer

namespace WriteGates

/-- Every gate stands as it should for the writer. -/
def Attended (writer : Writer) (gates : WriteGates) : Prop :=
  ∀ channel gate, gates.gate? channel = some gate → writer.Attended channel gate

variable {writer : Writer} {gates : WriteGates}

/-- A change of one gate that keeps it attended keeps all of them attended. -/
theorem Attended.modify {later : Writer} (attended : gates.Attended writer) (target : Channel)
    (change : Gate → Gate)
    (changed : ∀ gate, writer.Attended target gate → later.Attended target (change gate))
    (others : ∀ channel gate, target ≠ channel → writer.Attended channel gate →
      later.Attended channel gate) :
    (gates.modify target change).Attended later := by
  intro channel gate found
  obtain ⟨earlier, present⟩ := gate?_exists gates (gate?_isBle found)
  have before := attended channel earlier present
  by_cases same : target = channel
  · subst same
    rw [gate?_modify present] at found
    cases found
    exact changed earlier before
  · rw [gate?_modify_other same, present] at found
    cases found
    exact others channel _ same before

theorem Attended.reset (attended : gates.Attended writer) : gates.reset.Attended writer := by
  intro channel gate found
  obtain ⟨earlier, present⟩ := gate?_exists gates (gate?_isBle found)
  rw [gate?_reset present] at found
  cases found
  exact (attended channel earlier present).reset

theorem Attended.onEvent (attended : gates.Attended writer) (event : CameraEvent) :
    (event.onGates gates).Attended writer := by
  cases event with
  | subscribed channel =>
      exact attended.modify channel _ (fun gate attended => attended.subscribed true)
        fun _ _ _ attended => attended
  | unsubscribed channel =>
      exact attended.modify channel _ (fun gate attended => attended.subscribed false)
        fun _ _ _ attended => attended
  | writeComplete channel status =>
      exact attended.modify channel _ (fun gate attended => attended.complete)
        fun _ _ _ attended => attended
  | disconnected => exact attended.reset
  | advertisement | connected | notification | authFailed => exact attended

/-- The writer's wait, once it moves, is over: it was woken, or its time is up and the write still
pending. -/
theorem Attended.returned {now : Time} {message : Message} {wait : AckWait} {rest : List Message}
    {changed : WriteGates} {progress : AckWait ⊕ AckOutcome}
    (attended : gates.Attended (.awaiting message wait rest))
    (step : gates.stepWait now Bridge.writerWaiter message.channel wait = some (changed, progress)) :
    changed.Attended (.sending rest) ∧ ∃ outcome, progress = .inr outcome := by
  cases present : gates.gate? message.channel with
  | none =>
      simp only [stepWait, present, Option.some.injEq, Prod.mk.injEq] at step
      obtain ⟨rfl, rfl⟩ := step
      refine ⟨fun channel gate found => ?_, _, rfl⟩
      apply (attended channel gate found).1
      rintro rfl
      cases present.symm.trans found
  | some gate =>
      simp only [stepWait_eq present, Option.map_eq_some_iff, Prod.exists, Prod.mk.injEq] at step
      obtain ⟨next, moved, step, rfl, rfl⟩ := step
      have ended : next.IsQuiet ∧ ∃ outcome, moved = .inr outcome := by
        obtain ⟨alone, asleep, pending, -⟩ | ⟨nobody, woken⟩ :=
          (attended message.channel gate present).2 rfl
        · obtain ⟨-, ⟨-, rfl, rfl⟩ | ⟨cleared, -⟩⟩ := AckWait.step_asleep (by simp [asleep]) step
          · exact ⟨by simp [Gate.IsQuiet, Gate.leave, Gate.clear, alone, asleep], _, rfl⟩
          · cases pending.symm.trans cleared
        · rw [AckWait.step_woken (by simp [woken])] at step
          cases step
          exact ⟨by simp [Gate.IsQuiet, Gate.collect, nobody, woken], _, rfl⟩
      refine ⟨fun channel other found => ?_, ended.2⟩
      by_cases same : message.channel = channel
      · subst same
        rw [gate?_setGate present next] at found
        cases found
        exact ended.1
      · rw [gate?_setGate_other same] at found
        exact (attended channel other found).1 same

end WriteGates

namespace Bridge

variable {connected : Bool} {was is : Writer} {gates changed : WriteGates}
  {sight : Option WriterSight}

theorem WriterMove.attended (move : WriterMove connected was gates sight is changed)
    (attended : gates.Attended was) : changed.Attended is := by
  cases move with
  | took gates messages => exact attended
  | aside gates before after =>
      intro channel gate found
      have quiet : gate.IsQuiet := by
        cases was <;> first | exact attended channel gate found | exact nomatch before
      cases is <;> first | exact quiet | exact nomatch after
  | finished gates => exact attended
  | dropped gates message rest away => exact attended
  | wrote gates message accepted rest there =>
      refine attended.modify message.channel Gate.mark ?_ ?_
      · exact fun gate quiet => ⟨quiet, fun _ => .inl rfl⟩
      · exact fun channel gate other quiet => ⟨quiet, fun same => absurd same other⟩
  | accepted gates message rest deadline =>
      refine attended.modify message.channel (Gate.enqueue writerWaiter) ?_ ?_
      · rintro gate ⟨⟨nobody, none⟩, due⟩
        refine ⟨fun other => absurd rfl other, fun _ => ?_⟩
        cases stored : gate.stored with
        | false =>
            have pending : gate.pending = true := by simpa [stored] using due rfl
            exact .inl (by simp [Gate.enqueue, stored, nobody, none, pending])
        | true => exact .inr (by simp [Gate.enqueue, stored, nobody, none])
      · exact fun channel gate other quiet => ⟨fun _ => quiet.1, fun same => absurd same other⟩
  | refused gates message rest =>
      refine attended.modify message.channel Gate.clear ?_ ?_
      · exact fun gate quiet => quiet.1
      · exact fun channel gate other quiet => quiet.1
  | waited step =>
      obtain ⟨-, outcome, impossible⟩ := attended.returned step
      exact nomatch impossible
  | returned step => exact (attended.returned step).1

variable {before after bridge last : Bridge} {acts : List Act} {sights : List WriterSight}

theorem Noticed.attended (noticed : Noticed before sight after)
    (attended : before.gates.Attended before.writer) : after.gates.Attended after.writer := by
  cases noticed with
  | own move same => exact move.attended attended
  | @heard event after heard =>
      rw [heard.writer, heard.gates]
      cases event with
      | none => exact attended
      | some event => exact attended.onEvent event
  | ended stopped same =>
      rw [stopped]
      exact fun _ _ _ => trivial

theorem attended_watch (first : bridge.gates.Attended bridge.writer)
    (watched : bridge.watch writerSight? acts = some (sights, last)) :
    last.gates.Attended last.writer :=
  watch_invariant (fun _ _ _ attended acted => (act_noticed acted).attended attended) first watched

theorem start_attended (timing : Timing) (queueDepth : Nat) (state : DeviceState)
    (links : OpenLinks) :
    (start timing queueDepth state links).gates.Attended
      (start timing queueDepth state links).writer := by
  have same := start_cameraSide timing queueDepth state links
  have idle : (start timing queueDepth state links).writer = .idle := congrArg CameraSide.writer same
  have fresh : (start timing queueDepth state links).gates = {} := congrArg CameraSide.gates same
  rw [idle, fresh]
  intro channel gate found
  cases channel <;> cases found <;> exact ⟨rfl, rfl⟩

end Bridge

end CameraBridge
