import CameraBridge.Proofs.Reception.Discipline

namespace CameraBridge.ReceptionSession

/-! Whether a payload is outstanding. What the receiver tells is not whether the payload handed out last
is still held, but whether a call has claimed it since: one that waits for it hides it, and when it is
released nobody notices before the next call. -/

/-- The call that began, and was not refused at once. -/
def Sight.begun? : Sight → Option Nat
  | .called call (.ok _) => some call
  | _ => none

def lastBegun (sights : List Sight) : Option Nat := (sights.filterMap Sight.begun?).getLast?

/-- The last call that began has returned, with a payload or after it waited for one in vain. -/
def Unclaimed (sights : List Sight) (session : ReceptionSession) : Prop :=
  ∃ call result, lastBegun sights = some call ∧ session.calls[call]? = some (.finished result) ∧
    (result = .error .busy ∨ ∃ payload, result = .ok payload)

/-- The payload handed out last is still held: nobody released it, and not all its holders dropped it. -/
def Withheld (sights : List Sight) : Prop :=
  ∃ payload, (handed sights).getLast? = some payload ∧ ¬ Consumed payload.hold sights

/-- Some call waits for the payload handed out last. -/
def Awaited (session : ReceptionSession) : Prop :=
  ∃ (call previous : Nat) (deadline : Time),
    session.calls[call]? = some (.running (.waiting deadline previous))

variable {session after last : ReceptionSession} {seen : Option Sight} {reader : Reader}
  {call payload : Nat} {sights later : List Sight} {acts : List Act}

/-! ### What the receiver tells -/

theorem lastBegun_append (quiet : ∀ sight ∈ later, sight.begun? = none) :
    lastBegun (sights ++ later) = lastBegun sights := by
  rw [lastBegun, List.filterMap_append, List.filterMap_eq_nil_iff.mpr quiet, List.append_nil, lastBegun]

theorem lastBegun_quiet (quiet : seen.bind Sight.begun? = none) :
    lastBegun (sights ++ seen.toList) = lastBegun sights := by
  apply lastBegun_append
  intro sight shown
  rwa [Option.mem_toList.mp shown] at quiet

theorem lastBegun_called (call : Nat) (deadline : Option Time) :
    lastBegun (sights ++ (some (Sight.called call (.ok deadline))).toList) = some call := by
  rw [lastBegun, filterMap_seen]
  exact List.getLast?_concat

/-- What is outstanding follows the last call that began. -/
structure Follows (sights : List Sight) (session : ReceptionSession) : Prop where
  known : ∀ call, lastBegun sights = some call → call < session.calls.length
  underWay : ∀ call phase, session.calls[call]? = some (.running phase) → lastBegun sights = some call
  told : session.receiver.isOutstanding = true ↔ Unclaimed sights session

/-- The call under way goes on or returns. -/
theorem Follows.proceed {phase : ReceptionPhase} {state : ReceptionCall}
    (follows : Follows sights session) (own : session.calls[call]? = some (.running phase))
    (quiet : seen.bind Sight.begun? = none) (calls : after.calls = session.calls.set call state)
    (told : after.receiver.isOutstanding = true ↔
      ∃ result, state = .finished result ∧ (result = .error .busy ∨ ∃ payload, result = .ok payload)) :
    Follows (sights ++ seen.toList) after := by
  have begun := follows.underWay call phase own
  have bound := lt_length_of_running own
  have found : after.calls[call]? = some state := by rw [calls, List.getElem?_set_self bound]
  refine ⟨?_, ?_, told.trans ?_⟩
  · intro other
    rw [lastBegun_quiet quiet, calls, List.length_set]
    exact follows.known other
  · intro other next running
    rw [lastBegun_quiet quiet]
    by_cases same : call = other
    · exact same ▸ begun
    · rw [calls, List.getElem?_set_ne same] at running
      exact follows.underWay other next running
  · constructor
    · rintro ⟨result, rfl, kind⟩
      exact ⟨call, result, (lastBegun_quiet quiet).trans begun, found, kind⟩
    · rintro ⟨other, result, latest, finished, kind⟩
      cases begun.symm.trans ((lastBegun_quiet quiet).symm.trans latest)
      exact ⟨result, Option.some.inj (found.symm.trans finished), kind⟩

/-- A call begins while no other one is under way. -/
theorem Follows.begin {phase : ReceptionPhase} {deadline : Option Time}
    (alone : Alone session.calls none) (calls : after.calls = session.calls ++ [.running phase])
    (told : after.receiver.isOutstanding = false) :
    Follows (sights ++ (some (Sight.called session.calls.length (.ok deadline))).toList) after := by
  have latest := @lastBegun_called sights session.calls.length deadline
  have underWay := alone.admit phase
  rw [← calls] at underWay
  refine ⟨?_, ?_, ?_⟩
  · intro call begun
    cases latest.symm.trans begun
    rw [calls, List.length_append]
    exact Nat.lt_succ_self _
  · intro call next running
    cases (underWay call next).mp running
    exact latest
  · rw [told]
    refine ⟨nofun, ?_⟩
    rintro ⟨call, result, begun, finished, -⟩
    cases latest.symm.trans begun
    rw [(underWay _ phase).mpr rfl] at finished
    cases finished

/-- No call begins or goes on, and what more is known of calls is that they returned. -/
theorem Follows.aside {answers : List ReceptionCall} (follows : Follows sights session)
    (quiet : seen.bind Sight.begun? = none) (calls : after.calls = session.calls ++ answers)
    (returned : ∀ (call : Nat) (phase : ReceptionPhase),
      after.calls[call]? = some (.running phase) → session.calls[call]? = some (.running phase))
    (same : after.receiver.outstanding = session.receiver.outstanding) :
    Follows (sights ++ seen.toList) after := by
  have told : after.receiver.isOutstanding = session.receiver.isOutstanding := by
    rw [Receiver.isOutstanding, same, Receiver.isOutstanding]
  refine ⟨?_, ?_, ?_⟩
  · intro call begun
    rw [lastBegun_quiet quiet] at begun
    rw [calls, List.length_append]
    exact Nat.lt_add_right _ (follows.known call begun)
  · intro call phase own
    rw [lastBegun_quiet quiet]
    exact follows.underWay call phase (returned call phase own)
  · rw [told, follows.told, Unclaimed, Unclaimed, lastBegun_quiet quiet, calls]
    refine exists_congr fun call => exists_congr fun result => and_congr_right fun begun => ?_
    rw [List.getElem?_append_left (follows.known call begun)]

/-- Each turn keeps what the receiver tells in step with the last call that began. -/
theorem Turn.follows (turn : Turn session seen after) (ordered : session.InOrder)
    (follows : Follows sights session) : Follows (sights ++ seen.toList) after := by
  obtain ⟨reader, orderly⟩ := ordered
  -- While a call is under way nothing is outstanding, whether it waited for a payload or not.
  have untold {call : Nat} {phase : ReceptionPhase}
      (own : session.calls[call]? = some (.running phase)) :
      session.receiver.outstanding = none := by
    exact orderly.taken (orderly.reader_eq own ▸ rfl)
  cases turn with
  | refused busy =>
      refine follows.aside rfl rfl ?_ rfl
      intro call phase own
      exact (orderly.alone call phase).mpr ((orderly.alone.refuse _ call phase).mp own)
  | waits idle owed =>
      obtain rfl := orderly.idle idle
      exact .begin orderly.alone rfl rfl
  | starts idle owed =>
      obtain rfl := orderly.idle idle
      refine .begin orderly.alone rfl ?_
      simp only [Receiver.isOutstanding, owed]
      rfl
  | freed own | opened own | gathered own =>
      refine follows.proceed own rfl rfl ?_
      simp [Receiver.isOutstanding, untold own]
  | timedOut own held late =>
      refine follows.proceed own rfl rfl ?_
      simp [Receiver.isOutstanding]
  | closed own =>
      refine follows.proceed own rfl rfl ?_
      simp [Receiver.isOutstanding, untold own]
  | failed own ready other =>
      refine follows.proceed own rfl rfl ?_
      simp [Receiver.isOutstanding, untold own, other]
  | handedOut own ready =>
      refine follows.proceed own rfl rfl ?_
      simp [Receiver.isOutstanding]
  | elsewhere | used => exact follows.aside rfl (List.append_nil _).symm (fun _ _ own => own) rfl

/-! ### What is held -/

/-- Every payload that was handed out is accounted for, and no other was ever used. -/
structure Tallied (sights : List Sight) (session : ReceptionSession) : Prop where
  accounted : ∀ payload < session.receiver.holds.length, Accounted payload sights session
  known : ∀ payload usage, .used payload usage ∈ sights → payload < session.receiver.holds.length

theorem Turn.use_known {usage : TokenUse} (turn : Turn session (some (.used payload usage)) after) :
    payload < session.receiver.holds.length := by
  cases turn with
  | used usage held =>
      cases found : session.receiver.holds[payload]? with
      | none => simp [isHeld, found] at held
      | some hold => exact (List.getElem?_eq_some_iff.mp found).1

/-- One payload at most is handed out in a turn. -/
theorem Turn.holds (turn : Turn session seen after) :
    after.receiver.holds.length = session.receiver.holds.length ∨
      after.receiver.holds = session.receiver.holds ++ [({} : Hold)] := by
  cases turn with
  | handedOut own ready => exact .inr rfl
  | used usage held => exact .inl (by simp only [Receiver.modify, List.length_modify])
  | _ => exact .inl rfl

/-- A payload that nobody used has the one holder it was handed out to. -/
theorem accounted_fresh (unused : ∀ usage, .used payload usage ∉ sights)
    (found : session.receiver.holds[payload]? = some {}) : Accounted payload sights session := by
  refine ⟨{}, found, nofun, ?_⟩
  rw [List.count_eq_zero.mpr (unused .drop), List.count_eq_zero.mpr (unused .share)]

theorem Turn.tallied (turn : Turn session seen after) (tallied : Tallied sights session) :
    Tallied (sights ++ seen.toList) after := by
  have known : ∀ payload usage, .used payload usage ∈ sights ++ seen.toList →
      payload < session.receiver.holds.length := by
    intro payload usage member
    obtain older | new := List.mem_append.mp member
    · exact tallied.known payload usage older
    · rw [Option.mem_toList.mp new] at turn
      exact turn.use_known
  obtain same | handedOut := turn.holds
  · refine ⟨?_, ?_⟩
    · intro payload bound
      exact turn.accounted (tallied.accounted payload (same ▸ bound))
    · rw [same]
      exact known
  · have grown : after.receiver.holds.length = session.receiver.holds.length + 1 := by
      rw [handedOut, List.length_append, List.length_singleton]
    refine ⟨?_, ?_⟩
    · intro payload bound
      rw [grown] at bound
      obtain older | rfl := Nat.lt_succ_iff_lt_or_eq.mp bound
      · exact turn.accounted (tallied.accounted payload older)
      · refine accounted_fresh ?_ (by rw [handedOut, List.getElem?_concat_length])
        intro usage member
        exact Nat.lt_irrefl _ (known _ usage member)
    · intro payload usage member
      exact grown ▸ Nat.lt_succ_of_lt (known payload usage member)

/-- A payload that is still held is due. -/
theorem Withheld.due (withheld : Withheld sights) (numbered : Numbered sights session)
    (tallied : Tallied sights session) (orderly : session.Orderly reader) :
    ∃ payload, session.receiver.due reader = some payload := by
  obtain ⟨payload, newest, unconsumed⟩ := withheld
  have member : payload.hold ∈ List.range session.receiver.holds.length := by
    rw [← numbered]
    exact List.mem_map_of_mem (List.mem_of_getLast? newest)
  have accounted := tallied.accounted payload.hold (List.mem_range.mp member)
  refine ⟨payload.hold, ?_⟩
  by_contra undue
  exact unconsumed (accounted.consumed (orderly.others payload.hold undue))

/-- What is due is told by the receiver, unless the call that waits for it has taken it over. -/
theorem Orderly.told (orderly : session.Orderly reader)
    (due : session.receiver.due reader = some payload) :
    session.receiver.isOutstanding = true ↔ ¬ session.Awaited := by
  cases reader with
  | none =>
      have idle : ¬ session.Awaited := by
        rintro ⟨call, previous, deadline, own⟩
        cases orderly.reader_eq own
      simp only [Receiver.due] at due
      simp only [Receiver.isOutstanding, due, Option.isSome_some, idle, not_false_eq_true]
  | some reading =>
      obtain ⟨call, phase⟩ := reading
      cases phase with
      | waiting deadline previous =>
          have awaited : session.Awaited := ⟨call, previous, deadline, (orderly.alone _ _).mpr rfl⟩
          simp [Receiver.isOutstanding, orderly.taken rfl, awaited]
      | opening | reading => cases due

section Run

variable {permitTimeout : Time}

theorem trace_follows
    (traced : trace act sight? (start permitTimeout) acts = some (sights, last)) :
    Follows sights last := by
  have first : (start permitTimeout).InOrder ∧ Follows [] (start permitTimeout) := by
    refine ⟨(start_kept permitTimeout).ordered, ?_, ?_, ?_⟩ <;>
      simp [lastBegun, start, Unclaimed, Receiver.isOutstanding]
  refine (@trace_history _ _ _ _ _ _ _ _ _ (fun sights session => session.InOrder ∧ Follows sights session)
    [] ?_ first traced).2
  rintro sights next before after ⟨ordered, follows⟩ acted
  exact ⟨(act_turn acted).inOrder ordered, (act_turn acted).follows ordered follows⟩

theorem trace_tallied
    (traced : trace act sight? (start permitTimeout) acts = some (sights, last)) :
    Tallied sights last := by
  have first : Tallied [] (start permitTimeout) := ⟨by simp [start], by simp⟩
  exact trace_history (fun _ _ _ _ tallied acted => (act_turn acted).tallied tallied) first traced

theorem trace_finished {result : Except ReceptionError InboundPayload}
    (finished : session.calls[call]? = some (.finished result))
    (traced : trace act sight? session acts = some (sights, last)) :
    last.calls[call]? = some (.finished result) := by
  refine @trace_invariant _ _ _ _ _ _ _ _ _ (fun session => session.calls[call]? = some (.finished result))
    ?_ finished traced
  intro next before after finished acted
  exact ((act_turn acted).callTurn call).finished finished

end Run

/-- What the receiver tells follows the calls, not the tokens: a payload is outstanding from when a call
handed it out, or waited for it in vain, until the next call begins. So one that is held is not told
while a call waits for it, and one that is consumed is told until a call begins. These are the only
times at which the receiver does not tell whether a payload is held. -/
theorem outstanding_until_claimed {permitTimeout : Time}
    (traced : trace act sight? (start permitTimeout) acts = some (sights, last)) :
    (last.receiver.isOutstanding = true ↔ Unclaimed sights last) ∧
      (Withheld sights → (last.receiver.isOutstanding = true ↔ ¬ last.Awaited)) ∧
      ((last.receiver.isOutstanding = true ↔ Withheld sights) ↔
        (Withheld sights → ¬ last.Awaited) ∧ (Unclaimed sights last → Withheld sights)) ∧
      ∀ rest later final, last.receiver.isOutstanding = true →
        trace act sight? last rest = some (later, final) →
        (∀ sight ∈ later, sight.begun? = none) → final.receiver.isOutstanding = true := by
  have kept := trace_kept traced
  obtain ⟨reader, orderly⟩ := kept.ordered
  have unclaimed := (trace_follows traced).told
  have unhidden : Withheld sights → (last.receiver.isOutstanding = true ↔ ¬ last.Awaited) := by
    intro withheld
    obtain ⟨payload, due⟩ := withheld.due kept.numbered (trace_tallied traced) orderly
    exact orderly.told due
  refine ⟨unclaimed, unhidden, ⟨?_, ?_⟩, ?_⟩
  · intro truthful
    refine ⟨?_, ?_⟩
    · intro withheld
      exact (unhidden withheld).mp (truthful.mpr withheld)
    · intro waiting
      exact truthful.mp (unclaimed.mpr waiting)
  · rintro ⟨seen, noticed⟩
    refine ⟨?_, ?_⟩
    · intro told
      exact noticed (unclaimed.mp told)
    · intro withheld
      exact (unhidden withheld).mpr (seen withheld)
  · intro rest later final told remaining quiet
    obtain ⟨call, result, begun, finished, kind⟩ := unclaimed.mp told
    refine (trace_follows (trace_append traced remaining)).told.mpr ?_
    exact ⟨call, result, (lastBegun_append quiet).trans begun, trace_finished finished remaining, kind⟩

def oneTransfer : SegmentLink := { incoming := [.ok ⟨[1], 0⟩] }

/-- Call 0 hands out the payload. -/
def takeTransfer : List Act := [.relink oneTransfer, .receive, .move 0, .move 0]

def takenTransfer : List Sight := [.called 0 (.ok none), .read 0 (some (.ok ⟨[1], 0⟩))]

def waitedInVain : List Sight :=
  takenTransfer ++ [.called 1 (.ok (some 30)), .returned 1 (.error .busy)]

/-- After call 1 waited for the payload in vain it is told that it is held, and still so after it is
released. -/
theorem outstanding_until_claimed_of_wait_in_vain : ∃ last final,
    trace act sight? (start 30) (takeTransfer ++ [.receive, .pass 30, .move 1]) =
        some (waitedInVain, last) ∧
      Withheld waitedInVain ∧ ¬ last.Awaited ∧
      (last.receiver.isOutstanding = true ↔ Withheld waitedInVain) ∧
      trace act sight? last [.use 0 .release] = some ([.used 0 .release], final) ∧
      final.receiver.isOutstanding = true := by
  obtain ⟨last, final, traced, returned, released⟩ : ∃ last final,
      trace act sight? (start 30) (takeTransfer ++ [.receive, .pass 30, .move 1]) =
          some (waitedInVain, last) ∧
        last.calls[1]? = some (.finished (.error .busy)) ∧
        trace act sight? last [.use 0 .release] = some ([.used 0 .release], final) :=
    ⟨_, _, rfl, rfl, rfl⟩
  obtain ⟨told, unhidden, truthful, stays⟩ := outstanding_until_claimed traced
  have withheld : Withheld waitedInVain := ⟨⟨[1], 0⟩, rfl, by decide⟩
  have outstanding := told.mpr ⟨1, .error .busy, rfl, returned, .inl rfl⟩
  have unawaited := (unhidden withheld).mp outstanding
  refine ⟨last, final, traced, withheld, unawaited, ?_, released, ?_⟩
  · exact truthful.mpr ⟨fun _ => unawaited, fun _ => withheld⟩
  · exact stays _ _ final outstanding released (by simp [Sight.begun?])

/-- The payload is outstanding after its release, and it is not while call 1 waits for it. -/
theorem released_told_outstanding_and_awaited_not :
    (∃ last, trace act sight? (start 30) (takeTransfer ++ [.use 0 .release]) =
          some (takenTransfer ++ [.used 0 .release], last) ∧
        last.receiver.isOutstanding = true ∧
        ¬ Withheld (takenTransfer ++ [.used 0 .release])) ∧
      ∃ last, trace act sight? (start 30) (takeTransfer ++ [.receive]) =
          some (takenTransfer ++ [.called 1 (.ok (some 30))], last) ∧
        last.receiver.isOutstanding = false ∧
        Withheld (takenTransfer ++ [.called 1 (.ok (some 30))]) := by
  refine ⟨⟨_, rfl, rfl, ?_⟩, ⟨_, rfl, rfl, ⟨⟨[1], 0⟩, rfl, by decide⟩⟩⟩
  rintro ⟨payload, newest, held⟩
  cases newest
  exact held (by decide)

end CameraBridge.ReceptionSession
