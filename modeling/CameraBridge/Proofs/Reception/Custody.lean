import CameraBridge.Proofs.Reception.Turns

namespace CameraBridge

/-! At most one reception is under way, and at most one payload is not free: the one handed out last.
Whoever has to wait for it knows it, the receiver itself while it rests and the reception while it
waits, and nobody else does. -/

abbrev ReceptionCall := Call ReceptionPhase (Except ReceptionError InboundPayload)

/-- A reception that is under way, with its number. -/
abbrev Reader := Option (Nat × ReceptionPhase)

/-- No call but the reader's is under way. -/
def Alone (calls : List ReceptionCall) (reader : Reader) : Prop :=
  ∀ call phase, calls[call]? = some (.running phase) ↔ reader = some (call, phase)

section Alone

variable {calls : List ReceptionCall} {reader : Reader} {call : Nat} {phase : ReceptionPhase}

theorem Alone.refuse (alone : Alone calls reader)
    (result : Except ReceptionError InboundPayload) :
    Alone (calls ++ [.finished result]) reader := by
  intro other running
  rw [← alone other running, List.getElem?_append]
  split
  · rfl
  · rename_i beyond
    have unknown : calls[other]? = none := List.getElem?_eq_none (Nat.le_of_not_lt beyond)
    rw [unknown]
    cases other - calls.length <;> simp

theorem Alone.admit (alone : Alone calls none) (phase : ReceptionPhase) :
    Alone (calls ++ [.running phase]) (some (calls.length, phase)) := by
  intro other running
  have idle := (alone other running).not.mpr (by simp)
  rw [List.getElem?_append]
  split
  · rename_i bound
    have older : calls.length ≠ other := Nat.ne_of_gt bound
    simp [idle, older]
  · rename_i beyond
    cases distance : other - calls.length with
    | zero =>
        have same : calls.length = other := by omega
        simp [same]
    | succ rest =>
        have later : calls.length ≠ other := by omega
        simp [later]

theorem Alone.proceed (alone : Alone calls (some (call, phase))) (next : ReceptionPhase) :
    Alone (calls.set call (.running next)) (some (call, next)) := by
  have bound : call < calls.length :=
    (List.getElem?_eq_some_iff.mp ((alone call phase).mpr rfl)).1
  intro other running
  by_cases same : call = other
  · subst same
    simp [bound]
  · rw [List.getElem?_set_ne same, alone other running]
    simp [same]

theorem Alone.finish (alone : Alone calls (some (call, phase)))
    (result : Except ReceptionError InboundPayload) :
    Alone (calls.set call (.finished result)) none := by
  have bound : call < calls.length :=
    (List.getElem?_eq_some_iff.mp ((alone call phase).mpr rfl)).1
  intro other running
  by_cases same : call = other
  · subst same
    simp [bound]
  · rw [List.getElem?_set_ne same, alone other running]
    simp [same]

end Alone

namespace Receiver

/-- The payload that must be free before anything more is read. -/
def due (receiver : Receiver) (reader : Reader) : Option Nat :=
  match reader with
  | none => receiver.outstanding
  | some (_, .waiting _ previous) => some previous
  | some _ => none

end Receiver

namespace ReceptionSession

structure Orderly (session : ReceptionSession) (reader : Reader) : Prop where
  alone : Alone session.calls reader
  running : session.receiver.running = reader.isSome
  /-- A reception under way has taken over what was outstanding. -/
  taken : reader.isSome = true → session.receiver.outstanding = none
  newest : ∀ payload, session.receiver.due reader = some payload →
    payload + 1 = session.receiver.holds.length
  others : ∀ payload, session.receiver.due reader ≠ some payload →
    session.receiver.isFree payload = true

def InOrder (session : ReceptionSession) : Prop := ∃ reader, session.Orderly reader

variable {session after : ReceptionSession} {seen : Option Sight} {reader : Reader}
  {call payload : Nat} {phase : ReceptionPhase}

/-- A free hold stays free, since nobody is left to share it or it stays released. -/
theorem isFree_use {other : Nat} (usage : TokenUse) (held : session.isHeld payload = true)
    (free : session.receiver.isFree other = true) :
    (session.receiver.modify payload usage.change).isFree other = true := by
  simp only [Receiver.isFree, Receiver.modify, List.getElem?_modify] at free ⊢
  cases found : session.receiver.holds[other]? with
  | none => rfl
  | some hold =>
      simp only [found, Option.all_some] at free
      by_cases same : payload = other
      · subst same
        simp only [isHeld, found, Option.any_some, bne_iff_ne, ne_eq] at held
        simp only [Hold.isFree, held, beq_iff_eq, Bool.or_eq_true, or_false] at free
        cases usage <;> simp [TokenUse.change, Hold.share, Hold.release, Hold.drop, Hold.isFree, free]
      · simpa [same] using free

theorem Orderly.reader_eq (orderly : session.Orderly reader)
    (own : session.calls[call]? = some (.running phase)) : reader = some (call, phase) :=
  (orderly.alone call phase).mp own

theorem Orderly.idle (orderly : session.Orderly reader)
    (idle : session.receiver.running = false) : reader = none := by
  have running := orderly.running
  rw [idle] at running
  simpa using running.symm

theorem Orderly.allFree (orderly : session.Orderly reader)
    (undue : session.receiver.due reader = none) (payload : Nat) :
    session.receiver.isFree payload = true :=
  orderly.others payload (by simp [undue])

/-- A reception that ends with an error after it began to read leaves nothing to wait for. -/
theorem Orderly.failed {cause : ReceptionError} {link : SegmentLink}
    (orderly : session.Orderly (some (call, phase))) (reading : phase.deadline? = none) :
    Orderly { session with
      link
      receiver := { session.receiver with running := false }
      calls := session.calls.set call (.finished (.error cause)) } none := by
  have undue : session.receiver.due (some (call, phase)) = none := by
    cases phase <;> first | rfl | cases reading
  have emptied : session.receiver.outstanding = none := orderly.taken rfl
  refine ⟨orderly.alone.finish _, rfl, by simp, ?_, ?_⟩
  · intro payload due
    simp [Receiver.due, emptied] at due
  · intro payload _
    exact orderly.allFree undue payload

theorem Orderly.used (orderly : session.Orderly reader) (usage : TokenUse)
    (held : session.isHeld payload = true) :
    Orderly { session with receiver := session.receiver.modify payload usage.change } reader := by
  refine ⟨orderly.alone, orderly.running, orderly.taken, ?_, ?_⟩
  · intro other due
    have newest := orderly.newest other due
    simpa only [Receiver.modify, List.length_modify] using newest
  · intro other due
    exact isFree_use usage held (orderly.others other due)

theorem Orderly.freed {previous : Nat} {deadline : Time} {next : ReceptionPhase}
    (orderly : session.Orderly (some (call, .waiting deadline previous)))
    (free : session.receiver.isFree previous = true) (reading : next.deadline? = none) :
    Orderly { session with calls := session.calls.set call (.running next) }
      (some (call, next)) := by
  have undue : session.receiver.due (some (call, next)) = none := by
    cases next <;> first | rfl | cases reading
  refine ⟨orderly.alone.proceed next, orderly.running, orderly.taken, ?_, ?_⟩
  · intro payload due
    exact nomatch undue.symm.trans due
  · intro payload _
    by_cases same : payload = previous
    · exact same ▸ free
    · exact orderly.others payload (by simpa [Receiver.due, eq_comm] using same)

/-- A payload that is handed out is due, and the only one. -/
theorem Orderly.handedOut {data : Bytes} {link : SegmentLink}
    (orderly : session.Orderly (some (call, phase))) (reading : phase.deadline? = none) :
    Orderly { session with
      link
      receiver := { session.receiver with
        running := false
        outstanding := some session.receiver.holds.length
        holds := session.receiver.holds ++ [({} : Hold)] }
      calls := session.calls.set call
        (.finished (.ok ⟨data, session.receiver.holds.length⟩)) } none := by
  have undue : session.receiver.due (some (call, phase)) = none := by
    cases phase <;> first | rfl | cases reading
  refine ⟨orderly.alone.finish _, rfl, by simp, ?_, ?_⟩
  · intro payload due
    simp only [Receiver.due, Option.some.injEq] at due
    simp only [List.length_append, List.length_singleton, due]
  · intro payload due
    have older := orderly.allFree undue payload
    simp only [Receiver.due, ne_eq, Option.some.injEq] at due
    simp only [Receiver.isFree, List.getElem?_append] at older ⊢
    split
    · exact older
    · rename_i beyond
      have later : payload - session.receiver.holds.length ≠ 0 := by omega
      simp [later]

/-- Each turn leaves at most one reception under way, and what is due with it or with the receiver. -/
theorem Turn.inOrder (turn : Turn session seen after) (ordered : session.InOrder) :
    after.InOrder := by
  obtain ⟨reader, orderly⟩ := ordered
  cases turn with
  | refused busy =>
      exact ⟨reader, orderly.alone.refuse _, orderly.running, orderly.taken, orderly.newest,
        orderly.others⟩
  | waits idle owed =>
      obtain rfl := orderly.idle idle
      refine ⟨_, orderly.alone.admit _, rfl, fun _ => rfl, ?_, ?_⟩
      · intro payload due
        exact orderly.newest payload (owed.trans due)
      · intro payload due
        exact orderly.others payload (fun same => due (owed.symm.trans same))
  | starts idle owed =>
      obtain rfl := orderly.idle idle
      refine ⟨_, orderly.alone.admit _, rfl, fun _ => owed, ?_, ?_⟩
      · intro payload due
        simp [Receiver.due] at due
      · intro payload _
        exact orderly.allFree owed payload
  | freed own free =>
      obtain rfl := orderly.reader_eq own
      exact ⟨_, orderly.freed free rfl⟩
  | timedOut own held late =>
      obtain rfl := orderly.reader_eq own
      exact ⟨none, orderly.alone.finish _, rfl, by simp, orderly.newest, orderly.others⟩
  | opened own ready | gathered own ready =>
      obtain rfl := orderly.reader_eq own
      exact ⟨_, orderly.alone.proceed _, orderly.running, orderly.taken, orderly.newest,
        orderly.others⟩
  | closed own | failed own =>
      obtain rfl := orderly.reader_eq own
      exact ⟨none, orderly.failed rfl⟩
  | handedOut own ready =>
      obtain rfl := orderly.reader_eq own
      exact ⟨none, orderly.handedOut rfl⟩
  | elsewhere now link =>
      exact ⟨reader, orderly.alone, orderly.running, orderly.taken, orderly.newest, orderly.others⟩
  | used usage held => exact ⟨reader, orderly.used usage held⟩

/-- The payloads that were handed out, in order. -/
def handed (sights : List Sight) : List InboundPayload := sights.filterMap Sight.payload?

/-- Payloads are numbered in the order in which they were handed out. -/
def Numbered (sights : List Sight) (session : ReceptionSession) : Prop :=
  (handed sights).map InboundPayload.hold = List.range session.receiver.holds.length

theorem Turn.numbered {sights : List Sight} (turn : Turn session seen after)
    (numbered : Numbered sights session) : Numbered (sights ++ seen.toList) after := by
  have unchanged : handed seen.toList = [] →
      after.receiver.holds.length = session.receiver.holds.length →
      Numbered (sights ++ seen.toList) after := by
    intro nothing same
    simp only [handed] at nothing
    simp only [Numbered, handed, List.filterMap_append, nothing, List.append_nil, same]
    exact numbered
  cases turn with
  | handedOut =>
      simp only [Numbered, handed] at numbered
      simp only [Numbered, handed, List.filterMap_append, List.map_append, numbered,
        List.length_append, List.length_singleton, List.range_succ]
      rfl
  | used usage held => exact unchanged rfl (by simp only [Receiver.modify, List.length_modify])
  | _ => exact unchanged rfl rfl

theorem Numbered.newest {sights : List Sight} (numbered : Numbered sights session)
    (newest : payload + 1 = session.receiver.holds.length) :
    ∃ last, (handed sights).getLast? = some last ∧ last.hold = payload := by
  have final : ((handed sights).map InboundPayload.hold).getLast? = some payload := by
    rw [numbered, ← newest, List.range_succ, List.getLast?_append]
    rfl
  rwa [List.getLast?_map, Option.map_eq_some_iff] at final

/-- The hold of a payload, after what was done with its token. -/
def Accounted (payload : Nat) (sights : List Sight) (session : ReceptionSession) : Prop :=
  ∃ hold, session.receiver.holds[payload]? = some hold ∧
    (hold.released = true → .used payload .release ∈ sights) ∧
    hold.holders + sights.count (.used payload .drop) = sights.count (.used payload .share) + 1

theorem Turn.accounted {sights : List Sight} (turn : Turn session seen after)
    (accounted : Accounted payload sights session) :
    Accounted payload (sights ++ seen.toList) after := by
  obtain ⟨hold, found, released, holders⟩ := accounted
  have unchanged : (∀ usage, .used payload usage ∉ seen.toList) →
      after.receiver.holds[payload]? = some hold →
      Accounted payload (sights ++ seen.toList) after := by
    intro unused same
    refine ⟨hold, same, fun freed => List.mem_append_left _ (released freed), ?_⟩
    rw [List.count_append, List.count_append, List.count_eq_zero.mpr (unused .drop),
      List.count_eq_zero.mpr (unused .share)]
    exact holders
  cases turn with
  | handedOut =>
      apply unchanged
      · simp
      · rw [List.getElem?_append_left (List.getElem?_eq_some_iff.mp found).1]
        exact found
  | @used other usage held =>
      by_cases same : other = payload
      · subst same
        simp only [isHeld, found, Option.any_some, bne_iff_ne, ne_eq] at held
        refine ⟨usage.change hold, ?_, ?_, ?_⟩
        · simp [Receiver.modify, found]
        · intro freed
          cases usage with
          | release => simp
          | share | drop => exact List.mem_append_left _ (released freed)
        · cases usage <;>
            simp [TokenUse.change, Hold.share, Hold.release, Hold.drop, List.count_append] <;> omega
      · apply unchanged
        · simp [Ne.symm same]
        · simp only [Receiver.modify, List.getElem?_modify, if_neg same, found]
          rfl
  | _ => exact unchanged (by simp) found

/-- Some holder of a payload released it, or all of them dropped it. -/
def Consumed (payload : Nat) (sights : List Sight) : Prop :=
  .used payload .release ∈ sights ∨
    sights.count (.used payload .drop) = sights.count (.used payload .share) + 1

instance (payload : Nat) (sights : List Sight) : Decidable (Consumed payload sights) :=
  inferInstanceAs (Decidable (_ ∨ _))

theorem Accounted.consumed {sights : List Sight} (accounted : Accounted payload sights session)
    (free : session.receiver.isFree payload = true) : Consumed payload sights := by
  obtain ⟨hold, found, released, holders⟩ := accounted
  simp only [Receiver.isFree, found, Option.all_some, Hold.isFree, Bool.or_eq_true,
    beq_iff_eq] at free
  cases free with
  | inl freed => exact .inl (released freed)
  | inr dropped =>
      rw [dropped, Nat.zero_add] at holders
      exact .inr holders

end ReceptionSession

end CameraBridge
