import CameraBridge.Proofs.Reception.Calls

namespace CameraBridge.ReceptionSession

/-! A reception reads nothing before the payload handed out last is consumed. One that is turned away
takes nothing and loses nothing, and one that fails leaves nothing to wait for. -/

variable {session middle between after last : ReceptionSession} {seen : Option Sight} {reader : Reader}
  {call : Nat} {sights : List Sight} {acts : List Act}

/-- A receiver that has received nothing so far. -/
def start (permitTimeout : Time) : ReceptionSession := { receiver := { permitTimeout } }

/-- What a run keeps: the order of receptions, the numbers of payloads and the record of calls. -/
structure Kept (sights : List Sight) (session : ReceptionSession) : Prop where
  ordered : session.InOrder
  numbered : Numbered sights session
  recorded : Recorded sights session

theorem start_kept (permitTimeout : Time) : Kept [] (start permitTimeout) := by
  refine ⟨⟨none, ?_⟩, rfl, ?_⟩
  · refine ⟨?_, rfl, fun _ => rfl, ?_, ?_⟩
    · intro call phase
      simp [start]
    · intro payload due
      simp [Receiver.due, start] at due
    · intro payload _
      rfl
  · refine ⟨by simp, by simp, ?_⟩
    intro call deadline previous waits
    simp [start] at waits

theorem Turn.kept (turn : Turn session seen after) (kept : Kept sights session) :
    Kept (sights ++ seen.toList) after := by
  exact ⟨turn.inOrder kept.ordered, turn.numbered kept.numbered, turn.recorded kept.recorded⟩

theorem trace_kept {permitTimeout : Time}
    (traced : trace act sight? (start permitTimeout) acts = some (sights, last)) :
    Kept sights last :=
  trace_history (fun _ _ _ _ kept acted => (act_turn acted).kept kept) (start_kept permitTimeout)
    traced

theorem trace_inOrder (ordered : session.InOrder)
    (traced : trace act sight? session acts = some (sights, last)) : last.InOrder := by
  refine trace_invariant ?_ ordered traced
  intro next before after orderly acted
  exact (act_turn acted).inOrder orderly

/-- Whoever reads finds every payload free. -/
theorem Turn.free_of_reads {sight : Sight} (turn : Turn session (some sight) after)
    (orderly : session.Orderly reader) (reads : sight.reads = true) (payload : Nat) :
    session.receiver.isFree payload = true := by
  cases turn with
  | gathered own | failed own | handedOut own =>
      obtain rfl := orderly.reader_eq own
      exact orderly.allFree rfl payload
  | _ => cases reads

theorem reads_of_payload {sight : Sight} {payload : InboundPayload}
    (turn : Turn session (some sight) after) (handed : sight.payload? = some payload) :
    sight.reads = true ∧ after.receiver.holds[payload.hold]? = some {} := by
  cases turn with
  | handedOut =>
      cases handed
      simp [Sight.reads]
  | _ => cases handed

/-- From when a payload was handed out until something more is read, it is consumed. -/
theorem consumed_between {payload : Nat} {rest : List Act} {sight : Sight}
    {later : List Sight} (ordered : session.InOrder)
    (fresh : session.receiver.holds[payload]? = some {})
    (traced : trace act sight? session rest = some (sights ++ sight :: later, last))
    (reads : sight.reads = true ∨ ∃ other, sight.payload? = some other) :
    Consumed payload sights := by
  obtain ⟨earlier, next, remaining, middle, between, -, reached, acted, shown, -⟩ :=
    trace_split traced
  have untouched : Accounted payload [] session := ⟨{}, fresh, by simp, by simp⟩
  have accounted : Accounted payload sights middle :=
    trace_history (fun _ _ _ _ accounted acted => (act_turn acted).accounted accounted) untouched
      reached
  obtain ⟨reader, orderly⟩ := trace_inOrder ordered reached
  have turn := act_turn acted
  rw [shown] at turn
  have takes : sight.reads = true :=
    reads.elim id fun ⟨_, handed⟩ => (reads_of_payload turn handed).1
  exact accounted.consumed (turn.free_of_reads orderly takes payload)

/-- How a call comes to return busy. -/
inductive TurnedAway (call : Nat) (sights : List Sight) (session : ReceptionSession) :
    ReceptionSession → Prop where
  /-- Another reception is under way, and all but the answer stays as it is. -/
  | atOnce {other : Nat} {phase : ReceptionPhase}
      (running : session.calls[other]? = some (.running phase)) :
      TurnedAway call sights session
        { session with calls := session.calls ++ [.finished (.error .busy)] }
  /-- Its patience is over; the payload handed out last is still held and is due as before. -/
  | tooLate {deadline : Time} {payload : InboundPayload}
      (awaited : .called call (.ok (some deadline)) ∈ sights) (late : deadline ≤ session.now)
      (newest : (handed sights).getLast? = some payload)
      (held : session.receiver.isFree payload.hold = false) :
      TurnedAway call sights session
        { session with
          receiver := { session.receiver with running := false, outstanding := some payload.hold }
          calls := session.calls.set call (.finished (.error .busy)) }

theorem Turn.turnedAway {sight : Sight} (turn : Turn session (some sight) after)
    (kept : Kept sights session) (busy : sight.result? = some (call, .error .busy)) :
    TurnedAway call sights session after := by
  obtain ⟨reader, orderly⟩ := kept.ordered
  cases turn with
  | refused running =>
      have underWay := orderly.running
      rw [running] at underWay
      obtain ⟨⟨other, phase⟩, rfl⟩ := Option.isSome_iff_exists.mp underWay.symm
      exact .atOnce ((orderly.alone other phase).mpr rfl)
  | @timedOut own previous deadline running held late =>
      cases busy
      obtain rfl := orderly.reader_eq running
      obtain ⟨payload, newest, rfl⟩ := kept.numbered.newest (orderly.newest previous rfl)
      exact .tooLate (kept.recorded.awaited call deadline _ running) late newest held
  | failed own ready other =>
      cases busy
      exact absurd rfl other
  | _ => cases busy

/-- No reception is under way and none has to wait. -/
def Resting (session : ReceptionSession) : Prop :=
  session.Orderly none ∧ session.receiver.outstanding = none

theorem Turn.rests {sight : Sight} {cause : ReceptionError} (turn : Turn session (some sight) after)
    (orderly : session.Orderly reader) (failed : sight.result? = some (call, .error cause))
    (other : cause ≠ .busy) : after.Resting := by
  cases turn with
  | closed own | failed own =>
      obtain rfl := orderly.reader_eq own
      exact ⟨orderly.failed rfl, orderly.taken rfl⟩
  | refused | timedOut =>
      cases failed
      exact absurd rfl other
  | _ => cases failed

/-- A receiver at rest stays so until it is called, and that call does not wait. -/
theorem Turn.resting (turn : Turn session seen after) (resting : session.Resting) :
    (∃ call, seen = some (.called call (.ok none))) ∨
      after.Resting ∧ ∀ sight, seen = some sight → sight.calls = false := by
  obtain ⟨orderly, emptied⟩ := resting
  have idle := orderly.running
  cases turn with
  | refused busy =>
      rw [busy] at idle
      cases idle
  | waits _ owed =>
      rw [owed] at emptied
      cases emptied
  | starts => exact .inl ⟨_, rfl⟩
  | elsewhere =>
      refine .inr ⟨⟨⟨orderly.alone, idle, orderly.taken, orderly.newest, orderly.others⟩, emptied⟩, ?_⟩
      simp
  | used usage held =>
      refine .inr ⟨⟨orderly.used usage held, emptied⟩, ?_⟩
      intro _ shown
      cases shown
      rfl
  | _ own =>
      -- no call is under way
      exact absurd (orderly.reader_eq own) (by simp)

theorem trace_resting (resting : session.Resting) (quiet : ∀ sight ∈ sights, sight.calls = false)
    (traced : trace act sight? session acts = some (sights, last)) : last.Resting := by
  induction acts generalizing session sights with
  | nil =>
      cases traced
      exact resting
  | cons next rest ih =>
      obtain ⟨after, later, acted, remaining, rfl⟩ := trace_cons_invert traced
      rw [List.forall_mem_append] at quiet
      obtain ⟨call, begun⟩ | ⟨still, -⟩ := (act_turn acted).resting resting
      · rw [begun] at quiet
        cases quiet.1 (.called call (.ok none)) (by simp)
      · exact ih still quiet.2 remaining

/-- The first call after a receiver came to rest does not wait. -/
theorem next_call_reads {pause rest : List Sight} {answer : Except ReceptionError (Option Time)}
    (resting : session.Resting) (quiet : ∀ sight ∈ pause, sight.calls = false)
    (traced : trace act sight? session acts = some (pause ++ .called call answer :: rest, last)) :
    answer = .ok none := by
  obtain ⟨earlier, next, later, middle, between, -, reached, acted, shown, -⟩ := trace_split traced
  have turn := act_turn acted
  rw [shown] at turn
  obtain ⟨_, begun⟩ | ⟨-, silent⟩ := turn.resting (trace_resting resting quiet reached)
  · cases begun
    rfl
  · cases silent _ rfl

section Run

variable {permitTimeout : Time} {before later : List Sight} {sight : Sight}

theorem payload_consumed {payload : InboundPayload} {between : List Sight} {second : Sight}
    (traced : trace act sight? (start permitTimeout) acts =
      some (before ++ sight :: between ++ second :: later, last))
    (handed : sight.payload? = some payload)
    (reads : second.reads = true ∨ ∃ other, second.payload? = some other) :
    Consumed payload.hold between := by
  rw [List.append_assoc, List.cons_append] at traced
  obtain ⟨earlier, next, rest, middle, beyond, -, reached, acted, shown, remaining⟩ :=
    trace_split traced
  have turn := act_turn acted
  rw [shown] at turn
  have ordered := turn.inOrder (trace_kept reached).ordered
  exact consumed_between ordered (reads_of_payload turn handed).2 remaining reads

theorem busy_turnedAway
    (traced : trace act sight? (start permitTimeout) acts = some (before ++ sight :: later, last))
    (busy : sight.result? = some (call, .error .busy)) :
    ∃ earlier next rest middle between, acts = earlier ++ next :: rest ∧
      trace act sight? (start permitTimeout) earlier = some (before, middle) ∧
      middle.act next = some between ∧ TurnedAway call before middle between := by
  obtain ⟨earlier, next, rest, middle, between, rfl, reached, acted, shown, -⟩ :=
    trace_split traced
  have turn := act_turn acted
  rw [shown] at turn
  exact ⟨earlier, next, rest, middle, between, rfl, reached, acted,
    turn.turnedAway (trace_kept reached) busy⟩

theorem failed_rests {cause : ReceptionError}
    (traced : trace act sight? (start permitTimeout) acts = some (before ++ sight :: later, last))
    (failed : sight.result? = some (call, .error cause)) (other : cause ≠ .busy) :
    ∃ earlier rest between, acts = earlier ++ rest ∧
      trace act sight? (start permitTimeout) earlier = some (before ++ [sight], between) ∧
      trace act sight? between rest = some (later, last) ∧ between.Resting := by
  obtain ⟨earlier, next, rest, middle, between, rfl, reached, acted, shown, remaining⟩ :=
    trace_split traced
  obtain ⟨reader, orderly⟩ := (trace_kept reached).ordered
  have turn := act_turn acted
  rw [shown] at turn
  refine ⟨earlier ++ [next], rest, between, by simp, ?_, remaining,
    turn.rests orderly failed other⟩
  apply trace_append reached
  simp only [trace, acted, shown]
  rfl

end Run

/-- Between two payloads the first one is consumed, and before that nothing more is read. A call that
returns busy reads nothing, and what was due before it is due after it. After any other error nothing
is due, and the next call reads without waiting. -/
theorem reception_discipline {permitTimeout : Time}
    (traced : trace act sight? (start permitTimeout) acts = some (sights, last)) :
    (∀ before first payload between second after,
        sights = before ++ first :: between ++ second :: after → first.payload? = some payload →
        (second.reads = true ∨ ∃ other, second.payload? = some other) →
        Consumed payload.hold between) ∧
      (∀ before busy call after, sights = before ++ busy :: after →
        busy.result? = some (call, .error .busy) →
        (∀ result, .read call result ∉ sights) ∧
          ∃ earlier next later middle between, acts = earlier ++ next :: later ∧
            trace act sight? (start permitTimeout) earlier = some (before, middle) ∧
            middle.act next = some between ∧ TurnedAway call before middle between) ∧
      ∀ before failed call cause after, sights = before ++ failed :: after →
        failed.result? = some (call, .error cause) → cause ≠ .busy →
        (∃ earlier later between, acts = earlier ++ later ∧
          trace act sight? (start permitTimeout) earlier = some (before ++ [failed], between) ∧
          between.receiver.isOutstanding = false ∧ between.receiver.running = false) ∧
        ∀ pause next answer rest, after = pause ++ .called next answer :: rest →
          (∀ sight ∈ pause, sight.calls = false) →
          answer = .ok none ∧ ∀ sight ∈ rest, sight.result? ≠ some (next, .error .busy) := by
  have recorded := (trace_kept traced).recorded
  refine ⟨?_, ?_, ?_⟩
  · rintro before first payload between second after rfl handed reads
    exact payload_consumed traced handed reads
  · rintro before busy call after rfl returned
    refine ⟨?_, busy_turnedAway traced returned⟩
    intro result member
    exact recorded.busy (by simp) returned member (.inr ⟨result, rfl⟩)
  · rintro before failed call cause after rfl returned other
    obtain ⟨earlier, later, between, rfl, reached, remaining, resting⟩ :=
      failed_rests traced returned other
    refine ⟨⟨earlier, later, between, rfl, reached, ?_, resting.1.running⟩, ?_⟩
    · simp only [Receiver.isOutstanding, resting.2]
      rfl
    · rintro pause next answer rest rfl quiet
      have reads := next_call_reads resting quiet remaining
      subst reads
      refine ⟨rfl, ?_⟩
      intro sight member busy
      exact recorded.busy (by simp [member]) busy
        (by simp : Sight.called next (.ok none) ∈ _) (.inl rfl)

/-- Two payloads on the link, and one that is cut short between them. -/
def threeTransfers : SegmentLink :=
  { incoming := [.ok ⟨[1], 0⟩, .ok ⟨[2], 1⟩, .error (.receiveFailed "segment lost"), .ok ⟨[3], 0⟩] }

/-- Call 1 comes while call 0 reads, call 2 waits in vain for the release that call 3 finds, and call 4
follows on an error. -/
def fiveCalls : List Act :=
  [.relink threeTransfers, .receive, .receive, .move 0, .move 0,
    .receive, .pass 30, .move 2, .use 0 .share, .use 0 .release,
    .receive, .move 3, .move 3, .move 3, .move 3, .move 3, .receive, .move 4, .move 4]

def fiveAnswers : List Sight :=
  [.called 0 (.ok none), .called 1 (.error .busy), .read 0 (some (.ok ⟨[1], 0⟩)),
    .called 2 (.ok (some 30)), .returned 2 (.error .busy), .used 0 .share, .used 0 .release,
    .called 3 (.ok (some 60)), .read 3 none,
    .read 3 (some (.error (.link (.receiveFailed "segment lost")))), .called 4 (.ok none),
    .read 4 (some (.ok ⟨[3], 1⟩))]

theorem trace_fiveCalls :
    (trace act sight? (start 30) fiveCalls).map Prod.fst = some fiveAnswers := by
  decide +kernel

/-- The first payload is released before anything is read again, the calls that return busy read
nothing, and the call after the error does not wait. -/
theorem reception_discipline_of_five_calls : ∃ sights last,
    trace act sight? (start 30) fiveCalls = some (sights, last) ∧
      Consumed 0 ((fiveAnswers.drop 3).take 5) ∧
      (∀ call, call = 1 ∨ call = 2 → ∀ result, .read call result ∉ sights) ∧
      fiveAnswers.drop 10 = [.called 4 (.ok none), .read 4 (some (.ok ⟨[3], 1⟩))] ∧
      ∃ earlier between, trace act sight? (start 30) earlier = some (fiveAnswers.take 10, between) ∧
        between.receiver.isOutstanding = false := by
  obtain ⟨⟨sights, last⟩, traced, seen⟩ := Option.map_eq_some_iff.mp trace_fiveCalls
  simp only at seen
  subst seen
  obtain ⟨consumed, busy, failed⟩ := reception_discipline traced
  refine ⟨_, last, traced, ?_, ?_, rfl, ?_⟩
  · exact consumed (fiveAnswers.take 2) _ ⟨[1], 0⟩ _ _ (fiveAnswers.drop 9) rfl rfl (.inl rfl)
  · rintro call (rfl | rfl)
    · exact (busy (fiveAnswers.take 1) _ 1 (fiveAnswers.drop 2) rfl rfl).1
    · exact (busy (fiveAnswers.take 4) _ 2 (fiveAnswers.drop 5) rfl rfl).1
  · obtain ⟨⟨earlier, -, between, -, reached, free, -⟩, -⟩ :=
      failed (fiveAnswers.take 9) _ 3 _ (fiveAnswers.drop 10) rfl rfl (by simp)
    exact ⟨earlier, between, reached, free⟩

end CameraBridge.ReceptionSession
