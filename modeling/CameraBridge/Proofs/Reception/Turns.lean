import Mathlib.Control.Monad.Basic
import CameraBridge.Proofs.Reception.Transfers
import CameraBridge.Proofs.Trace
import CameraBridge.Reception.Session

namespace CameraBridge

/-! All that can happen to a receiver, in any order: receptions begin and move, time passes, the link
does as it pleases, and whoever holds a payload shares, releases or drops its token. Each is one turn,
and a turn shows one sight at most. -/

/-- The state of a call after a move of its reception. -/
def ReceptionProgress.call :
    ReceptionProgress → Call ReceptionPhase (Except ReceptionError InboundPayload)
  | .going phase => .running phase
  | .finished result => .finished result

namespace ReceptionSession

inductive TokenUse where
  /-- One more holder gets a clone. -/
  | share
  | release
  | drop
  deriving DecidableEq

def TokenUse.change : TokenUse → Hold → Hold
  | .share => Hold.share
  | .release => Hold.release
  | .drop => Hold.drop

def use (payload : Nat) (usage : TokenUse) (session : ReceptionSession) : ReceptionSession :=
  match usage with
  | .share => { session with receiver := session.receiver.modify payload Hold.share }
  | .release => session.release payload
  | .drop => session.drop payload

/-- One thing that can happen. -/
inductive Act where
  | receive
  | move (call : Nat)
  | pass (span : Time)
  /-- Segments and errors arrive and are lost, and the link is closed. -/
  | relink (link : SegmentLink)
  | use (payload : Nat) (usage : TokenUse)

/-- Nobody can use a token that no one holds. -/
def act (next : Act) (session : ReceptionSession) : Option ReceptionSession :=
  match next with
  | .receive => some session.receive
  | .move call => session.stepCall call
  | .pass span => some { session with now := session.now + span }
  | .relink link => some { session with link }
  | .use payload usage =>
      if session.isHeld payload then some (session.use payload usage) else none

/-- What is seen of one act. -/
inductive Sight where
  /-- A reception was called for: refused at once, or begun and perhaps waiting until a deadline. -/
  | called (call : Nat) (answer : Except ReceptionError (Option Time))
  /-- A call took what the link had next, and returned with it or goes on. -/
  | read (call : Nat) (result : Option (Except ReceptionError InboundPayload))
  /-- A call returned without taking anything from the link. -/
  | returned (call : Nat) (result : Except ReceptionError InboundPayload)
  | used (payload : Nat) (usage : TokenUse)
  deriving DecidableEq

namespace Sight

/-- The call that returned, with its result. -/
def result? : Sight → Option (Nat × Except ReceptionError InboundPayload)
  | .called call (.error cause) => some (call, .error cause)
  | .read call (some result) => some (call, result)
  | .returned call result => some (call, result)
  | _ => none

def payload? (sight : Sight) : Option InboundPayload :=
  match sight.result? with
  | some (_, .ok payload) => some payload
  | _ => none

def reads : Sight → Bool
  | .read _ _ => true
  | _ => false

def calls : Sight → Bool
  | .called _ _ => true
  | _ => false

end Sight

def sight? (next : Act) (before after : ReceptionSession) : Option Sight :=
  match next with
  | .receive =>
      match after.calls[before.calls.length]? with
      | some (.running phase) => some (.called before.calls.length (.ok phase.deadline?))
      | some (.finished (.error cause)) => some (.called before.calls.length (.error cause))
      | _ => none
  | .move call =>
      let result := after.calls[call]?.bind Call.result?
      if after.link.incoming.length < before.link.incoming.length then some (.read call result)
      else result.map (.returned call)
  | .use payload usage => some (.used payload usage)
  | .pass _ | .relink _ => none

/-- What a turn does and what is seen of it. -/
inductive Turn (session : ReceptionSession) : Option Sight → ReceptionSession → Prop where
  | refused (busy : session.receiver.running = true) :
      Turn session (some (.called session.calls.length (.error .busy)))
        { session with calls := session.calls ++ [.finished (.error .busy)] }
  | waits {previous : Nat} (idle : session.receiver.running = false)
      (owed : session.receiver.outstanding = some previous) :
      Turn session
        (some (.called session.calls.length (.ok (some (session.now + session.receiver.permitTimeout)))))
        { session with
          receiver := { session.receiver with running := true, outstanding := none }
          calls := session.calls ++
            [.running (.waiting (session.now + session.receiver.permitTimeout) previous)] }
  | starts (idle : session.receiver.running = false)
      (owed : session.receiver.outstanding = none) :
      Turn session (some (.called session.calls.length (.ok none)))
        { session with
          receiver := { session.receiver with running := true }
          calls := session.calls ++ [.running (.opening none)] }
  | freed {call previous : Nat} {deadline : Time}
      (own : session.calls[call]? = some (.running (.waiting deadline previous)))
      (free : session.receiver.isFree previous = true) :
      Turn session none { session with calls := session.calls.set call (.running (.opening none)) }
  | timedOut {call previous : Nat} {deadline : Time}
      (own : session.calls[call]? = some (.running (.waiting deadline previous)))
      (held : session.receiver.isFree previous = false) (late : deadline ≤ session.now) :
      Turn session (some (.returned call (.error .busy)))
        { session with
          receiver := { session.receiver with running := false, outstanding := some previous }
          calls := session.calls.set call (.finished (.error .busy)) }
  | opened {call : Nat} {gathered : Option Gathering}
      (own : session.calls[call]? = some (.running (.opening gathered)))
      (ready : session.link.closed = false) :
      Turn session none
        { session with calls := session.calls.set call (.running (.reading gathered)) }
  | closed {call : Nat} {gathered : Option Gathering}
      (own : session.calls[call]? = some (.running (.opening gathered)))
      (shut : session.link.closed = true) :
      Turn session (some (.returned call (.error (.link .connectionClosed))))
        { session with
          receiver := { session.receiver with running := false }
          calls := session.calls.set call (.finished (.error (.link .connectionClosed))) }
  | gathered {call : Nat} {gathered : Option Gathering} {gathering : Gathering}
      {item : Except LinkError Segment} {rest : List (Except LinkError Segment)}
      (own : session.calls[call]? = some (.running (.reading gathered)))
      (ready : session.link.incoming = item :: rest) :
      Turn session (some (.read call none))
        { session with
          link := { session.link with incoming := rest }
          calls := session.calls.set call (.running (.opening (some gathering))) }
  | failed {call : Nat} {gathered : Option Gathering} {cause : ReceptionError}
      {item : Except LinkError Segment} {rest : List (Except LinkError Segment)}
      (own : session.calls[call]? = some (.running (.reading gathered)))
      (ready : session.link.incoming = item :: rest) (other : cause ≠ .busy) :
      Turn session (some (.read call (some (.error cause))))
        { session with
          link := { session.link with incoming := rest }
          receiver := { session.receiver with running := false }
          calls := session.calls.set call (.finished (.error cause)) }
  | handedOut {call : Nat} {gathered : Option Gathering} {data : Bytes}
      {item : Except LinkError Segment} {rest : List (Except LinkError Segment)}
      (own : session.calls[call]? = some (.running (.reading gathered)))
      (ready : session.link.incoming = item :: rest) :
      Turn session (some (.read call (some (.ok ⟨data, session.receiver.holds.length⟩))))
        { session with
          link := { session.link with incoming := rest }
          receiver := { session.receiver with
            running := false
            outstanding := some session.receiver.holds.length
            holds := session.receiver.holds ++ [({} : Hold)] }
          calls := session.calls.set call
            (.finished (.ok ⟨data, session.receiver.holds.length⟩)) }
  | elsewhere (now : Time) (link : SegmentLink) : Turn session none { session with now, link }
  | used {payload : Nat} (usage : TokenUse) (held : session.isHeld payload = true) :
      Turn session (some (.used payload usage))
        { session with receiver := session.receiver.modify payload usage.change }

variable {session before after : ReceptionSession} {call : Nat}

theorem receive_turn : Turn session (sight? .receive session session.receive) session.receive := by
  cases running : session.receiver.running with
  | true =>
      have stays : session.receive =
          { session with calls := session.calls ++ [.finished (.error .busy)] } := by
        simp [receive, Receiver.begin, running]
      rw [stays]
      simpa [sight?] using Turn.refused running
  | false =>
      cases owed : session.receiver.outstanding with
      | none =>
          have begun : session.receive =
              { session with
                receiver := { session.receiver with running := true }
                calls := session.calls ++ [.running (.opening none)] } := by
            simp [receive, Receiver.begin, running, owed]
          rw [begun]
          simpa [sight?, ReceptionPhase.deadline?] using Turn.starts running owed
      | some previous =>
          have begun : session.receive =
              { session with
                receiver := { session.receiver with running := true, outstanding := none }
                calls := session.calls ++
                  [.running (.waiting (session.now + session.receiver.permitTimeout) previous)] } := by
            simp [receive, Receiver.begin, running, owed]
          rw [begun]
          simpa [sight?, ReceptionPhase.deadline?] using Turn.waits running owed

theorem lt_length_of_running {phase : ReceptionPhase}
    (own : session.calls[call]? = some (.running phase)) : call < session.calls.length :=
  (List.getElem?_eq_some_iff.mp own).1

/-- A call that moves is under way, and its reception takes a step. -/
theorem stepCall_invert (moved : session.stepCall call = some after) :
    ∃ phase link receiver progress, session.calls[call]? = some (.running phase) ∧
      session.receiver.step session.now session.link phase = some (link, receiver, progress) ∧
      after = { session with link, receiver, calls := session.calls.set call progress.call } := by
  cases own : session.calls[call]? with
  | none => simp [stepCall, own] at moved
  | some state =>
      cases state with
      | finished result => simp [stepCall, own] at moved
      | running phase =>
          simp only [stepCall, own, Option.map_eq_some_iff, Prod.exists] at moved
          obtain ⟨link, receiver, progress, stepped, rfl⟩ := moved
          exact ⟨phase, link, receiver, progress, rfl, stepped, rfl⟩

theorem stepCall_turn (moved : session.stepCall call = some after) :
    Turn session (sight? (.move call) session after) after := by
  obtain ⟨phase, link, receiver, progress, own, stepped, rfl⟩ := stepCall_invert moved
  have bound := lt_length_of_running own
  cases phase with
  | waiting deadline previous =>
      obtain ⟨rfl, ⟨free, rfl, rfl⟩ | ⟨held, late, failed⟩⟩ := waiting_moved stepped
      · simpa [sight?, bound, Call.result?, ReceptionProgress.call] using Turn.freed own free
      · cases failed
        simpa [sight?, bound, Call.result?, ReceptionProgress.call] using Turn.timedOut own held late
  | opening gathered =>
      obtain ⟨rfl, ⟨shut, failed⟩ | ⟨goesOn, rfl, rfl⟩⟩ := opening_moved stepped
      · cases failed
        simpa [sight?, bound, Call.result?, ReceptionProgress.call] using Turn.closed own shut
      · simpa [sight?, bound, Call.result?, ReceptionProgress.call] using Turn.opened own goesOn
  | reading gathered =>
      obtain ⟨item, rest, ready, rfl, read⟩ := reading_read stepped
      generalize shape : (receiver, progress) = pair at read
      cases read with
      | more left incomplete =>
          cases shape
          simpa [sight?, bound, Call.result?, ReceptionProgress.call, ready] using
            Turn.gathered own ready
      | failure left incomplete other =>
          cases shape
          simpa [sight?, bound, Call.result?, ReceptionProgress.call, ready] using
            Turn.failed own ready other
      | whole left complete =>
          cases shape
          simpa [sight?, bound, Call.result?, ReceptionProgress.call, ready] using
            Turn.handedOut own ready

/-- Using a token that is held changes its hold and nothing else. -/
theorem use_eq {payload : Nat} (usage : TokenUse) (held : session.isHeld payload = true) :
    session.use payload usage =
      { session with receiver := session.receiver.modify payload usage.change } := by
  cases usage with
  | share => rfl
  | release => simp only [use, release, held, if_true, TokenUse.change]
  | drop => rfl

/-- Only a token that is held can be used. -/
theorem use_invert {payload : Nat} {usage : TokenUse}
    (used : session.act (.use payload usage) = some after) :
    session.isHeld payload = true ∧
      after = { session with receiver := session.receiver.modify payload usage.change } := by
  cases held : session.isHeld payload with
  | false => simp [act, held] at used
  | true =>
      simp only [act, held, if_true, Option.some.injEq] at used
      exact ⟨rfl, used.symm.trans (use_eq usage held)⟩

theorem act_turn {next : Act} (acted : session.act next = some after) :
    Turn session (sight? next session after) after := by
  cases next with
  | receive =>
      cases acted
      exact receive_turn
  | move call => exact stepCall_turn acted
  | pass span =>
      cases acted
      exact .elsewhere _ _
  | relink link =>
      cases acted
      exact .elsewhere _ _
  | use payload usage =>
      obtain ⟨held, rfl⟩ := use_invert acted
      exact .used usage held

end ReceptionSession

end CameraBridge
