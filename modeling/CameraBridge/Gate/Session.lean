import CameraBridge.Gate.Basic

/-!
Write gates on a clock, with any number of calls that wait for acknowledgements.
-/

namespace CameraBridge

structure AckCall where
  channel : Channel
  wait : AckWait

/-- Gates, the time and all waits so far. -/
structure GateSession where
  now : Time := 0
  gates : WriteGates := {}
  calls : List (Call AckCall AckOutcome) := []

namespace GateSession

def onGates (change : WriteGates → WriteGates) (session : GateSession) : GateSession :=
  { session with gates := change session.gates }

/-- Begins to wait on a channel, as the call with the next number. -/
def waitAck (channel : Channel) (timeout : Time) (session : GateSession) : GateSession :=
  { session with
    gates := session.gates.modify channel (Gate.enqueue session.calls.length)
    calls := session.calls ++ [.running ⟨channel, .timed (session.now + timeout)⟩] }

def stepCall (number : Nat) (session : GateSession) : Option GateSession :=
  match session.calls[number]? with
  | some (.running call) =>
      match session.gates.stepWait session.now number call.channel call.wait with
      | none => none
      | some (gates, .inl wait) =>
          some { session with gates, calls := session.calls.set number (.running { call with wait }) }
      | some (gates, .inr outcome) =>
          some { session with gates, calls := session.calls.set number (.finished outcome) }
  | _ => none

def deadlines (session : GateSession) : List Time :=
  session.calls.filterMap fun
    | .running call => call.wait.deadline?
    | .finished _ => none

def system : System GateSession where
  tasks session := (List.range session.calls.length).map stepCall
  now session := session.now
  setNow now session := { session with now }
  deadlines := deadlines

end GateSession

end CameraBridge
