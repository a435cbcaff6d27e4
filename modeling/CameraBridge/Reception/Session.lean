import CameraBridge.Reception.Basic

/-!
A receiver and its link on a clock, with any number of receptions and payloads that are held.
-/

namespace CameraBridge

/-- A receiver, its link, the time and all receptions so far. -/
structure ReceptionSession where
  now : Time := 0
  link : SegmentLink := {}
  receiver : Receiver
  calls : List (Call ReceptionPhase (Except ReceptionError InboundPayload)) := []

namespace ReceptionSession

def onLink (change : SegmentLink → SegmentLink) (session : ReceptionSession) : ReceptionSession :=
  { session with link := change session.link }

/-- Begins a reception, as the call with the next number. -/
def receive (session : ReceptionSession) : ReceptionSession :=
  match session.receiver.begin session.now with
  | .ok (phase, receiver) => { session with receiver, calls := session.calls ++ [.running phase] }
  | .error cause => { session with calls := session.calls ++ [.finished (.error cause)] }

def isHeld (payload : Nat) (session : ReceptionSession) : Bool :=
  (session.receiver.holds[payload]?).any fun hold => hold.holders != 0

def release (payload : Nat) (session : ReceptionSession) : ReceptionSession :=
  if session.isHeld payload then
    { session with receiver := session.receiver.modify payload Hold.release }
  else session

def drop (payload : Nat) (session : ReceptionSession) : ReceptionSession :=
  { session with receiver := session.receiver.modify payload Hold.drop }

/-- For each payload whether it was released, as long as it is held. -/
def released (session : ReceptionSession) : List (Option Bool) :=
  session.receiver.holds.map fun hold => if hold.holders = 0 then none else some hold.released

def stepCall (number : Nat) (session : ReceptionSession) : Option ReceptionSession :=
  match session.calls[number]? with
  | some (.running phase) =>
      (session.receiver.step session.now session.link phase).map fun (link, receiver, progress) =>
        let call := match progress with
          | .going phase => .running phase
          | .finished result => .finished result
        { session with link, receiver, calls := session.calls.set number call }
  | _ => none

def deadlines (session : ReceptionSession) : List Time :=
  session.calls.filterMap fun
    | .running phase => phase.deadline?
    | .finished _ => none

def system : System ReceptionSession where
  tasks session := (List.range session.calls.length).map stepCall
  now session := session.now
  setNow now session := { session with now }
  deadlines := deadlines

end ReceptionSession

end CameraBridge
