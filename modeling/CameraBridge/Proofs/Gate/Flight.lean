import CameraBridge.Proofs.Gate.Access

namespace CameraBridge

/-! One writer at the gate of a channel. It repeats a cycle: it begins a write, and the link's write
may take any time; a refused write is cancelled, one that went out is waited for with any timeout.
The handler of the camera's events completes writes and resets all gates whenever it likes, and may
be interrupted between the halves of a completion. -/

/-- Where the writer stands in its cycle. -/
inductive FlightStage where
  | idle
  | writing
  /-- It waits for the acknowledgement, as a call of the session. -/
  | waiting (call : Nat)
  deriving DecidableEq

structure Flight where
  session : GateSession := {}
  stage : FlightStage := .idle
  /-- The channel whose completion the handler is in the middle of. -/
  halfway : Option Channel := none

inductive FlightEvent where
  /-- A write began; it was granted if nothing was pending. -/
  | began (granted : Bool)
  /-- A completion found the write pending, and is over. -/
  | completed
  /-- A write that never went out was cancelled; it was pending until then, or not. -/
  | cancelled (pending : Bool)
  /-- The wait for an acknowledgement returned, and left the channel pending or not. -/
  | returned (outcome : AckOutcome) (pending : Bool)
  deriving DecidableEq

inductive FlightMove where
  | begin
  | refuse
  | accept (timeout : Time)
  | poll
  | complete (target : Channel)
  | reset
  | clear (target : Channel)
  | notify
  | subscribe (target : Channel) (on : Bool)
  | pass (span : Time)
  deriving DecidableEq

namespace Flight

def onGates (change : WriteGates → WriteGates) (flight : Flight) : Flight :=
  { flight with session := flight.session.onGates change }

def isPending (channel : Channel) (flight : Flight) : Bool :=
  flight.session.gates.isPending channel

def completion (relevant : Bool) : List FlightEvent :=
  if relevant then [.completed] else []

/-- A move of the writer of a channel, of the handler or of the clock, if it is possible. The handler
does one thing at a time. -/
def move (channel : Channel) (flight : Flight) : FlightMove → Option (List FlightEvent × Flight)
  | .begin =>
      if flight.stage = .idle then
        some ([.began (flight.session.gates.canBegin channel)],
          { flight.onGates (·.begin channel) with stage := .writing })
      else none
  | .refuse =>
      if flight.stage = .writing then
        some ([.cancelled (flight.isPending channel)],
          { flight.onGates (·.cancel channel) with stage := .idle })
      else none
  | .accept timeout =>
      if flight.stage = .writing then
        some ([], { flight with
          session := flight.session.waitAck channel timeout
          stage := .waiting flight.session.calls.length })
      else none
  | .poll =>
      match flight.stage with
      | .waiting call =>
          match flight.session.stepCall call with
          | none => none
          | some session =>
              match session.calls[call]? with
              | some (.finished outcome) =>
                  some ([.returned outcome (session.gates.isPending channel)],
                    { flight with session, stage := .idle })
              | _ => some ([], { flight with session })
      | _ => none
  | .complete target =>
      if flight.halfway = none then
        some (completion (target = channel && flight.isPending channel),
          flight.onGates (·.complete target))
      else none
  | .reset =>
      if flight.halfway = none then
        some (completion (flight.isPending channel), flight.onGates (·.reset))
      else none
  | .clear target =>
      if flight.halfway = none then
        if flight.isPending target then
          some ([], { flight.onGates (·.modify target Gate.clear) with halfway := some target })
        else some ([], flight)
      else none
  | .notify =>
      match flight.halfway with
      | some target =>
          some (completion (target = channel),
            { flight.onGates (·.modify target Gate.notify) with halfway := none })
      | none => none
  | .subscribe target on =>
      if flight.halfway = none then some ([], flight.onGates (·.setSubscribed target on)) else none
  | .pass span =>
      some ([], { flight with session := { flight.session with now := flight.session.now + span } })

def run (channel : Channel) (flight : Flight) : List FlightMove → Option (List FlightEvent × Flight)
  | [] => some ([], flight)
  | next :: rest =>
      match flight.move channel next with
      | none => none
      | some (seen, after) =>
          match after.run channel rest with
          | none => none
          | some (events, last) => some (seen ++ events, last)

theorem run_cons_invert {channel : Channel} {flight last : Flight} {next : FlightMove}
    {rest : List FlightMove} {events : List FlightEvent}
    (ran : flight.run channel (next :: rest) = some (events, last)) :
    ∃ seen after later, flight.move channel next = some (seen, after) ∧
      after.run channel rest = some (later, last) ∧ events = seen ++ later := by
  cases moved : flight.move channel next with
  | none => simp [run, moved] at ran
  | some pair =>
      obtain ⟨seen, after⟩ := pair
      cases remaining : after.run channel rest with
      | none => simp [run, moved, remaining] at ran
      | some pair =>
          obtain ⟨later, final⟩ := pair
          simp only [run, moved, remaining, Option.some.injEq, Prod.mk.injEq] at ran
          obtain ⟨rfl, rfl⟩ := ran
          exact ⟨seen, after, later, rfl, remaining, rfl⟩

theorem run_append {channel : Channel} {flight middle last : Flight}
    {earlier later : List FlightMove} {before after : List FlightEvent}
    (first : flight.run channel earlier = some (before, middle))
    (second : middle.run channel later = some (after, last)) :
    flight.run channel (earlier ++ later) = some (before ++ after, last) := by
  induction earlier generalizing flight before with
  | nil =>
      cases first
      exact second
  | cons next rest ih =>
      obtain ⟨seen, between, others, moved, remaining, rfl⟩ := run_cons_invert first
      simp only [List.cons_append, run, moved, ih remaining, List.append_assoc]

end Flight

end CameraBridge
