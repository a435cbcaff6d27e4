import CameraBridge.Channel
import CameraBridge.Clock

/-!
Write gates, one for each channel of the camera, which takes one write at a time on a channel. A
write marks its channel pending; its completion clears the mark and wakes the writer. At most one
wake-up is kept for a writer that is not waiting yet, and waiting ones are woken in the order in
which they began to wait.

A completion is two halves, `Gate.clear` and `Gate.notify`, between which a writer may look at the
mark.
-/

namespace CameraBridge

/-- The gate of one channel. Waiting ones are known by a number of their own. -/
structure Gate where
  pending : Bool := false
  subscribed : Bool := false
  stored : Bool := false
  waiting : List Nat := []
  /-- Who was woken and has not yet gone on. -/
  woken : List Nat := []
  deriving DecidableEq

namespace Gate

def mark (gate : Gate) : Gate := { gate with pending := true }

/-- First half of a completion, and all of a cancellation: the mark goes. -/
def clear (gate : Gate) : Gate := { gate with pending := false }

/-- Second half of a completion: the first one waiting is woken, or the wake-up is stored. -/
def notify (gate : Gate) : Gate :=
  match gate.waiting with
  | [] => { gate with stored := true }
  | first :: rest => { gate with waiting := rest, woken := gate.woken ++ [first] }

def complete (gate : Gate) : Gate :=
  if gate.pending then gate.clear.notify else gate

/-- Begins to wait; a stored wake-up is taken at once. -/
def enqueue (waiter : Nat) (gate : Gate) : Gate :=
  if gate.stored then { gate with stored := false, woken := gate.woken ++ [waiter] }
  else { gate with waiting := gate.waiting ++ [waiter] }

def collect (waiter : Nat) (gate : Gate) : Gate :=
  { gate with woken := gate.woken.erase waiter }

def leave (waiter : Nat) (gate : Gate) : Gate :=
  { gate with waiting := gate.waiting.erase waiter }

def reset (gate : Gate) : Gate := { gate.complete with subscribed := false }

end Gate

inductive AckOutcome where
  | acked
  | timedOut
  | notApplicable
  deriving DecidableEq

/-- Where a wait for an acknowledgement stands. -/
inductive AckWait where
  | timed (deadline : Time)
  /-- The completion came as the time was up: its wake-up is still to be taken. -/
  | late
  deriving DecidableEq

namespace AckWait

/-- Goes on with a wait: it moves when its waiter was woken, which counts first, and when its time is
up. A write that is still pending then counts as timed out. -/
def step (now : Time) (waiter : Nat) (gate : Gate) : AckWait → Option (Gate × (AckWait ⊕ AckOutcome))
  | wait =>
      if waiter ∈ gate.woken then some (gate.collect waiter, .inr .acked)
      else match wait with
        | .late => none
        | .timed deadline =>
            if now < deadline then none
            else
              let left := gate.leave waiter
              if left.pending then some (left.clear, .inr .timedOut)
              else some (left.enqueue waiter, .inl .late)

def deadline? : AckWait → Option Time
  | .timed deadline => some deadline
  | .late => none

end AckWait

/-- The gates of all channels of the camera. -/
structure WriteGates where
  cmd : Gate := {}
  settings : Gate := {}
  query : Gate := {}
  net : Gate := {}
  deriving DecidableEq

namespace WriteGates

/-- The gate of a channel; the control channel has none. -/
def gate? (gates : WriteGates) : Channel → Option Gate
  | .cmd => some gates.cmd
  | .settings => some gates.settings
  | .query => some gates.query
  | .net => some gates.net
  | .control => none

def setGate (gates : WriteGates) (channel : Channel) (gate : Gate) : WriteGates :=
  match channel with
  | .cmd => { gates with cmd := gate }
  | .settings => { gates with settings := gate }
  | .query => { gates with query := gate }
  | .net => { gates with net := gate }
  | .control => gates

def modify (gates : WriteGates) (channel : Channel) (change : Gate → Gate) : WriteGates :=
  match gates.gate? channel with
  | some gate => gates.setGate channel (change gate)
  | none => gates

def isPending (gates : WriteGates) (channel : Channel) : Bool :=
  (gates.gate? channel).any Gate.pending

def isSubscribed (gates : WriteGates) (channel : Channel) : Bool :=
  (gates.gate? channel).any Gate.subscribed

/-- Whether a write may begin: the channel has a gate and nothing is pending on it. -/
def canBegin (gates : WriteGates) (channel : Channel) : Bool :=
  (gates.gate? channel).any fun gate => !gate.pending

def begin (gates : WriteGates) (channel : Channel) : WriteGates := gates.modify channel Gate.mark

def cancel (gates : WriteGates) (channel : Channel) : WriteGates := gates.modify channel Gate.clear

def complete (gates : WriteGates) (channel : Channel) : WriteGates :=
  gates.modify channel Gate.complete

def setSubscribed (gates : WriteGates) (channel : Channel) (on : Bool) : WriteGates :=
  gates.modify channel fun gate => { gate with subscribed := on }

def reset (gates : WriteGates) : WriteGates :=
  ⟨gates.cmd.reset, gates.settings.reset, gates.query.reset, gates.net.reset⟩

def stepWait (now : Time) (waiter : Nat) (channel : Channel) (wait : AckWait) (gates : WriteGates) :
    Option (WriteGates × (AckWait ⊕ AckOutcome)) :=
  match gates.gate? channel with
  | none => some (gates, .inr .notApplicable)
  | some gate =>
      (wait.step now waiter gate).map fun (gate, progress) => (gates.setGate channel gate, progress)

end WriteGates

end CameraBridge
