import CameraBridge.Clock

/-!
How long the bridge waits for what.
-/

namespace CameraBridge

/-- The bridge's waits, in milliseconds if nothing else is said. -/
structure Timing where
  bleAckTimeout : Nat := 1200
  canSendTimeout : Nat := 10
  /-- For the order lock of a topic, and for room in each full queue. -/
  publishTimeout : Nat := 100
  heartbeatInterval : Nat := 100
  isotpPermitTimeout : Nat := 2000
  isotpSendTimeout : Nat := 5000
  /-- Seconds of silence before a camera that is not connected is forgotten; zero means never. -/
  idleTimeoutSeconds : Nat := 30
  startupQueryDelay : Nat := 1000
  deriving DecidableEq

namespace Timing

def heartbeat (timing : Timing) : Time := max timing.heartbeatInterval 1

def idle? (timing : Timing) : Option Time :=
  if timing.idleTimeoutSeconds = 0 then none else some (timing.idleTimeoutSeconds * 1000)

end Timing

end CameraBridge
