import CameraBridge.Bridge.Run

/-!
What a bridge has sent between two looks at it. The links keep all they sent, the newest first.
-/

namespace CameraBridge

/-- The items that came to a log since it was an older one, oldest first. -/
def freshItems {Item : Type} (older newer : List Item) : List Item :=
  (newer.take (newer.length - older.length)).reverse

structure Report where
  heartbeats : List Bytes
  frames : List CanFrame
  writes : List (Channel × Bytes)
  replies : List Bytes

def Report.since (earlier later : Bridge) : Report :=
  let sent := freshItems earlier.bus.sent later.bus.sent
  { heartbeats := (sent.filter fun frame => frame.id = CanId.heartbeat).map CanFrame.payload
    frames := sent.filter fun frame => frame.id ≠ CanId.heartbeat
    writes := freshItems earlier.camera.writes later.camera.writes
    replies := freshItems earlier.replyLink.sent later.replyLink.sent }

/-- Listening to what the links send: what they had sent when they were read last. -/
structure SentWatch where
  frames : List CanFrame
  replies : List Bytes

namespace SentWatch

def frameCapacity : Nat := 1024

def replyCapacity : Nat := 64

def begin (bridge : Bridge) : SentWatch := ⟨bridge.bus.sent, bridge.replyLink.sent⟩

/-- The newest items of those that came, as far as they are kept. -/
def kept {Item : Type} (capacity : Nat) (items : List Item) : List Item :=
  items.drop (items.length - capacity)

def read (bridge : Bridge) (watch : SentWatch) : List CanFrame × List Bytes :=
  (kept frameCapacity (freshItems watch.frames bridge.bus.sent),
    kept replyCapacity (freshItems watch.replies bridge.replyLink.sent))

end SentWatch

end CameraBridge
