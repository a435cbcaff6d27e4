/-!
Feeds: streams of which a slow reader sees only the newest items.
-/

namespace CameraBridge

def feedCapacity : Nat := 256

structure Feed (Item : Type) where
  unread : List Item := []
  /-- The reader is there; without it items are lost. -/
  isOpen : Bool := true

namespace Feed

variable {Item : Type}

/-- Adds an item; beyond the capacity the oldest one is lost. -/
def push (item : Item) (feed : Feed Item) : Feed Item :=
  if feed.isOpen then
    let unread := feed.unread ++ [item]
    { feed with unread := unread.drop (unread.length - feedCapacity) }
  else feed

def pushAll (items : List Item) (feed : Feed Item) : Feed Item :=
  items.foldl (fun feed item => feed.push item) feed

def shut (_ : Feed Item) : Feed Item := { unread := [], isOpen := false }

end Feed

end CameraBridge
