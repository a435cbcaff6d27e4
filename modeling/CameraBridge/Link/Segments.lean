import CameraBridge.Bytes
import CameraBridge.Link.Error

/-!
The inbound transfer link: segments of the host's payloads, each with the count of bytes that are
still to come after it, and receive errors between them.
-/

namespace CameraBridge

structure Segment where
  data : Bytes
  /-- How many bytes of the transfer are still to come. A link announces what fits a machine word
  together with the data. -/
  remaining : Nat
  deriving DecidableEq

/-- What the link holds ready, and whether it is closed for reads that begin from now on. -/
structure SegmentLink where
  incoming : List (Except LinkError Segment) := []
  closed : Bool := false

namespace SegmentLink

/-- The segments of a payload, of at most `size` bytes each. -/
def split (size : Nat) (payload : Bytes) : List Segment :=
  match payload with
  | [] => []
  | first :: rest =>
      ⟨first :: rest.take (size - 1), (rest.drop (size - 1)).length⟩ :: split size (rest.drop (size - 1))
termination_by payload.length
decreasing_by simp only [List.length_drop, List.length_cons]; omega

def push (segment : Segment) (link : SegmentLink) : SegmentLink :=
  { link with incoming := link.incoming ++ [.ok segment] }

def pushPayload (size : Nat) (payload : Bytes) (link : SegmentLink) : SegmentLink :=
  { link with incoming := link.incoming ++ (split size payload).map .ok }

def pushLoss (link : SegmentLink) : SegmentLink :=
  { link with incoming := link.incoming ++ [.error (.receiveFailed "segment lost")] }

def close (link : SegmentLink) : SegmentLink := { link with closed := true }

end SegmentLink

end CameraBridge
