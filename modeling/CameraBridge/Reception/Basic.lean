import CameraBridge.Clock
import CameraBridge.Hold
import CameraBridge.Link.Segments

/-!
Receiving the host's payloads. One reception runs at a time, and it reads no segment before the
payload handed out last was released. The first segment announces the length of the transfer; the
reception ends with the first segment that announces nothing more.
-/

namespace CameraBridge

/-- Why a reception handed out no payload. -/
inductive ReceptionError where
  /-- Another reception runs, or the last payload was not released in time. -/
  | busy
  | link (cause : LinkError)
  | allocation (length : Nat)
  | overflow (expected received : Nat)
  deriving DecidableEq

def ReceptionError.message : ReceptionError → String
  | .busy => "ISO-TP receive busy"
  | .link cause => cause.message
  | .allocation length => s!"Cannot allocate {length} bytes for ISO-TP payload"
  | .overflow expected received =>
      s!"ISO-TP payload overflow: {received} bytes of announced {expected}"

/-- A whole payload, with the number of the hold that the next reception waits for. -/
structure InboundPayload where
  data : Bytes
  hold : Nat
  deriving DecidableEq

/-- What a reception has read so far. -/
structure Gathering where
  /-- Bytes so far, the newest first. -/
  received : Bytes
  /-- Bytes that may still come without exceeding the announced length. -/
  room : Nat
  deriving DecidableEq

def Gathering.expected (gathering : Gathering) : Nat := gathering.received.length + gathering.room

inductive ReceptionPhase where
  /-- It waits for the release of the payload handed out last. -/
  | waiting (deadline : Time) (previous : Nat)
  | opening (gathered : Option Gathering)
  | reading (gathered : Option Gathering)
  deriving DecidableEq

/-- What all receptions of one link share. -/
structure Receiver where
  /-- How long a reception waits for the release of the payload before. -/
  permitTimeout : Time
  running : Bool := false
  /-- The hold of the payload handed out last, unless a reception is waiting for it. -/
  outstanding : Option Nat := none
  /-- The holds of all payloads handed out, in order. -/
  holds : List Hold := []
  deriving DecidableEq

/-- What a move of a reception led to. -/
inductive ReceptionProgress where
  | going (phase : ReceptionPhase)
  | finished (result : Except ReceptionError InboundPayload)

namespace Receiver

/-- The longest buffer that can be asked for. -/
def maxBuffer : Nat := 0x7FFFFFFFFFFFFFFF

/-- Whether a payload was handed out that no reception has waited for since. -/
def isOutstanding (receiver : Receiver) : Bool := receiver.outstanding.isSome

def modify (hold : Nat) (change : Hold → Hold) (receiver : Receiver) : Receiver :=
  { receiver with holds := receiver.holds.modify hold change }

def isFree (receiver : Receiver) (hold : Nat) : Bool :=
  (receiver.holds[hold]?).all Hold.isFree

def begin (now : Time) (receiver : Receiver) : Except ReceptionError (ReceptionPhase × Receiver) :=
  if receiver.running then .error .busy
  else match receiver.outstanding with
    | none => .ok (.opening none, { receiver with running := true })
    | some previous =>
        .ok (.waiting (now + receiver.permitTimeout) previous,
          { receiver with running := true, outstanding := none })

def fail (error : ReceptionError) (receiver : Receiver) : Receiver × ReceptionProgress :=
  ({ receiver with running := false }, .finished (.error error))

def handOut (data : Bytes) (receiver : Receiver) : Receiver × ReceptionProgress :=
  let hold := receiver.holds.length
  ({ receiver with
      running := false
      outstanding := some hold
      holds := receiver.holds ++ [({} : Hold)] },
    .finished (.ok ⟨data, hold⟩))

def gather (gathering : Gathering) (remaining : Nat) (receiver : Receiver) :
    Receiver × ReceptionProgress :=
  if remaining = 0 then receiver.handOut gathering.received.reverse
  else (receiver, .going (.opening (some gathering)))

/-- Takes a segment. The announced length is added up without a bound, and one beyond the longest buffer
is refused, also where the sum would not fit a machine word any more. -/
def take (segment : Segment) (gathered : Option Gathering) (receiver : Receiver) :
    Receiver × ReceptionProgress :=
  match gathered with
  | none =>
      let expected := segment.data.length + segment.remaining
      if maxBuffer < expected then receiver.fail (.allocation expected)
      else receiver.gather ⟨segment.data.reverse, segment.remaining⟩ segment.remaining
  | some gathering =>
      if gathering.room < segment.data.length then
        receiver.fail
          (.overflow gathering.expected (gathering.received.length + segment.data.length))
      else
        receiver.gather
          ⟨segment.data.reverse ++ gathering.received, gathering.room - segment.data.length⟩
          segment.remaining

/-- Goes on with a reception, unless it has to wait. -/
def step (now : Time) (link : SegmentLink) (phase : ReceptionPhase) (receiver : Receiver) :
    Option (SegmentLink × Receiver × ReceptionProgress) :=
  match phase with
  | .waiting deadline previous =>
      if receiver.isFree previous then some (link, receiver, .going (.opening none))
      else if now < deadline then none
      else some (link, { receiver with outstanding := some previous }.fail .busy)
  | .opening gathered =>
      if link.closed then some (link, receiver.fail (.link .connectionClosed))
      else some (link, receiver, .going (.reading gathered))
  | .reading gathered =>
      match link.incoming with
      | [] => none
      | .error cause :: rest => some ({ link with incoming := rest }, receiver.fail (.link cause))
      | .ok segment :: rest => some ({ link with incoming := rest }, receiver.take segment gathered)

end Receiver

def ReceptionPhase.deadline? : ReceptionPhase → Option Time
  | .waiting deadline _ => some deadline
  | _ => none

end CameraBridge
