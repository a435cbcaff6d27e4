import CameraBridge.Frame.Header
import CameraBridge.Message

/-!
Splitting a body into frames of at most one write each. A body that fits goes into one frame of
the short class; a longer one starts with a filled frame of the medium or long class and goes on in
continuations, numbered modulo sixteen.
-/

namespace CameraBridge.Frame

/-- Body bytes of one continuation, and of a short frame. -/
def chunk : Nat := maxWrite - 1

def mediumLimit : Nat := 8191

def maxBody : Nat := 65535

/-- The continuations of a body's rest, the first one numbered `sequence`. -/
def continuations (sequence : Nat) (rest : Bytes) : List Bytes :=
  match rest with
  | [] => []
  | byte :: tail =>
      (UInt8.ofNat (128 + sequence % 16) :: (byte :: tail).take chunk) ::
        continuations (sequence + 1) (tail.drop (chunk - 1))
termination_by rest.length
decreasing_by simp only [List.length_drop, List.length_cons]; omega

/-- A filled frame with the given header, and the continuations of what it leaves. -/
def fill (header body : Bytes) : List Bytes :=
  (header ++ body.take (maxWrite - header.length)) ::
    continuations 0 (body.drop (maxWrite - header.length))

def ofBody (body : Bytes) : Except FrameError (List Bytes) :=
  let length := body.length
  if length ≤ chunk then .ok [UInt8.ofNat length :: body]
  else if length < mediumLimit then
    .ok (fill [UInt8.ofNat (32 + length / 256), UInt8.ofNat (length % 256)] body)
  else if length ≤ maxBody then
    .ok (fill [64, UInt8.ofNat (length / 256), UInt8.ofNat (length % 256)] body)
  else .error (.bodyTooLarge length)

def ofCommand (feature action : UInt8) (payload : Bytes) : Except FrameError (List Bytes) :=
  ofBody (feature :: action :: payload)

def messages (channel : Channel) (body : Bytes) : Except FrameError (List Message) := do
  let frames ← ofBody body
  frames.mapM fun frame => (Message.make channel frame).mapError fun _ => .bodyTooLarge body.length

end CameraBridge.Frame
