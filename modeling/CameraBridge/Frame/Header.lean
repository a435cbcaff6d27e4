import CameraBridge.Bytes
import CameraBridge.Text.Hex

/-!
Headers of the camera's link frames. A frame either starts a message, with the length of the whole
body in one of three classes, or continues one:

* bit 7 set: a continuation, its sequence number in the low four bits;
* bits 6 and 5 clear: a body length of five bits in the first byte;
* bit 5 set alone: a length of thirteen bits over two bytes;
* bit 6 set alone: a length of sixteen bits in the two bytes after the first;
* both set: no frame.
-/

namespace CameraBridge

/-- Why bytes are no frame, or a body has no frames. -/
inductive FrameError where
  | empty
  | invalidClass (header : UInt8)
  | truncated (length headerLength : Nat)
  | bodyTooLarge (length : Nat)
  deriving DecidableEq

def FrameError.message : FrameError → String
  | .empty => "Empty frame"
  | .invalidClass header => "Invalid packet class in header byte 0x" ++ Hex.upperPadded 2 header.toNat
  | .truncated length headerLength =>
      s!"Frame of {length} bytes is shorter than its {headerLength}-byte header"
  | .bodyTooLarge length => s!"Body of {length} bytes exceeds the 16-bit length field"

inductive LengthClass where
  | short
  | medium
  | long
  deriving DecidableEq

def LengthClass.headerLength : LengthClass → Nat
  | .short => 1
  | .medium => 2
  | .long => 3

inductive Header where
  /-- Starts a message of `declared` body bytes; the first two of them name feature and action. -/
  | start (lengthClass : LengthClass) (declared : Nat) (feature action : Option UInt8)
  | continuation (sequence : Nat)
  deriving DecidableEq

namespace Header

def length : Header → Nat
  | .start lengthClass .. => lengthClass.headerLength
  | .continuation _ => 1

def isContinuation : Header → Bool
  | .start .. => false
  | .continuation _ => true

def declared : Header → Nat
  | .start _ declared .. => declared
  | .continuation _ => 0

def feature : Header → Option UInt8
  | .start _ _ feature _ => feature
  | .continuation _ => none

def action : Header → Option UInt8
  | .start _ _ _ action => action
  | .continuation _ => none

def sequence? : Header → Option Nat
  | .start .. => none
  | .continuation sequence => some sequence

/-- Offset of the first payload byte: feature and action of a start frame are no payload. -/
def payloadOffset (header : Header) : Nat :=
  if header.isContinuation then header.length else header.length + 2

def payloadLength (header : Header) : Nat :=
  header.declared - 2

def ofStart (lengthClass : LengthClass) (declared : Nat) (frame : Bytes) : Header :=
  .start lengthClass declared frame[lengthClass.headerLength]? frame[lengthClass.headerLength + 1]?

def read (frame : Bytes) : Except FrameError Header :=
  match frame with
  | [] => .error .empty
  | first :: rest =>
      if 128 ≤ first.toNat then .ok (.continuation (first.toNat % 16))
      else if first.toNat < 32 then .ok (ofStart .short first.toNat frame)
      else if first.toNat < 64 then
        match rest with
        | low :: _ => .ok (ofStart .medium (first.toNat % 32 * 256 + low.toNat) frame)
        | [] => .error (.truncated frame.length 2)
      else if first.toNat < 96 then
        match rest with
        | high :: low :: _ => .ok (ofStart .long (high.toNat * 256 + low.toNat) frame)
        | _ => .error (.truncated frame.length 3)
      else .error (.invalidClass first)

end Header

end CameraBridge
