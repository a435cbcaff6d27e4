import CameraBridge.Frame.Header
import CameraBridge.Channel

/-!
Putting bodies together again from notifications. One body is gathered at a time, whatever channels
the notifications come on; a start frame always begins anew, and after a broken gathering the next
start frame recovers.
-/

namespace CameraBridge

/-- A body being gathered. What was declared is what came plus what is missing. -/
structure Assembly where
  channel : Channel
  /-- Bytes so far, the newest first. -/
  received : Bytes
  missing : Nat
  frames : Nat
  deriving DecidableEq

def Assembly.declared (assembly : Assembly) : Nat :=
  assembly.received.length + assembly.missing

structure Assembled where
  channel : Channel
  body : Bytes
  frames : Nat
  deriving DecidableEq

namespace Assembled

def feature? (assembled : Assembled) : Option UInt8 := assembled.body[0]?

def action? (assembled : Assembled) : Option UInt8 := assembled.body[1]?

def payload (assembled : Assembled) : Bytes := assembled.body.drop 2

end Assembled

inductive ReassemblyError where
  | malformed (cause : FrameError)
  | overflow (total saved incoming : Nat)
  deriving DecidableEq

def ReassemblyError.message : ReassemblyError → String
  | .malformed cause => "Malformed frame: " ++ cause.message
  | .overflow total saved incoming =>
      s!"Assembly overflow: {saved} bytes held, {incoming} more exceed declared {total}"

inductive Reassembler where
  | idle
  | broken
  | gathering (assembly : Assembly)
  deriving DecidableEq

namespace Reassembler

/-- What a notification led to: a complete body, or nothing yet, or an error. -/
abbrev Outcome := Except ReassemblyError (Option Assembled)

def settle (assembly : Assembly) : Reassembler × Outcome :=
  if assembly.missing = 0 then
    (.idle, .ok (some ⟨assembly.channel, assembly.received.reverse, assembly.frames⟩))
  else (.gathering assembly, .ok none)

def start (channel : Channel) (declared : Nat) (part : Bytes) : Reassembler × Outcome :=
  if declared = 0 then (.idle, .ok none)
  else if declared < part.length then (.broken, .error (.overflow declared 0 part.length))
  else settle ⟨channel, part.reverse, declared - part.length, 1⟩

/-- Adds a part to the body being gathered; without one the part is dropped. -/
def extend (reassembler : Reassembler) (part : Bytes) : Reassembler × Outcome :=
  match reassembler with
  | .gathering assembly =>
      if assembly.missing < part.length then
        (.broken, .error (.overflow assembly.declared assembly.received.length part.length))
      else
        settle { assembly with
          received := part.reverse ++ assembly.received
          missing := assembly.missing - part.length
          frames := assembly.frames + 1 }
  | other => (other, .ok none)

def push (reassembler : Reassembler) (channel : Channel) (frame : Bytes) : Reassembler × Outcome :=
  match Header.read frame with
  | .error cause => (.broken, .error (.malformed cause))
  | .ok (.continuation _) => reassembler.extend (frame.drop 1)
  | .ok (.start lengthClass declared _ _) =>
      start channel declared (frame.drop lengthClass.headerLength)

def reset (_ : Reassembler) : Reassembler := .idle

end Reassembler

end CameraBridge
