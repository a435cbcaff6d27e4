import CameraBridge.Config.CanId
import CameraBridge.Config.Timing
import CameraBridge.Text.Hex

/-!
The bridge's configuration. Every setting has a stock value.
-/

namespace CameraBridge

inductive CanAttachment where
  /-- A simulated bus; a large reply takes the latency to leave. -/
  | simulated (latency : Nat)
  | network (interface : String)
  deriving DecidableEq

namespace CanAttachment

def stockInterface : String := "can0"

def setInterface (interface : String) : CanAttachment → CanAttachment
  | .network _ => .network interface
  | .simulated latency => .simulated latency

end CanAttachment

/-- One thing for each identifier of the two transfer links. -/
structure TransferIds (α : Type) where
  inbound : α
  inboundFlow : α
  reply : α
  replyFlow : α
  deriving DecidableEq

namespace TransferIds

def stock : TransferIds String where
  inbound := text CanId.transferIn
  inboundFlow := text CanId.transferInFlow
  reply := text CanId.replyOut
  replyFlow := text CanId.replyOutFlow
where
  text (id : UInt16) : String := "0x" ++ Hex.upperPadded 3 id.toNat

/-- Reads the four texts; the first that is no identifier counts. -/
def read (texts : TransferIds String) : Except LinkError (TransferIds UInt16) := do
  let inbound ← CanId.ofText texts.inbound
  let inboundFlow ← CanId.ofText texts.inboundFlow
  let reply ← CanId.ofText texts.reply
  let replyFlow ← CanId.ofText texts.replyFlow
  return { inbound, inboundFlow, reply, replyFlow }

end TransferIds

structure Config where
  can : CanAttachment := .simulated 0
  transfers : TransferIds String := TransferIds.stock
  timing : Timing := {}
  queueDepth : Nat := 16
  deriving DecidableEq

def Config.setInterface (interface : String) (config : Config) : Config :=
  { config with can := config.can.setInterface interface }

end CameraBridge
