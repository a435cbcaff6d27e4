import CameraBridge.Config.Basic
import CameraBridge.Text.Utf8
import CameraBridge.Toml.Document

/-!
Configurations as TOML documents. Missing settings keep their stock values, and unknown ones are
ignored; a setting of the wrong kind spoils the document.
-/

namespace CameraBridge

open Toml (Value)

inductive ConfigError where
  /-- The file is missing or no text. -/
  | unreadable
  | malformed
  deriving DecidableEq

/-- A group of settings: named ones, or listed ones in the order of the group's fields. -/
inductive Section where
  | named (entries : List (String × Value))
  | listed (items : List Value)

namespace Section

/-- Takes a value for a group of settings. A date counts as a group without any. -/
def ofValue? : Value → Option Section
  | .table entries => some (.named entries)
  | .array items => some (.listed items)
  | .dateTime => some (.named [])
  | _ => none

def setting? (position : Nat) (name : String) : Section → Option Value
  | .named entries => entries.lookup name
  | .listed items => items[position]?

def natural (position : Nat) (name : String) (stock : Nat) (group : Section) : Option Nat :=
  match group.setting? position name with
  | none => some stock
  | some (.integer (.ofNat value)) => some value
  | some _ => none

def text (position : Nat) (name : String) (stock : String) (group : Section) : Option String :=
  match group.setting? position name with
  | none => some stock
  | some (.text content) => some content
  | some _ => none

end Section

namespace Config

def timingOf (group : Section) : Option Timing := do
  let stock : Timing := {}
  return {
    bleAckTimeout := ← group.natural 0 "ble_ack_timeout_ms" stock.bleAckTimeout
    canSendTimeout := ← group.natural 1 "can_send_timeout_ms" stock.canSendTimeout
    publishTimeout := ← group.natural 2 "publish_timeout_ms" stock.publishTimeout
    heartbeatInterval := ← group.natural 3 "heartbeat_interval_ms" stock.heartbeatInterval
    isotpPermitTimeout := ← group.natural 4 "isotp_permit_timeout_ms" stock.isotpPermitTimeout
    isotpSendTimeout := ← group.natural 5 "isotp_send_timeout_ms" stock.isotpSendTimeout
    idleTimeoutSeconds := ← group.natural 6 "idle_timeout_secs" stock.idleTimeoutSeconds
    startupQueryDelay := ← group.natural 7 "startup_query_delay_ms" stock.startupQueryDelay }

def transfersOf (group : Section) : Option (TransferIds String) := do
  let stock := TransferIds.stock
  return {
    inbound := ← group.text 0 "rx_id" stock.inbound
    inboundFlow := ← group.text 1 "rx_fc_id" stock.inboundFlow
    reply := ← group.text 2 "reply_tx_id" stock.reply
    replyFlow := ← group.text 3 "reply_rx_id" stock.replyFlow }

/-- Reads the attachment to the bus. Its kind must be given: by name, or as the first in a list
that holds at most one setting more. -/
def attachmentOf : Value → Option CanAttachment
  | .table entries =>
      match entries.lookup "type" with
      | some (.text kind) => ofKind kind (.named entries)
      | _ => none
  | .array (.text kind :: items) =>
      if items.length ≤ 1 then ofKind kind (.listed items) else none
  | _ => none
where
  /-- Reads the one setting of a kind of attachment. -/
  ofKind (kind : String) (group : Section) : Option CanAttachment :=
    if kind = "mock" then (group.natural 0 "latency_ms" 0).map .simulated
    else if kind = "socketcan" then
      (group.text 0 "interface" CanAttachment.stockInterface).map .network
    else none

/-- Reads a part of a configuration, which may be missing. -/
def part {α : Type} (entries : List (String × Value)) (name : String) (stock : α)
    (read : Value → Option α) : Option α :=
  match entries.lookup name with
  | none => some stock
  | some value => read value

def ofEntries (entries : List (String × Value)) : Option Config := do
  let stock : Config := {}
  return {
    can := ← part entries "can" stock.can attachmentOf
    transfers := ← part entries "isotp" stock.transfers (Section.ofValue? · >>= transfersOf)
    timing := ← part entries "timing" stock.timing (Section.ofValue? · >>= timingOf)
    queueDepth := ← (Section.named entries).natural 0 "queue_depth" stock.queueDepth }

def ofToml? (text : String) : Option Config :=
  Toml.parse? text >>= ofEntries

def load (content : Option Bytes) : Except ConfigError Config :=
  match content >>= Utf8.decode? with
  | none => .error .unreadable
  | some text =>
      match ofToml? text with
      | none => .error .malformed
      | some config => .ok config

end Config

end CameraBridge
