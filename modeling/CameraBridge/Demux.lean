import CameraBridge.HardwareInfo
import CameraBridge.Reassembly

/-!
What the bridge itself learns from the camera's replies: status lists and hardware info. All other
replies are left to the host.
-/

namespace CameraBridge

inductive Demuxed where
  /-- A status list was written to the device state; so many entries were understood. -/
  | status (applied : Nat)
  | hardwareInfo
  /-- The camera answered with a result other than zero. -/
  | errorResult (code : UInt8)
  | malformed
  | ignored
  deriving DecidableEq

namespace Demuxed

def ofStatus (payload : Bytes) (device : Device) : Demuxed × Device :=
  match StatusValue.readList payload with
  | .error _ => (.malformed, device)
  | .ok values =>
      (.status (values.countP StatusValue.isKnown), device.update (StatusValue.applyAll values))

def ofHardwareInfo (payload : Bytes) (device : Device) : Demuxed × Device :=
  match HardwareInfo.read payload with
  | .error _ => (.malformed, device)
  | .ok (info, _) =>
      (.hardwareInfo, device.update fun state => { state with modelInfo := some info })

def isStatusReply (channel : Channel) (feature : UInt8) : Bool :=
  channel = .query &&
    (feature = StatusQuery.get || feature = StatusQuery.register || feature = StatusQuery.notify)

def isHardwareReply (channel : Channel) (feature : UInt8) : Bool :=
  channel = .cmd && feature = HardwareInfo.feature

/-- Handles a reply. The second body byte is the camera's result, zero for success. -/
def ofReply (reply : Assembled) (device : Device) : Demuxed × Device :=
  match reply.body with
  | feature :: result :: payload =>
      if isStatusReply reply.channel feature then
        if result = 0 then ofStatus payload device else (.errorResult result, device)
      else if isHardwareReply reply.channel feature then
        if result = 0 then ofHardwareInfo payload device else (.errorResult result, device)
      else (.ignored, device)
  | _ => (.ignored, device)

end Demuxed

end CameraBridge
