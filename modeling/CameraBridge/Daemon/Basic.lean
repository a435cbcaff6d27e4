import CameraBridge.Bridge.Run
import CameraBridge.Config.Load
import CameraBridge.Config.Open
import CameraBridge.Daemon.Options

/-!
The daemon: it reads its configuration, opens the links and starts a bridge between them, and it logs
what it does. It runs until it is interrupted.
-/

namespace CameraBridge.Daemon

structure LogRecord where
  text : String
  interface : Option String := none
  deriving DecidableEq

def LogRecord.line (record : LogRecord) : String :=
  "INFO " ++ record.text ++
    match record.interface with
    | some interface => " interface=" ++ interface
    | none => ""

inductive StartError where
  | config (cause : ConfigError)
  | link (cause : LinkError)
  deriving DecidableEq

def StartError.message : StartError → String
  | .config .unreadable => "the configuration cannot be read"
  | .config .malformed => "the configuration is not understood"
  | .link cause => cause.message

def configure (files : String → Option Bytes) (options : Options) : Except ConfigError Config := do
  let config ← match options.config with
    | some path => Config.load (files path)
    | none => .ok {}
  return match options.interface with
    | some interface => config.setInterface interface
    | none => config

def startBridge (config : Config) : Except LinkError Bridge := do
  let bus ← config.openBus
  let replyLink ← config.openTransferLinks
  let bridge := Bridge.start config.timing config.queueDepth {} {}
  return { bridge with bus, replyLink }

/-- The simulated camera's script: it answers the registration of status values, is seen, enables
the notifications of all its channels and connects. -/
def connectCamera (bridge : Bridge) : Bridge :=
  let registration : CannedResponse :=
    { channel := .query
      request := [0x04, StatusQuery.register, StatusValue.recordingId, StatusValue.videoCountId,
        StatusValue.batteryId]
      frames := [[0x0B, StatusQuery.register, 0x00, StatusValue.recordingId, 1, 0,
        StatusValue.videoCountId, 1, 3, StatusValue.batteryId, 1, 87]] }
  let camera := { bridge.camera with responses := bridge.camera.responses ++ [registration] }
  let events := CameraEvent.advertisement .online (some "GoPro 1234") ::
    (Channel.ble.map .subscribed ++ [.connected])
  { bridge with camera := camera.raiseAll events }

def sourceRecord (options : Options) : LogRecord :=
  match options.config with
  | some path => ⟨"Loading config from: " ++ path, none⟩
  | none => ⟨"No config file provided, using mock transport", none⟩

def busRecord (config : Config) : LogRecord :=
  match config.can with
  | .network interface => ⟨"Using SocketCAN", some interface⟩
  | .simulated _ => ⟨"Using mock CAN bus", none⟩

/-- Starts the daemon: the log up to when it waits for its end, and the running bridge. -/
def start (files : String → Option Bytes) (options : Options) :
    List LogRecord × Except StartError Bridge :=
  let opening := [⟨"Starting gpcand (camera BLE to CAN bridge)", none⟩, sourceRecord options]
  match configure files options with
  | .error cause => (opening, .error (.config cause))
  | .ok config =>
      let opening := opening ++ [busRecord config]
      match startBridge config with
      | .error cause => (opening, .error (.link cause))
      | .ok bridge =>
          if options.simulateCamera then
            (opening ++ [⟨"Simulated camera connected", none⟩], .ok (connectCamera bridge))
          else (opening, .ok bridge)

def farewell : LogRecord := ⟨"Shutting down...", none⟩

/-- What a run of the daemon leaves behind. -/
structure Outcome where
  exitCode : Nat
  log : List LogRecord := []
  json : Bool := false

def run (files : String → Option Bytes) (arguments : List String) : Outcome :=
  match Options.ofArguments arguments with
  | .error .help => { exitCode := 0 }
  | .error .misuse => { exitCode := 2 }
  | .ok options =>
      match start files options with
      | (log, .ok _) => { exitCode := 0, log := log ++ [farewell], json := options.json }
      | (log, .error _) => { exitCode := 1, log, json := options.json }

end CameraBridge.Daemon
