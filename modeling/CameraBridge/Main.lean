import CameraBridge.Daemon.Basic

/-!
The daemon as a program. It runs until its standard input ends; the bridge's clock follows the
machine's.
-/

namespace CameraBridge.Daemon

def usage : String :=
  "Bridge an action camera's BLE link to a CAN bus\n\nUsage: gpcand [OPTIONS]\n\nOptions:\n" ++
    "  -c, --config <CONFIG>        Configuration file path (TOML format)\n" ++
    "  -i, --interface <INTERFACE>  CAN interface name, overrides the config file\n" ++
    "      --simulate-camera        Let the mock camera connect and answer status queries\n" ++
    "      --json                   Emit logs as JSON lines\n" ++
    "  -v, --verbose                Enable verbose output\n" ++
    "  -h, --help                   Print help"

def readFile (path : String) : IO (Option Bytes) := do
  try
    return some (← IO.FS.readBinFile path).data.toList
  catch _ => return none

/-- Lets a bridge run along with the machine's clock until standard input ends. -/
partial def follow (ended : Task (Except IO.Error String)) (started : Nat) (bridge : Bridge) :
    IO Unit := do
  if ← IO.hasFinished ended then return
  IO.sleep 20
  let elapsed := (← IO.monoMsNow) - started
  follow ended started (Bridge.system.advance (elapsed - bridge.now) bridge)

end CameraBridge.Daemon

open CameraBridge CameraBridge.Daemon in
def main (arguments : List String) : IO UInt32 := do
  match Options.ofArguments arguments with
  | .error .help =>
      IO.println usage
      return 0
  | .error .misuse =>
      IO.eprintln "error: the command line is not understood; try --help"
      return 2
  | .ok options =>
      let content ← match options.config with
        | some path => readFile path
        | none => pure none
      let (log, outcome) := start (fun _ => content) options
      for record in log do IO.println record.line
      match outcome with
      | .error cause =>
          IO.eprintln ("Error: " ++ cause.message)
          return 1
      | .ok bridge =>
          let ended ← IO.asTask (do (← IO.getStdin).getLine)
          follow ended (← IO.monoMsNow) (Bridge.system.settle bridge)
          IO.println farewell.line
          return 0
