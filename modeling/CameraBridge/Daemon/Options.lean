/-!
The daemon's command line: switches, and settings that take a value. Arguments are read from left to
right, and reading ends at the first that is refused or asks for help.
-/

namespace CameraBridge

structure Options where
  config : Option String := none
  /-- Network interface to use in place of the configured one. -/
  interface : Option String := none
  simulateCamera : Bool := false
  json : Bool := false
  verbose : Bool := false
  deriving DecidableEq

/-- Why a command line gives no options. -/
inductive Refusal where
  | help
  | misuse
  deriving DecidableEq

inductive Switch where
  | simulateCamera
  | json
  | verbose
  | help
  deriving DecidableEq

inductive Setting where
  | config
  | interface
  deriving DecidableEq

namespace Switch

def ofName? : String → Option Switch
  | "simulate-camera" => some .simulateCamera
  | "json" => some .json
  | "verbose" => some .verbose
  | "help" => some .help
  | _ => none

def ofLetter? : Char → Option Switch
  | 'v' => some .verbose
  | 'h' => some .help
  | _ => none

end Switch

namespace Setting

def ofName? : String → Option Setting
  | "config" => some .config
  | "interface" => some .interface
  | _ => none

def ofLetter? : Char → Option Setting
  | 'c' => some .config
  | 'i' => some .interface
  | _ => none

end Setting

namespace Options

def turnOn (options : Options) : Switch → Except Refusal Options
  | .help => .error .help
  | .simulateCamera =>
      if options.simulateCamera then .error .misuse else .ok { options with simulateCamera := true }
  | .json => if options.json then .error .misuse else .ok { options with json := true }
  | .verbose => if options.verbose then .error .misuse else .ok { options with verbose := true }

/-- Gives a setting its value; none may be given twice. -/
def set (options : Options) (value : String) : Setting → Except Refusal Options
  | .config =>
      if options.config.isSome then .error .misuse else .ok { options with config := some value }
  | .interface =>
      if options.interface.isSome then .error .misuse
      else .ok { options with interface := some value }

/-- Takes the name of an option after two dashes, with the value after its equals sign. A setting
without one waits for the next argument. -/
def takeLong (options : Options) (name : String) (value : Option String) :
    Except Refusal (Options × Option Setting) :=
  match Switch.ofName? name, Setting.ofName? name, value with
  | some switch, _, none => (options.turnOn switch).map (·, none)
  | none, some setting, none => .ok (options, some setting)
  | none, some setting, some value => (options.set value setting).map (·, none)
  | _, _, _ => .error .misuse

/-- Takes letters after one dash: switches up to a setting, whose value is what follows it, with or
without an equals sign before. A setting at the end waits for the next argument. -/
def takeLetters (options : Options) : List Char → Except Refusal (Options × Option Setting)
  | [] => .ok (options, none)
  | letter :: rest =>
      match Switch.ofLetter? letter, Setting.ofLetter? letter with
      | some switch, _ => do (← options.turnOn switch).takeLetters rest
      | none, some setting =>
          match rest with
          | [] => .ok (options, some setting)
          | '=' :: value => (options.set (String.ofList value) setting).map (·, none)
          | value => (options.set (String.ofList value) setting).map (·, none)
      | none, none => .error .misuse

def take (options : Options) (argument : List Char) : Except Refusal (Options × Option Setting) :=
  match argument with
  | '-' :: '-' :: rest =>
      let value := match rest.dropWhile (· != '=') with
        | [] => none
        | _ :: value => some (String.ofList value)
      options.takeLong (String.ofList (rest.takeWhile (· != '='))) value
  | '-' :: letter :: rest => options.takeLetters (letter :: rest)
  | _ => .error .misuse

/-- Whether an argument is an option, and so cannot be the value of one. -/
def isOption : List Char → Bool
  | '-' :: _ :: _ => true
  | _ => false

/-- Takes arguments one after the other; a setting may be waiting for its value. After two dashes
alone nothing may follow. -/
def takeAll (options : Options) (waiting : Option Setting) :
    List String → Except Refusal Options
  | [] => if waiting.isSome then .error .misuse else .ok options
  | argument :: rest =>
      match waiting with
      | some setting =>
          if isOption argument.toList then .error .misuse
          else do (← options.set argument setting).takeAll none rest
      | none =>
          if argument = "--" then if rest.isEmpty then .ok options else .error .misuse
          else do
            let (options, waiting) ← options.take argument.toList
            options.takeAll waiting rest

def ofArguments (arguments : List String) : Except Refusal Options :=
  takeAll {} none arguments

end Options

end CameraBridge
