import NoiseControl.Config.Load
import NoiseControl.Daemon
import NoiseControl.Simulation

/-!
# The command line

Options come before the command, and a command is one of three: to run the daemon, which is also
what happens without a command, to simulate a pair, and to show the configuration.
-/

namespace NoiseControl.CommandLine

inductive Command where
  | run
  | simulate (quiet : Nat)
  | config
deriving DecidableEq

inductive Request where
  /-- Carry out a command with the configuration of a file, or of the user if none is named. -/
  | perform (configPath : Option String) (command : Command)
  | version
  | help
  | misuse
deriving DecidableEq

/-! ### Arguments -/

/-- Whether an argument can be the value of an option before it: it does not look like an
option. -/
def isValue (arg : String) : Bool := arg == "-" || !arg.startsWith "-"

/-- The name and the value of a long option, which may be joined by an equals sign. -/
def splitLong (arg : String) : String × Option String :=
  let (name, rest) := (arg.toList.drop 2).span (· != '=')
  (String.ofList name,
    match rest with
    | _ :: value => some (String.ofList value)
    | [] => none)

def parseSimulate (configPath : Option String) (quiet : Option Nat) (awaited : Bool) :
    List String → Request
  | [] =>
    if awaited then .misuse else .perform configPath (.simulate (quiet.getD 1000))
  | arg :: rest =>
    let adopt (value : String) : Request :=
      match quiet, Text.number? 18446744073709551615 value.toList with
      | none, some n => parseSimulate configPath (some n) false rest
      | _, _ => .misuse
    if awaited then if isValue arg then adopt arg else .misuse
    else if arg == "--" then
      if rest.isEmpty then .perform configPath (.simulate (quiet.getD 1000)) else .misuse
    else if arg == "-h" || arg == "--help" then .help
    else
      match arg.startsWith "--", splitLong arg with
      | true, ("quiet-ms", none) => parseSimulate configPath quiet true rest
      | true, ("quiet-ms", some value) => adopt value
      | _, _ => .misuse

def parseBare (configPath : Option String) (command : Command) : List String → Request
  | [] | ["--"] => .perform configPath command
  | "-h" :: _ | "--help" :: _ => .help
  | _ => .misuse

def parseCommand (configPath : Option String) : List String → Request
  | [] => .perform configPath .run
  | "run" :: rest => parseBare configPath .run rest
  | "config" :: rest => parseBare configPath .config rest
  | "simulate" :: rest => parseSimulate configPath none false rest
  | ["help"] => .help
  | ["help", topic] =>
    if ["run", "simulate", "config", "help"].contains topic then .help else .misuse
  | _ => .misuse

inductive Letters where
  | done
  | configPath (value : String)
  /-- That the next argument is that value. -/
  | awaitConfigPath
  | version
  | help
  | misuse

/-- Read a group of one-letter options.  The rest of the group after the option that takes a
value is the value, after an equals sign if there is one. -/
def parseLetters : List Char → Letters
  | [] => .done
  | 'v' :: rest => parseLetters rest
  | ['c'] => .awaitConfigPath
  | 'c' :: '=' :: value => .configPath (String.ofList value)
  | 'c' :: value => .configPath (String.ofList value)
  | 'V' :: _ => .version
  | 'h' :: _ => .help
  | _ => .misuse

/-- Read the options before the command, given the configuration file named so far and whether
its name is still to come.  It is named once, and its name is not empty. -/
def parseOptions (named : Option String) (awaited : Bool) : List String → Request
  | [] => if awaited then .misuse else parseCommand named []
  | arg :: rest =>
    let adopt (value : String) : Request :=
      if named.isSome || value.isEmpty then .misuse else parseOptions (some value) false rest
    if awaited then if isValue arg then adopt arg else .misuse
    else if arg == "--" then if rest.isEmpty then parseCommand named [] else .misuse
    else if arg.startsWith "--" then
      match splitLong arg with
      | ("config", none) => parseOptions named true rest
      | ("config", some value) => adopt value
      | ("verbose", none) => parseOptions named false rest
      | ("version", none) => .version
      | ("help", none) => .help
      | _ => .misuse
    else if isValue arg then parseCommand named (arg :: rest)
    else
      match parseLetters (arg.toList.drop 1) with
      | .done => parseOptions named false rest
      | .configPath value => adopt value
      | .awaitConfigPath => parseOptions named true rest
      | .version => .version
      | .help => .help
      | .misuse => .misuse

/-- Read all arguments.  A configuration file that no option names may be named by the
environment. -/
def parse (args : List String) (env : Environment) : Request :=
  match parseOptions none false args with
  | .perform none command =>
    match env "ANCD_CONFIG" with
    | some "" => .misuse
    | path => .perform path command
  | request => request

/-! ### Carrying out -/

/-- What a run shows and how it ends.  A run of the daemon also leaves something in the place of
its session file. -/
structure Answer where
  exitCode : UInt32
  output : List String
  session : Option (String × Place) := none

def versionText : String := "ancd 0.1.0"

def helpText : List String :=
  ["ANC manager for a pair of earbuds", "", "Usage: ancd [OPTIONS] [COMMAND]", "", "Commands:",
    "  run       Run the daemon (default)", "  simulate  Simulate a quiet-mode negotiation",
    "  config    Show the configuration", "", "Options:",
    "  -c, --config <CONFIG>  Configuration file", "  -v, --verbose...       More messages",
    "  -h, --help             Show this help", "  -V, --version          Show the version"]

def sessionPath (env : Environment) : String :=
  ((Directories.ofEnvironment? env).map Directories.sessionFile).getD "session.json"

def configFile? (configPath : Option String) (env : Environment) : Option String :=
  match configPath with
  | some path => some path
  | none => (Directories.ofEnvironment? env).map Directories.configFile

/-- Load the configuration.  A file that was named has to be readable. -/
def loadConfig (configPath : Option String) (env : Environment) (files : String → Place) :
    Except Error Config :=
  let base := Config.standard (sessionPath env)
  let place := ((configFile? configPath env).map files).getD .vacant
  if configPath.isSome then Config.loadNamed base place env else Config.loadStandard base place env

def linesOf (text : String) : List String := text.splitOn "\n"

/-- No simulation takes more steps than this. -/
def simulationFuel : Nat := Nat.pow 2 62

/-- Carry out a request, with the lines of the console and no timer of the daemon coming due. -/
def answer (request : Request) (env : Environment) (files : String → Place)
    (console : List String) : Answer :=
  match request with
  | .version => ⟨0, [versionText], none⟩
  | .help => ⟨0, helpText, none⟩
  | .misuse => ⟨2, [], none⟩
  | .perform configPath command =>
    match loadConfig configPath env files with
    | .error _ => ⟨1, [], none⟩
    | .ok c =>
      match command with
      | .config => ⟨0, linesOf c.toJson.indented, none⟩
      | .simulate quiet =>
        match Simulation.run? c (millis quiet) simulationFuel with
        | some (lines, .ok ()) => ⟨0, lines, none⟩
        | some (lines, .error _) => ⟨1, lines, none⟩
        | none => ⟨1, [], none⟩
      | .run =>
        match Daemon.run c none (files c.persist.path) console with
        | .error _ => ⟨1, [], none⟩
        | .ok (shown, session) =>
          ⟨0, shown.flatMap linesOf, some (c.persist.path, session)⟩

end NoiseControl.CommandLine
