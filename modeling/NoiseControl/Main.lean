import NoiseControl.CommandLine

/-!
# The program

Reads the arguments, the environment and the files, and runs what they ask for.  The daemon moves
the virtual time of its earbud along with the time of the host.
-/

namespace NoiseControl.Main

def variableNames : List String :=
  ["HOME", "XDG_CONFIG_HOME", "XDG_DATA_HOME", "ANCD_CONFIG", "ANCD_SIDE", "ANCD_ADAPTIVE",
    "ANCD_NUM_MODES"]

def readEnvironment : IO Environment := do
  let values ← variableNames.mapM fun name => do return (name, ← IO.getEnv name)
  return fun name => (values.lookup name).join

/-- What lies at a path.  A path that cannot be read, but not because nothing lies there, counts
as a directory. -/
def placeAt (path : String) : IO Place := do
  try
    return .file (← IO.FS.readBinFile path)
  catch
    | .noFileOrDirectory .. => return .vacant
    | _ => return .directory

def parent? (path : String) : Option String :=
  match (path.splitOn "/").dropLast with
  | [] | [""] => none
  | parts => some ("/".intercalate parts)

/-- Write the session of an earbud if it was saved since `former`. -/
def keepSession (path : String) (former b : Earbud) : IO Unit := do
  if former.store.saves < b.store.saves then
    match b.store.data with
    | none => return
    | some s =>
      try
        if let some directory := parent? path then IO.FS.createDirAll directory
        IO.FS.writeFile path s.render
      catch e => IO.eprintln s!"session not saved: {e}"

def printNotifications (b : Earbud) : IO Earbud := do
  let (clients, received) := b.clients.readAll 0
  for r in received do
    match r with
    | .item n => IO.println n.toJson.compact
    | .lagged lost => IO.eprintln s!"lost {lost} notifications"
  return { b with clients := clients }

def hostMicros : IO Nat := do return (← IO.monoNanosNow) / 1000

/-- How many timers are delivered before the console is looked at again. -/
def deliveryLimit : Nat := 64

/-- Deliver timers and follow the console until it asks to stop.  A console that is closed leaves
the timers running. -/
partial def serve (path : String) (began : Nat) (b : Earbud)
    (line : Option (Task (Except IO.Error String))) (input : IO.FS.Stream) : IO Earbud := do
  let (next, _) := b.runUntil ((← hostMicros) - began) deliveryLimit
  keepSession path b next
  let b ← printNotifications next
  match line with
  | none =>
    IO.sleep 1
    serve path began b none input
  | some task =>
    if ← IO.hasFinished task then
      match task.get with
      | .error _ | .ok "" => serve path began b none input
      | .ok text =>
        match Daemon.followLine b text with
        | none => return b
        | some (next, shown) =>
          keepSession path b next
          let next ← printNotifications next
          if let some text := shown then IO.println text
          (← IO.getStdout).flush
          serve path began next (some (← IO.asTask input.getLine .dedicated)) input
    else
      IO.sleep 1
      serve path began b line input

def runDaemon (c : Config) : IO UInt32 := do
  let path := c.persist.path
  let began ← hostMicros
  match Daemon.start c (some (.reading began)) (← placeAt path) with
  | .error e =>
    IO.eprintln s!"fatal: {e.message}"
    return 1
  | .ok b =>
    let input ← IO.getStdin
    let b := { b with clients := b.clients.subscribe }
    let b ← serve path began b (some (← IO.asTask input.getLine .dedicated)) input
    let stopped := Daemon.stop b
    keepSession path b stopped
    let _ ← printNotifications stopped
    return 0

def run (args : List String) : IO UInt32 := do
  let env ← readEnvironment
  let request := CommandLine.parse args env
  let configPath := match request with
    | .perform path _ => path
    | _ => none
  let file? := CommandLine.configFile? configPath env
  let place ← match file? with
    | some path => placeAt path
    | none => pure .vacant
  let files : String → Place := fun path => if some path = file? then place else .vacant
  match request with
  | .perform path .run =>
    match CommandLine.loadConfig path env files with
    | .ok c => runDaemon c
    | .error e =>
      IO.eprintln s!"fatal: {e.message}"
      return 1
  | request =>
    let answer := CommandLine.answer request env files []
    for line in answer.output do IO.println line
    if answer.exitCode = 2 then
      for line in CommandLine.helpText do IO.eprintln line
    return answer.exitCode

end NoiseControl.Main

def main (args : List String) : IO UInt32 := NoiseControl.Main.run args
