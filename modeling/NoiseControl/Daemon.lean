import NoiseControl.Console
import NoiseControl.Earbud.Delivery
import NoiseControl.Reports
import NoiseControl.Session.File

/-!
# The daemon

One earbud that is brought up from its session file, follows the commands of a console and is
powered off in the end.
-/

namespace NoiseControl.Daemon

/-- Which accesses to a session file fail: saving fails where nothing can be written. -/
def failuresAt (p : Place) : FailurePattern := fun _ call =>
  match call, p with
  | .save _, .blocked | .save _, .directory => true
  | _, _ => false

/-- The store that stands for a session file.  A file that cannot be read counts as none. -/
def storeOf (p : Place) : SessionStore :=
  match Session.load p with
  | .ok data => { data := data }
  | .error _ => {}

def start (c : Config) (clockOrigin : Option WallClock) (session : Place) : Except Error Earbud :=
  let b := { Earbud.new c clockOrigin (storeOf session) with failures := failuresAt session }
  match b.dispatch .initialise with
  | (_, .error e) => .error e
  | (b, .ok ()) =>
    match b.dispatch .powerOn with
    | (_, .error e) => .error e
    | (b, .ok ()) => .ok b

def status (b : Earbud) : String := b.runtime.toJson.indented

/-- Follow one line of the console: the earbud afterwards and the text to show, if any.  None
means that the daemon is to stop.  Lines that are no command, and commands that are refused, show
nothing. -/
def followLine (b : Earbud) (line : String) : Option (Earbud × Option String) :=
  match Console.parseLine line with
  | .ok (some .quit) => none
  | .ok (some .status) => some (b, some (status b))
  | .ok (some (.event e)) => some ((b.dispatch e).1, none)
  | .ok none | .error _ => some (b, none)

def followLines (b : Earbud) : List String → Earbud × List String
  | [] => (b, [])
  | line :: rest =>
    match followLine b line with
    | none => (b, [])
    | some (b, shown) =>
      let (b, more) := followLines b rest
      (b, shown.toList ++ more)

def stop (b : Earbud) : Earbud := (b.dispatch .powerOff).1

def sessionAfter (b : Earbud) (session : Place) : Place :=
  match b.store.saves, b.store.data with
  | 0, _ | _, none => session
  | _, some data => (data.saveTo session).1

/-- Run the daemon over the lines of its console, with no timer coming due meanwhile: what it
shows, and what lies in the place of the session file afterwards. -/
def run (c : Config) (clockOrigin : Option WallClock) (session : Place) (lines : List String) :
    Except Error (List String × Place) :=
  match start c clockOrigin session with
  | .error e => .error e
  | .ok b =>
    let (b, shown) := followLines b lines
    .ok (shown, sessionAfter (stop b) session)

end NoiseControl.Daemon
