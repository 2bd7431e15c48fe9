import NoiseControl.Error

/-!
# Places for files

What may lie where a file is looked for, and what reading and writing there does.
-/

namespace NoiseControl

inductive Place where
  /-- Nothing; a file and the directories above it can be made. -/
  | vacant
  | file (content : ByteArray)
  /-- Something that is no directory lies above. -/
  | blocked
  /-- A directory. -/
  | directory

namespace Place

/-- The text of a file, which has to be there and to be UTF-8. -/
def text? : Place → Option String
  | file content => String.fromUTF8? content
  | _ => none

def read (p : Place) : Except Error String :=
  match p.text? with
  | some text => .ok text
  | none => .error .io

/-- Whether anything lies here.  What lies below something else than a directory is not here. -/
def isPresent : Place → Bool
  | file _ | directory => true
  | vacant | blocked => false

/-- Write a text in place of whatever file lies here, making the directories above it. -/
def write (p : Place) (text : String) : Place × Outcome :=
  match p with
  | vacant | file _ => (.file text.toUTF8, .ok ())
  | blocked => (p, .error .persistence)
  | directory => (p, .error .io)

end Place

structure Directories where
  config : String
  data : String

abbrev Environment := String → Option String

namespace Directories

def ofHome (home : String) : Directories := ⟨home ++ "/.config", home ++ "/.local/share"⟩

/-- The directories of an environment: those it names, as long as their names are absolute, and
else those below the home directory. -/
def ofEnvironment? (env : Environment) : Option Directories := do
  let home ← env "HOME"
  let standard := ofHome home
  let named (name standard : String) : String :=
    match env name with
    | some path => if path.startsWith "/" then path else standard
    | none => standard
  some ⟨named "XDG_CONFIG_HOME" standard.config, named "XDG_DATA_HOME" standard.data⟩

def configFile (d : Directories) : String := d.config ++ "/earbud-anc/config.toml"

def sessionFile (d : Directories) : String := d.data ++ "/earbud-anc/session.json"

end Directories

end NoiseControl
