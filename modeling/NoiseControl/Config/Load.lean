import NoiseControl.Config.Environment
import NoiseControl.Config.File

/-!
# Loading the configuration

The environment goes before the file and the file before the standard values.  The result has to
pass the check of its constraints.
-/

namespace NoiseControl.Config

def ofSources (base : Config) (file : ConfigFile) (env : Environment) : Except Error Config :=
  match (base.overlay file).applyEnvironment env with
  | (_, .error fault) => .error (.config fault)
  | (c, .ok ()) =>
    match c.check with
    | .error fault => .error (.config fault)
    | .ok () => .ok c

/-- Load from a file that was named; it has to be readable. -/
def loadNamed (base : Config) (p : Place) (env : Environment) : Except Error Config :=
  match ConfigFile.load p with
  | .ok file => ofSources base file env
  | .error e => .error e

/-- Load from the file of the user; without one that is readable the base holds. -/
def loadStandard (base : Config) (p : Place) (env : Environment) : Except Error Config :=
  match ConfigFile.load p with
  | .ok file => ofSources base file env
  | .error _ => ofSources base {} env

end NoiseControl.Config
