import NoiseControl.Config
import NoiseControl.Files
import NoiseControl.Text.Blank
import NoiseControl.Text.Decimal

/-!
# Settings from the environment

Three variables override the side, whether adaptive processing is available, and the number of
modes.  A variable that cannot be read is an error; those before it have taken effect by then.
-/

namespace NoiseControl

/-- A word of a variable: without the white space around it, and in lower case. -/
def plainWord (s : String) : String := Text.lowerAscii (Text.trimString s)

def Side.parse (s : String) : Except ConfigFault Side :=
  match plainWord s with
  | "left" | "l" => .ok .left
  | "right" | "r" => .ok .right
  | other => .error (.invalidSide other)

def switch? (s : String) : Option Bool :=
  match plainWord s with
  | "1" | "true" | "yes" | "on" => some true
  | "0" | "false" | "no" | "off" => some false
  | _ => none

namespace Config

def override {α : Type} (c : Config) (value : Option String) (read : String → Except ConfigFault α)
    (adopt : Config → α → Config) : Config × Except ConfigFault Unit :=
  match value with
  | none => (c, .ok ())
  | some s =>
    match read s with
    | .ok a => (adopt c a, .ok ())
    | .error fault => (c, .error fault)

def readAdaptive (s : String) : Except ConfigFault Bool :=
  match switch? s with
  | some b => .ok b
  | none => .error (.invalidAdaptive s)

def readModeCount (s : String) : Except ConfigFault UInt8 :=
  match Text.number? 255 (Text.trim s.toList) with
  | some n => .ok (UInt8.ofNat n)
  | none => .error (.invalidModeCount s)

/-- Adopt what the environment sets, up to the first variable that cannot be read. -/
def applyEnvironment (c : Config) (env : Environment) : Config × Except ConfigFault Unit :=
  match c.override (env "ANCD_SIDE") Side.parse fun c s => { c with side := s } with
  | (c, .error fault) => (c, .error fault)
  | (c, .ok ()) =>
    match c.override (env "ANCD_ADAPTIVE") readAdaptive fun c b => { c with adaptive := b } with
    | (c, .error fault) => (c, .error fault)
    | (c, .ok ()) =>
      c.override (env "ANCD_NUM_MODES") readModeCount fun c n => { c with numModes := n }

end Config

end NoiseControl
