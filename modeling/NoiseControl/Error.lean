import NoiseControl.Event

/-!
# Errors

Why a request was not granted or a file not accepted, and the message that says so.
-/

namespace NoiseControl

inductive Lifecycle where
  | uninitialised
  | powerOff
  | disabled
  | enabled
  | tuning
  | adaptiveTuning
deriving DecidableEq, Inhabited

namespace Lifecycle

/-- The name of a state in messages. -/
def display : Lifecycle → String
  | uninitialised => "uninitialised"
  | powerOff => "power-off"
  | disabled => "disabled"
  | enabled => "enabled"
  | tuning => "tuning"
  | adaptiveTuning => "adaptive-tuning"

/-- The name of a state in reports. -/
def name : Lifecycle → String
  | uninitialised => "uninitialised"
  | powerOff => "power_off"
  | disabled => "disabled"
  | enabled => "enabled"
  | tuning => "tuning_active"
  | adaptiveTuning => "adaptive_tuning_active"

end Lifecycle

inductive ConfigFault where
  | invalidSide (text : String)
  | invalidAdaptive (text : String)
  | invalidModeCount (text : String)
  | modeCountOutOfRange (count : UInt8)
  | defaultModeOutside (mode : Mode) (count : UInt8)
  | callModeOutside (mode : Mode) (count : UInt8)
deriving DecidableEq

namespace ConfigFault

def message : ConfigFault → String
  | invalidSide text => s!"invalid ear side: {text}"
  | invalidAdaptive text => s!"invalid ANCD_ADAPTIVE: {text}"
  | invalidModeCount text => s!"invalid ANCD_NUM_MODES: {text}"
  | modeCountOutOfRange n => s!"num_modes must be between 1 and {Mode.limit}, got {n.toNat}"
  | defaultModeOutside m n => s!"default {m.display} outside {n.toNat} configured modes"
  | callModeOutside m n => s!"call {m.display} outside {n.toNat} configured modes"

end ConfigFault

inductive StartFault where
  | noMicrophones
  | probeRejected
deriving DecidableEq

namespace StartFault

def message : StartFault → String
  | noMicrophones => "no ANC microphones configured"
  | probeRejected => "audio subsystem rejected microphone configuration or licence"

end StartFault

inductive HardwareFault where
  | switch (on : Bool)
  | load (mode : Mode)
deriving DecidableEq

namespace HardwareFault

def message : HardwareFault → String
  | switch true => "failed to enable ANC hardware"
  | switch false => "failed to disable ANC hardware"
  | load m => s!"failed to load {m.display}"

end HardwareFault

inductive Error where
  | config (fault : ConfigFault)
  | start (fault : StartFault)
  | rejected (event : Event) (state : Lifecycle)
  | modeOutOfRange (mode : Mode) (count : UInt8)
  | hardware (fault : HardwareFault)
  /-- The place for the session file cannot be made. -/
  | persistence
  | io
  /-- A session file or record is not what it should be. -/
  | serialization
  | toml
deriving DecidableEq

namespace Error

/-- The message of an error; for the last four kinds the cause is not told. -/
def message : Error → String
  | config f => s!"configuration error: {f.message}"
  | start f => s!"initialisation failed: {f.message}"
  | rejected e s => "event '" ++ e.name ++ "' not handled in state " ++ s.display
  | modeOutOfRange m n => s!"{m.display} out of range ({n.toNat} modes configured)"
  | hardware f => s!"hardware error: {f.message}"
  | persistence => "persistence error"
  | io => "io error"
  | serialization => "serialization error"
  | toml => "toml error"

def isRejection : Error → Bool
  | rejected .. => true
  | _ => false

end Error

abbrev Outcome := Except Error Unit

/-- The first of two outcomes that failed, if one did. -/
def Outcome.andThen (first second : Outcome) : Outcome :=
  match first with
  | .ok () => second
  | .error e => .error e

end NoiseControl
