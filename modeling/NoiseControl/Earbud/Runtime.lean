import NoiseControl.Error

/-!
# The state of an earbud

All that an earbud tracks between events.
-/

namespace NoiseControl

structure Runtime where
  state : Lifecycle := .uninitialised
  powerOn : Bool := false
  /-- Noise control is asked for; saved when the power goes off. -/
  requestedEnabled : Bool := false
  /-- The hardware state confirmed last. -/
  actualEnabled : Bool := false
  currentMode : Mode := ⟨0⟩
  /-- The mode to apply next. -/
  requestedMode : Mode := ⟨0⟩
  /-- The mode to go back to after a call. -/
  previousMode : Mode := ⟨0⟩
  /-- How many modes there are, zero before initialisation. -/
  numModes : UInt8 := 0
  leakthroughGain : UInt8 := 0
  feedForwardGain : UInt8 := 0
  /-- The user switched noise control on during a call. -/
  userEnabled : Bool := false
  /-- The user changed the mode during a call. -/
  userSwitchedMode : Bool := false
  /-- A call forced noise control on. -/
  enabledForCall : Bool := false
  /-- A call forced another mode. -/
  modeForCall : Bool := false
  /-- The hardware is being reconfigured. -/
  clockBoost : Bool := false
  peerInCase : Bool := false
  placement : Placement := .outOfEar
  tuningSampleRate : Option UInt32 := none
deriving DecidableEq

namespace Runtime

def clearUserFlags (r : Runtime) : Runtime :=
  { r with userEnabled := false, userSwitchedMode := false }

def clearCall (r : Runtime) : Runtime :=
  { r.clearUserFlags with enabledForCall := false, modeForCall := false }

end Runtime

end NoiseControl
