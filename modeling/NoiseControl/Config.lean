import NoiseControl.Error
import NoiseControl.Layout

/-!
# Configuration

What an earbud is set up with, its standard values, and the constraints between them.
-/

namespace NoiseControl

structure CallSettings where
  /-- Force noise control on for the length of a call. -/
  implicitEnable : Bool := true
  mode : Mode := ⟨1⟩
deriving DecidableEq

/-- Lengths of time, in microseconds. -/
structure Timing where
  /-- From the decision on a quiet-mode transition to its instant. -/
  quietModeDelay : Nat := millis 200
  /-- The ramp before filters are swapped or switched off. -/
  gentleMute : Nat := millis 100
  /-- From switching the hardware on to starting adaptive processing. -/
  configSettle : Nat := 0
  /-- Between two readings of the adaptive feed-forward gain. -/
  gainPoll : Nat := millis 250
  /-- From switching the hardware on to applying fixed filter gains. -/
  pathGainSettle : Nat := millis 500
deriving DecidableEq

structure PersistSettings where
  enabled : Bool := true
  mode : Bool := true
  path : String
deriving DecidableEq

structure Config where
  numModes : UInt8
  /-- The mode used when no valid one was saved. -/
  defaultMode : Mode
  microphones : Microphones
  layout : FilterLayout
  adaptive : Bool
  call : CallSettings
  timing : Timing
  persist : PersistSettings
  side : Side
deriving DecidableEq

namespace Config

/-- The standard configuration: a hybrid adaptive left earbud with ten modes that keeps its
session in a given file. -/
def standard (sessionPath : String) : Config where
  numModes := 10
  defaultMode := .adaptive
  microphones := { feedForwardLeft := some 1, feedBackLeft := some 2 }
  layout := .hybrid
  adaptive := true
  call := {}
  timing := {}
  persist := { path := sessionPath }
  side := .left

/-- Check the constraints between values and name the first that is broken. -/
def check (c : Config) : Except ConfigFault Unit :=
  if c.numModes.toNat < 1 || Mode.limit < c.numModes.toNat then
    .error (.modeCountOutOfRange c.numModes)
  else if c.numModes ≤ c.defaultMode.index then
    .error (.defaultModeOutside c.defaultMode c.numModes)
  else if c.call.implicitEnable && decide (c.numModes ≤ c.call.mode.index) then
    .error (.callModeOutside c.call.mode c.numModes)
  else .ok ()

theorem check_standard (sessionPath : String) : (standard sessionPath).check = .ok () := rfl

end Config

end NoiseControl
