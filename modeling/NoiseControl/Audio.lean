import NoiseControl.Layout
import NoiseControl.Mode

/-!
# The audio chain

The commands an earbud gives to its audio chain and noise cancelling hardware, and the part of
the chain's state that can be read back.
-/

namespace NoiseControl

inductive AudioCommand where
  | start (microphones : Microphones) (mode : Mode)
  | hardwareOn
  /-- Switch the hardware on with the feed-forward gains at zero. -/
  | hardwareOnMuted
  | hardwareOff
  | setMode (mode : Mode)
  | setModeIdentifier (mode : Mode)
  /-- Swap adaptive processing to a mode without muting the hardware. -/
  | swapModeLive (mode : Mode)
  /-- Ramp the gains of adaptive processing down. -/
  | gentleMute
  | quietModeOn
  | quietModeOff
  | setGain (channel : Channel) (path : GainPath) (gain : UInt8)
  | adaptiveOn (inEar : Bool) (controlPath : Option GainPath) (mode : Mode)
  | adaptiveOff
  | updateInEar (inEar : Bool)
  | applyPathGains
  | clockBoost (boost : Bool)
  | attachTuningLink (kind : TuningKind)
  | detachTuningLink
  | enterTuning (kind : TuningKind) (sampleRate : UInt32)
  | exitTuning (kind : TuningKind)
deriving DecidableEq

def AudioCommand.isFallible : AudioCommand → Bool
  | .start .. | .hardwareOn | .hardwareOnMuted | .hardwareOff | .setMode _ | .setGain ..
  | .adaptiveOn .. => true
  | _ => false

/-- The gains that were written on a channel since its mode was loaded. -/
structure ChannelGains where
  ffa : Option UInt8 := none
  ffb : Option UInt8 := none
  fb : Option UInt8 := none
deriving DecidableEq, Inhabited

namespace ChannelGains

def get? (g : ChannelGains) : GainPath → Option UInt8
  | .ffa => g.ffa
  | .ffb => g.ffb
  | .fb => g.fb

def set (g : ChannelGains) (path : GainPath) (gain : UInt8) : ChannelGains :=
  match path with
  | .ffa => { g with ffa := some gain }
  | .ffb => { g with ffb := some gain }
  | .fb => { g with fb := some gain }

end ChannelGains

structure AudioChain where
  on : Bool := false
  adaptive : Bool := false
  quiet : Bool := false
  mode : Mode := ⟨0⟩
  left : ChannelGains := {}
  right : ChannelGains := {}
  /-- A feed-forward gain to read in place of the chain's own. -/
  fixedReading : Option UInt8 := none
deriving DecidableEq

namespace AudioChain

/-- The gain a path has when none was written: 64 and 16 more for each mode, at most 255. -/
def modeGain (m : Mode) : UInt8 := UInt8.ofNat (min 255 (64 + min 255 (16 * m.index.toNat)))

def gains (a : AudioChain) : Channel → ChannelGains
  | .left => a.left
  | .right => a.right

def readGain (a : AudioChain) (c : Channel) (p : GainPath) : UInt8 :=
  ((a.gains c).get? p).getD (modeGain a.mode)

def writeGain (a : AudioChain) (c : Channel) (p : GainPath) (gain : UInt8) : AudioChain :=
  match c with
  | .left => { a with left := a.left.set p gain }
  | .right => { a with right := a.right.set p gain }

/-- Forget the written gains, so that every path has the gain of the mode. -/
def clearGains (a : AudioChain) : AudioChain := { a with left := {}, right := {} }

/-- The adaptive feed-forward gain, which is lower in quiet mode. -/
def feedForwardGain (a : AudioChain) : UInt8 :=
  a.fixedReading.getD (if a.quiet then 32 else 128)

def perform (a : AudioChain) : AudioCommand → AudioChain
  | .start _ m => { a with mode := m }
  | .hardwareOn => { a with on := true }
  | .hardwareOnMuted =>
    { (a.writeGain .left .ffa 0).writeGain .right .ffa 0 with on := true }
  | .hardwareOff => { a with on := false }
  | .setMode m => { a.clearGains with mode := m }
  | .quietModeOn => { a with quiet := true }
  | .quietModeOff => { a with quiet := false }
  | .setGain c p g => a.writeGain c p g
  | .adaptiveOn .. => { a with adaptive := true }
  | .adaptiveOff => { a with adaptive := false }
  | .applyPathGains => a.clearGains
  | .exitTuning .adaptive => { a with adaptive := false }
  | _ => a

end AudioChain

/-! ### Ramping down -/

def coarseSteps (gain : Nat) : List Nat :=
  if 12 < gain then gain :: coarseSteps (gain - 2) else []
termination_by gain

def fineSteps : Nat → List Nat
  | 0 => [0]
  | n + 1 => (n + 1) :: fineSteps n

/-- The gains written to mute a path from a gain: by two while above twelve, then from twelve,
or from the gain itself if that is less, by one down to zero. -/
def rampSteps (gain : UInt8) : List UInt8 :=
  (coarseSteps gain.toNat ++ fineSteps (min gain.toNat 12)).map UInt8.ofNat

end NoiseControl
