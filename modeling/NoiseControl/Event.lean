import NoiseControl.Mode
import NoiseControl.Timer.Kind

/-!
# Events

All that reaches an earbud: requests of its user, placements, reports of adaptive processing and
of the peer, and timers that expired.
-/

namespace NoiseControl

/-- Which earbud of a pair something was observed on. -/
inductive Whose where
  | own
  | peer
deriving DecidableEq

inductive Placement where
  | inEar
  | outOfEar
  | atRest
  | inCase
deriving DecidableEq, Inhabited

namespace Placement

def name : Placement → String
  | inEar => "in_ear"
  | outOfEar => "out_of_ear"
  | atRest => "out_of_ear_at_rest"
  | inCase => "in_case"

end Placement

/-- The noise control state a peer reports of itself. -/
structure PeerReport where
  enabled : Bool
  mode : Mode
  leakthroughGain : UInt8
deriving DecidableEq

inductive Event where
  | initialise
  | powerOn
  | powerOff
  | enable
  | disable
  | setMode (mode : Mode)
  | setNextMode
  | setLeakthroughGain (gain : UInt8)
  | enterTuning
  | exitTuning
  | enterAdaptiveTuning
  | exitAdaptiveTuning
  | callStarted
  | callEnded
  /-- A tuning host was attached; the rate is the one it agreed on. -/
  | tuningLinkAttached (sampleRate : UInt32)
  | tuningLinkDetached
  | placed (whose : Whose) (placement : Placement)
  | silenceDetected
  | silenceCleared
  /-- The agreed instant of a quiet-mode transition came. -/
  | quietModeFire (direction : QuietMode.Direction)
  | peerRecord (record : QuietMode.Record)
  | peerState (report : PeerReport)
  | peerFeedForwardGain (gain : UInt8)
  | peerLinkLost
  | timerExpired (kind : TimerKind)
deriving DecidableEq

namespace Event

/-- The short name of an event, as messages give it. -/
def name : Event → String
  | initialise => "initialise"
  | powerOn => "power-on"
  | powerOff => "power-off"
  | enable => "enable"
  | disable => "disable"
  | setMode _ => "set-mode"
  | setNextMode => "set-next-mode"
  | setLeakthroughGain _ => "set-leakthrough-gain"
  | enterTuning => "enter-tuning"
  | exitTuning => "exit-tuning"
  | enterAdaptiveTuning => "enter-adaptive-tuning"
  | exitAdaptiveTuning => "exit-adaptive-tuning"
  | callStarted => "implicit-enable"
  | callEnded => "implicit-disable"
  | tuningLinkAttached _ => "tuning-link-attached"
  | tuningLinkDetached => "tuning-link-detached"
  | placed _ _ => "phy-state-changed"
  | silenceDetected => "quiet-mode-detected"
  | silenceCleared => "quiet-mode-cleared"
  | quietModeFire _ => "quiet-mode-fire"
  | peerRecord _ => "peer-quiet-mode"
  | peerState _ => "peer-anc-state"
  | peerFeedForwardGain _ => "peer-ff-gain"
  | peerLinkLost => "peer-link-lost"
  | timerExpired _ => "timer-expired"

end Event

end NoiseControl
