import NoiseControl.Config
import NoiseControl.Earbud.Runtime
import NoiseControl.Notification
import NoiseControl.QuietMode.Codec

/-!
# Reports

Notifications, states and configurations as JSON, with their fields in a fixed order.
-/

namespace NoiseControl

def FilterLayout.ofJson? (j : Json) : Option FilterLayout := j.choice?.bind FilterLayout.ofName?

def Mode.toJson (m : Mode) : Json := .byte m.index

namespace Notification

def typeName : Notification → String
  | stateChanged _ => "state_changed"
  | modeChanged _ => "mode_changed"
  | leakthroughGainChanged _ => "leakthrough_gain_changed"
  | adaptiveStateChanged _ => "adaptive_state_changed"
  | feedForwardGain _ => "feed_forward_gain"
  | feedForwardGains _ _ => "feed_forward_gains"
  | quietModeUpdated _ => "quiet_mode_updated"
  | quietModeOn => "quiet_mode_on"
  | quietModeOff => "quiet_mode_off"

def members : Notification → List (String × Json)
  | stateChanged enabled => [("enabled", .bool enabled)]
  | modeChanged m => [("mode", m.toJson)]
  | leakthroughGainChanged gain => [("gain", .byte gain)]
  | adaptiveStateChanged enabled => [("enabled", .bool enabled)]
  | feedForwardGain gain => [("gain", .byte gain)]
  | feedForwardGains left right => [("left", .byte left), ("right", .byte right)]
  | quietModeUpdated r => r.members
  | quietModeOn | quietModeOff => []

def toJson (n : Notification) : Json := .record (("type", .text n.typeName) :: n.members)

end Notification

def Runtime.toJson (r : Runtime) : Json :=
  .record
    [("state", .text r.state.name), ("power_on", .bool r.powerOn),
      ("requested_enabled", .bool r.requestedEnabled), ("actual_enabled", .bool r.actualEnabled),
      ("current_mode", r.currentMode.toJson), ("requested_mode", r.requestedMode.toJson),
      ("previous_mode", r.previousMode.toJson), ("num_modes", .byte r.numModes),
      ("leakthrough_gain", .byte r.leakthroughGain),
      ("feed_forward_gain", .byte r.feedForwardGain),
      ("user_initiated_enable", .bool r.userEnabled),
      ("user_initiated_mode_switch", .bool r.userSwitchedMode),
      ("implicit_enable_active", .bool r.enabledForCall),
      ("mode_override_active", .bool r.modeForCall), ("dsp_clock_boost", .bool r.clockBoost),
      ("peer_in_case", .bool r.peerInCase), ("phy_state", .text r.placement.name),
      ("tuning_sample_rate", .ofOption (fun rate => .nat rate.toNat) r.tuningSampleRate)]

def Microphones.toJson (m : Microphones) : Json :=
  .record
    [("feed_forward_left", .ofOption .byte m.feedForwardLeft),
      ("feed_forward_right", .ofOption .byte m.feedForwardRight),
      ("feed_back_left", .ofOption .byte m.feedBackLeft),
      ("feed_back_right", .ofOption .byte m.feedBackRight)]

/-- A length of time in whole seconds and the nanoseconds beyond them. -/
def durationJson (micros : Nat) : Json :=
  .record [("secs", .nat (micros / 1000000)), ("nanos", .nat (micros % 1000000 * 1000))]

namespace Config

def toJson (c : Config) : Json :=
  .record
    [("num_modes", .byte c.numModes), ("default_mode", c.defaultMode.toJson),
      ("microphones", c.microphones.toJson), ("path", .text c.layout.name),
      ("adaptive", .bool c.adaptive),
      ("call", .record
        [("implicit_enable", .bool c.call.implicitEnable), ("mode", c.call.mode.toJson)]),
      ("timing", .record
        [("quiet_mode_delay", durationJson c.timing.quietModeDelay),
          ("gentle_mute", durationJson c.timing.gentleMute),
          ("config_settle", durationJson c.timing.configSettle),
          ("ff_gain_poll", durationJson c.timing.gainPoll),
          ("path_gain_settle", durationJson c.timing.pathGainSettle)]),
      ("persist", .record
        [("enabled", .bool c.persist.enabled), ("mode", .bool c.persist.mode),
          ("path", .text c.persist.path)]),
      ("side", .text c.side.name)]

end Config

end NoiseControl
