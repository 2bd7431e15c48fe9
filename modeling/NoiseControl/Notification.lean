import NoiseControl.Mode
import NoiseControl.QuietMode.Record

/-!
# Notifications

What an earbud tells its clients.
-/

namespace NoiseControl

inductive Notification where
  | stateChanged (enabled : Bool)
  | modeChanged (mode : Mode)
  | leakthroughGainChanged (gain : UInt8)
  | adaptiveStateChanged (enabled : Bool)
  /-- The feed-forward gain read on this earbud. -/
  | feedForwardGain (gain : UInt8)
  /-- The feed-forward gains of both earbuds, by ear. -/
  | feedForwardGains (left right : UInt8)
  /-- The local quiet-mode record was published. -/
  | quietModeUpdated (record : QuietMode.Record)
  | quietModeOn
  | quietModeOff
deriving DecidableEq

end NoiseControl
