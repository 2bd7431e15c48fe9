import NoiseControl.QuietMode.Record

/-!
# Timer kinds

An earbud has at most one timer of each kind.
-/

namespace NoiseControl

inductive TimerKind where
  /-- Adaptive processing may start. -/
  | configSettle
  /-- The gains have ramped down for a pending switch off. -/
  | muteBeforeDisable
  /-- The gains have ramped down for a pending mode. -/
  | muteBeforeMode
  /-- Fixed filter gains may be applied. -/
  | pathGainSettle
  /-- The adaptive feed-forward gain is to be read. -/
  | gainPoll
  /-- The agreed instant of a quiet-mode transition has come. -/
  | quietMode (direction : QuietMode.Direction)
deriving DecidableEq

namespace TimerKind

/-- Every kind, in the order of reports. -/
def all : List TimerKind :=
  [configSettle, muteBeforeDisable, muteBeforeMode, pathGainSettle, gainPoll,
    quietMode .enable, quietMode .disable]

def name : TimerKind → String
  | configSettle => "config-settle"
  | muteBeforeDisable => "gentle-mute-disable"
  | muteBeforeMode => "gentle-mute-mode-update"
  | pathGainSettle => "path-gain-settle"
  | gainPoll => "ff-gain-poll"
  | quietMode d => s!"quiet-mode-{d.name}"

theorem mem_all (k : TimerKind) : k ∈ all := by
  rcases k with _ | _ | _ | _ | _ | ⟨_ | _⟩ <;> decide

end TimerKind

end NoiseControl
