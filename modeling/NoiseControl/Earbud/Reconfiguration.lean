import NoiseControl.Earbud.Gain

/-!
# Reconfiguration

Bringing the hardware to a state and a mode, switching noise control off, and saving the session
when the power goes off.
-/

namespace NoiseControl.Earbud

/-! ### The session -/

/-- Save the parts of the session that are to be kept, and keep the other parts as they were
saved before. -/
def persistSession (b : Earbud) : Earbud :=
  let settings := b.config.persist
  if settings.enabled || settings.mode then
    let (b, saved) := b.loadSession
    let saved := saved.getD {}
    b.saveSession
      { enabled := if settings.enabled then b.runtime.requestedEnabled else saved.enabled
        mode := if settings.mode then b.runtime.requestedMode else saved.mode }
  else b

/-! ### Changing state -/

/-- Cancel the timers that settle adaptive processing and complete gentle mutes. -/
def stopSettleTimers (b : Earbud) : Earbud :=
  ((b.cancel .configSettle).cancel .muteBeforeDisable).cancel .muteBeforeMode

/-- Go to a state.  Powering off stops the timers of the hardware and saves the session. -/
def enter (b : Earbud) (state : Lifecycle) : Earbud :=
  let b :=
    if state = .powerOff ∧ b.runtime.state ≠ .uninitialised then
      (b.stopSettleTimers.cancel .pathGainSettle).persistSession
    else b
  b.setRuntime fun r => { r with state := state }

/-! ### The hardware -/

def boost (b : Earbud) (on : Bool) : Earbud :=
  (b.setRuntime fun r => { r with clockBoost := on }).command (.clockBoost on)

/-- Load the filters of a mode.  They bring path gains of their own, so without adaptive
processing nothing is left to settle. -/
def loadMode (b : Earbud) (m : Mode) : Earbud × Bool :=
  (if b.audio.adaptive then b else b.cancel .pathGainSettle).attempt (.setMode m)

def identifyMode (b : Earbud) (m : Mode) (running : Bool) : Earbud :=
  if running then b.command (.setModeIdentifier m) else b

/-- A mode could not be applied: what is asked for is again what there is. -/
def abandonMode (b : Earbud) (running : Bool) : Earbud :=
  (b.setRuntime fun r => { r with requestedMode := r.currentMode }).identifyMode
    b.runtime.currentMode running

def applyMode (b : Earbud) (m : Mode) : Earbud × Outcome :=
  let running := b.audio.adaptive
  let b := b.identifyMode m running
  if b.runtime.numModes ≤ m.index then
    (b.abandonMode running, .error (.modeOutOfRange m b.runtime.numModes))
  else
    match b.loadMode m with
    | (b, false) => (b.abandonMode running, .error (.hardware (.load m)))
    | (b, true) =>
      let b := b.setRuntime fun r => { r with currentMode := m }
      let b := if b.runtime.actualEnabled && b.config.adaptive then b.command (.swapModeLive m) else b
      let b := b.announce (.modeChanged m)
      (b.refreshLeakthrough.announceLeakthrough, .ok ())

/-- Switch the hardware on.  Fixed filters start muted, and their gains are applied once they
have settled. -/
def hardwareOn (b : Earbud) : Earbud × Bool :=
  if b.config.adaptive then b.attempt .hardwareOn
  else
    match b.attempt .hardwareOnMuted with
    | (b, true) => (b.arm .pathGainSettle b.config.timing.pathGainSettle, true)
    | (b, false) => (b, false)

/-- Switch the hardware off, after a ramp if the filters are fixed. -/
def hardwareOff (b : Earbud) : Earbud × Bool :=
  let b := b.cancel .pathGainSettle
  (if b.config.adaptive then b else b.rampDown).attempt .hardwareOff

def settleAdaptive (b : Earbud) : Earbud :=
  if b.config.adaptive && !b.audio.adaptive then b.arm .configSettle b.config.timing.configSettle
  else b

def stopAdaptive (b : Earbud) : Earbud :=
  let b := b.cancel .configSettle
  if b.audio.adaptive then b.command .adaptiveOff else b

def switchHardware (b : Earbud) (on : Bool) : Earbud × Outcome :=
  match if on then b.hardwareOn else b.stopAdaptive.hardwareOff with
  | (b, true) =>
    let b := b.setRuntime fun r => { r with actualEnabled := on }
    let b := if on then b.settleAdaptive else b
    (b.announce (.stateChanged on), .ok ())
  | (b, false) => (b, .error (.hardware (.switch on)))

/-- Bring the hardware to a mode and then on or off, with the clock raised meanwhile.  The mode
comes first, and the outcome is the first failure. -/
def reconfigure (b : Earbud) (on : Bool) (m : Mode) : Earbud × Outcome :=
  let before := b.runtime
  let b := b.boost true
  let (b, modeOutcome) := if m = b.runtime.currentMode then (b, .ok ()) else b.applyMode m
  let (b, switchOutcome) := if b.runtime.actualEnabled = on then (b, .ok ()) else b.switchHardware on
  let b :=
    if b.config.adaptive then b.announceAdaptiveChange before.actualEnabled before.currentMode else b
  (b.boost false, modeOutcome.andThen switchOutcome)

def applyPending (b : Earbud) : Earbud × Outcome :=
  b.reconfigure b.runtime.requestedEnabled b.runtime.requestedMode

/-- Switch noise control off and go to a state.  Powering off completes even if the hardware does
not confirm; any other switch off that the hardware refuses leaves noise control on and asked
for. -/
def switchOff (b : Earbud) (next : Lifecycle) : Earbud × Outcome :=
  let (b, outcome) := b.reconfigure false b.runtime.requestedMode
  let b :=
    if next = .powerOff then (b.setRuntime fun r => { r with actualEnabled := false }).enter next
    else if b.runtime.actualEnabled then b.setRuntime fun r => { r with requestedEnabled := true }
    else b.enter next
  (b.setRuntime .clearUserFlags, outcome)

def startAdaptive (b : Earbud) : Earbud :=
  if b.runtime.actualEnabled && b.isEnabled && !b.audio.adaptive then
    (b.attempt (.adaptiveOn (b.runtime.placement == .inEar) b.config.layout.controlPath?
      b.runtime.currentMode)).1
  else b

end NoiseControl.Earbud
