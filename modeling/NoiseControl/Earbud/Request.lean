import NoiseControl.Earbud.Negotiation
import NoiseControl.Earbud.Reconfiguration

/-!
# Requests

Switching noise control on and off, changing the mode, voice calls, tuning sessions and
initialisation, each by the state it is made in.
-/

namespace NoiseControl.Earbud

/-! ### On and off -/

/-- Switch noise control on, from the state `disabled`.  A failure is left to the next request. -/
def requestEnable (b : Earbud) : Earbud × Outcome :=
  match b.runtime.state with
  | .disabled =>
    let b := b.setRuntime fun r => { r with requestedEnabled := true }
    let (b, outcome) := b.reconfigure true b.runtime.requestedMode
    (if b.runtime.actualEnabled then b.enter .enabled else b, outcome)
  | _ => b.refuse .enable

/-- Switch noise control off, from the state `enabled`.  Adaptive processing first ramps its
gains down; the timer that is armed then completes the switch. -/
def requestDisable (b : Earbud) : Earbud × Outcome :=
  match b.runtime.state with
  | .enabled =>
    let b := (b.setRuntime fun r => { r with requestedEnabled := false }).stopSettleTimers
    if b.audio.adaptive then
      ((b.command .gentleMute).arm .muteBeforeDisable b.config.timing.gentleMute, .ok ())
    else b.switchOff .disabled
  | _ => b.refuse .disable

/-- Switch the power off from the state `enabled`.  What was asked for stays asked for, so that
it is saved. -/
def powerOffEnabled (b : Earbud) : Earbud × Outcome :=
  (b.setRuntime fun r => { r with powerOn := false, requestedEnabled := true }).stopSettleTimers
    |>.switchOff .powerOff

/-! ### Modes -/

/-- Ask for a mode.  While noise control is off it only waits for the next switch on.  Adaptive
processing first ramps its gains down; the timer that is armed then applies the mode. -/
def requestMode (b : Earbud) (m : Mode) : Earbud × Outcome :=
  match b.runtime.state with
  | .disabled =>
    if b.runtime.numModes ≤ m.index then (b, .error (.modeOutOfRange m b.runtime.numModes))
    else ((b.setRuntime fun r => { r with requestedMode := m }).refreshLeakthrough, .ok ())
  | .enabled =>
    if b.runtime.numModes ≤ m.index then (b, .error (.modeOutOfRange m b.runtime.numModes))
    else
      let b := b.setRuntime fun r => { r with requestedMode := m }
      if m = b.runtime.currentMode then (b, .ok ())
      else if b.audio.adaptive then
        ((b.command .gentleMute).arm .muteBeforeMode b.config.timing.gentleMute, .ok ())
      else b.applyPending
  | _ => b.refuse (.setMode m)

/-- Change the mode; the quiet-mode negotiation starts afresh in it. -/
def changeMode (b : Earbud) (m : Mode) : Earbud × Outcome :=
  match b.requestMode m with
  | (b, .ok ()) => (b.resetQuietMode, .ok ())
  | refused => refused

/-- Change the mode for the user, which is remembered during a call. -/
def chooseMode (b : Earbud) (m : Mode) : Earbud × Outcome :=
  match b.changeMode m with
  | (b, .ok ()) => (b.setRuntime fun r => { r with userSwitchedMode := true }, .ok ())
  | refused => refused

/-- Switch noise control on for the user, which is remembered during a call. -/
def chooseEnable (b : Earbud) : Earbud × Outcome :=
  match b.requestEnable with
  | (b, .ok ()) => (b.setRuntime fun r => { r with userEnabled := true }, .ok ())
  | refused => refused

/-! ### Voice calls -/

/-- A call started: noise control goes on in the mode for calls. -/
def startCall (b : Earbud) : Earbud × Outcome :=
  if b.config.call.implicitEnable then
    let b := b.setRuntime .clearCall
    let mode := b.config.call.mode
    if b.isEnabled then
      if b.runtime.currentMode = mode then (b, .ok ())
      else
        let b := b.setRuntime fun r => { r with previousMode := r.currentMode, modeForCall := true }
        b.changeMode mode
    else
      match b.changeMode mode with
      | (b, .ok ()) => (b.setRuntime fun r => { r with enabledForCall := true }).requestEnable
      | refused => refused
  else (b, .ok ())

/-- A call ended: what it changed goes back, except what the user changed meanwhile. -/
def endCall (b : Earbud) : Earbud × Outcome :=
  if b.config.call.implicitEnable then
    let (b, outcome) :=
      if b.runtime.enabledForCall then
        if !b.runtime.userEnabled && b.isEnabled then b.requestDisable else (b, .ok ())
      else if b.runtime.modeForCall && !b.runtime.userSwitchedMode then
        b.changeMode b.runtime.previousMode
      else (b, .ok ())
    (b.setRuntime .clearCall, outcome)
  else (b, .ok ())

/-! ### Tuning -/

def tuningState : TuningKind → Lifecycle
  | .fixed => .tuning
  | .adaptive => .adaptiveTuning

/-- Go to a tuning session; noise control is switched off for it. -/
def enterTuning (b : Earbud) (kind : TuningKind) : Earbud × Outcome :=
  let (b, outcome) :=
    if b.isEnabled then b.stopSettleTimers.switchOff (tuningState kind)
    else (b.enter (tuningState kind), .ok ())
  match outcome with
  | .ok () => (b.command (.attachTuningLink kind), .ok ())
  | .error e => (b, .error e)

def leaveTuning (b : Earbud) (kind : TuningKind) (next : Lifecycle) : Earbud :=
  (((b.command .detachTuningLink).command (.exitTuning kind)).setRuntime fun r =>
    { r with tuningSampleRate := none, powerOn := r.powerOn && next != .powerOff }).enter next

/-! ### Power and initialisation -/

def start (b : Earbud) : Earbud × Outcome :=
  match b.config.check with
  | .error fault => (b, .error (.config fault))
  | .ok () =>
    if b.config.microphones.fitted then
      let (b, saved) := b.loadSession
      let enabled := (saved.map (·.enabled)).getD false
      let mode :=
        match saved with
        | some s => if s.mode.index < b.config.numModes then s.mode else b.config.defaultMode
        | none => b.config.defaultMode
      match b.attempt (.start b.config.microphones mode) with
      | (b, false) => (b, .error (.start .probeRejected))
      | (b, true) =>
        let b := b.setRuntime fun r =>
          { r with
            requestedEnabled := enabled
            requestedMode := mode
            currentMode := mode
            previousMode := mode
            actualEnabled := false
            numModes := b.config.numModes }
        ({ b with quietMode := newSynchronizer b.config }.enter .powerOff, .ok ())
    else (b, .error (.start .noMicrophones))

/-- Switch the power on; noise control that was asked for is switched on again.  A failure is
left to the next request. -/
def switchPowerOn (b : Earbud) : Earbud :=
  let b := b.setRuntime fun r => { r with powerOn := true }
  let b := if b.runtime.requestedEnabled then (b.reconfigure true b.runtime.requestedMode).1 else b
  b.enter (if b.runtime.actualEnabled then .enabled else .disabled)

end NoiseControl.Earbud
