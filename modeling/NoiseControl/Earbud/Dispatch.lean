import NoiseControl.Earbud.Request

/-!
# Events

How an earbud reacts to an event.  News of the peer, placements and the gain poll are treated
alike in every state; each other event goes by the state.
-/

namespace NoiseControl.Earbud

open QuietMode (Direction)

/-! ### By state -/

def handleUninitialised (b : Earbud) : Event → Earbud × Outcome
  | .initialise => b.start
  | e => b.refuse e

def handlePowerOff (b : Earbud) : Event → Earbud × Outcome
  | .powerOn => (b.switchPowerOn, .ok ())
  | e => b.refuse e

def handleDisabled (b : Earbud) : Event → Earbud × Outcome
  | .powerOff => ((b.setRuntime fun r => { r with powerOn := false }).enter .powerOff, .ok ())
  | .enable => b.requestEnable
  | .setMode m => b.requestMode m
  | .enterTuning => b.enterTuning .fixed
  | .enterAdaptiveTuning =>
    if b.config.adaptive then b.enterTuning .adaptive else b.refuse .enterAdaptiveTuning
  | .callStarted => b.startCall
  | .callEnded => b.endCall
  | e => b.refuse e

def handleEnabled (b : Earbud) : Event → Earbud × Outcome
  | .powerOff => b.powerOffEnabled
  | .disable => b.requestDisable
  | .setMode m => b.requestMode m
  | .enterTuning => b.enterTuning .fixed
  | .enterAdaptiveTuning =>
    if b.config.adaptive then b.enterTuning .adaptive else b.refuse .enterAdaptiveTuning
  | .setLeakthroughGain gain => (b.setLeakthrough gain, .ok ())
  | .timerExpired .configSettle => (b.startAdaptive, .ok ())
  | .timerExpired .muteBeforeDisable => b.switchOff .disabled
  | .timerExpired .muteBeforeMode => b.applyPending
  | .timerExpired .pathGainSettle => (b.command .applyPathGains, .ok ())
  | .silenceDetected => (b.whileAdaptive (b.quietMode.detected b.wallNow), .ok ())
  | .silenceCleared => (b.whileAdaptive (b.quietMode.cleared b.wallNow), .ok ())
  | .quietModeFire d => (b.whileAdaptive (b.quietMode.fire d), .ok ())
  | .callStarted => b.startCall
  | .callEnded => b.endCall
  | e => b.refuse e

def handleTuning (b : Earbud) (kind : TuningKind) : Event → Earbud × Outcome
  | .tuningLinkAttached rate =>
    ((b.setRuntime fun r => { r with tuningSampleRate := some rate }).command
      (.enterTuning kind rate), .ok ())
  | .powerOff => (b.leaveTuning kind .powerOff, .ok ())
  | .tuningLinkDetached => (b.leaveTuning kind .disabled, .ok ())
  | .exitTuning =>
    if kind = .fixed then (b.leaveTuning kind .disabled, .ok ()) else b.refuse .exitTuning
  | .exitAdaptiveTuning =>
    if kind = .adaptive then (b.leaveTuning kind .disabled, .ok ()) else b.refuse .exitAdaptiveTuning
  | e => b.refuse e

def handleInState (b : Earbud) (e : Event) : Earbud × Outcome :=
  match b.runtime.state with
  | .uninitialised => b.handleUninitialised e
  | .powerOff => b.handlePowerOff e
  | .disabled => b.handleDisabled e
  | .enabled => b.handleEnabled e
  | .tuning => b.handleTuning .fixed e
  | .adaptiveTuning => b.handleTuning .adaptive e

/-! ### In every state -/

/-- Align with what the peer reports of itself: whether noise control is on, its mode and its
leakthrough gain.  A refusal of one does not keep the next from being tried. -/
def followPeer (b : Earbud) (report : PeerReport) : Earbud :=
  if b.runtime.peerInCase then b
  else
    let b :=
      if report.enabled = b.isEnabled then b
      else if report.enabled then b.chooseEnable.1
      else b.requestDisable.1
    let b := if report.mode = b.runtime.requestedMode then b else (b.chooseMode report.mode).1
    b.followLeakthrough report.leakthroughGain

/-- This earbud was placed somewhere.  In its case noise control is switched off. -/
def ownPlaced (b : Earbud) (p : Placement) : Earbud :=
  let b := b.setRuntime fun r => { r with placement := p }
  if b.runtime.actualEnabled && b.isEnabled then
    match p with
    | .inCase => b.requestDisable.1
    | _ => if b.audio.adaptive then b.command (.updateInEar (p == .inEar)) else b
  else b

/-- The peer was placed somewhere.  When it enters its case the negotiation is dropped, and its
gain is reported for it from then on. -/
def peerPlaced (b : Earbud) (p : Placement) : Earbud :=
  let was := b.runtime.peerInCase
  let b := b.setRuntime fun r => { r with peerInCase := p == .inCase }
  if b.runtime.peerInCase && !was then
    let b := b.resetQuietMode
    if b.runtime.actualEnabled && b.runtime.currentMode.isAdaptive then
      (b.announceBothGains gainOfPeerInCase).startGainPoll
    else b
  else b

def handle (b : Earbud) : Event → Earbud × Outcome
  | .peerRecord r => (b.receiveRecord r, .ok ())
  | .peerState report => (b.followPeer report, .ok ())
  | .peerFeedForwardGain gain => (b.announceBothGains gain, .ok ())
  | .peerLinkLost => (b.resetQuietMode, .ok ())
  | .placed .own p => (b.ownPlaced p, .ok ())
  | .placed .peer p => (b.peerPlaced p, .ok ())
  | .timerExpired .gainPoll => (b.pollGain, .ok ())
  | .timerExpired (.quietMode d) => b.handleInState (.quietModeFire d)
  | .enable => b.chooseEnable
  | .setMode m => b.chooseMode m
  | .setNextMode => b.chooseMode (b.runtime.currentMode.next b.runtime.numModes)
  | e => b.handleInState e

/-! ### Dispatch -/

/-- Carry out the quiet-mode transitions that an event left to do. -/
def finishFollowUps (b : Earbud) : Earbud :=
  b.followUps.foldl (fun b d => (b.handle (.quietModeFire d)).1) { b with followUps := [] }

/-- React to an event and to what follows from it.  The outcome is that of the event itself. -/
def dispatch (b : Earbud) (e : Event) : Earbud × Outcome :=
  let (b, outcome) := b.handle e
  (b.finishFollowUps, outcome)

end NoiseControl.Earbud
