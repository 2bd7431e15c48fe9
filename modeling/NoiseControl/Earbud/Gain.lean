import NoiseControl.Earbud.Basic

/-!
# Gains

The leakthrough gain of the modes other than the adaptive one, the feed-forward gain that
adaptive processing reports, and the notice to clients when adaptive noise control starts or
stops.
-/

namespace NoiseControl.Earbud

def gainOfPeerInCase : UInt8 := 0

/-! ### Leakthrough -/

/-- Only modes other than the adaptive one have a leakthrough gain. -/
def hasLeakthrough (b : Earbud) : Bool := !b.runtime.currentMode.isAdaptive

def storeLeakthrough (b : Earbud) (gain : UInt8) : Earbud :=
  if b.hasLeakthrough then b.setRuntime fun r => { r with leakthroughGain := gain } else b

def refreshLeakthrough (b : Earbud) : Earbud :=
  match b.config.layout.controlPath? with
  | some path => b.storeLeakthrough (b.audio.readGain .left path)
  | none => b

/-- Write the leakthrough gain to the hardware; a target that fails is left as it was. -/
def writeLeakthrough (b : Earbud) : Earbud :=
  if b.hasLeakthrough then
    b.config.layout.leakthroughTargets.foldl
      (fun b target => (b.attempt (.setGain target.1 target.2 b.runtime.leakthroughGain)).1) b
  else b

def announceLeakthrough (b : Earbud) : Earbud :=
  if b.hasLeakthrough then b.announce (.leakthroughGainChanged b.runtime.leakthroughGain) else b

def setLeakthrough (b : Earbud) (gain : UInt8) : Earbud :=
  ((b.storeLeakthrough gain).writeLeakthrough).announceLeakthrough

def followLeakthrough (b : Earbud) (gain : UInt8) : Earbud :=
  if gain = b.runtime.leakthroughGain then b else b.setLeakthrough gain

/-! ### Ramping down -/

def rampDownChannel (b : Earbud) (c : Channel) : Earbud :=
  (rampSteps (b.audio.readGain c .ffa)).foldl
    (fun b step => (b.attempt (.setGain c .ffa step)).1) b

def rampDown (b : Earbud) : Earbud := b.config.layout.channels.foldl rampDownChannel b

/-! ### Feed-forward gain -/

def startGainPoll (b : Earbud) : Earbud := b.arm .gainPoll b.config.timing.gainPoll

def stopGainPoll (b : Earbud) : Earbud := b.cancel .gainPoll

def announceBothGains (b : Earbud) (ofPeer : UInt8) : Earbud :=
  let own := b.runtime.feedForwardGain
  b.announce <|
    match b.config.side with
    | .left => .feedForwardGains own ofPeer
    | .right => .feedForwardGains ofPeer own

/-- Read the feed-forward gain, tell the clients and read again later.  A peer in its case
reports nothing, so its gain is told along. -/
def pollGain (b : Earbud) : Earbud :=
  if b.runtime.currentMode.isAdaptive then
    let gain := b.audio.feedForwardGain
    let b := b.setRuntime fun r => { r with feedForwardGain := gain }
    let b := b.startGainPoll.announce (.feedForwardGain gain)
    if b.runtime.peerInCase then b.announceBothGains gainOfPeerInCase else b
  else b

/-- Adaptive noise control runs when the hardware is on in the adaptive mode.  Its start and its
stop are told to the clients and start and stop the gain poll. -/
def announceAdaptiveChange (b : Earbud) (wasEnabled : Bool) (formerMode : Mode) : Earbud :=
  let enabled := b.runtime.actualEnabled
  let mode := b.runtime.currentMode
  let enableChanged := wasEnabled != enabled && mode.isAdaptive
  let modeChanged := formerMode != mode && (formerMode.isAdaptive || mode.isAdaptive)
  if enableChanged || modeChanged then
    let running := enabled && mode.isAdaptive
    let b := b.announce (.adaptiveStateChanged running)
    if running then b.startGainPoll else b.stopGainPoll
  else b

end NoiseControl.Earbud
