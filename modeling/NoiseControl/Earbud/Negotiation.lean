import NoiseControl.Earbud.Basic

/-!
# Negotiating quiet mode

Carrying out what the synchronizer of an earbud decides.
-/

namespace NoiseControl.Earbud

open QuietMode (Direction Record Effect Synchronizer)

/-- Carry out one effect.  A transition that is due at once waits until the current event is
done. -/
def carryOut (b : Earbud) : Effect → Earbud
  | .arm d after => b.arm (.quietMode d) after
  | .fireNow d => { b with followUps := b.followUps ++ [d] }
  | .cancel d => b.cancel (.quietMode d)
  | .publish r => (b.announce (.quietModeUpdated r)).sendRecord r
  | .switchOn => (b.command .quietModeOn).announce .quietModeOn
  | .switchOff => (b.command .quietModeOff).announce .quietModeOff

def adopt (b : Earbud) (decision : Synchronizer.Decision) : Earbud :=
  decision.2.foldl carryOut { b with quietMode := decision.1 }

def resetQuietMode (b : Earbud) : Earbud := b.adopt b.quietMode.reset

/-- The peer's record counts unless the peer is in its case. -/
def receiveRecord (b : Earbud) (r : Record) : Earbud :=
  if b.runtime.peerInCase then b else b.adopt (b.quietMode.peerRecord r b.wallNow)

/-- Reports of silence and agreed instants count only while adaptive processing runs. -/
def whileAdaptive (b : Earbud) (decision : Synchronizer.Decision) : Earbud :=
  if b.audio.adaptive then b.adopt decision else b

end NoiseControl.Earbud
