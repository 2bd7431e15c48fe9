import NoiseControl.QuietMode.Record

/-!
# Agreement on quiet mode

When both earbuds observe silence they agree on one instant of the shared clock at which both
switch quiet mode on, and when either stops observing it, on one at which both switch it off.
There is no coordinator.  The side that first sees the condition hold elects itself, schedules
the instant a fixed delay ahead and publishes its record; the other follows.  If both elect
themselves the earlier instant is kept, and of two equal instants that of the side with priority.

Every operation is a function of the two records and of the reading it is given.  It returns
what the owner is to do, in order, and touches nothing itself.
-/

namespace NoiseControl.QuietMode

inductive Effect where
  /-- Arm the timer that fires a transition, a length of time from now. -/
  | arm (direction : Direction) (after : Nat)
  /-- Fire a transition whose instant has passed. -/
  | fireNow (direction : Direction)
  | cancel (direction : Direction)
  /-- Publish the local record to clients and to the peer. -/
  | publish (record : Record)
  | switchOn
  | switchOff
deriving DecidableEq

structure Synchronizer where
  own : Record := .clear
  peer : Record := .clear
  /-- Microseconds from an election to the agreed instant. -/
  delay : Nat
  /-- Whether this side keeps its request when both chose the same instant. -/
  winsTies : Bool := false
deriving DecidableEq

namespace Synchronizer

/-- What an operation leaves behind and asks for. -/
abbrev Decision := Synchronizer × List Effect

/-! ### Elections -/

/-- Both sides observe silence and neither has scheduled switching on. -/
def electsEnable (s : Synchronizer) : Bool :=
  !s.own.enableRequested && !s.peer.enableRequested && s.own.detected && s.peer.detected

/-- This side no longer observes silence and neither has scheduled switching off. -/
def electsDisable (s : Synchronizer) : Bool :=
  !s.own.disableRequested && !s.peer.disableRequested && !s.own.detected

/-- This side becomes the initiator: the instant lies one delay after `now`. -/
def schedule (s : Synchronizer) (d : Direction) (now : WallClock) : Decision :=
  let own := { s.own.setRequested d true with timestamp := now.add s.delay }
  ({ s with own := own }, [.arm d s.delay, .publish own])

/-- Elect for switching on, or else tell the peer that silence is observed here.  Nothing
happens while quiet mode is on or a transition is scheduled. -/
def tryEnable (s : Synchronizer) (now : WallClock) : Decision :=
  if s.own.enabled || s.own.hasRequest then (s, [])
  else if s.electsEnable then s.schedule .enable now
  else if s.own.detected then (s, [.publish s.own])
  else (s, [])

/-- Elect for switching off.  Nothing happens unless quiet mode is on and no transition is
scheduled. -/
def tryDisable (s : Synchronizer) (now : WallClock) : Decision :=
  if !s.own.enabled || s.own.hasRequest then (s, [])
  else if s.electsDisable then s.schedule .disable now
  else (s, [])

/-! ### Operations -/

def detected (s : Synchronizer) (now : WallClock) : Decision :=
  tryEnable { s with own := { s.own with detected := true } } now

def cleared (s : Synchronizer) (now : WallClock) : Decision :=
  tryDisable { s with own := { s.own with detected := false } } now

/-- Whether the own request stands against a peer's request for the instant `theirs`. -/
def keepsOwnRequest (s : Synchronizer) (theirs : WallClock) : Bool :=
  let delta := theirs.deltaSince s.own.timestamp
  decide (0 < delta) || (delta == 0 && s.winsTies)

def yieldRequest (s : Synchronizer) (d : Direction) : Synchronizer :=
  { s with own := { s.own.setRequested d false with timestamp := .zero } }

/-- Follow the instant of a peer's record: wait for it, or fire at once if it has passed. -/
def follow (d : Direction) (record : Record) (now : WallClock) : Effect :=
  match record.timestamp.until? now with
  | some after => .arm d after
  | none => .fireNow d

/-- The peer's record arrived.  A request in it is followed, unless an own request in the same
direction stands against it.  A record without a request may complete a condition, so both
elections are tried. -/
def peerRecord (s : Synchronizer) (record : Record) (now : WallClock) : Decision :=
  let s := { s with peer := record }
  match record.pending? with
  | some d =>
    if s.own.requested d then
      if s.keepsOwnRequest record.timestamp then (s, [])
      else
        let s := s.yieldRequest d
        (s, [.publish s.own, follow d record now])
    else (s, [follow d record now])
  | none =>
    let (s, enabling) := s.tryEnable now
    let (s, disabling) := s.tryDisable now
    (s, enabling ++ disabling)

/-- The agreed instant of a transition arrived.  It is ignored when neither side asks for it. -/
def fire (s : Synchronizer) (d : Direction) : Decision :=
  if !s.own.requested d && !s.peer.requested d then (s, [])
  else
    match d with
    | .enable =>
      ({ s with
          own := { s.own with enableRequested := false, enabled := true, timestamp := .zero }
          peer := { s.peer with enableRequested := false } }, [.switchOn])
    | .disable => ({ s with own := .clear, peer := .clear }, [.switchOff])

/-- Forget both records and all that was scheduled. -/
def reset (s : Synchronizer) : Decision :=
  ({ s with own := .clear, peer := .clear }, [.cancel .enable, .cancel .disable])

end Synchronizer

end NoiseControl.QuietMode
