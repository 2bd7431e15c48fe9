import NoiseControl.Audio
import NoiseControl.Broadcast
import NoiseControl.Config
import NoiseControl.Earbud.Runtime
import NoiseControl.Notification
import NoiseControl.PeerLink
import NoiseControl.QuietMode.Synchronizer
import NoiseControl.Session
import NoiseControl.Timer.Queue

/-!
# An earbud

One earbud with all it drives: its runtime state, its quiet-mode records, its timers, the audio
chain, the session store, the link to the peer and the channel to clients.  This module has the
elementary effects out of which every reaction to an event is made.

Audio commands and session accesses can fail.  Which do is given by a pattern that may depend on
the call and on how many fallible calls went before it, so every course of failures is one.
-/

namespace NoiseControl

inductive FallibleCall where
  | audio (command : AudioCommand)
  | load
  | save (session : Session)
deriving DecidableEq

/-- Which fallible calls fail, by the number of such calls made before. -/
abbrev FailurePattern := Nat → FallibleCall → Bool

inductive Activity where
  /-- It gave the audio chain a command, and whether that was carried out. -/
  | audio (command : AudioCommand) (done : Bool)
  /-- It sent the peer its quiet-mode record. -/
  | sent (record : QuietMode.Record)
  /-- It saved its session, and whether that succeeded. -/
  | saved (session : Session) (done : Bool)
deriving DecidableEq

structure Earbud where
  config : Config
  runtime : Runtime := {}
  quietMode : QuietMode.Synchronizer
  /-- Quiet-mode transitions to carry out before the current event is done, oldest first. -/
  followUps : List QuietMode.Direction := []
  timers : TimerQueue := {}
  audio : AudioChain := {}
  store : SessionStore := {}
  failures : FailurePattern := fun _ _ => false
  calls : Nat := 0
  /-- What the shared clock shows at virtual time zero, if there is one. -/
  clockOrigin : Option WallClock
  /-- The link on which the peer receives. -/
  outbox : PeerLink := {}
  clients : Broadcast Notification := {}
  /-- All it did to the outside world, newest first. -/
  history : List Activity := []

namespace Earbud

/-- The synchronizer of a new negotiation; the left earbud wins ties. -/
def newSynchronizer (c : Config) : QuietMode.Synchronizer :=
  { delay := c.timing.quietModeDelay, winsTies := c.side == .left }

def new (c : Config) (clockOrigin : Option WallClock) (store : SessionStore) : Earbud :=
  { config := c, quietMode := newSynchronizer c, clockOrigin := clockOrigin, store := store }

/-! ### Reading -/

def isEnabled (b : Earbud) : Bool := b.runtime.state == .enabled

/-- The reading of the shared clock, zero without one. -/
def wallNow (b : Earbud) : WallClock :=
  match b.clockOrigin with
  | some origin => origin.add b.timers.now
  | none => .zero

def refuse (b : Earbud) (e : Event) : Earbud × Outcome := (b, .error (.rejected e b.runtime.state))

/-! ### Elementary effects -/

def setRuntime (b : Earbud) (change : Runtime → Runtime) : Earbud :=
  { b with runtime := change b.runtime }

def arm (b : Earbud) (k : TimerKind) (after : Nat) : Earbud := { b with timers := b.timers.arm k after }

def cancel (b : Earbud) (k : TimerKind) : Earbud := { b with timers := b.timers.cancel k }

def announce (b : Earbud) (n : Notification) : Earbud := { b with clients := b.clients.send n }

def sendRecord (b : Earbud) (r : QuietMode.Record) : Earbud :=
  { b with outbox := b.outbox.send r, history := .sent r :: b.history }

def command (b : Earbud) (c : AudioCommand) : Earbud :=
  { b with audio := b.audio.perform c, history := .audio c true :: b.history }

/-- Give the audio chain a command that can fail, and whether it was carried out.  A command that
failed leaves the chain as it was. -/
def attempt (b : Earbud) (c : AudioCommand) : Earbud × Bool :=
  if b.failures b.calls (.audio c) then
    ({ b with calls := b.calls + 1, history := .audio c false :: b.history }, false)
  else ({ b.command c with calls := b.calls + 1 }, true)

/-- Read the session store.  None means that it holds nothing or cannot be read. -/
def loadSession (b : Earbud) : Earbud × Option Session :=
  ({ b with calls := b.calls + 1 }, if b.failures b.calls .load then none else b.store.data)

def saveSession (b : Earbud) (s : Session) : Earbud :=
  if b.failures b.calls (.save s) then
    { b with calls := b.calls + 1, history := .saved s false :: b.history }
  else
    { b with
      calls := b.calls + 1
      store := b.store.save s
      history := .saved s true :: b.history }

end Earbud

end NoiseControl
