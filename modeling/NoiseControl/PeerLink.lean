import NoiseControl.QuietMode.Record

/-!
# The link to the peer

A link carries quiet-mode records one way.  A record the receiver has not taken yet is replaced
by a newer one.
-/

namespace NoiseControl

structure PeerLink where
  latest : Option QuietMode.Record := none
  /-- Whether the latest record has not been taken yet. -/
  fresh : Bool := false
  connected : Bool := true
deriving DecidableEq

namespace PeerLink

/-- Send a record; it takes the place of one that was not taken. -/
def send (l : PeerLink) (r : QuietMode.Record) : PeerLink :=
  { l with latest := some r, fresh := true }

def disconnect (l : PeerLink) : PeerLink := { l with connected := false }

def take (l : PeerLink) : PeerLink × Option QuietMode.Record :=
  if l.connected && l.fresh then ({ l with fresh := false }, l.latest) else (l, none)

theorem take_send (l : PeerLink) (r : QuietMode.Record) (h : l.connected = true) :
    (l.send r).take = ({ l with latest := some r, fresh := false }, some r) := by
  simp [send, take, h]

theorem take_take (l : PeerLink) : (l.take).1.take = (l.take.1, none) := by
  cases hc : l.connected <;> cases hf : l.fresh <;> simp [take, hc, hf]

end PeerLink

end NoiseControl
