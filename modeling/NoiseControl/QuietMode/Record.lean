import NoiseControl.WallClock

/-!
# Quiet-mode records

Each earbud keeps a record of its own view of quiet mode and a copy of its peer's.  A record
carries the transition that is scheduled, if any, and the instant of it.
-/

namespace NoiseControl.QuietMode

/-- A transition of quiet mode: on or off. -/
inductive Direction where
  | enable
  | disable
deriving DecidableEq, Inhabited

namespace Direction

def name : Direction → String
  | enable => "enable"
  | disable => "disable"

end Direction

structure Record where
  detected : Bool := false
  enabled : Bool := false
  /-- Switching on is scheduled. -/
  enableRequested : Bool := false
  /-- Switching off is scheduled. -/
  disableRequested : Bool := false
  /-- The instant of the scheduled transition, zero when there is none. -/
  timestamp : WallClock := .zero
deriving DecidableEq, Inhabited

namespace Record

def clear : Record := {}

def requested (r : Record) : Direction → Bool
  | .enable => r.enableRequested
  | .disable => r.disableRequested

def hasRequest (r : Record) : Bool := r.enableRequested || r.disableRequested

/-- The scheduled transition; switching on goes before switching off. -/
def pending? (r : Record) : Option Direction :=
  if r.enableRequested then some .enable
  else if r.disableRequested then some .disable
  else none

def setRequested (r : Record) (d : Direction) (value : Bool) : Record :=
  match d with
  | .enable => { r with enableRequested := value }
  | .disable => { r with disableRequested := value }

theorem isSome_pending? (r : Record) : r.pending?.isSome = r.hasRequest := by
  cases h : r.enableRequested <;> cases h' : r.disableRequested <;> simp [pending?, hasRequest, h, h']

theorem requested_of_pending? {r : Record} {d : Direction} (h : r.pending? = some d) :
    r.requested d = true := by
  cases he : r.enableRequested <;> cases hd : r.disableRequested <;>
    simp_all [pending?] <;> subst h <;> simp [requested, he, hd]

theorem requested_setRequested (r : Record) (d d' : Direction) (v : Bool) :
    (r.setRequested d v).requested d' = if d = d' then v else r.requested d' := by
  cases d <;> cases d' <;> rfl

end Record

end NoiseControl.QuietMode
