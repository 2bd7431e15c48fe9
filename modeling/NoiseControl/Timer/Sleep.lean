import NoiseControl.Timer.Queue

/-!
# Timers on real time

When time passes on its own, an expiry reaches its owner through a queue, and by then its timer
may have been cancelled or armed again.  Every arming therefore has a number of its own, an
expiry carries the number of the arming it comes from, and the owner has each expiry accepted
before acting on it: only that of the latest arming of its kind, neither cancelled nor accepted
before, is accepted.
-/

namespace NoiseControl

/-- What a timer sends when it expires: its kind and the number of the arming. -/
structure Expiry where
  kind : TimerKind
  number : Nat
deriving DecidableEq

structure SleepTimers where
  now : Nat := 0
  armings : Nat := 0
  /-- The latest arming of each kind that is neither cancelled nor accepted. -/
  current : List Expiry := []
  sleeping : List ArmedTimer := []
deriving DecidableEq

namespace SleepTimers

/-- Cancel the timer of a kind; its expiry is no longer current, wherever it is. -/
def cancel (t : SleepTimers) (k : TimerKind) : SleepTimers :=
  { t with
    current := t.current.filter fun e => e.kind != k
    sleeping := t.sleeping.filter fun a => a.kind != k }

def arm (t : SleepTimers) (k : TimerKind) (after : Nat) : SleepTimers :=
  let number := t.armings + 1
  { now := t.now
    armings := number
    current := (t.cancel k).current ++ [⟨k, number⟩]
    sleeping := (t.cancel k).sleeping ++ [⟨k, t.now + after, number⟩] }

/-- Let time pass.  The expiries due by then, their instant included, are sent in order. -/
def pass (t : SleepTimers) (duration : Nat) : SleepTimers × List Expiry :=
  let now := t.now + duration
  let (due, later) := t.sleeping.partition fun a => decide (a.deadline ≤ now)
  ({ t with now := now, sleeping := later },
    (due.mergeSort fun a b => !b.before a).map fun a => ⟨a.kind, a.number⟩)

/-- Accept an expiry if it is current, and then no more. -/
def accept (t : SleepTimers) (e : Expiry) : SleepTimers × Option TimerKind :=
  if e ∈ t.current then ({ t with current := t.current.erase e }, some e.kind) else (t, none)

end SleepTimers

end NoiseControl
