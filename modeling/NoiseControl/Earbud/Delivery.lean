import NoiseControl.Earbud.Dispatch

/-!
# Delivering timers

Moving the virtual time of one earbud and handing it the timers that come due.
-/

namespace NoiseControl

/-- A timer that was handed over: when, what was done on it, oldest first, and the outcome. -/
structure Delivery where
  kind : TimerKind
  time : Nat
  activities : List Activity
  outcome : Outcome

namespace Earbud

def advanceTo (b : Earbud) (t : Nat) : Earbud := { b with timers := b.timers.advanceTo t }

def deliverDue? (b : Earbud) : Option (Earbud × TimerKind × Outcome) :=
  b.timers.popDue?.map fun (kind, timers) =>
    let (b, outcome) := { b with timers := timers }.dispatch (.timerExpired kind)
    (b, kind, outcome)

/-- What was done since `former`, oldest first. -/
def activitiesSince (b former : Earbud) : List Activity :=
  (b.history.take (b.history.length - former.history.length)).reverse

/-- Move the clock to the next deadline, unless that lies after `t`, and hand its timer over. -/
def deliverNext? (b : Earbud) (t : Nat) : Option (Earbud × Delivery) := do
  let deadline ← b.timers.nextDeadline?
  if deadline ≤ t then
    let before := b.advanceTo deadline
    let (b, kind, outcome) ← before.deliverDue?
    some (b, ⟨kind, before.timers.now, b.activitiesSince before, outcome⟩)
  else none

/-- Hand over all timers due by `t` and move the clock there.  After `limit` timers the clock
stays where it is. -/
def runUntil (b : Earbud) (t : Nat) : Nat → Earbud × List Delivery
  | 0 => (b, [])
  | limit + 1 =>
    match b.deliverNext? t with
    | some (b, delivery) =>
      let (b, rest) := b.runUntil t limit
      (b, delivery :: rest)
    | none => (b.advanceTo t, [])

end Earbud

end NoiseControl
