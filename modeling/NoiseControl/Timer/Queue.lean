import NoiseControl.Timer.Kind

/-!
# Timers on virtual time

A queue holds the timers that are pending and a clock that moves only when it is told to.
Arming a kind replaces the pending timer of that kind.  Due timers come out by deadline, and
those of one deadline in the order in which they were armed.
-/

namespace NoiseControl

/-- A pending timer.  `number` counts armings, so it orders timers of one deadline. -/
structure ArmedTimer where
  kind : TimerKind
  deadline : Nat
  number : Nat
deriving DecidableEq

namespace ArmedTimer

def before (a b : ArmedTimer) : Bool :=
  decide (a.deadline < b.deadline) || (a.deadline == b.deadline && decide (a.number < b.number))

def first? : List ArmedTimer → Option ArmedTimer
  | [] => none
  | a :: rest =>
    match first? rest with
    | none => some a
    | some b => if b.before a then some b else some a

theorem mem_of_first? {l : List ArmedTimer} {a : ArmedTimer} (h : first? l = some a) : a ∈ l := by
  induction l generalizing a with
  | nil => simp [first?] at h
  | cons b rest ih =>
    simp only [first?] at h
    split at h
    · simp_all
    · rename_i c hc
      split at h <;> simp_all

end ArmedTimer

structure TimerQueue where
  /-- Virtual time in microseconds. -/
  now : Nat := 0
  armings : Nat := 0
  pending : List ArmedTimer := []
deriving DecidableEq

namespace TimerQueue

def cancel (q : TimerQueue) (k : TimerKind) : TimerQueue :=
  { q with pending := q.pending.filter fun a => a.kind != k }

/-- Arm a timer to come due `after` microseconds from now, in place of any of its kind. -/
def arm (q : TimerQueue) (k : TimerKind) (after : Nat) : TimerQueue :=
  { q.cancel k with
    armings := q.armings + 1
    pending := (q.cancel k).pending ++ [⟨k, q.now + after, q.armings + 1⟩] }

/-- Move the clock forward to `t`; it never goes back. -/
def advanceTo (q : TimerQueue) (t : Nat) : TimerQueue := { q with now := max q.now t }

def due (q : TimerQueue) : List ArmedTimer := q.pending.filter fun a => decide (a.deadline ≤ q.now)

def popDue? (q : TimerQueue) : Option (TimerKind × TimerQueue) :=
  (ArmedTimer.first? q.due).map fun a => (a.kind, q.cancel a.kind)

def find? (q : TimerQueue) (k : TimerKind) : Option ArmedTimer := q.pending.find? fun a => a.kind == k

def isArmed (q : TimerQueue) (k : TimerKind) : Bool := (q.find? k).isSome

def deadline? (q : TimerQueue) (k : TimerKind) : Option Nat := (q.find? k).map (·.deadline)

/-- The time left on the pending timer of a kind, zero once it is due. -/
def remaining? (q : TimerQueue) (k : TimerKind) : Option Nat := (q.deadline? k).map (· - q.now)

def nextDeadline? (q : TimerQueue) : Option Nat := (ArmedTimer.first? q.pending).map (·.deadline)

def count (q : TimerQueue) : Nat := q.pending.length

/-! ### Lookup after each operation -/

theorem find?_cancel (q : TimerQueue) (k k' : TimerKind) :
    (q.cancel k).find? k' = if k' = k then none else q.find? k' := by
  simp only [find?, cancel]
  induction q.pending with
  | nil => simp
  | cons a rest ih =>
    by_cases hk : k' = k
    · subst hk
      simp only [if_true] at ih ⊢
      by_cases ha : a.kind = k' <;> simp_all
    · simp only [if_neg hk] at ih ⊢
      by_cases ha : a.kind = k
      · have : (a.kind == k') = false := by simp [ha, Ne.symm hk]
        simp_all
      · by_cases ha' : a.kind = k' <;> simp_all

theorem find?_arm (q : TimerQueue) (k k' : TimerKind) (after : Nat) :
    (q.arm k after).find? k' =
      if k' = k then some ⟨k, q.now + after, q.armings + 1⟩ else q.find? k' := by
  have hc := find?_cancel q k k'
  simp only [find?] at hc ⊢
  simp only [arm, List.find?_append]
  rw [hc]
  by_cases hk : k' = k
  · simp [hk]
  · have : (k == k') = false := by simp [Ne.symm hk]
    simp [hk, this]

end TimerQueue

end NoiseControl
