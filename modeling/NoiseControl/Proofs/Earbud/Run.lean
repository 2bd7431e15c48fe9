import NoiseControl.Earbud.Delivery
import NoiseControl.Proofs.Earbud.Extent

/-!
# Runs of an earbud

What can happen to an earbud from outside: an event of any kind but a timer, the expiry of the
first timer that is due, time that passes, and a change of what surrounds it.  A run is any
sequence of these.
-/

namespace NoiseControl

/-- Whether an event may come from outside.  Timers expire only when they are due, and agreed
instants come only with them. -/
def Event.isExternal : Event → Bool
  | .quietModeFire _ | .timerExpired _ => false
  | _ => true

/-- What an earbud reads of its surroundings, and what they take from it. -/
structure Surroundings where
  clockOrigin : Option WallClock
  store : SessionStore
  failures : FailurePattern
  fixedReading : Option UInt8
  outbox : PeerLink
  clients : Broadcast Notification

namespace Earbud

def surround (b : Earbud) (s : Surroundings) : Earbud :=
  { b with
    clockOrigin := s.clockOrigin
    store := s.store
    failures := s.failures
    audio := { b.audio with fixedReading := s.fixedReading }
    outbox := s.outbox
    clients := s.clients }

inductive Move where
  | event (e : Event) (external : e.isExternal = true := by rfl)
  | expiry
  | wait (t : Nat)
  | surround (s : Surroundings)

def dispatched? (b : Earbud) : Move → Option (Earbud × Event)
  | .event e _ => some (b, e)
  | .expiry => b.timers.popDue?.map fun (k, timers) => ({ b with timers := timers }, .timerExpired k)
  | .wait _ | .surround _ => none

def perform (b : Earbud) : Move → Earbud
  | .event e _ => (b.dispatch e).1
  | .expiry =>
    match b.deliverDue? with
    | some (b, _) => b
    | none => b
  | .wait t => b.advanceTo t
  | .surround s => b.surround s

def run (b : Earbud) (moves : List Move) : Earbud := moves.foldl perform b

theorem run_append (b : Earbud) (earlier later : List Move) :
    b.run (earlier ++ later) = (b.run earlier).run later := List.foldl_append

theorem run_snoc (b : Earbud) (moves : List Move) (m : Move) :
    b.run (moves ++ [m]) = (b.run moves).perform m := run_append b moves [m]

/-- A move that dispatches nothing only lets time pass or changes the surroundings, or finds no
timer due. -/
theorem perform_eq (b : Earbud) (m : Move) :
    b.perform m =
      match b.dispatched? m with
      | some (x, e) => (x.dispatch e).1
      | none =>
        match m with
        | .wait t => b.advanceTo t
        | .surround s => b.surround s
        | _ => b := by
  cases m with
  | event e h => rfl
  | expiry =>
    simp only [perform, dispatched?, deliverDue?]
    cases b.timers.popDue? with
    | none => rfl
    | some p => rfl
  | wait t => rfl
  | surround s => rfl

/-- What is dispatched came from outside, or is the expiry of a timer that was armed. -/
theorem dispatched?_eq_some {b x : Earbud} {m : Move} {e : Event} (ho : b.timers.InOrder)
    (h : b.dispatched? m = some (x, e)) :
    (∃ he, m = .event e he ∧ x = b) ∨
      ∃ k, m = .expiry ∧ e = .timerExpired k ∧ b.timers.isArmed k = true ∧ x = b.cancel k := by
  cases m with
  | event e' he =>
    obtain ⟨rfl, rfl⟩ : b = x ∧ e' = e := by simpa [dispatched?] using h
    exact Or.inl ⟨he, rfl, rfl⟩
  | expiry =>
    simp only [dispatched?, Option.map_eq_some_iff, Prod.mk.injEq] at h
    obtain ⟨⟨k, timers⟩, hp, rfl, rfl⟩ := h
    obtain ⟨armed, hfind, -, rfl, -⟩ := ho.popDue?_eq_some hp
    exact Or.inr ⟨k, rfl, rfl, by simp [TimerQueue.isArmed, hfind], rfl⟩
  | wait t => cases h
  | surround s => cases h

theorem perform_cases (b : Earbud) (m : Move) :
    (∃ x e, b.dispatched? m = some (x, e) ∧ b.perform m = (x.dispatch e).1) ∨
      (b.perform m).runtime = b.runtime ∧
        ∀ k, (b.perform m).timers.isArmed k = b.timers.isArmed k := by
  rw [perform_eq]
  cases hd : b.dispatched? m with
  | some p => exact Or.inl ⟨p.1, p.2, rfl, rfl⟩
  | none => cases m <;> exact Or.inr ⟨rfl, fun _ => rfl⟩

/-- What holds at first and is kept by each kind of move holds all along. -/
theorem run_invariant {P : Earbud → Prop}
    (event : ∀ b e, e.isExternal = true → P b → P (b.dispatch e).1)
    (expiry : ∀ b k timers, b.timers.popDue? = some (k, timers) → P b →
      P (({ b with timers := timers } : Earbud).dispatch (.timerExpired k)).1)
    (wait : ∀ b t, P b → P (b.advanceTo t)) (surround : ∀ b s, P b → P (b.surround s))
    {b : Earbud} (h : P b) (moves : List Move) : P (b.run moves) := by
  induction moves generalizing b with
  | nil => exact h
  | cons m rest ih =>
    refine ih (b := b.perform m) ?_
    rw [perform_eq]
    cases m with
    | event e he => exact event b e he h
    | expiry =>
      simp only [dispatched?]
      cases hp : b.timers.popDue? with
      | none => exact h
      | some p => exact expiry b p.1 p.2 hp h
    | wait t => exact wait b t h
    | surround s => exact surround b s h

end Earbud

/-! ### Runs of any events -/

/-- What can happen to an earbud, whatever becomes of its timers. -/
inductive Turn where
  | event (e : Event)
  | timers (q : TimerQueue)
  | surround (s : Surroundings)

namespace Earbud

def take (b : Earbud) : Turn → Earbud
  | .event e => (b.dispatch e).1
  | .timers q => { b with timers := q }
  | .surround s => b.surround s

def after (b : Earbud) (turns : List Turn) : Earbud := turns.foldl take b

theorem after_append (b : Earbud) (earlier later : List Turn) :
    b.after (earlier ++ later) = (b.after earlier).after later := List.foldl_append

end Earbud

end NoiseControl
