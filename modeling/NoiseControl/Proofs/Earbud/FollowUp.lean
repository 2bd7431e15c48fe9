import NoiseControl.Proofs.Earbud.Extent

/-!
# What an event leaves to do

A request whose instant has passed leaves its transition to do, and an event is over when nothing is
left to do.  The transitions that are left are taken from the front of a queue until it is empty, which
it gets: carrying one out leaves nothing further to do.
-/

namespace NoiseControl

open QuietMode (Direction Synchronizer Effect)

namespace Earbud

variable {b c : Earbud} {d : Direction} {rest : List Direction}

/-- The queue is emptied from the front.  What a transition leaves to do would go to its end. -/
inductive Drains : Earbud → Earbud → Prop where
  | done {b : Earbud} (h : b.followUps = []) : Drains b b
  | next {b c : Earbud} {d : Direction} {rest : List Direction} (h : b.followUps = d :: rest)
      (hrest : Drains ({ b with followUps := rest }.handle (.quietModeFire d)).1 c) : Drains b c

/-- A transition is carried out alike whatever else there is to do. -/
theorem handle_fire_followUps (b : Earbud) (d : Direction) (later : List Direction) :
    ({ b with followUps := later }.handle (.quietModeFire d)).1 =
      { (b.handle (.quietModeFire d)).1 with followUps := later } := by
  have hadopt : ({ b with followUps := later } : Earbud).adopt (b.quietMode.fire d) =
      { b.adopt (b.quietMode.fire d) with followUps := later } := by
    unfold Synchronizer.fire
    split
    · rfl
    · cases d <;> rfl
  rw [handle_quietModeFire, handle_quietModeFire]
  unfold whileAdaptive
  by_cases hs : b.isEnabled = true
  · rw [if_pos hs, if_pos (show ({ b with followUps := later } : Earbud).isEnabled = true from hs)]
    by_cases hactive : b.audio.adaptive = true
    · rw [if_pos hactive, if_pos hactive]
      exact hadopt
    · rw [if_neg hactive, if_neg hactive]
  · rw [if_neg hs, if_neg (show ¬({ b with followUps := later } : Earbud).isEnabled = true from hs)]

theorem finishFollowUps_next (h : b.followUps = d :: rest) :
    b.finishFollowUps =
      ({ b with followUps := rest }.handle (.quietModeFire d)).1.finishFollowUps := by
  rw [handle_fire_followUps]
  unfold finishFollowUps
  rw [h, List.foldl_cons, handle_fire_followUps]

/-- Emptying the queue comes to an end, and there is only one. -/
theorem drains_iff : Drains b c ↔ c = b.finishFollowUps := by
  constructor
  · intro h
    induction h with
    | done h => exact (finishFollowUps_eq_self _ h).symm
    | next h _ ih => rw [ih, ← finishFollowUps_next h]
  · rintro rfl
    -- On the queue that there is: what is carried out from its front leaves the rest of it.
    generalize hq : b.followUps = queue
    induction queue generalizing b with
    | nil =>
      rw [finishFollowUps_eq_self _ hq]
      exact .done hq
    | cons d rest ih =>
      rw [finishFollowUps_next hq]
      refine .next hq (ih ?_)
      rw [handle_fire_followUps]

theorem drains_dispatch (b : Earbud) (e : Event) : Drains (b.handle e).1 (b.dispatch e).1 :=
  drains_iff.mpr rfl

/-! ### Instants that have come -/

variable {e : Event} {decision : Synchronizer.Decision}

theorem dispatch_adopt (he : (b.handle e).1 = b.adopt decision)
    (hdone : (b.adopt decision).followUps = []) : (b.dispatch e).1 = b.adopt decision := by
  show (b.handle e).1.finishFollowUps = _
  rw [he, finishFollowUps_eq_self _ hdone]

/-- A transition that is due at once is the last effect of a decision, and carried out in the same
event. -/
theorem dispatch_fireNow {s : Synchronizer} (effects : List Effect)
    (he : (b.handle e).1 = b.adopt (s, effects ++ [.fireNow d]))
    (hdone : (b.adopt (s, effects)).followUps = [])
    (hs : (b.adopt (s, effects)).runtime.state = .enabled)
    (hactive : (b.adopt (s, effects)).audio.adaptive = true) :
    (b.dispatch e).1 = (b.adopt (s, effects)).adopt (s.fire d) := by
  have hquiet : (b.adopt (s, effects)).quietMode = s := quietMode_adopt b _
  have hqueued : (b.handle e).1 = { b.adopt (s, effects) with followUps := [d] } := by
    have hsnoc : b.adopt (s, effects ++ [.fireNow d]) =
        { b.adopt (s, effects) with followUps := (b.adopt (s, effects)).followUps ++ [d] } :=
      List.foldl_append ..
    rw [he, hsnoc, hdone]
    rfl
  generalize b.adopt (s, effects) = a at *
  have hfirst : { a with followUps := [] } = a := by rw [← hdone]
  have hfires : (a.handle (.quietModeFire d)).1 = a.adopt (s.fire d) := by
    rw [handle_quietModeFire, if_pos ((isEnabled_iff a).mpr hs), whileAdaptive, if_pos hactive, hquiet]
  have hnone : (a.adopt (s.fire d)).followUps = [] := by
    rw [← hquiet, followUps_adopt_fire, hdone]
  have hnext : finishFollowUps { a with followUps := [d] } =
      ({ a with followUps := [] }.handle (.quietModeFire d)).1.finishFollowUps :=
    finishFollowUps_next rfl
  show (b.handle e).1.finishFollowUps = _
  rw [hqueued, hnext, hfirst, hfires, finishFollowUps_eq_self _ hnone]

end Earbud

end NoiseControl
