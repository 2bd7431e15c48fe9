import NoiseControl.Proofs.Earbud.Stance
import NoiseControl.Proofs.QuietMode.Decision

/-!
# An earbud comes out of an event

What an earbud that negotiates holds after an event: its side of the negotiation, the record that
waits for the peer and the instant at which it leaves quiet mode.  Decisions are carried out effect
by effect, and a request whose instant has passed is carried out in the event that brings it.
-/

namespace NoiseControl

open QuietMode (Direction Record Synchronizer Effect)

namespace Pair

/-- A request waits no longer for its instant than the side that made it. -/
theorem until?_instant_le {t d after : Nat} (h : (instant (t + d)).until? (instant t) = some after) :
    after ≤ d := by
  rw [← add_instant, WallClock.until?_add] at h
  split at h
  · rw [← Option.some.inj h]
    exact Nat.mod_le d _
  · cases h

end Pair

namespace Earbud

variable {c : Config} {side : Side} {now : Nat} {b : Earbud} {q q' : Synchronizer}
  {w : Option Record} {leave : Option Nat}

/-- The instant at which the earbud is to leave quiet mode. -/
def leave? (b : Earbud) : Option Nat := b.timers.deadline? (.quietMode .disable)

structure Emerges (c : Config) (side : Side) (now : Nat) (q : Synchronizer) (w : Option Record)
    (leave : Option Nat) (b : Earbud) : Prop where
  paired : Paired c side now b
  running : b.Running
  quietMode : b.quietMode = q
  waiting : b.waiting? = w
  leave : b.leave? = leave

namespace Emerges

/-! ### Effect by effect -/

theorem decides (h : Emerges c side now q w leave b)
    (hsetup : q'.delay = q.delay ∧ q'.winsTies = q.winsTies) :
    Emerges c side now q' w leave { b with quietMode := q' } where
  paired := { h.paired with
    delay := hsetup.1.trans (h.quietMode ▸ h.paired.delay)
    ties := hsetup.2.trans (h.quietMode ▸ h.paired.ties) }
  running := ⟨h.running.toOperating.of_eq rfl rfl rfl fun _ _ => rfl, h.running.adaptive⟩
  quietMode := rfl
  waiting := h.waiting
  leave := h.leave

theorem publishes (h : Emerges c side now q w leave b) (r : Record) :
    Emerges c side now q (some r) leave (b.carryOut (.publish r)) where
  paired := { h.paired with connected := h.paired.connected }
  running := ⟨h.running.toOperating.of_eq rfl rfl rfl fun _ _ => rfl, h.running.adaptive⟩
  quietMode := h.quietMode
  waiting := waiting?_sendRecord h.paired.connected r
  leave := h.leave

theorem arms (h : Emerges c side now q w leave b) (d : Direction) (after : Nat) :
    Emerges c side now q w (if d = .disable then some (now + after) else leave)
      (b.carryOut (.arm d after)) where
  paired := { h.paired with now := h.paired.now, order := h.paired.order.arm _ _ }
  running := by
    refine ⟨h.running.toOperating.of_eq rfl rfl rfl fun k hk => ?_, h.running.adaptive⟩
    have hkind : k ≠ .quietMode d := by
      rintro rfl
      cases hk
    exact (TimerQueue.find?_arm ..).trans (if_neg hkind)
  quietMode := h.quietMode
  waiting := h.waiting
  leave := by
    have hleave : b.timers.deadline? (.quietMode .disable) = leave := h.leave
    show (b.timers.arm (.quietMode d) after).deadline? (.quietMode .disable) = _
    rw [TimerQueue.deadline?_arm, h.paired.now, hleave]
    cases d <;> rfl

theorem schedules (h : Emerges c side now q w leave b) {s : Synchronizer}
    (hsetup : s.delay = q.delay ∧ s.winsTies = q.winsTies) (d : Direction) (instant : WallClock) :
    Emerges c side now (s.schedule d instant).1 (some (s.schedule d instant).1.own)
      (if d = .disable then some (now + s.delay) else leave) (b.adopt (s.schedule d instant)) := by
  have hdecides : Emerges c side now (s.schedule d instant).1 w leave
      { b with quietMode := (s.schedule d instant).1 } := h.decides hsetup
  exact (hdecides.arms d s.delay).publishes _

theorem switches (h : Emerges c side now q w leave b) {e : Effect}
    (he : e = .switchOn ∨ e = .switchOff) : Emerges c side now q w leave (b.carryOut e) := by
  rcases he with rfl | rfl
  all_goals exact {
    paired := { h.paired with delay := h.paired.delay }
    running := ⟨h.running.toOperating.of_eq rfl rfl rfl fun _ _ => rfl, h.running.adaptive⟩
    quietMode := h.quietMode
    waiting := h.waiting
    leave := h.leave }

theorem fires (h : Emerges c side now q w leave b) (d : Direction) :
    Emerges c side now (q.fire d).1 w leave (b.adopt (q.fire d)) := by
  have hdecides := h.decides (q.setup_fire d)
  have heffects := q.effects_fire d
  generalize q.fire d = decision at hdecides heffects ⊢
  obtain ⟨s, effects⟩ := decision
  rcases heffects with rfl | ⟨e, rfl, he⟩
  · exact hdecides
  · exact hdecides.switches he

theorem taken (h : Emerges c side now q w leave b) : Emerges c side now q none leave b.taken where
  paired := h.paired.taken
  running := ⟨h.running.toOperating.of_eq rfl rfl rfl fun _ _ => rfl, h.running.adaptive⟩
  quietMode := h.quietMode
  waiting := waiting?_taken b
  leave := h.leave

/-! ### Event by event -/

theorem dispatches {e : Event} {decision : Synchronizer.Decision}
    (h : Emerges c side now q w leave (b.adopt decision)) (he : (b.handle e).1 = b.adopt decision) :
    Emerges c side now q w leave (b.dispatch e).1 := by
  rw [dispatch_eq_adopt he h.paired]
  exact h

/-- An instant that has passed is the last effect of a decision, and carried out at once. -/
theorem dispatches_fireNow {e : Event} {s : Synchronizer} {effects : List Effect} {d : Direction}
    (h : Emerges c side now q w leave (b.adopt (s, effects)))
    (he : (b.handle e).1 = b.adopt (s, effects ++ [.fireNow d])) :
    Emerges c side now (q.fire d).1 w leave (b.dispatch e).1 := by
  obtain rfl : s = q := (quietMode_adopt b (s, effects)).symm.trans h.quietMode
  rw [dispatch_fireNow effects he h.paired.done h.running.state h.running.adaptive]
  exact h.fires d

/-- A request of the peer is followed at its instant, or at once if that has passed. -/
theorem follows {e : Event} {s : Synchronizer} {effects : List Effect} {d : Direction} {r : Record}
    (h : Emerges c side now q w leave (b.adopt (s, effects)))
    (he : (b.handle e).1 =
      b.adopt (s, effects ++ [Synchronizer.follow d r (Pair.instant now)])) :
    (∃ after, r.timestamp.until? (Pair.instant now) = some after ∧
        Emerges c side now q w (if d = .disable then some (now + after) else leave)
          (b.dispatch e).1) ∨
      Emerges c side now (q.fire d).1 w leave (b.dispatch e).1 := by
  unfold Synchronizer.follow at he
  split at he
  · rename_i after huntil
    have hadopt : b.adopt (s, effects ++ [.arm d after]) = (b.adopt (s, effects)).carryOut (.arm d after) :=
      List.foldl_append ..
    exact Or.inl ⟨after, huntil, (hadopt ▸ h.arms d after).dispatches he⟩
  · exact Or.inr (h.dispatches_fireNow he)

end Emerges

end Earbud

end NoiseControl
