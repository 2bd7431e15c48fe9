import NoiseControl.Proofs.Earbud.Elapse
import NoiseControl.Proofs.Pair.Exchange
import NoiseControl.Proofs.Pair.Time

/-!
# A pair between two reports

Both earbuds are absent, or both wait for adaptive processing to start at one time, or they negotiate
and nothing is on its way between them.  Time leads from one to the next.  Nothing is assumed of the
configuration here, so time need not get anywhere, and what is said is said of where it does.
-/

namespace NoiseControl

open QuietMode (Direction Record Synchronizer)

namespace Earbud

variable {c : Config} {side : Side} {now time : Nat} {b : Earbud} {q : Synchronizer}
  {w : Option Record} {leave : Option Nat}

theorem Emerges.advanceTo (h : Emerges c side now q w leave b) (t : Nat) :
    Emerges c side (max now t) q w leave (b.advanceTo t) where
  paired := h.paired.advanceTo t
  running := ⟨h.running.toOperating.of_eq rfl rfl rfl fun _ _ => rfl, h.running.adaptive⟩
  quietMode := h.quietMode
  waiting := h.waiting
  leave := h.leave

theorem Settling.advanceTo (h : Settling c side now time b) (t : Nat) :
    Settling c side (max now t) time (b.advanceTo t) where
  paired := h.paired.advanceTo t
  operating := h.operating.of_eq rfl rfl rfl fun _ _ => rfl
  idle := h.idle
  settles := h.settles
  unheard := h.unheard
  waiting := h.waiting

theorem Settling.taken (h : Settling c side now time b) : Settling c side now time b.taken where
  paired := h.paired.taken
  operating := h.operating.of_eq rfl rfl rfl fun _ _ => rfl
  idle := h.idle
  settles := h.settles
  unheard := h.unheard
  waiting := waiting?_taken b

theorem fireDue?_absent (h : Stands .absent b) {fuel : Nat} {b' : Earbud}
    (hf : Pair.fireDue? b fuel = some b') : b' = b := by
  have hpending : b.timers.pending = [] := h.activity.2
  have hnone : b.deliverDue? = none := by
    simp [deliverDue?, TimerQueue.popDue?, TimerQueue.due, hpending, ArmedTimer.first?]
  cases fuel with
  | zero => cases hf
  | succ fuel =>
    simp only [Pair.fireDue?, hnone, Option.some.injEq] at hf
    exact hf.symm

end Earbud

namespace Pair

open Earbud (Paired Stands Emerges Settling Unheard)

variable {c : Config} {now fuel : Nat} {p p' : Pair} {told : Side → Option Bool}
  {asked : Side → Bool}

/-! ### While the sides negotiate -/

theorem Exchange.waiting (h : Exchange c now told asked p 0) (s : Side) :
    (p.side s).waiting? = none := by
  cases h.underway with
  | nothing waiting followed => exact waiting s

theorem Exchange.followed (h : Exchange c now told asked p 0) : Followed p.minds p.leaves := by
  cases h.underway with
  | nothing waiting followed => exact followed

theorem Exchange.advanceTo (h : Exchange c now told asked p 0) (t : Nat) :
    Exchange c (max now t) told asked (p.advanceTo t) 0 := by
  have hemerges : ∀ s, Emerges c s (max now t) (p.minds s) (p.side s).waiting? (p.leaves s)
      ((p.advanceTo t).side s) := by
    intro s
    have hs := (h.emerges s).advanceTo t
    cases s <;> exact hs
  have hminds : (p.advanceTo t).minds = p.minds := funext fun s => (hemerges s).quietMode
  have hleaves : (p.advanceTo t).leaves = p.leaves := funext fun s => (hemerges s).leave
  exact {
    joined := fun s => (hemerges s).paired
    running := fun s => (hemerges s).running
    honest := hminds ▸ h.honest
    underway := .nothing (fun s => (hemerges s).waiting.trans (h.waiting s))
      (by rw [hminds, hleaves]; exact h.followed) }

theorem Exchange.fireDue (h : Exchange c now told asked p 0)
    (hf : ∀ s, fireDue? (p.side s) fuel = some (p'.side s)) : Exchange c now told asked p' 0 := by
  have hside : ∀ s, Emerges c s now (p'.minds s) none (p'.leaves s) (p'.side s) ∧
      Synchronizer.Expires now (p.minds s) (p'.minds s) (p.leaves s) (p'.leaves s) ∧
      ∀ t, p'.leaves s = some t → now < t := by
    intro s
    obtain ⟨q', leave', hemerges, hx, hlater⟩ := (h.emerges s).fireDue (.refl now _ _) (hf s)
    obtain rfl : p'.minds s = q' := hemerges.quietMode
    obtain rfl : p'.leaves s = leave' := hemerges.leave
    rw [h.waiting s] at hemerges
    exact ⟨hemerges, hx, hlater⟩
  exact {
    joined := fun s => (hside s).1.paired
    running := fun s => (hside s).1.running
    honest := h.honest.expires h.followed (fun s => (hside s).2.1) fun s => (hside s).2.2
    underway := .nothing (fun s => (hside s).1.waiting)
      (h.followed.expires fun s => (hside s).2.1) }

/-! ### Before they do -/

theorem knows_unheard {last others : Option Bool} {asked : Bool} {s o : Synchronizer}
    (h : Unheard s) : Knows last others asked s o where
  single hasks := absurd ((h.plain .enable).symm.trans hasks) Bool.false_ne_true
  known hsilent := absurd (h.undetected.symm.trans hsilent) Bool.false_ne_true
  heard := by rw [h.forgot]; exact fun hsilent => nomatch hsilent
  following := by rw [h.forgot]; exact fun hasked => nomatch hasked
  elected hasks := absurd ((h.plain .enable).symm.trans hasks) Bool.false_ne_true

/-- Both sides start to negotiate at once, having heard of nothing. -/
theorem exchange_of_unheard (h : ∀ s, ∃ q leave, Unheard q ∧ Emerges c s now q none leave (p.side s)) :
    Exchange c now told asked p 0 := by
  have hunheard : ∀ s, Unheard (p.minds s) := by
    intro s
    obtain ⟨q, leave, hq, hemerges⟩ := h s
    obtain rfl : p.minds s = q := hemerges.quietMode
    exact hq
  refine ⟨fun s => ?_, fun s => ?_, fun s => knows_unheard (hunheard s), .nothing (fun s => ?_) ?_⟩
  · obtain ⟨q, leave, -, hemerges⟩ := h s
    exact hemerges.paired
  · obtain ⟨q, leave, -, hemerges⟩ := h s
    exact hemerges.running
  · obtain ⟨q, leave, -, hemerges⟩ := h s
    exact hemerges.waiting
  · exact fun s hasked =>
      absurd (((hunheard s).plain .disable).symm.trans hasked) Bool.false_ne_true

inductive Between (c : Config) (now : Nat) (told : Side → Option Bool) (asked : Side → Bool)
    (p : Pair) : Prop where
  | absent (joined : Joined c now p) (stands : ∀ s, Stands .absent (p.side s))
      (waiting : ∀ s, (p.side s).waiting? = none)
  | settling (time : Nat) (settling : ∀ s, Settling c s now time (p.side s))
  | talking (exchange : Exchange c now told asked p 0)

theorem Between.advanceTo (h : Between c now told asked p) (t : Nat) :
    Between c (max now t) told asked (p.advanceTo t) := by
  have hside : ∀ s, (p.advanceTo t).side s = (p.side s).advanceTo t := fun s => by cases s <;> rfl
  cases h with
  | absent joined stands waiting =>
    exact .absent (fun s => hside s ▸ (joined s).advanceTo t)
      (fun s => hside s ▸ (stands s).advanceTo t) fun s => hside s ▸ waiting s
  | settling time settling => exact .settling time fun s => hside s ▸ (settling s).advanceTo t
  | talking exchange => exact .talking (exchange.advanceTo t)

theorem Between.deliver (h : Between c now told asked p) : Between c now told asked p.deliver.1 := by
  have htaken : (∀ s, (p.side s).waiting? = none) → ∀ s, p.deliver.1.side s = (p.side s).taken := by
    intro hwaiting s
    rw [deliver_eq hwaiting]
    cases s <;> rfl
  cases h with
  | absent joined stands waiting =>
    have hside := htaken waiting
    exact .absent (fun s => hside s ▸ (joined s).taken) (fun s => hside s ▸ (stands s).taken)
      fun s => hside s ▸ Earbud.waiting?_taken _
  | settling time settling =>
    have hside := htaken fun s => (settling s).waiting
    exact .settling time fun s => hside s ▸ (settling s).taken
  | talking exchange => exact .talking exchange.deliver

theorem Between.fireDue (h : Between c now told asked p)
    (hf : ∀ s, fireDue? (p.side s) fuel = some (p'.side s)) : Between c now told asked p' := by
  cases h with
  | absent joined stands waiting =>
    have hside : ∀ s, p'.side s = p.side s := fun s => Earbud.fireDue?_absent (stands s) (hf s)
    exact .absent (fun s => hside s ▸ joined s) (fun s => hside s ▸ stands s)
      fun s => hside s ▸ waiting s
  | settling time settling =>
    have hside := fun s => (settling s).fireDue (hf s)
    rcases Nat.lt_or_ge now time with htime | htime
    · refine .settling time fun s => ?_
      rcases hside s with ⟨-, hsettling⟩ | ⟨hdue, -⟩
      · exact hsettling
      · omega
    · refine .talking (exchange_of_unheard fun s => ?_)
      rcases hside s with ⟨hlater, -⟩ | ⟨-, hawake⟩
      · omega
      · exact hawake
  | talking exchange => exact .talking (exchange.fireDue hf)

theorem Between.stepUntil {t : Nat} (h : Between c now told asked p)
    (hp : p.stepUntil? t fuel = some p') : ∃ now', Between c now' told asked p' := by
  induction fuel generalizing p now with
  | zero => cases hp
  | succ fuel ih =>
    cases hd : p.nextDeadline?.filter fun deadline => decide (deadline ≤ t) with
    | none =>
      simp only [stepUntil?, hd, Option.some.injEq] at hp
      exact ⟨_, hp ▸ h.advanceTo t⟩
    | some deadline =>
      rw [stepUntil?_succ hd] at hp
      obtain ⟨left, hleft, hp⟩ := Option.bind_eq_some_iff.mp hp
      obtain ⟨right, hright, hp⟩ := Option.bind_eq_some_iff.mp hp
      have hfired : ∀ s, fireDue? ((p.advanceTo deadline).side s) fuel =
          some ((⟨left, right⟩ : Pair).side s) := Side.forall_of .left hleft hright
      exact ih ((h.advanceTo deadline).fireDue hfired).deliver hp

theorem Between.runUntil {t : Nat} (h : Between c now told asked p)
    (hp : p.runUntil? fuel t = some p') : ∃ now', Between c now' told asked p' :=
  h.deliver.stepUntil hp

end Pair

end NoiseControl
