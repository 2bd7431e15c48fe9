import NoiseControl.Proofs.Earbud.Expiry
import NoiseControl.Proofs.Earbud.Hearing

/-!
# Time passes for an earbud of a pair

The timers of an earbud are handed over until none is due.  Whatever its records say, what is done
at agreed instants makes of its negotiation no more than `Expires` allows.  An earbud that waits for
adaptive processing is woken at a fixed time and has heard of nothing until then.
-/

namespace NoiseControl

open QuietMode (Direction Record Synchronizer Effect)

namespace Earbud

variable {c : Config} {side : Side} {now time fuel : Nat} {b b' : Earbud} {q : Synchronizer}
  {w : Option Record} {leave : Option Nat} {k : TimerKind} {outcome : Outcome}

/-! ### While quiet mode is negotiated -/

theorem Emerges.popped (h : Emerges c side now q w leave b) (k : TimerKind) :
    Emerges c side now q w (if k = .quietMode .disable then none else leave) (b.popped k) where
  paired := h.paired.popped k
  running := ⟨h.running.toOperating.popped k, h.running.adaptive⟩
  quietMode := h.quietMode
  waiting := h.waiting
  leave := by
    have hleave : b.timers.deadline? (.quietMode .disable) = leave := h.leave
    show (b.timers.cancel k).deadline? (.quietMode .disable) = _
    rw [TimerQueue.deadline?_cancel, hleave]
    by_cases hk : k = .quietMode .disable
    · rw [if_pos hk, if_pos hk.symm]
    · rw [if_neg hk, if_neg (Ne.symm hk)]

theorem Emerges.polls (h : Emerges c side now q w leave b) (hp : Paired c side now b.pollGain) :
    Emerges c side now q w leave b.pollGain := by
  have w' := work_pollGain b
  obtain ⟨hq, -, hlink⟩ := w'.silent rfl
  exact {
    paired := hp
    running := ⟨h.running.toOperating.pollGain, (adaptive_pollGain b).trans h.running.adaptive⟩
    quietMode := hq.trans h.quietMode
    waiting := by rw [waiting?, hlink]; exact h.waiting
    leave := (w'.deadline? rfl).trans h.leave }

theorem Emerges.dispatches_agreed (h : Emerges c side now q w leave b) (d : Direction) :
    Emerges c side now (q.fire d).1 w leave (b.dispatch (.timerExpired (.quietMode d))).1 := by
  have hfires : (b.handle (.timerExpired (.quietMode d))).1 = b.adopt (q.fire d) := by
    have hfire := handle_quietModeFire b d
    rw [if_pos ((isEnabled_iff b).mpr h.running.state), whileAdaptive, if_pos h.running.adaptive,
      h.quietMode] at hfire
    exact hfire
  exact (h.fires d).dispatches hfires

/-- Of the timers that may be due, only those of agreed instants touch the negotiation. -/
theorem Emerges.expires (h : Emerges c side now q w leave b)
    (hd : b.deliverDue? = some (b', k, outcome)) :
    Emerges c side now q w leave b' ∨ Emerges c side now (q.fire .enable).1 w leave b' ∨
      ∃ t, leave = some t ∧ t ≤ now ∧ Emerges c side now (q.fire .disable).1 w none b' := by
  obtain ⟨rfl, a, -, rfl, hdue, hdeadline⟩ := deliverDue?_eq_some h.paired hd
  have hpopped := h.popped a.kind
  have hsteady : a.kind.isSteady = true := by
    cases hs : a.kind.isSteady with
    | true => rfl
    | false => simp [TimerQueue.deadline?, h.running.steady _ hs] at hdeadline
  generalize a.kind = k at hpopped hsteady hdeadline ⊢
  cases k with
  | gainPoll =>
    obtain ⟨heq, hpaired⟩ := dispatch_gainPoll h.paired
    rw [heq]
    exact Or.inl (hpopped.polls hpaired)
  | configSettle =>
    obtain ⟨heq, -⟩ := dispatch_configSettle h.paired h.running.toOperating
    rw [heq, startAdaptive_running hpopped.running]
    exact Or.inl hpopped
  | quietMode d =>
    cases d with
    | enable => exact Or.inr (Or.inl (hpopped.dispatches_agreed .enable))
    | disable =>
      exact Or.inr (Or.inr ⟨a.deadline, h.leave.symm.trans hdeadline, hdue,
        hpopped.dispatches_agreed .disable⟩)
  | _ => cases hsteady

theorem later_of_none (hp : Paired c side now b) (hd : b.deliverDue? = none) {k : TimerKind} {t : Nat}
    (ht : b.timers.deadline? k = some t) : now < t := by
  have hpop : b.timers.popDue? = none := by simpa [deliverDue?] using hd
  exact hp.now ▸ TimerQueue.now_lt_of_popDue?_eq_none hpop ht

theorem Emerges.fireDue {q₀ : Synchronizer} {leave₀ : Option Nat}
    (hx : Synchronizer.Expires now q₀ q leave₀ leave) (h : Emerges c side now q w leave b)
    (hf : Pair.fireDue? b fuel = some b') :
    ∃ q' leave', Emerges c side now q' w leave' b' ∧
      Synchronizer.Expires now q₀ q' leave₀ leave' ∧ ∀ t, leave' = some t → now < t := by
  induction fuel generalizing b q leave with
  | zero => cases hf
  | succ fuel ih =>
    unfold Pair.fireDue? at hf
    split at hf
    · rename_i b₁ p hd
      obtain ⟨k, outcome⟩ := p
      rcases h.expires hd with h | h | ⟨t, ht, hdue, h⟩
      · exact ih hx h hf
      · exact ih hx.fires_enable h hf
      · exact ih (hx.fires_disable ht hdue none) h hf
    · rename_i hd
      obtain rfl := Option.some.inj hf
      exact ⟨q, leave, h, hx, fun t ht => later_of_none h.paired hd (h.leave.trans ht)⟩

/-! ### Before adaptive processing starts -/

/-- A side that has heard and told nothing. -/
structure Unheard (q : Synchronizer) : Prop extends q.Gone where
  undetected : q.own.detected = false

/-- The earbud waits for adaptive processing to start at a virtual time. -/
structure Settling (c : Config) (side : Side) (now time : Nat) (b : Earbud) : Prop where
  paired : Paired c side now b
  operating : b.Operating
  idle : b.audio.adaptive = false
  settles : b.timers.deadline? .configSettle = some time
  unheard : Unheard b.quietMode
  waiting : b.waiting? = none

theorem Unheard.expires {q' : Synchronizer} {leave' : Option Nat} (h : Unheard q)
    (hx : Synchronizer.Expires now q q' leave leave') : Unheard q' := by
  cases hx with
  | left _ _ own peer => exact ⟨Synchronizer.gone_clear own peer, by rw [own]; rfl⟩
  | stays detected _ _ _ _ gone _ => exact ⟨gone h.toGone, detected.trans h.undetected⟩

theorem Settling.popped (h : Settling c side now time b) (hk : k ≠ .configSettle) :
    Settling c side now time (b.popped k) where
  paired := h.paired.popped k
  operating := h.operating.popped k
  idle := h.idle
  settles := ((TimerQueue.deadline?_cancel _ _).trans (if_neg (Ne.symm hk))).trans h.settles
  unheard := h.unheard
  waiting := h.waiting

theorem Settling.polls (h : Settling c side now time b) (hp : Paired c side now b.pollGain) :
    Settling c side now time b.pollGain := by
  have w := work_pollGain b
  obtain ⟨hq, -, hlink⟩ := w.silent rfl
  exact {
    paired := hp
    operating := h.operating.pollGain
    idle := (adaptive_pollGain b).trans h.idle
    settles := (w.deadline? rfl).trans h.settles
    unheard := hq ▸ h.unheard
    waiting := by rw [waiting?, hlink]; exact h.waiting }

theorem Settling.starts (h : Settling c side now time b) :
    Emerges c side now b.quietMode none b.leave?
      ((b.popped .configSettle).dispatch (.timerExpired .configSettle)).1 := by
  obtain ⟨heq, hpaired⟩ := dispatch_configSettle h.paired h.operating
  obtain ⟨hrun, htimers⟩ := startAdaptive_settling (h.operating.popped .configSettle) h.idle
    (h.paired.popped .configSettle).reliable
  obtain ⟨hq, -, hlink⟩ := (work_startAdaptive (b.popped .configSettle)).silent rfl
  rw [heq]
  refine ⟨hpaired, hrun, hq, ?_, ?_⟩
  · rw [waiting?, hlink]
    exact h.waiting
  · rw [leave?, htimers]
    exact (TimerQueue.deadline?_cancel _ _).trans (if_neg (by simp))

theorem Settling.expires (h : Settling c side now time b)
    (hd : b.deliverDue? = some (b', k, outcome)) :
    Settling c side now time b' ∨
      time ≤ now ∧ Emerges c side now b.quietMode none b.leave? b' := by
  obtain ⟨rfl, a, -, rfl, hdue, hdeadline⟩ := deliverDue?_eq_some h.paired hd
  have hsteady : a.kind.isSteady = true := by
    cases hs : a.kind.isSteady with
    | true => rfl
    | false => simp [TimerQueue.deadline?, h.operating.steady _ hs] at hdeadline
  generalize a.kind = k at hsteady hdeadline ⊢
  cases k with
  | gainPoll =>
    obtain ⟨heq, hpaired⟩ := dispatch_gainPoll h.paired
    rw [heq]
    exact Or.inl ((h.popped (by simp)).polls hpaired)
  | configSettle =>
    obtain rfl := Option.some.inj (hdeadline.symm.trans h.settles)
    exact Or.inr ⟨hdue, h.starts⟩
  | quietMode d =>
    -- Instants mean nothing before adaptive processing runs.
    have hpopped := h.popped (k := .quietMode d) (by simp)
    have hignored : ((b.popped (.quietMode d)).handle (.timerExpired (.quietMode d))).1 =
        b.popped (.quietMode d) := by
      have hidle : ¬(b.popped (.quietMode d)).audio.adaptive = true := by simp [hpopped.idle]
      have hfire := handle_quietModeFire (b.popped (.quietMode d)) d
      rw [whileAdaptive, if_neg hidle, ite_self] at hfire
      exact hfire
    have heq : ((b.popped (.quietMode d)).dispatch (.timerExpired (.quietMode d))).1 =
        b.popped (.quietMode d) := by
      show ((b.popped (.quietMode d)).handle (.timerExpired (.quietMode d))).1.finishFollowUps = _
      rw [hignored, finishFollowUps_eq_self _ hpopped.paired.done]
    rw [heq]
    exact Or.inl hpopped
  | _ => cases hsteady

theorem Settling.fireDue (h : Settling c side now time b) (hf : Pair.fireDue? b fuel = some b') :
    now < time ∧ Settling c side now time b' ∨
      time ≤ now ∧ ∃ q leave, Unheard q ∧ Emerges c side now q none leave b' := by
  induction fuel generalizing b with
  | zero => cases hf
  | succ fuel ih =>
    unfold Pair.fireDue? at hf
    split at hf
    · rename_i b₁ p hd
      obtain ⟨k, outcome⟩ := p
      rcases h.expires hd with h' | ⟨htime, h'⟩
      · exact ih h' hf
      · obtain ⟨q, leave, hemerges, hx, -⟩ := h'.fireDue (.refl now _ _) hf
        exact Or.inr ⟨htime, q, leave, h.unheard.expires hx, hemerges⟩
    · rename_i hd
      obtain rfl := Option.some.inj hf
      exact Or.inl ⟨later_of_none h.paired hd h.settles, h⟩

end Earbud

end NoiseControl
