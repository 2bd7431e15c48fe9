import Mathlib.Order.Nat
import NoiseControl.Proofs.Earbud.Timely
import NoiseControl.Proofs.QuietMode.Decision

/-!
# Timers that run out

The expiry of a timer arms only timers that weigh less: the end of a ramp those of the hardware, and
these nothing.  The gain poll alone arms itself again, so the timers of an earbud run out unless the
poll does so without a pause, and nothing else is to expire before it.
-/

namespace NoiseControl

open QuietMode (Direction)

namespace TimerKind

/-- Whether the expiry of a timer may arm another. -/
def rearms : TimerKind → TimerKind → Bool
  | gainPoll, k => k == gainPoll
  | muteBeforeDisable, k | muteBeforeMode, k => k == gainPoll || k == configSettle || k == pathGainSettle
  | _, _ => false

/-- How many expiries may come of a timer, those of the gain poll apart. -/
def weight : TimerKind → Nat
  | muteBeforeDisable | muteBeforeMode => 3
  | gainPoll => 0
  | _ => 1

/-- The sum of a number over all kinds. -/
def total (f : TimerKind → Nat) : Nat :=
  f configSettle + f muteBeforeDisable + f muteBeforeMode + f pathGainSettle + f gainPoll +
    f (quietMode .enable) + f (quietMode .disable)

theorem total_le {f g f' g' : TimerKind → Nat} (h : ∀ k, f k + g k ≤ f' k + g' k) :
    total f + total g ≤ total f' + total g' := by
  have hconfig := h configSettle
  have hdisable := h muteBeforeDisable
  have hmode := h muteBeforeMode
  have hpath := h pathGainSettle
  have hpoll := h gainPoll
  have hon := h (quietMode .enable)
  have hoff := h (quietMode .disable)
  unfold total
  omega

theorem weight_eq_total (k : TimerKind) : total (fun k' => if k' = k then k.weight else 0) = k.weight := by
  cases k with
  | quietMode d => cases d <;> decide
  | _ => decide

/-- A timer weighs more than all that its expiry may arm. -/
theorem lt_weight {k : TimerKind} (hk : k ≠ gainPoll) :
    total (fun k' => if k.rearms k' then k'.weight else 0) < k.weight := by
  cases k with
  | gainPoll => exact absurd rfl hk
  | quietMode d => cases d <;> decide
  | _ => decide

theorem rearms_self {k : TimerKind} (hk : k ≠ gainPoll) : k.rearms k = false := by
  cases k with
  | gainPoll => exact absurd rfl hk
  | _ => rfl

end TimerKind

namespace TimerQueue

variable {q q' : TimerQueue} {k : TimerKind} {t : Nat}

/-- How many expiries may still come of the timers of a queue, those of the gain poll apart. -/
def pressure (q : TimerQueue) : Nat :=
  TimerKind.total fun k => if q.isArmed k then k.weight else 0

/-- How long before the end the gain poll is to expire. -/
def pollTime (q : TimerQueue) (t : Nat) : Nat := ((q.deadline? .gainPoll).map (t + 1 - ·)).getD 0

/-- Whether the gain poll is to expire before all others. -/
def pollsFirst (q : TimerQueue) : Bool :=
  (ArmedTimer.first? q.pending).any fun timer => timer.kind == .gainPoll

/-- What falls with each expiry. -/
def countdown (q : TimerQueue) (t : Nat) : Nat × Nat × Nat :=
  (q.pressure, q.pollTime t, q.pollsFirst.toNat)

theorem pressure_eq (h : ∀ k', k' ≠ .gainPoll → q'.isArmed k' = q.isArmed k') :
    q'.pressure = q.pressure := by
  refine congrArg TimerKind.total (funext fun k' => ?_)
  by_cases hk : k' = .gainPoll
  · simp [hk, TimerKind.weight]
  · rw [h k' hk]

theorem pressure_lt (hk : k ≠ .gainPoll) (harmed : q.isArmed k = true) (hgone : q'.isArmed k = false)
    (hrest : ∀ k', k' ≠ k → k.rearms k' = false → q'.isArmed k' = q.isArmed k') :
    q'.pressure < q.pressure := by
  have hkind : ∀ k',
      (if q'.isArmed k' then k'.weight else 0) + (if k' = k then k.weight else 0) ≤
        (if q.isArmed k' then k'.weight else 0) + (if k.rearms k' then k'.weight else 0) := by
    intro k'
    by_cases heq : k' = k
    · subst heq
      simp [harmed, hgone]
    · cases hrearms : k.rearms k' with
      | true =>
        rw [if_neg heq, if_pos rfl]
        split <;> omega
      | false => simp [heq, hrest k' heq hrearms]
  have hsum := TimerKind.total_le hkind
  rw [TimerKind.weight_eq_total] at hsum
  have hlighter := TimerKind.lt_weight hk
  unfold pressure
  omega

theorem pollTime_arm (q : TimerQueue) (after t : Nat) :
    (q.arm .gainPoll after).pollTime t = t + 1 - (q.now + after) := by
  simp [pollTime, deadline?_arm]

theorem pollTime_cancel (q : TimerQueue) (t : Nat) : (q.cancel .gainPoll).pollTime t = 0 := by
  simp [pollTime, deadline?_cancel]

/-- What is armed again comes last, and its number is new. -/
theorem pending_rearm (q : TimerQueue) (k : TimerKind) (d after : Nat) :
    (((q.cancel k).advanceTo d).arm k after).pending =
      (q.cancel k).pending ++ [⟨k, max q.now d + after, q.armings + 1⟩] :=
  congrArg (fun q' : TimerQueue => q'.pending ++ [⟨k, max q.now d + after, q.armings + 1⟩])
    (q.cancel_cancel k)

end TimerQueue

namespace Earbud

variable {b : Earbud} {k : TimerKind} {timer : ArmedTimer} {t n : Nat}

/-! ### What an expiry arms -/

/-- What the expiry of a timer may do. -/
def fallout (k : TimerKind) : Extent where
  keeps _ := {}
  timer := k.rearms
  audio _ := true
  talks := true

theorem within_fallout {x : Extent} (htimer : ∀ k', x.timer k' = true → k.rearms k' = true) :
    x.Within (fallout k) where
  keeps _ _ _ := rfl
  timer := htimer
  audio _ _ := rfl
  talks _ := rfl
  tells _ _ := rfl
  saves _ := rfl

theorem fallout_adopt_fire (b : Earbud) (d : Direction) :
    Work (fallout k) b (b.adopt (b.quietMode.fire d)) := by
  have htold : Work (fallout k) b { b with quietMode := (b.quietMode.fire d).1 } :=
    .single (.negotiate _ rfl)
  unfold adopt
  rcases b.quietMode.effects_fire d with hnone | ⟨e, he, rfl | rfl⟩
  · rw [hnone]
    exact htold
  · rw [he]
    exact (htold.tail (.command _ rfl)).tail (.announce _)
  · rw [he]
    exact (htold.tail (.command _ rfl)).tail (.announce _)

theorem fallout_finishFollowUps (b : Earbud) : Work (fallout k) b b.finishFollowUps :=
  finishFollowUps_induction (P := Work (fallout k) b) b (.single (.defer [] rfl))
    fun x d h => h.trans (fallout_adopt_fire x d)

theorem fallout_timerExpired (b : Earbud) (k : TimerKind) :
    Work (fallout k) b (b.handle (.timerExpired k)).1 := by
  have hstate : Work (fallout k) b (b.handleEnabled (.timerExpired k)).1 →
      Work (fallout k) b (b.handleInState (.timerExpired k)).1 := by
    intro h
    by_cases hs : b.runtime.state = .enabled
    · rwa [handleInState_enabled b hs]
    · rw [handleInState_timer b hs]
  cases k with
  | configSettle => exact hstate (attempts_startAdaptive b rfl)
  | pathGainSettle => exact hstate (.single (.command .applyPathGains rfl))
  | muteBeforeDisable =>
    refine hstate ?_
    have h : Work (fallout .muteBeforeDisable) b (b.reconfigure false b.runtime.requestedMode).1 :=
      (work_reconfigure b false _).mono (within_fallout fun k' h => by
        cases k' <;> first | rfl | cases h)
    show Work _ b (b.switchOff .disabled).1
    unfold switchOff
    dsimp only
    refine .tail ?_ (.runtime _ rfl)
    rw [if_neg (by simp)]
    split
    · exact h.tail (.runtime _ rfl)
    · rw [enter_of_ne _ (by simp)]
      exact h.tail (.runtime _ rfl)
  | muteBeforeMode =>
    exact hstate ((work_applyPending b).mono (within_fallout fun k' h => by
      cases k' <;> first | rfl | cases h))
  | gainPoll =>
    exact (work_pollGain b).mono (within_fallout fun k' h => by cases k' <;> first | rfl | cases h)
  | quietMode d =>
    show Work _ b (b.handle (.quietModeFire d)).1
    rw [handle_quietModeFire]
    unfold whileAdaptive
    split
    · split
      · exact fallout_adopt_fire b d
      · exact .refl
    · exact .refl

theorem fallout_expire (b : Earbud) (k : TimerKind) : Work (fallout k) (b.popped k) (b.expire k) :=
  (fallout_timerExpired (b.popped k) k).trans (fallout_finishFollowUps _)

theorem config_expire (b : Earbud) (k : TimerKind) : (b.expire k).config = b.config :=
  (fallout_expire b k).config

theorem isArmed_expire {k' : TimerKind} (hne : k' ≠ k) (hk : k.rearms k' = false) :
    (b.expire k).timers.isArmed k' = b.timers.isArmed k' := by
  rw [(fallout_expire b k).isArmed hk]
  simp [popped, TimerQueue.isArmed, TimerQueue.find?_cancel, hne]

theorem not_isArmed_expire (hk : k.rearms k = false) : (b.expire k).timers.isArmed k = false := by
  rw [(fallout_expire b k).isArmed hk]
  simp [popped, TimerQueue.isArmed, TimerQueue.find?_cancel]

/-! ### The gain poll -/

theorem timers_adopt_fire (b : Earbud) (d : Direction) :
    (b.adopt (b.quietMode.fire d)).timers = b.timers := by
  unfold adopt
  rcases b.quietMode.effects_fire d with hnone | ⟨e, he, rfl | rfl⟩
  · rw [hnone]
    rfl
  · rw [he]
    rfl
  · rw [he]
    rfl

theorem timers_finishFollowUps (b : Earbud) : b.finishFollowUps.timers = b.timers :=
  finishFollowUps_induction (P := fun x => x.timers = b.timers) b rfl fun x d h =>
    (timers_adopt_fire x d).trans h

theorem timers_expire_gainPoll (b : Earbud) :
    (b.expire .gainPoll).timers =
      if b.runtime.currentMode.isAdaptive then
        (b.timers.cancel .gainPoll).arm .gainPoll b.config.timing.gainPoll
      else b.timers.cancel .gainPoll :=
  (timers_finishFollowUps _).trans (timers_pollGain (b.popped .gainPoll))

theorem currentMode_expire_gainPoll (b : Earbud) :
    (b.expire .gainPoll).runtime.currentMode = b.runtime.currentMode := by
  have hkept : gains.keeps (b.popped .gainPoll).pollGain.runtime = gains.keeps b.runtime :=
    (work_pollGain (b.popped .gainPoll)).keeps
  exact (congrArg Runtime.currentMode (runtime_dispatch (b.popped .gainPoll) _)).trans
    (congrArg Runtime.currentMode hkept :)

/-! ### From expiry to expiry -/

/-- The timer that expires next, unless that is after `t`. -/
def next? (b : Earbud) (t : Nat) : Option ArmedTimer :=
  (ArmedTimer.first? b.timers.pending).filter fun timer => decide (timer.deadline ≤ t)

/-- The clock moves on to a deadline and the timer expires. -/
def expireNext (b : Earbud) (timer : ArmedTimer) : Earbud := (b.advanceTo timer.deadline).expire timer.kind

theorem next?_eq_some :
    b.next? t = some timer ↔ ArmedTimer.first? b.timers.pending = some timer ∧ timer.deadline ≤ t := by
  simp [next?, Option.filter_eq_some_iff]

theorem next?_eq_none : b.next? t = none ↔ ∀ timer ∈ b.timers.pending, t < timer.deadline := by
  constructor
  · intro hnone timer hmem
    by_contra hle
    cases hfirst : ArmedTimer.first? b.timers.pending with
    | none =>
      rw [ArmedTimer.first?_eq_none.mp hfirst] at hmem
      cases hmem
    | some first =>
      have hbefore := ArmedTimer.deadline_le_of_first? hfirst hmem
      exact nomatch hnone.symm.trans (next?_eq_some.mpr ⟨hfirst, by omega⟩)
  · intro hlater
    refine Option.eq_none_iff_forall_ne_some.mpr fun timer hnext => ?_
    obtain ⟨hfirst, hle⟩ := next?_eq_some.mp hnext
    have hlater := hlater timer (ArmedTimer.mem_of_first? hfirst)
    omega

theorem deliverNext?_fst (b : Earbud) (t : Nat) :
    (b.deliverNext? t).map Prod.fst = (b.next? t).map b.expireNext := by
  unfold deliverNext? next? TimerQueue.nextDeadline?
  cases hfirst : ArmedTimer.first? b.timers.pending with
  | none => rfl
  | some timer =>
    by_cases hle : timer.deadline ≤ t
    · have hdue : ArmedTimer.first? (b.advanceTo timer.deadline).timers.due = some timer :=
        ArmedTimer.first?_filter hfirst (decide_eq_true (Nat.le_max_right _ _))
      have hdelivered := (b.advanceTo timer.deadline).deliverDue?_fst
      rw [hdue] at hdelivered
      obtain ⟨⟨b', delivered⟩, hb, hb'⟩ := Option.map_eq_some_iff.mp hdelivered
      simp [hle, hb, Option.filter, expireNext, ← hb']
    · simp [hle, Option.filter]

theorem runUntil_done (h : b.next? t = none) (n : Nat) : (b.runUntil t (n + 1)).1 = b.advanceTo t := by
  have hnext := b.deliverNext?_fst t
  rw [h] at hnext
  conv_lhs => unfold runUntil
  rw [Option.map_eq_none_iff.mp hnext]

theorem runUntil_next (h : b.next? t = some timer) (n : Nat) :
    (b.runUntil t (n + 1)).1 = ((b.expireNext timer).runUntil t n).1 := by
  have hnext := b.deliverNext?_fst t
  rw [h] at hnext
  obtain ⟨⟨b', delivery⟩, hb, hb'⟩ := Option.map_eq_some_iff.mp hnext
  conv_lhs => unfold runUntil
  rw [hb]
  exact congrArg (fun b => (runUntil b t n).1) hb'

theorem config_runUntil (b : Earbud) (t n : Nat) : (b.runUntil t n).1.config = b.config := by
  induction n generalizing b with
  | zero => rfl
  | succ n ih =>
    cases h : b.next? t with
    | none =>
      rw [runUntil_done h]
      rfl
    | some timer =>
      rw [runUntil_next h]
      exact (ih _).trans (config_expire _ _)

theorem timely_expireNext (h : b.timers.Timely) (hnext : b.next? t = some timer) :
    (b.expireNext timer).timers.Timely := by
  obtain ⟨hfirst, -⟩ := next?_eq_some.mp hnext
  exact timely_expire (b := b.advanceTo timer.deadline)
    (h.advanceTo fun other hmem => ArmedTimer.deadline_le_of_first? hfirst hmem) timer.kind

/-- The earbud is done after so many expiries. -/
def EndsIn (t : Nat) : Nat → Earbud → Prop
  | 0, b => b.next? t = none
  | n + 1, b => ∃ timer, b.next? t = some timer ∧ EndsIn t n (b.expireNext timer)

/-! ### A poll without a pause -/

/-- The gain poll is to expire by `t` before all else, and arms itself again without a pause. -/
structure Spins (t : Nat) (b : Earbud) : Prop where
  unpaused : b.config.timing.gainPoll = 0
  adaptive : b.runtime.currentMode.isAdaptive = true
  alone : ∃ timer ∈ b.timers.pending, timer.kind = .gainPoll ∧ timer.deadline ≤ t ∧
    ∀ other ∈ b.timers.pending, other.deadline ≤ timer.deadline → other.kind = .gainPoll

instance (t : Nat) (b : Earbud) : Decidable (Spins t b) :=
  decidable_of_iff
    (b.config.timing.gainPoll = 0 ∧ b.runtime.currentMode.isAdaptive = true ∧
      ∃ timer ∈ b.timers.pending, timer.kind = .gainPoll ∧ timer.deadline ≤ t ∧
        ∀ other ∈ b.timers.pending, other.deadline ≤ timer.deadline → other.kind = .gainPoll)
    ⟨fun ⟨h, h', h''⟩ => ⟨h, h', h''⟩, fun ⟨h, h', h''⟩ => ⟨h, h', h''⟩⟩

theorem timers_expireNext_gainPoll (hkind : timer.kind = .gainPoll) :
    (b.expireNext timer).timers =
      if b.runtime.currentMode.isAdaptive then
        ((b.timers.cancel .gainPoll).advanceTo timer.deadline).arm .gainPoll b.config.timing.gainPoll
      else (b.timers.cancel .gainPoll).advanceTo timer.deadline := by
  unfold expireNext
  rw [hkind]
  exact timers_expire_gainPoll (b.advanceTo timer.deadline)

/-- Once it spins the poll goes on to. -/
theorem Spins.expireNext (h : Spins t b) (ht : b.timers.Timely) :
    ∃ timer, b.next? t = some timer ∧ Spins t (b.expireNext timer) := by
  obtain ⟨poll, hmem, hkind, hle, halone⟩ := h.alone
  cases hfirst : ArmedTimer.first? b.timers.pending with
  | none =>
    rw [ArmedTimer.first?_eq_none.mp hfirst] at hmem
    cases hmem
  | some timer =>
    have hbefore := ArmedTimer.deadline_le_of_first? hfirst hmem
    have hpoll := halone timer (ArmedTimer.mem_of_first? hfirst) hbefore
    have hnow := ht.ahead timer (ArmedTimer.mem_of_first? hfirst)
    have htimers := timers_expireNext_gainPoll (b := b) hpoll
    rw [if_pos h.adaptive, h.unpaused] at htimers
    refine ⟨timer, next?_eq_some.mpr ⟨hfirst, by omega⟩, ?_, ?_, ?_⟩
    · rw [Earbud.expireNext, config_expire]
      exact h.unpaused
    · rw [Earbud.expireNext, hpoll, currentMode_expire_gainPoll]
      exact h.adaptive
    · have hsame : max b.timers.now timer.deadline + 0 = timer.deadline := by omega
      rw [htimers, TimerQueue.pending_rearm, hsame]
      refine ⟨_, List.mem_append_right _ (List.mem_singleton_self _), rfl, hbefore.trans hle, ?_⟩
      intro other hother hbound
      rcases List.mem_append.mp hother with hother | hother
      · exact halone other (List.mem_filter.mp hother).1 (hbound.trans hbefore)
      · rw [List.mem_singleton.mp hother]

theorem Spins.not_endsIn (h : Spins t b) (ht : b.timers.Timely) (n : Nat) : ¬EndsIn t n b := by
  induction n generalizing b with
  | zero =>
    obtain ⟨timer, hnext, -⟩ := h.expireNext ht
    exact fun hends => nomatch hnext.symm.trans hends
  | succ n ih =>
    obtain ⟨timer, hnext, hspins⟩ := h.expireNext ht
    rintro ⟨timer', hnext', hends⟩
    obtain rfl := Option.some.inj (hnext'.symm.trans hnext)
    exact ih hspins (timely_expireNext ht hnext) hends

/-! ### The countdown -/

/-- A poll that expires first and is then first again has nothing beside it. -/
theorem spins_of_pollsFirst (h : b.timers.Timely) (hnext : b.next? t = some timer)
    (hkind : timer.kind = .gainPoll) (hadaptive : b.runtime.currentMode.isAdaptive = true)
    (hunpaused : b.config.timing.gainPoll = 0)
    (hagain : (b.expireNext timer).timers.pollsFirst = true) : Spins t b := by
  obtain ⟨hfirst, hle⟩ := next?_eq_some.mp hnext
  have hmem := ArmedTimer.mem_of_first? hfirst
  have hnow := h.ahead timer hmem
  refine ⟨hunpaused, hadaptive, timer, hmem, hkind, hle, fun other hother hbound => ?_⟩
  by_contra hne
  have hpending : (b.expireNext timer).timers.pending =
      (b.timers.cancel .gainPoll).pending ++
        [⟨.gainPoll, max b.timers.now timer.deadline, b.timers.armings + 1⟩] := by
    rw [timers_expireNext_gainPoll hkind, if_pos hadaptive, hunpaused]
    exact TimerQueue.pending_rearm _ _ _ 0
  obtain ⟨again, hagain, hpoll⟩ := (Option.any_eq_true _ _).mp hagain
  have hpoll : again.kind = .gainPoll := beq_iff_eq.mp hpoll
  have hmem' := ArmedTimer.mem_of_first? hagain
  have hbefore := ArmedTimer.before_eq_false.mp (ArmedTimer.not_before_first? hagain other (by
    rw [hpending]
    exact List.mem_append_left _ (List.mem_filter.mpr ⟨hother, by simpa using hne⟩)))
  rw [hpending] at hmem'
  rcases List.mem_append.mp hmem' with hmem' | hmem'
  · simpa [hpoll] using (List.mem_filter.mp hmem').2
  · -- At one deadline the poll would come after the other timer, which has been armed before.
    have hnumber := h.numbered other hother
    rw [List.mem_singleton.mp hmem'] at hbefore
    dsimp only at hbefore
    omega

theorem pollTime_of_next? (h : b.timers.Timely) (hnext : b.next? t = some timer)
    (hkind : timer.kind = .gainPoll) : b.timers.pollTime t = t + 1 - timer.deadline := by
  obtain ⟨hfirst, -⟩ := next?_eq_some.mp hnext
  have hfind := h.find?_eq (ArmedTimer.mem_of_first? hfirst)
  rw [hkind] at hfind
  simp [TimerQueue.pollTime, TimerQueue.deadline?, hfind]

theorem pollTime_expireNext (h : b.timers.Timely) (hnext : b.next? t = some timer)
    (hkind : timer.kind = .gainPoll) :
    (b.expireNext timer).timers.pollTime t =
      if b.runtime.currentMode.isAdaptive then t + 1 - (timer.deadline + b.config.timing.gainPoll)
      else 0 := by
  obtain ⟨hfirst, -⟩ := next?_eq_some.mp hnext
  have hnow := h.ahead timer (ArmedTimer.mem_of_first? hfirst)
  rw [timers_expireNext_gainPoll hkind]
  split
  · have hsame : max b.timers.now timer.deadline = timer.deadline := by omega
    rw [TimerQueue.pollTime_arm]
    exact congrArg (fun d => t + 1 - (d + b.config.timing.gainPoll)) hsame
  · exact TimerQueue.pollTime_cancel b.timers t

theorem countdown_expireNext (h : b.timers.Timely) (hnext : b.next? t = some timer)
    (hspins : ¬Spins t b) :
    Prod.Lex (· < ·) (Prod.Lex (· < ·) (· < ·)) ((b.expireNext timer).timers.countdown t)
      (b.timers.countdown t) := by
  obtain ⟨hfirst, hle⟩ := next?_eq_some.mp hnext
  by_cases hkind : timer.kind = .gainPoll
  · have hpressure : (b.expireNext timer).timers.pressure = b.timers.pressure :=
      TimerQueue.pressure_eq fun k' hk' =>
        isArmed_expire (b := b.advanceTo timer.deadline) (hkind ▸ hk')
          (by rw [hkind]; simpa [TimerKind.rearms] using hk')
    have hbefore := pollTime_of_next? h hnext hkind
    have hafter := pollTime_expireNext h hnext hkind
    unfold TimerQueue.countdown
    rw [hpressure]
    refine .right _ ?_
    by_cases hspot : b.runtime.currentMode.isAdaptive = true ∧ b.config.timing.gainPoll = 0
    · -- The poll keeps its time, but something else is to expire first now.
      obtain ⟨hadaptive, hpause⟩ := hspot
      have hnow : b.timers.pollsFirst = true := by simp [TimerQueue.pollsFirst, hfirst, hkind]
      have hlater : (b.expireNext timer).timers.pollsFirst = false :=
        Bool.eq_false_iff.mpr fun hagain =>
          hspins (spins_of_pollsFirst h hnext hkind hadaptive hpause hagain)
      rw [hafter, if_pos hadaptive, hbefore, hpause, hnow, hlater]
      exact .right _ (by decide)
    · refine .left _ _ ?_
      rw [hafter, hbefore]
      split <;> rename_i hadaptive
      · have hpause : b.config.timing.gainPoll ≠ 0 := fun hpause => hspot ⟨hadaptive, hpause⟩
        omega
      · omega
  · have harmed : b.timers.isArmed timer.kind = true := by
      simp [TimerQueue.isArmed, h.find?_eq (ArmedTimer.mem_of_first? hfirst)]
    exact .left _ _ (TimerQueue.pressure_lt hkind harmed
      (not_isArmed_expire (TimerKind.rearms_self hkind)) fun k' hne hk' =>
        isArmed_expire (b := b.advanceTo timer.deadline) hne hk')

theorem exists_endsIn (b : Earbud) (h : b.timers.Timely)
    (hspins : ∀ n, ¬Spins t (b.runUntil t n).1) : ∃ n, EndsIn t n b := by
  cases hnext : b.next? t with
  | none => exact ⟨0, hnext⟩
  | some timer =>
    have hless := countdown_expireNext h hnext (hspins 0)
    have hlater : ∀ n, ¬Spins t ((b.expireNext timer).runUntil t n).1 := by
      intro n
      have hlater := hspins (n + 1)
      rwa [runUntil_next hnext] at hlater
    obtain ⟨n, hn⟩ := exists_endsIn (b.expireNext timer) (timely_expireNext h hnext) hlater
    exact ⟨n + 1, timer, hnext, hn⟩
termination_by b.timers.countdown t
decreasing_by exact hless

theorem EndsIn.not_spins (h : EndsIn t n b) (ht : b.timers.Timely) (k : Nat) :
    ¬Spins t (b.runUntil t k).1 := by
  induction k generalizing b n with
  | zero => exact fun hspins => hspins.not_endsIn ht n h
  | succ k ih =>
    cases n with
    | zero =>
      have hnone : b.next? t = none := h
      rw [runUntil_done hnone]
      rintro ⟨-, -, timer, hmem, -, hle, -⟩
      have hlater := next?_eq_none.mp hnone timer hmem
      omega
    | succ n =>
      obtain ⟨timer, hnext, hends⟩ := h
      rw [runUntil_next hnext]
      exact ih hends (timely_expireNext ht hnext)

/-- The timers of an earbud run out unless the poll spins some time. -/
theorem exists_endsIn_iff (h : b.timers.Timely) :
    (∃ n, EndsIn t n b) ↔ ∀ n, ¬Spins t (b.runUntil t n).1 :=
  ⟨fun ⟨_, hends⟩ => hends.not_spins h, exists_endsIn b h⟩

end Earbud

end NoiseControl
