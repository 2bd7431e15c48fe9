import Mathlib.Order.Nat
import NoiseControl.Proofs.Pair.Handover

/-!
# Timers of a pair expire on time

The two sides of a pair are always at the same time.  The clock moves on only as far as the first
deadline on either side, so each timer expires exactly at its deadline, and the timers of both sides
expire in the order of their deadlines.
-/

namespace NoiseControl

namespace Pair

variable {p q : Pair} {log more : List Handover} {now : Nat}

/-- Both sides are at one time, and no timer is overdue on either. -/
structure Level (now : Nat) (p : Pair) : Prop where
  clock : ∀ s, (p.side s).timers.now = now
  timely : ∀ s, (p.side s).timers.Timely

theorem Level.now_eq (h : Level now p) : p.now = now := h.clock .left

theorem Level.setSide (h : Level now p) {s : Side} {b : Earbud} (hclock : b.timers.now = now)
    (htimely : b.timers.Timely) : Level now (p.setSide s b) where
  clock := Side.forall_of s (by rwa [side_setSide]) (by rw [side_other_setSide]; exact h.clock _)
  timely := Side.forall_of s (by rwa [side_setSide]) (by rw [side_other_setSide]; exact h.timely _)

theorem Level.event (h : Level now p) (s : Side) (e : Event) : Level now (p.dispatch s e).1 :=
  h.setSide ((Earbud.now_dispatch _ e).trans (h.clock s)) (Earbud.timely_dispatch (h.timely s) e)

theorem Level.take (h : Level now p) (s : Side) : Level now (p.takeFor s).1 :=
  h.setSide (h.clock s.other) (h.timely s.other)

theorem Level.expire (h : Level now p) (s : Side) (k : TimerKind) :
    Level now (p.setSide s ((p.side s).expire k)) :=
  h.setSide ((Earbud.now_expire _ k).trans (h.clock s)) (Earbud.timely_expire (h.timely s) k)

theorem side_advanceTo (p : Pair) (t : Nat) (s : Side) :
    (p.advanceTo t).side s = (p.side s).advanceTo t := by
  cases s <;> rfl

theorem Level.advanceTo (h : Level now p) {t : Nat}
    (ht : ∀ s, ∀ timer ∈ (p.side s).timers.pending, t ≤ timer.deadline) :
    Level (max now t) (p.advanceTo t) where
  clock s := by
    rw [side_advanceTo]
    exact congrArg (max · t) (h.clock s)
  timely s := by
    rw [side_advanceTo]
    exact (h.timely s).advanceTo (ht s)

/-! ### The deadlines of what expired -/

/-- The deadlines of the timers that expired on either side, in the order in which they did. -/
def deadlines (log : List Handover) : List Nat :=
  log.filterMap fun
    | .expiry _ timer _ => some timer.deadline
    | .record .. => none

theorem deadlines_append (log more : List Handover) :
    deadlines (log ++ more) = deadlines log ++ deadlines more := List.filterMap_append

/-- What happened came about on time, and nothing is overdue. -/
structure OnTime (log : List Handover) (p : Pair) : Prop where
  level : Level p.now p
  punctual : ∀ s timer time, .expiry s timer time ∈ log → time = timer.deadline
  past : ∀ deadline ∈ deadlines log, deadline ≤ p.now
  inOrder : (deadlines log).Pairwise (· ≤ ·)

/-- Nothing expires on the way. -/
theorem OnTime.uneventful (h : OnTime log p) (hlevel : Level now q) (hnow : p.now ≤ now)
    (hmore : ∀ s timer time, .expiry s timer time ∉ more) : OnTime (log ++ more) q := by
  have hnone : deadlines more = [] := by
    refine List.filterMap_eq_nil_iff.mpr fun handover hmem => ?_
    cases handover with
    | record s r => rfl
    | expiry s timer time => exact absurd hmem (hmore s timer time)
  have hlater : now = q.now := hlevel.now_eq.symm
  refine ⟨hlater ▸ hlevel, fun s timer time hmem => ?_, ?_, ?_⟩
  · rcases List.mem_append.mp hmem with hmem | hmem
    · exact h.punctual s timer time hmem
    · exact absurd hmem (hmore s timer time)
  · rw [deadlines_append, hnone, List.append_nil]
    exact fun deadline hmem => (h.past deadline hmem).trans (hlater ▸ hnow)
  · rw [deadlines_append, hnone, List.append_nil]
    exact h.inOrder

theorem OnTime.tick (h : OnTime log p) (tick : Tick p more q) :
    OnTime (log ++ more) q ∧ p.now ≤ q.now := by
  cases tick with
  | event s e =>
    have hlevel := h.level.event s e
    exact ⟨h.uneventful hlevel le_rfl nofun, hlevel.now_eq.ge⟩
  | take s =>
    have hlevel := h.level.take s
    refine ⟨h.uneventful hlevel le_rfl fun s' timer time hmem => ?_, hlevel.now_eq.ge⟩
    obtain ⟨r, -, hr⟩ := List.mem_map.mp hmem
    cases hr
  | wait t ht =>
    have hlevel := h.level.advanceTo ht
    have hlater := Nat.le_max_left p.now t
    exact ⟨h.uneventful hlevel hlater nofun, hlater.trans hlevel.now_eq.ge⟩
  | expiry s timer hfirst =>
    have hlevel := h.level.expire s timer.kind
    have hdue := (h.level.timely s).due (ArmedTimer.mem_of_first? hfirst)
    have htime : timer.deadline = p.now := hdue.2.trans (h.level.clock s)
    have hnow : (p.setSide s ((p.side s).expire timer.kind)).now = p.now := hlevel.now_eq
    refine ⟨⟨hnow ▸ hlevel, fun s' timer' time hmem => ?_, ?_, ?_⟩, hnow.ge⟩
    · rcases List.mem_append.mp hmem with hmem | hmem
      · exact h.punctual s' timer' time hmem
      · cases List.mem_singleton.mp hmem
        exact hdue.2.symm
    · rw [deadlines_append, hnow]
      intro deadline hmem
      rcases List.mem_append.mp hmem with hmem | hmem
      · exact h.past deadline hmem
      · exact (List.mem_singleton.mp hmem).le.trans htime.le
    · rw [deadlines_append]
      refine List.pairwise_append.mpr ⟨h.inOrder, List.pairwise_singleton _ _, ?_⟩
      intro deadline hmem last hlast
      rw [List.mem_singleton.mp hlast]
      exact (h.past deadline hmem).trans htime.ge

theorem OnTime.path (h : OnTime log p) (path : Path p more q) :
    OnTime (log ++ more) q ∧ p.now ≤ q.now := by
  induction path with
  | refl =>
    rw [List.append_nil]
    exact ⟨h, le_rfl⟩
  | tail _ tick ih =>
    rw [← List.append_assoc]
    obtain ⟨hnext, hlater⟩ := ih.1.tick tick
    exact ⟨hnext, ih.2.trans hlater⟩

/-! ### The end of the time that passes -/

theorem Level.deliver (h : Level now p) : Level now p.deliver.1 :=
  deliver_kept (P := Level now) (fun _ s h => h.take s) (fun _ s e h => h.event s e) h

theorem Level.fireDue {s : Side} {fuel : Nat} {b : Earbud} (h : Level now p)
    (hfired : fireDue? (p.side s) fuel = some b) : Level now (p.setSide s b) :=
  fireDue_kept (P := Level now) (fun _ s k h => h.expire s k) h hfired

/-- When time has passed the clock shows its end, and all that is pending lies beyond it. -/
theorem Level.stepUntil {t fuel : Nat} (h : Level now p) (hq : p.stepUntil? t fuel = some q) :
    Level (max now t) q ∧ ∀ s, ∀ timer ∈ (q.side s).timers.pending, t < timer.deadline := by
  induction fuel generalizing p now with
  | zero => cases hq
  | succ fuel ih =>
    cases hd : p.nextDeadline?.filter fun deadline => decide (deadline ≤ t) with
    | none =>
      have hlater : ∀ s, ∀ timer ∈ (p.side s).timers.pending, t < timer.deadline :=
        fun s _ ht => lt_of_filter_nextDeadline? hd s ht
      simp only [stepUntil?, hd, Option.some.injEq] at hq
      subst hq
      refine ⟨h.advanceTo fun s timer ht => (hlater s timer ht).le, fun s timer ht => ?_⟩
      rw [side_advanceTo] at ht
      exact hlater s timer ht
    | some deadline =>
      obtain ⟨hnext, hle⟩ := Option.filter_eq_some_iff.mp hd
      have hle : deadline ≤ t := of_decide_eq_true hle
      rw [stepUntil?_succ hd, Option.bind_eq_some_iff] at hq
      obtain ⟨left, hleft, hq⟩ := hq
      obtain ⟨right, hright, hq⟩ := Option.bind_eq_some_iff.mp hq
      have hmoved := h.advanceTo fun s timer ht => nextDeadline?_le hnext s ht
      have hfired := (hmoved.fireDue (s := .left) hleft).fireDue (s := .right) hright
      have hend : max (max now deadline) t = max now t := by omega
      exact hend ▸ ih hfired.deliver hq

theorem Level.runUntil {t fuel : Nat} (h : Level now p) (hq : p.runUntil? fuel t = some q) :
    Level (max now t) q ∧ ∀ s, ∀ timer ∈ (q.side s).timers.pending, t < timer.deadline :=
  h.deliver.stepUntil hq

/-! ### Every run -/

theorem onTime_new (left right : Config) (leftStore rightStore : SessionStore)
    (failures : Side → FailurePattern) :
    OnTime [] ((Pair.new left right leftStore rightStore).withFailures failures) where
  level :=
    { clock := Side.forall_of .left rfl rfl
      timely := Side.forall_of .left TimerQueue.timely_empty TimerQueue.timely_empty }
  punctual := nofun
  past := nofun
  inOrder := List.Pairwise.nil

/-- What a pair that was acted on shows of the time. -/
structure Punctual (fuel : Nat) (start : Pair) (actions : List Action) (p : Pair) : Prop where
  together : ∀ s, (p.side s).timers.now = p.now
  /-- No deadline is in the past. -/
  ahead : ∀ s, ∀ timer ∈ (p.side s).timers.pending, p.now ≤ timer.deadline
  /-- Each timer expired at its deadline. -/
  exact : ∀ s timer time, .expiry s timer time ∈ start.log fuel actions → time = timer.deadline
  /-- The timers of both sides expired in the order of their deadlines. -/
  inOrder : (deadlines (start.log fuel actions)).Pairwise (· ≤ ·)
  /-- The clocks do not go back, whatever is done next. -/
  forward : ∀ fuel action q, p.act? fuel action = some q → p.now ≤ q.now
  /-- Time that passes until `t` leaves no deadline up to `t`. -/
  complete : ∀ fuel t q, p.runUntil? fuel t = some q →
    q.now = max p.now t ∧ ∀ s, ∀ timer ∈ (q.side s).timers.pending, t < timer.deadline

theorem expires_on_time (left right : Config) (leftStore rightStore : SessionStore)
    (failures : Side → FailurePattern) (fuel : Nat) (actions : List Action) (p : Pair) :
    let start := (Pair.new left right leftStore rightStore).withFailures failures
    start.acts? fuel actions = some p → Punctual fuel start actions p := by
  intro start hacts
  have hstart := onTime_new left right leftStore rightStore failures
  obtain ⟨hp, -⟩ := hstart.path (path_acts? hacts)
  exact {
    together := hp.level.clock
    ahead := fun s timer ht => hp.level.clock s ▸ (hp.level.timely s).ahead timer ht
    exact := hp.punctual
    inOrder := hp.inOrder
    forward := fun fuel action q hq => (hp.path (path_act? hq)).2
    complete := fun fuel t q hq =>
      have hlevel := hp.level.runUntil hq
      ⟨hlevel.1.now_eq, hlevel.2⟩ }

example :
    deadlines ((Pair.ofConfig (.standard "")).log 10
      [.dispatchBoth .initialise, .dispatchBoth .powerOn, .dispatchBoth .enable,
        .runFor (millis 300)]) = [0, 0, 250000, 250000] := by
  decide

theorem expires_on_time_negotiating :
    let start := (Pair.ofConfig (.standard "")).withFailures fun _ _ _ => false
    let actions : List Action :=
      [.dispatchBoth .initialise, .dispatchBoth .powerOn, .dispatchBoth .enable, .runFor (millis 300),
        .dispatchBoth .silenceDetected, .deliverCrossed, .runUntil 0, .runFor (millis 300)]
    ∃ p, start.acts? 10 actions = some p ∧ Punctual 10 start actions p := by
  intro start actions
  have harrives : (start.acts? 10 actions).isSome = true := by decide
  obtain ⟨p, hp⟩ := Option.isSome_iff_exists.mp harrives
  exact ⟨p, hp, expires_on_time _ _ _ _ _ 10 actions p hp⟩

end Pair

end NoiseControl
