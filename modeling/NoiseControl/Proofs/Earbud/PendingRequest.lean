import Mathlib.Data.List.Induction
import NoiseControl.Proofs.Earbud.Classification
import NoiseControl.Proofs.Earbud.Reaction
import NoiseControl.Proofs.QuietMode.Decision

/-!
# Requests and their timers

An earbud that requests a transition has the timer of it armed.  The one exception is a timer that
expired while noise control was off or adaptive processing did not run: agreed instants do not
count then, and the request stays without a timer.
-/

namespace NoiseControl

open QuietMode (Direction Record Synchronizer Effect)

/-! ### Requests made and dropped by the synchronizer -/

namespace QuietMode.Synchronizer

variable {s : Synchronizer} {d : Direction}

/-- A request that stands after an operation stood before, or its timer is to be armed. -/
theorem requested_operate {o : Operation} (h : (s.operate o).1.own.requested d = true) :
    (∃ after, Effect.arm d after ∈ (s.operate o).2) ∨ s.own.requested d = true := by
  cases hfree : s.own.requested d with
  | true => exact Or.inr rfl
  | false =>
    obtain ⟨now, s', -, -, heq⟩ := operate_eq_schedule hfree h
    rw [heq]
    exact Or.inl ⟨s'.delay, by simp [schedule]⟩

theorem cancel_not_mem_operate (s : Synchronizer) (o : Operation) (d : Direction) :
    Effect.cancel d ∉ (s.operate o).2 := by
  intro h
  rcases s.operate_effects o with ⟨-, hall⟩ | hswitch
  · cases hall _ h
  · rw [hswitch, List.mem_singleton] at h
    split at h <;> cases h

end QuietMode.Synchronizer

namespace Earbud

variable {a b c : Earbud} {d : Direction}

/-- As far as it lies with what happened from `a` to `b`, a request has its timer: only one that
was without its timer before may be without it still. -/
def Timed (d : Direction) (a b : Earbud) : Prop :=
  b.quietMode.own.requested d = true → b.timers.isArmed (.quietMode d) = true ∨
    a.quietMode.own.requested d = true ∧ a.timers.isArmed (.quietMode d) = false

theorem Timed.same (hq : b.quietMode.own.requested d = a.quietMode.own.requested d)
    (ht : b.timers.isArmed (.quietMode d) = a.timers.isArmed (.quietMode d)) : Timed d a b := by
  intro h
  cases hb : b.timers.isArmed (.quietMode d) with
  | true => exact Or.inl rfl
  | false => exact Or.inr ⟨hq ▸ h, ht ▸ hb⟩

theorem Timed.trans (h : Timed d a b) (h' : Timed d b c) : Timed d a c := by
  intro hc
  rcases h' hc with hc | ⟨hb, hnone⟩
  · exact Or.inl hc
  · rcases h hb with hb | ha
    · rw [hnone] at hb
      cases hb
    · exact Or.inr ha

theorem Work.timed (w : Work apart a b) : Timed d a b := by
  refine .same ?_ ?_
  · rw [(w.silent rfl).1]
  · simp only [TimerQueue.isArmed, w.find? (k := .quietMode d) rfl]

/-- Effects that do not cancel a timer arm it anew, with a number that no timer had before, or leave
it as it is. -/
theorem find?_carryOut {effects : List Effect} (hc : .cancel d ∉ effects) (b : Earbud) :
    (∃ delay, .arm d delay ∈ effects) ∧
        (∃ timer, (effects.foldl carryOut b).timers.find? (.quietMode d) = some timer ∧
          b.timers.armings < timer.number) ∨
      (∀ delay, .arm d delay ∉ effects) ∧
        (effects.foldl carryOut b).timers.find? (.quietMode d) = b.timers.find? (.quietMode d) := by
  induction effects generalizing b with
  | nil => exact Or.inr ⟨nofun, rfl⟩
  | cons e rest ih =>
    rw [List.mem_cons, not_or] at hc
    have hpassed : (∀ delay, e ≠ .arm d delay) →
        b.timers.armings ≤ (carryOut b e).timers.armings →
        (carryOut b e).timers.find? (.quietMode d) = b.timers.find? (.quietMode d) →
        (∃ delay, .arm d delay ∈ e :: rest) ∧
            (∃ timer, ((e :: rest).foldl carryOut b).timers.find? (.quietMode d) = some timer ∧
              b.timers.armings < timer.number) ∨
          (∀ delay, .arm d delay ∉ e :: rest) ∧
            ((e :: rest).foldl carryOut b).timers.find? (.quietMode d) =
              b.timers.find? (.quietMode d) := by
      intro hother hle hsame
      rcases ih hc.2 (carryOut b e) with ⟨⟨delay, hmem⟩, timer, hfind, hnew⟩ | ⟨hnone, hfind⟩
      · exact Or.inl ⟨⟨delay, List.mem_cons_of_mem _ hmem⟩, timer, hfind, by omega⟩
      · refine Or.inr ⟨fun delay hmem => ?_, hfind.trans hsame⟩
        rcases List.mem_cons.mp hmem with he | hmem
        · exact hother delay he.symm
        · exact hnone delay hmem
    cases e with
    | arm d' delay =>
      have harmed := TimerQueue.find?_arm b.timers (.quietMode d') (.quietMode d) delay
      by_cases hd : d = d'
      · subst hd
        refine Or.inl ⟨⟨delay, List.mem_cons_self⟩, ?_⟩
        rw [if_pos rfl] at harmed
        rcases ih hc.2 (carryOut b (.arm d delay)) with ⟨-, timer, hfind, hnew⟩ | ⟨-, hfind⟩
        · exact ⟨timer, hfind, Nat.lt_of_succ_lt hnew⟩
        · exact ⟨_, hfind.trans harmed, Nat.lt_succ_self _⟩
      · exact hpassed (by simp [Ne.symm hd]) (Nat.le_succ _) (harmed.trans (if_neg (by simpa using hd)))
    | cancel d' =>
      have hd : d ≠ d' := fun he => hc.1 (by rw [he])
      have hleft := TimerQueue.find?_cancel b.timers (.quietMode d') (.quietMode d)
      exact hpassed nofun (Nat.le_refl _) (hleft.trans (if_neg (by simpa using hd)))
    | _ => exact hpassed nofun (Nat.le_refl _) rfl

theorem isArmed_carryOut {effects : List Effect} (hc : .cancel d ∉ effects) (b : Earbud) :
    (effects.foldl carryOut b).timers.isArmed (.quietMode d) = true ↔
      b.timers.isArmed (.quietMode d) = true ∨ ∃ delay, .arm d delay ∈ effects := by
  rcases find?_carryOut hc b with ⟨hmem, timer, hfind, -⟩ | ⟨hnone, hfind⟩
  · simp [TimerQueue.isArmed, hfind, hmem]
  · simp [TimerQueue.isArmed, hfind, hnone]

theorem timed_operate (b : Earbud) (o : Synchronizer.Operation) (d : Direction) :
    Timed d b (b.adopt (b.quietMode.operate o)) := by
  intro h
  rw [quietMode_adopt] at h
  have hc := b.quietMode.cancel_not_mem_operate o d
  rcases Synchronizer.requested_operate h with harm | hr
  · exact Or.inl ((isArmed_carryOut hc _).mpr (Or.inr harm))
  · cases hb : b.timers.isArmed (.quietMode d) with
    | true => exact Or.inl ((isArmed_carryOut hc _).mpr (Or.inl hb))
    | false => exact Or.inr ⟨hr, rfl⟩

theorem timed_finishFollowUps (b : Earbud) (d : Direction) : Timed d b b.finishFollowUps :=
  finishFollowUps_induction b (.same rfl rfl) fun b d' h => h.trans (timed_operate b (.fire d') d)

theorem timed_dispatch (b : Earbud) (e : Event) (d : Direction) (hdone : b.followUps = []) :
    Timed d b (b.dispatch e).1 := by
  cases h : b.startsAfresh e with
  | true =>
    have hclear := (afresh_dispatch h hdone).own
    intro hr
    rw [hclear] at hr
    cases d <;> cases hr
  | false =>
    refine Timed.trans (b := (b.handle e).1) ?_ (timed_finishFollowUps _ d)
    rcases handle_operation h with hw | ⟨o, ho⟩
    · exact hw.timed
    · rw [ho]
      exact timed_operate b o d

/-! ### Timers that expire -/

theorem requested_dispatch_quietMode (b : Earbud) (d : Direction) (hdone : b.followUps = [])
    (hon : (b.isEnabled && b.audio.adaptive) = true) :
    (b.dispatch (.timerExpired (.quietMode d))).1.quietMode.own.requested d = false := by
  rw [Bool.and_eq_true] at hon
  have hhandle : (b.handle (.timerExpired (.quietMode d))).1 = b.adopt (b.quietMode.fire d) := by
    refine (handle_quietModeFire b d).trans ?_
    rw [if_pos hon.1, whileAdaptive, if_pos hon.2]
  have hnone : (b.adopt (b.quietMode.fire d)).followUps = [] :=
    (followUps_adopt_fire b d).trans hdone
  have hfinish : (b.dispatch (.timerExpired (.quietMode d))).1.quietMode = (b.quietMode.fire d).1 := by
    show (b.handle (.timerExpired (.quietMode d))).1.finishFollowUps.quietMode = _
    rw [hhandle, finishFollowUps, hnone]
    exact quietMode_adopt b _
  rw [hfinish]
  cases hr : (b.quietMode.fire d).1.own.requested d with
  | false => rfl
  | true => exact absurd rfl (Synchronizer.requested_fire _ d d hr).1

/-- Whether a move lets the timer of a transition expire where agreed instants do not count. -/
def Move.wastes (m : Move) (d : Direction) (b : Earbud) : Prop :=
  m = .expiry ∧ (∃ timers, b.timers.popDue? = some (.quietMode d, timers)) ∧
    (b.isEnabled && b.audio.adaptive) = false

theorem timed_perform {m : Move} (ho : b.timers.InOrder) (hdone : b.followUps = [])
    (hw : ¬m.wastes d b) : Timed d b (b.perform m) := by
  rw [perform_eq]
  cases m with
  | event e he => exact timed_dispatch b e d hdone
  | wait t => exact .same rfl rfl
  | surround s => exact .same rfl rfl
  | expiry =>
    simp only [dispatched?]
    cases hp : b.timers.popDue? with
    | none => exact .same rfl rfl
    | some p =>
      obtain ⟨k, timers⟩ := p
      dsimp only [Option.map_some]
      by_cases hk : k = .quietMode d
      -- The transition is carried out, and its request goes with it.
      · subst hk
        have hon : (b.isEnabled && b.audio.adaptive) = true := by
          cases hon : b.isEnabled && b.audio.adaptive with
          | true => rfl
          | false => exact absurd ⟨rfl, ⟨timers, hp⟩, hon⟩ hw
        intro hr
        rw [requested_dispatch_quietMode { b with timers := timers } d hdone hon] at hr
        cases hr
      · obtain ⟨-, -, -, rfl, -⟩ := ho.popDue?_eq_some hp
        refine Timed.trans (b := b.cancel k) (.same rfl ?_) (timed_dispatch (b.cancel k) _ d hdone)
        simp only [TimerQueue.isArmed, cancel, TimerQueue.find?_cancel, if_neg (Ne.symm hk)]

/-! ### Runs -/

/-- Along every run, a request has its timer armed, unless that timer expired while noise control
was off or adaptive processing did not run, and the request has been pending ever since. -/
theorem requested_run (c : Config) (clockOrigin : Option WallClock) (store : SessionStore)
    (moves : List Move) (d : Direction) :
    let start := Earbud.new c clockOrigin store
    (start.run moves).quietMode.own.requested d = true →
      (start.run moves).timers.isArmed (.quietMode d) = true ∨
        ∃ earlier later, moves = earlier ++ .expiry :: later ∧
          (∃ timers, (start.run earlier).timers.popDue? = some (.quietMode d, timers)) ∧
          ((start.run earlier).isEnabled && (start.run earlier).audio.adaptive) = false ∧
          ∀ mid, mid <+: later →
            (start.run (earlier ++ .expiry :: mid)).quietMode.own.requested d = true := by
  intro start
  -- The induction is on the last move: it wastes the timer, or adds nothing to what was wasted.
  induction moves using List.reverseRecOn with
  | nil =>
    intro hr
    cases d <;> cases hr
  | append_singleton moves m ih =>
    intro hr
    obtain ⟨hsound, hdone⟩ := sound_run c clockOrigin store moves
    by_cases hw : m.wastes d (start.run moves)
    · obtain ⟨rfl, hpop, hoff⟩ := hw
      refine Or.inr ⟨moves, [], rfl, hpop, hoff, fun mid hmid => ?_⟩
      rw [List.prefix_nil.mp hmid]
      exact hr
    · have hstep := timed_perform (d := d) hsound.order hdone hw
      rw [← run_snoc] at hstep
      rcases hstep hr with harmed | ⟨hbefore, hnone⟩
      · exact Or.inl harmed
      · rcases ih hbefore with harmed | ⟨earlier, later, rfl, hpop, hoff, hsince⟩
        · rw [hnone] at harmed
          cases harmed
        · refine Or.inr ⟨earlier, later ++ [m], by simp, hpop, hoff, fun mid hmid => ?_⟩
          rcases List.prefix_concat_iff.mp hmid with rfl | hmid
          · simpa using hr
          · exact hsince mid hmid

theorem requested_run_elected :
    let start := Earbud.new (.standard "") none {}
    let moves : List Move :=
      [.event .initialise, .event .powerOn, .event .enable, .expiry, .event .silenceDetected,
        .event (.peerRecord { detected := true })]
    (start.run moves).quietMode.own.requested .enable = true ∧
      ((start.run moves).timers.isArmed (.quietMode .enable) = true ∨
        ∃ earlier later, moves = earlier ++ .expiry :: later ∧
          (∃ timers, (start.run earlier).timers.popDue? = some (.quietMode .enable, timers)) ∧
          ((start.run earlier).isEnabled && (start.run earlier).audio.adaptive) = false ∧
          ∀ mid, mid <+: later →
            (start.run (earlier ++ .expiry :: mid)).quietMode.own.requested .enable = true) :=
  ⟨by decide, requested_run (.standard "") none {} _ .enable (by decide)⟩

/-- Noise control is switched off while a request is pending, and its timer expires in vain. -/
theorem requested_not_armed :
    ¬∀ (c : Config) (clockOrigin : Option WallClock) (store : SessionStore) (moves : List Move)
        (d : Direction),
      let b := (Earbud.new c clockOrigin store).run moves
      b.quietMode.own.requested d = true → b.timers.isArmed (.quietMode d) = true := by
  intro h
  have hoff := h (.standard "") none {}
    [.event .initialise, .event .powerOn, .event .enable, .expiry, .event .silenceDetected,
      .event (.peerRecord { detected := true }), .event .disable, .wait 300000, .expiry, .expiry]
    .enable (by decide)
  exact absurd hoff (by decide)

end Earbud

end NoiseControl
