import NoiseControl.Proofs.Earbud.BringUp
import NoiseControl.Proofs.Pair.Time

/-!
# The sides of a pair agree

Whatever silence the two earbuds of a pair report, and however their records are delivered, whenever
time has passed quiet mode is on for both or for neither, at most one of them asks for a transition,
and both have the timer of the same instant for it.
-/

namespace NoiseControl

open QuietMode (Direction Record Synchronizer Effect)

namespace Pair

open Earbud (Paired Stands Stance)

variable {c : Config} {now n : Nat} {p : Pair}

inductive Step where
  /-- Silence is reported to one side, or its end. -/
  | report (s : Side) (silent : Bool)
  | reportBoth (silent : Bool)
  | deliver
  | deliverCrossed
  | runUntil (t : Nat)
  | runFor (duration : Nat)

namespace Step

def isTimed : Step → Bool
  | runUntil _ | runFor _ => true
  | _ => false

end Step

/-- Do one step.  None means that `fuel` was not enough for time to pass. -/
def perform? (fuel : Nat) (p : Pair) : Step → Option Pair
  | .report s silent => some (p.dispatch s (.silence silent)).1
  | .reportBoth silent => some (p.dispatchBoth (.silence silent))
  | .deliver => some p.deliver.1
  | .deliverCrossed => some p.deliverCrossed.1
  | .runUntil t => p.runUntil? fuel t
  | .runFor duration => p.runFor? fuel duration

def run? (fuel : Nat) (p : Pair) : List Step → Option Pair
  | [] => some p
  | step :: rest => (p.perform? fuel step).bind fun p => p.run? fuel rest

structure Agreed (p : Pair) : Prop where
  /-- Quiet mode is on for both or for neither. -/
  enabled : p.left.quietMode.own.enabled = p.right.quietMode.own.enabled
  /-- At most one side has a request of its own in a direction. -/
  single : ∀ d, ¬(p.left.quietMode.own.requested d = true ∧ p.right.quietMode.own.requested d = true)
  /-- The timers of a transition that one side requests are pending on both, for one instant. -/
  timed : ∀ d s, (p.side s).quietMode.own.requested d = true →
    ∃ t, ∀ s', (p.side s').timers.deadline? (.quietMode d) = some t

/-! ### What holds of calm pairs -/

theorem agreed_of_request {s : Side} {on : Bool} {time : Nat}
    (asks : Stands (.asking on time) (p.side s))
    (follows : Stands (.following on time) (p.side s.other)) : p.Agreed := by
  have hasks : (p.side s).quietMode.Asks on (instant time) := asks.negotiation
  have hfollows : (p.side s.other).quietMode.Follows on := follows.negotiation
  have hown := hasks.own.requested
  have hother := hfollows.own
  have htimers : ∀ d s', (p.side s').timers.deadline? (.quietMode d) =
      if d = .leaving on then some time else none := fun d =>
    Side.forall_of s (asks.timers d) (follows.timers d)
  refine ⟨?_, fun d => ?_, fun d s' hd => ?_⟩
  · cases s
    · exact hasks.enabled.trans hfollows.enabled.symm
    · exact hfollows.enabled.trans hasks.enabled.symm
  · rintro ⟨hleft, hright⟩
    cases s
    · exact Bool.false_ne_true ((hother d).symm.trans hright)
    · exact Bool.false_ne_true ((hother d).symm.trans hleft)
  · rcases s'.eq_or_eq_other s with rfl | rfl
    · rw [hown, decide_eq_true_eq] at hd
      exact ⟨time, fun s' => (htimers d s').trans (if_pos hd)⟩
    · rw [hother] at hd
      cases hd

theorem agreed_of_free {on : Bool} (h : ∀ s, (p.side s).quietMode.Free on) : p.Agreed where
  enabled := (h .left).enabled.trans (h .right).enabled.symm
  single d hd := Bool.false_ne_true (((h .left).own d).symm.trans hd.1)
  timed d s hd := absurd (((h s).own d).symm.trans hd) Bool.false_ne_true

theorem Calm.agreed (h : Calm c now p) : p.Agreed := by
  obtain ⟨x, y, hfits, hleft, hright⟩ := h.stands
  cases hfits with
  | early x hx =>
    have hfree : ∀ q, x.Negotiation q → q.Free false := by
      cases x with
      | absent | settling => exact fun _ h => h
      | _ => cases hx
    exact agreed_of_free (Side.forall_of .left (hfree _ hleft.negotiation) (hfree _ hright.negotiation))
  | free on => exact agreed_of_free (Side.forall_of .left hleft.negotiation hright.negotiation)
  | leads on time => exact agreed_of_request (s := .left) hleft hright
  | trails on time => exact agreed_of_request (s := .right) hright hleft

/-! ### Steps -/

/-- A pair in some stage of a negotiation, at some time. -/
def Negotiating (c : Config) (p : Pair) : Prop := ∃ now n, Joined c now p ∧ Stage c now p n

theorem Calm.negotiating (h : Calm c now p) : Negotiating c p := by
  obtain ⟨n, hstage⟩ := h.stage
  exact ⟨now, n, h.joined, hstage⟩

section

variable (hpoll : 0 < c.timing.gainPoll) (hpos : 1 ≤ c.timing.quietModeDelay)
  (hlt : c.timing.quietModeDelay < 2 ^ 31)

include hpoll hpos hlt

theorem Negotiating.runUntil (h : Negotiating c p) (t : Nat) :
    ∃ p', Settles (fun fuel => p.runUntil? fuel t) p' ∧ ∃ now, Calm c now p' := by
  obtain ⟨now, n, hj, hstage⟩ := h
  obtain ⟨hj', n', hstage', hload⟩ := hstage.deliver hpos hlt hj
  obtain ⟨p', hsettles, hcalm⟩ := (hstage'.calm hj' hload).stepUntil hpoll t
  exact ⟨p', hsettles, _, hcalm⟩

/-- Every step leads on, and to a calm pair if time passes in it. -/
theorem Negotiating.perform (h : Negotiating c p) (step : Step) :
    ∃ p', Settles (fun fuel => p.perform? fuel step) p' ∧ Negotiating c p' ∧
      (step.isTimed = true → ∃ now, Calm c now p') := by
  have htimed : ∀ t, ∃ p', Settles (fun fuel => p.runUntil? fuel t) p' ∧ Negotiating c p' ∧
      (step.isTimed = true → ∃ now, Calm c now p') := by
    intro t
    obtain ⟨p', hsettles, now, hcalm⟩ := h.runUntil hpoll hpos hlt t
    exact ⟨p', hsettles, hcalm.negotiating, fun _ => ⟨now, hcalm⟩⟩
  cases step with
  | runUntil t => exact htimed t
  | runFor duration => exact htimed (p.now + duration)
  | report s silent =>
    obtain ⟨now, n, hj, hstage⟩ := h
    obtain ⟨hj', n', hstage'⟩ := hstage.silence hj s silent
    exact ⟨_, settles_const _, ⟨now, n', hj', hstage'⟩, fun h => nomatch h⟩
  | reportBoth silent =>
    obtain ⟨now, n, hj, hstage⟩ := h
    obtain ⟨hj₁, n₁, hstage₁⟩ := hstage.silence hj .left silent
    obtain ⟨hj₂, n₂, hstage₂⟩ := hstage₁.silence hj₁ .right silent
    exact ⟨_, settles_const _, ⟨now, n₂, hj₂, hstage₂⟩, fun h => nomatch h⟩
  | deliver =>
    obtain ⟨now, n, hj, hstage⟩ := h
    obtain ⟨hj', n', hstage', -⟩ := hstage.deliver hpos hlt hj
    exact ⟨_, settles_const _, ⟨now, n', hj', hstage'⟩, fun h => nomatch h⟩
  | deliverCrossed =>
    obtain ⟨now, n, hj, hstage⟩ := h
    obtain ⟨hj', n', hstage'⟩ := hstage.deliverCrossed hpos hlt hj
    exact ⟨_, settles_const _, ⟨now, n', hj', hstage'⟩, fun h => nomatch h⟩

theorem Negotiating.run (h : Negotiating c p) (steps : List Step) {last : Step}
    (hlast : last.isTimed = true) :
    ∃ p', Settles (fun fuel => p.run? fuel (steps ++ [last])) p' ∧ ∃ now, Calm c now p' := by
  induction steps generalizing p with
  | nil =>
    obtain ⟨p', hsettles, -, hcalm⟩ := h.perform hpoll hpos hlt last
    refine ⟨p', ?_, hcalm hlast⟩
    show Settles (fun fuel => (p.perform? fuel last).bind fun p => p.run? fuel []) p'
    exact hsettles.bind (settles_const p')
  | cons step rest ih =>
    obtain ⟨p₁, hsettles, hnegotiating, -⟩ := h.perform hpoll hpos hlt step
    obtain ⟨p', hsettles', hcalm⟩ := ih hnegotiating
    refine ⟨p', ?_, hcalm⟩
    show Settles (fun fuel => (p.perform? fuel step).bind fun p => p.run? fuel (rest ++ [last])) p'
    exact hsettles.bind hsettles'

end

theorem calm_broughtUp (hc : c.check = .ok ()) (ha : c.adaptive = true) :
    Calm c 0 ((((ofConfig c).dispatchBoth .initialise).dispatchBoth .powerOn).dispatchBoth .enable) := by
  obtain ⟨x, hx, hstands⟩ := Earbud.stands_broughtUp hc ha
  have hside : ∀ s, ((((ofConfig c).dispatchBoth .initialise).dispatchBoth .powerOn).dispatchBoth
      .enable).side s = Earbud.broughtUp c s := fun s => by cases s <;> rfl
  generalize (((ofConfig c).dispatchBoth .initialise).dispatchBoth .powerOn).dispatchBoth .enable = p
    at hside ⊢
  have hall : ∀ s, Paired c s 0 (p.side s) ∧ Stands x (p.side s) ∧ (p.side s).waiting? = none :=
    fun s => (hside s).symm ▸ hstands s
  exact {
    joined := fun s => (hall s).1
    stands := ⟨x, x, .early x hx, (hall .left).2.1, (hall .right).2.1⟩
    waiting := fun s => (hall s).2.2 }

/-- The sides of a pair that was brought up agree whenever time has passed, and time does pass. -/
theorem agreed_run (c : Config) (hc : c.check = .ok ()) (ha : c.adaptive = true)
    (hpoll : 0 < c.timing.gainPoll) (hpos : 1 ≤ c.timing.quietModeDelay)
    (hlt : c.timing.quietModeDelay < 2 ^ 31) (steps : List Step) (last : Step)
    (hlast : last.isTimed = true) :
    ∃ p, p.Agreed ∧ ∃ enough, ∀ fuel, enough ≤ fuel →
      (((ofConfig c).bringUp? fuel).bind fun p => p.run? fuel (steps ++ [last])) = some p := by
  have hup := (calm_broughtUp hc ha).negotiating
  obtain ⟨p₁, hsettles, now, hcalm⟩ := hup.runUntil hpoll hpos hlt
    ((((ofConfig c).dispatchBoth .initialise).dispatchBoth .powerOn).dispatchBoth .enable).now
  obtain ⟨p', hsettles', now', hcalm'⟩ := hcalm.negotiating.run hpoll hpos hlt steps hlast
  exact ⟨p', hcalm'.agreed,
    Settles.bind (f := fun fuel => (ofConfig c).bringUp? fuel)
      (g := fun fuel p => p.run? fuel (steps ++ [last])) hsettles hsettles'⟩

theorem agreed_run_crossed :
    (Config.standard "").check = .ok () ∧ (Config.standard "").adaptive = true ∧
      ∃ p, p.Agreed ∧ ∃ enough, ∀ fuel, enough ≤ fuel →
        (((ofConfig (.standard "")).bringUp? fuel).bind fun p =>
          p.run? fuel [.reportBoth true, .deliverCrossed, .report .left false, .runFor (millis 200)]) =
            some p :=
  ⟨rfl, rfl, agreed_run (.standard "") rfl rfl (by decide) (by decide) (by decide)
    [.reportBoth true, .deliverCrossed, .report .left false] (.runFor (millis 200)) rfl⟩

example :
    (((ofConfig (.standard "")).bringUp? 10).bind fun p =>
      p.run? 10 [.reportBoth true, .deliverCrossed, .runFor (millis 200)]).map
        (fun p => (p.left.quietMode.own.enabled, p.right.quietMode.own.enabled)) = some (true, true) := by
  decide

end Pair

end NoiseControl
