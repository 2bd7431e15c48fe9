import NoiseControl.Proofs.Pair.Agreement
import NoiseControl.Proofs.Pair.Lapse

/-!
# What a side elects itself on

When each report of silence is delivered before anything else happens, a side that asks for quiet
mode observes silence, and the other side was told of silence.  The other observes it still unless
the end of it was reported since: that is not told while quiet mode is off.
-/

namespace NoiseControl

open QuietMode (Direction Record Synchronizer)

namespace Pair

open Earbud (Paired Stands Stance)

variable {c : Config} {now n fuel : Nat} {p p' : Pair} {waits : Bool} {s : Side}

/-! ### Runs in order -/

/-- What a step reports to a side. -/
def Step.report? (s : Side) : Step → Option Bool
  | .report s' silent => if s = s' then some silent else none
  | .reportBoth silent => some silent
  | _ => none

/-- The last report of a run to a side. -/
def lastReport (steps : List Step) (s : Side) : Option Bool :=
  (steps.filterMap (Step.report? s)).getLast?

/-- Every report to one side is delivered before anything else happens.  The flag says whether one is
still to be delivered. -/
def orderly : Bool → List Step → Bool
  | _, [] => true
  | waits, .report _ _ :: rest => !waits && orderly true rest
  | waits, .runUntil _ :: rest | waits, .runFor _ :: rest => !waits && orderly false rest
  | _, .deliver :: rest => orderly false rest
  | _, .reportBoth _ :: _ | _, .deliverCrossed :: _ => false

theorem lastReport_concat (steps : List Step) (step : Step) (s : Side) :
    lastReport (steps ++ [step]) s = (step.report? s).or (lastReport steps s) := by
  unfold lastReport
  cases h : step.report? s with
  | none => simp [List.filterMap_append, h]
  | some silent => simp [List.filterMap_append, h]

theorem lastReport_report (steps : List Step) (y : Side) (silent : Bool) :
    lastReport (steps ++ [.report y silent]) =
      Function.update (lastReport steps) y (some silent) := by
  funext s
  rw [lastReport_concat]
  by_cases hs : s = y
  · subst hs
    simp [Step.report?]
  · simp [Step.report?, hs]

theorem lastReport_other (steps : List Step) {step : Step} (h : ∀ s, step.report? s = none) :
    lastReport (steps ++ [step]) = lastReport steps := by
  funext s
  rw [lastReport_concat, h]
  rfl

/-! ### One step -/

/-- A side that did not ask for quiet mode before observes silence if it asks for it now, and the
other side observes it exactly if that is what was reported to it last. -/
def ElectedRightly (told : Side → Option Bool) (p p' : Pair) : Prop :=
  ∀ s, (p.side s).quietMode.own.enableRequested = false →
    (p'.side s).quietMode.own.enableRequested = true →
    (p'.side s).quietMode.own.detected = true ∧
      ((p'.side s.other).quietMode.own.detected = true ↔ told s.other = some true)

theorem Exchange.electedRightly {told : Side → Option Bool}
    (h : Exchange c now told (fun s => (p.minds s).own.enableRequested) p' n) :
    ElectedRightly told p p' := by
  intro s hbefore hafter
  have hnew : ¬(p.minds s).own.enableRequested = true :=
    fun hasked => Bool.false_ne_true (hbefore.symm.trans hasked)
  obtain ⟨hsilent, hother⟩ := ((h.honest s).elected hafter).resolve_left hnew
  exact ⟨hsilent, (h.honest s.other).known, hother⟩

theorem electedRightly_of_plain {told : Side → Option Bool}
    (h : ∀ s, (p'.side s).quietMode.own.Plain) : ElectedRightly told p p' := by
  intro s _ hafter
  exact absurd (((h s) .enable).symm.trans hafter) Bool.false_ne_true

theorem Between.electedRightly {told : Side → Option Bool}
    (h : Between c now told (fun s => (p.minds s).own.enableRequested) p') :
    ElectedRightly told p p' := by
  cases h with
  | absent joined stands waiting =>
    exact electedRightly_of_plain fun s => (stands s).negotiation.own
  | settling time settling => exact electedRightly_of_plain fun s => (settling s).unheard.plain
  | talking exchange => exact exchange.electedRightly

theorem Between.restart {told : Side → Option Bool} {asked : Side → Bool}
    (h : Between c now told asked p) :
    Between c now told (fun s => (p.minds s).own.enableRequested) p := by
  cases h with
  | absent joined stands waiting => exact .absent joined stands waiting
  | settling time settling => exact .settling time settling
  | talking exchange => exact .talking { exchange with honest := exchange.honest.restart }

/-- An orderly run is between two reports, or a report is to be delivered. -/
inductive Orderly (c : Config) (told : Side → Option Bool) (p : Pair) : Bool → Prop where
  | between {now : Nat} {asked : Side → Bool} (waits : Bool) (h : Between c now told asked p) :
      Orderly c told p waits
  | waits {now n : Nat} {asked : Side → Bool} (h : Exchange c now told asked p n) :
      Orderly c told p true

theorem Between.report {told : Side → Option Bool} {asked : Side → Bool}
    (h : Between c now told asked p) (y : Side) (silent : Bool) :
    Orderly c (Function.update told y (some silent)) (p.dispatch y (.silence silent)).1 true ∧
      ElectedRightly (Function.update told y (some silent)) p (p.dispatch y (.silence silent)).1 := by
  have hside : (p.dispatch y (.silence silent)).1.side y = ((p.side y).dispatch (.silence silent)).1 :=
    side_setSide p y _
  have hother : (p.dispatch y (.silence silent)).1.side y.other = p.side y.other :=
    side_other_setSide p y _
  have hkept : ((p.side y).dispatch (.silence silent)).1 = p.side y →
      ∀ s, (p.dispatch y (.silence silent)).1.side s = p.side s := fun h =>
    Side.forall_of y (hside.trans h) hother
  cases h with
  | absent joined stands waiting =>
    have hsame := hkept
      (Earbud.dispatch_silence_idle (joined y) silent (Or.inl (stands y).activity.1))
    have hbetween : Between c now (Function.update told y (some silent))
        (fun s => (p.minds s).own.enableRequested) (p.dispatch y (.silence silent)).1 :=
      .absent (fun s => hsame s ▸ joined s) (fun s => hsame s ▸ stands s) fun s =>
        hsame s ▸ waiting s
    exact ⟨.between true hbetween, hbetween.electedRightly⟩
  | settling time settling =>
    have hsame := hkept (Earbud.dispatch_silence_idle (settling y).paired silent
      (Or.inr ⟨(settling y).operating.state, (settling y).idle⟩))
    have hbetween : Between c now (Function.update told y (some silent))
        (fun s => (p.minds s).own.enableRequested) (p.dispatch y (.silence silent)).1 :=
      .settling time fun s => hsame s ▸ settling s
    exact ⟨.between true hbetween, hbetween.electedRightly⟩
  | talking exchange =>
    obtain ⟨n, -, hexchange⟩ := exchange.report y silent
    exact ⟨.waits hexchange, hexchange.electedRightly⟩

theorem Orderly.deliver {told : Side → Option Bool} (h : Orderly c told p waits) :
    Orderly c told p.deliver.1 false ∧ ElectedRightly told p p.deliver.1 := by
  cases h with
  | between waits h =>
    have hbetween := h.restart.deliver
    exact ⟨.between false hbetween, hbetween.electedRightly⟩
  | waits h =>
    have hexchange := Exchange.deliver { h with honest := h.honest.restart }
    exact ⟨.between false (.talking hexchange), hexchange.electedRightly⟩

theorem Orderly.runUntil {told : Side → Option Bool} {t : Nat} (h : Orderly c told p false)
    (hp : p.runUntil? fuel t = some p') : Orderly c told p' false ∧ ElectedRightly told p p' := by
  cases h with
  | between waits h =>
    obtain ⟨now', hbetween⟩ := h.restart.runUntil hp
    exact ⟨.between false hbetween, hbetween.electedRightly⟩

theorem Orderly.perform {done : List Step} {step : Step} {rest : List Step}
    (h : Orderly c (lastReport done) p waits) (ho : orderly waits (step :: rest) = true)
    (hp : p.perform? fuel step = some p') :
    ElectedRightly (lastReport (done ++ [step])) p p' ∧
      ∃ waits', Orderly c (lastReport (done ++ [step])) p' waits' ∧ orderly waits' rest = true := by
  cases step with
  | report y silent =>
    obtain ⟨hwaits, hrest⟩ := (Bool.and_eq_true _ _).mp ho
    obtain rfl : waits = false := by simpa using hwaits
    obtain rfl := Option.some.inj hp
    rw [lastReport_report]
    cases h with
    | between waits h =>
      obtain ⟨horderly, helected⟩ := h.report y silent
      exact ⟨helected, true, horderly, hrest⟩
  | deliver =>
    obtain rfl := Option.some.inj hp
    rw [lastReport_other done fun _ => rfl]
    obtain ⟨horderly, helected⟩ := h.deliver
    exact ⟨helected, false, horderly, ho⟩
  | runUntil t =>
    obtain ⟨hwaits, hrest⟩ := (Bool.and_eq_true _ _).mp ho
    obtain rfl : waits = false := by simpa using hwaits
    rw [lastReport_other done fun _ => rfl]
    obtain ⟨horderly, helected⟩ := h.runUntil hp
    exact ⟨helected, false, horderly, hrest⟩
  | runFor duration =>
    obtain ⟨hwaits, hrest⟩ := (Bool.and_eq_true _ _).mp ho
    obtain rfl : waits = false := by simpa using hwaits
    rw [lastReport_other done fun _ => rfl]
    obtain ⟨horderly, helected⟩ := h.runUntil (t := p.now + duration) hp
    exact ⟨helected, false, horderly, hrest⟩
  | reportBoth silent => cases ho
  | deliverCrossed => cases ho

theorem Orderly.run {done steps : List Step} {step : Step} (h : Orderly c (lastReport done) p waits)
    (ho : orderly waits (steps ++ [step]) = true) {p₁ : Pair} (hp : p.run? fuel steps = some p₁)
    (hp' : p₁.perform? fuel step = some p') :
    ElectedRightly (lastReport (done ++ (steps ++ [step]))) p₁ p' := by
  induction steps generalizing p waits done with
  | nil =>
    obtain rfl := Option.some.inj hp
    exact (h.perform ho hp').1
  | cons first rest ih =>
    obtain ⟨p₂, hfirst, hrest⟩ := Option.bind_eq_some_iff.mp hp
    obtain ⟨-, waits', horderly, ho'⟩ := h.perform ho hfirst
    have helected := ih horderly ho' hrest
    rwa [List.append_assoc] at helected

/-! ### Bringing up -/

theorem between_broughtUp (ha : c.adaptive = true) :
    Between c 0 (fun _ => none) (fun _ => false)
      ((((ofConfig c).dispatchBoth .initialise).dispatchBoth .powerOn).dispatchBoth .enable) := by
  have hside : ∀ s, ((((ofConfig c).dispatchBoth .initialise).dispatchBoth .powerOn).dispatchBoth
      .enable).side s = Earbud.broughtUp c s := fun s => by cases s <;> rfl
  generalize (((ofConfig c).dispatchBoth .initialise).dispatchBoth .powerOn).dispatchBoth .enable = p
    at hside ⊢
  have habsent : (∀ s, Paired c s 0 (Earbud.broughtUp c s) ∧ Stands .absent (Earbud.broughtUp c s) ∧
      (Earbud.broughtUp c s).waiting? = none) → Between c 0 (fun _ => none) (fun _ => false) p :=
    fun h => .absent (fun s => hside s ▸ (h s).1) (fun s => hside s ▸ (h s).2.1)
      fun s => hside s ▸ (h s).2.2
  cases hc : c.check with
  | error fault =>
    refine habsent fun s => ?_
    rw [Earbud.broughtUp, Earbud.dispatch_rejected hc]
    exact ⟨Earbud.paired_ofPair c s, Earbud.stands_ofPair c s, rfl⟩
  | ok =>
    obtain ⟨x, hx, hstands⟩ := Earbud.stands_broughtUp hc ha
    cases x with
    | absent => exact habsent hstands
    | settling time =>
      refine .settling time fun s => ?_
      obtain ⟨hpaired, hstands, hwaiting⟩ := hstands s
      obtain ⟨hop, hidle, hsettles⟩ := hstands.activity
      rw [hside]
      refine ⟨hpaired, hop, hidle, hsettles, ?_, hwaiting⟩
      rw [Earbud.quietMode_broughtUp]
      exact ⟨Synchronizer.gone_clear rfl rfl, rfl⟩
    | _ => cases hx

/-- In an orderly run of a pair that was brought up, a side elects itself for quiet mode while it
observes silence, and the other side does so too exactly if silence was reported to it last. -/
theorem electedRightly_run (c : Config) (ha : c.adaptive = true) (fuel : Nat) (steps : List Step)
    (step : Step) (ho : orderly false (steps ++ [step]) = true) (p p' : Pair)
    (hp : (((ofConfig c).bringUp? fuel).bind fun p => p.run? fuel steps) = some p)
    (hp' : p.perform? fuel step = some p') :
    ElectedRightly (lastReport (steps ++ [step])) p p' := by
  obtain ⟨p₀, hup, hrun⟩ := Option.bind_eq_some_iff.mp hp
  obtain ⟨now, hbetween⟩ := (between_broughtUp ha).runUntil hup
  have horderly : Orderly c (lastReport []) p₀ false := .between false hbetween
  exact horderly.run ho hrun hp'

theorem electedRightly_run_both :
    (Config.standard "").adaptive = true ∧
      orderly false [.report .left true, .deliver, .report .right true] = true ∧
      ∃ p p', (((ofConfig (.standard "")).bringUp? 10).bind fun p =>
          p.run? 10 [.report .left true, .deliver]) = some p ∧
        p.perform? 10 (.report .right true) = some p' ∧
        p.right.quietMode.own.enableRequested = false ∧
        p'.right.quietMode.own.enableRequested = true ∧
        ElectedRightly (lastReport [.report .left true, .deliver, .report .right true]) p p' := by
  have hrun : ((((ofConfig (.standard "")).bringUp? 10).bind fun p =>
      p.run? 10 [.report .left true, .deliver]).map fun p =>
        (p.right.quietMode.own.enableRequested,
          (p.dispatch .right (.silence true)).1.right.quietMode.own.enableRequested)) =
      some (false, true) := by decide
  obtain ⟨p, hp, hfacts⟩ := Option.map_eq_some_iff.mp hrun
  obtain ⟨hbefore, hafter⟩ := Prod.mk.inj hfacts
  exact ⟨rfl, rfl, p, (p.dispatch .right (.silence true)).1, hp, rfl, hbefore, hafter,
    electedRightly_run (.standard "") rfl 10 [.report .left true, .deliver] (.report .right true) rfl
      p _ hp rfl⟩

/-- The end of a silence is not told while quiet mode is off, so a side may elect itself although the
other side no longer observes silence. -/
theorem elected_alone :
    ¬∀ (c : Config) (fuel : Nat) (steps : List Step) (step : Step) (p p' : Pair),
      c.adaptive = true → orderly false (steps ++ [step]) = true →
      (((ofConfig c).bringUp? fuel).bind fun p => p.run? fuel steps) = some p →
      p.perform? fuel step = some p' → ∀ s,
      (p.side s).quietMode.own.enableRequested = false →
      (p'.side s).quietMode.own.enableRequested = true →
      (p'.side s).quietMode.own.detected = true ∧ (p'.side s.other).quietMode.own.detected = true := by
  intro h
  have hrun : ((((ofConfig (.standard "")).bringUp? 10).bind fun p =>
      p.run? 10 [.report .left true, .deliver, .report .left false, .deliver]).map fun p =>
        (p.right.quietMode.own.enableRequested,
          (p.dispatch .right (.silence true)).1.right.quietMode.own.enableRequested,
          (p.dispatch .right (.silence true)).1.left.quietMode.own.detected)) =
      some (false, true, false) := by decide
  obtain ⟨p, hp, hfacts⟩ := Option.map_eq_some_iff.mp hrun
  simp only [Prod.mk.injEq] at hfacts
  obtain ⟨hbefore, hafter, hended⟩ := hfacts
  have hboth := h (.standard "") 10 [.report .left true, .deliver, .report .left false, .deliver]
    (.report .right true) p _ rfl rfl hp rfl .right hbefore hafter
  exact Bool.false_ne_true (hended.symm.trans hboth.2)

end Pair

end NoiseControl
