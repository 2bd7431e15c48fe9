import Mathlib.Data.List.Induction
import NoiseControl.Proofs.Earbud.Classification
import NoiseControl.Proofs.Earbud.History
import NoiseControl.Proofs.Earbud.Reaction

/-!
# Quiet mode in the audio chain and in the record

A transition that fires changes the record and switches the audio chain to match it.  Starting
afresh clears the record alone, so quiet mode that was on stays on in the audio chain until the
next transition.  There is no other way for the two to differ.
-/

namespace NoiseControl

open QuietMode (Direction Record Synchronizer Effect)

namespace Earbud

variable {a b c : Earbud}

theorem quiet_carryOut (effects : List Effect) (h : ∀ e ∈ effects, e.schedules = true) (b : Earbud) :
    (effects.foldl carryOut b).audio.quiet = b.audio.quiet ∧
      (effects.foldl carryOut b).switchings = b.switchings := by
  induction effects generalizing b with
  | nil => exact ⟨rfl, rfl⟩
  | cons e rest ih =>
    obtain ⟨hquiet, hcount⟩ := ih (fun e he => h e (List.mem_cons_of_mem _ he)) (carryOut b e)
    have he := h e List.mem_cons_self
    simp only [List.foldl_cons, hquiet, hcount]
    cases e with
    | switchOn => cases he
    | switchOff => cases he
    | _ => exact ⟨rfl, rfl⟩

/-! ### In step -/

/-- From `a` to `b`, quiet mode was left as it was, or was switched to what the record says. -/
def InStep (a b : Earbud) : Prop :=
  (b.quietMode.own.enabled = a.quietMode.own.enabled ∧ b.audio.quiet = a.audio.quiet ∧
      b.switchings = a.switchings) ∨
    (b.audio.quiet = b.quietMode.own.enabled ∧ a.switchings < b.switchings)

theorem InStep.refl (b : Earbud) : InStep b b := Or.inl ⟨rfl, rfl, rfl⟩

theorem InStep.trans (h : InStep a b) (h' : InStep b c) : InStep a c := by
  rcases h with ⟨he, hq, hn⟩ | ⟨hq, hn⟩ <;> rcases h' with ⟨he', hq', hn'⟩ | ⟨hq', hn'⟩
  · exact Or.inl ⟨he'.trans he, hq'.trans hq, hn'.trans hn⟩
  · exact Or.inr ⟨hq', by omega⟩
  · exact Or.inr ⟨by rw [hq', he', hq], by omega⟩
  · exact Or.inr ⟨hq', by omega⟩

theorem Work.inStep (w : Work apart a b) : InStep a b :=
  Or.inl ⟨by rw [(w.silent rfl).1], w.quiet, w.switchings⟩

theorem inStep_operate (b : Earbud) (o : Synchronizer.Operation) :
    InStep b (b.adopt (b.quietMode.operate o)) := by
  rcases b.quietMode.operate_effects o with ⟨he, hnone⟩ | hswitch
  · obtain ⟨hq, hn⟩ := quiet_carryOut _ hnone { b with quietMode := (b.quietMode.operate o).1 }
    exact Or.inl ⟨by rw [quietMode_adopt, he], hq, hn⟩
  · unfold adopt
    cases hon : (b.quietMode.operate o).1.own.enabled <;> rw [hon] at hswitch <;> rw [hswitch] <;>
      refine Or.inr ⟨hon.symm, ?_⟩ <;>
      simp [switchings, carryOut, command, announce, List.countP_cons, Activity.switchesQuietMode]

theorem inStep_finishFollowUps (b : Earbud) : InStep b b.finishFollowUps :=
  finishFollowUps_induction b (Or.inl ⟨rfl, rfl, rfl⟩) fun b d h => h.trans (inStep_operate b (.fire d))

theorem inStep_dispatch {e : Event} (h : b.startsAfresh e = false) : InStep b (b.dispatch e).1 := by
  refine InStep.trans (b := (b.handle e).1) ?_ (inStep_finishFollowUps _)
  rcases handle_operation h with hw | ⟨o, ho⟩
  · exact hw.inStep
  · rw [ho]
    exact inStep_operate b o

/-! ### Runs -/

def Move.startsAfresh (m : Move) (b : Earbud) : Bool :=
  match m with
  | .event e _ => b.startsAfresh e
  | _ => false

theorem inStep_perform {m : Move} (h : m.startsAfresh b = false) : InStep b (b.perform m) := by
  rw [perform_eq]
  cases m with
  | event e he => exact inStep_dispatch h
  | expiry =>
    simp only [dispatched?]
    cases hp : b.timers.popDue? with
    | none => exact .refl b
    | some p =>
      have hpopped : InStep b { b with timers := p.2 } := Or.inl ⟨rfl, rfl, rfl⟩
      exact hpopped.trans (inStep_dispatch (by cases p.1 <;> rfl))
  | wait t => exact Or.inl ⟨rfl, rfl, rfl⟩
  | surround s => exact Or.inl ⟨rfl, rfl, rfl⟩

theorem afresh_perform {m : Move} (h : m.startsAfresh b = true) (hdone : b.followUps = []) :
    Afresh b (b.perform m) := by
  cases m with
  | event e he => exact afresh_dispatch h hdone
  | expiry => cases h
  | wait t => cases h
  | surround s => cases h

theorem switchings_perform (b : Earbud) (m : Move) : b.switchings ≤ (b.perform m).switchings :=
  (history_perform b m).sublist.countP_le

/-- Within a run, the negotiation started afresh while quiet mode was on, and quiet mode was not
switched on or off since. -/
def LeftOn (b : Earbud) (moves : List Move) : Prop :=
  ∃ earlier m later, moves = earlier ++ m :: later ∧
    m.startsAfresh (b.run earlier) = true ∧ (b.run earlier).quietMode.own.enabled = true ∧
    (b.run moves).switchings = (b.run earlier).switchings

theorem leftOn_iff_since (b : Earbud) (moves : List Move) :
    LeftOn b moves ↔ Since perform switchings
      (fun b m => m.startsAfresh b = true ∧ b.quietMode.own.enabled = true) b moves := by
  simp only [LeftOn, Since, run, and_assoc]

theorem leftOn_snoc (b : Earbud) (moves : List Move) (m : Move) :
    LeftOn b (moves ++ [m]) ↔
      ((b.run moves).perform m).switchings = (b.run moves).switchings ∧
        (LeftOn b moves ∨ m.startsAfresh (b.run moves) = true ∧
          (b.run moves).quietMode.own.enabled = true) := by
  rw [leftOn_iff_since, leftOn_iff_since]
  exact since_snoc switchings_perform b moves m

section Run

variable (c : Config) (clockOrigin : Option WallClock) (store : SessionStore)

theorem quiet_of_run (moves : List Move) :
    let b := (Earbud.new c clockOrigin store).run moves
    (LeftOn (Earbud.new c clockOrigin store) moves ∧ b.quietMode.own.enabled = false ∧
        b.audio.quiet = true) ∨
      (¬LeftOn (Earbud.new c clockOrigin store) moves ∧
        b.audio.quiet = b.quietMode.own.enabled) := by
  induction moves using List.reverseRecOn with
  | nil =>
    refine Or.inr ⟨?_, rfl⟩
    rintro ⟨earlier, m, later, heq, -⟩
    simp at heq
  | append_singleton moves m ih =>
    have hdone := (sound_run c clockOrigin store moves).2
    dsimp only at ih ⊢
    rw [leftOn_snoc, run_snoc]
    generalize (Earbud.new c clockOrigin store).run moves = b at *
    generalize LeftOn (Earbud.new c clockOrigin store) moves = left at *
    cases h : m.startsAfresh b with
    | true =>
      obtain ⟨hown, -, -, hquiet, hn⟩ := afresh_perform h hdone
      rw [hquiet, hn, hown]
      rcases ih with ⟨hleft, hoff, hq⟩ | ⟨hleft, hq⟩
      · exact Or.inl ⟨⟨rfl, Or.inl hleft⟩, rfl, hq⟩
      · cases hon : b.quietMode.own.enabled with
        | true => exact Or.inl ⟨⟨rfl, Or.inr ⟨rfl, rfl⟩⟩, rfl, hq.trans hon⟩
        | false => exact Or.inr ⟨by simp [hleft], hq.trans hon⟩
    | false =>
      rcases inStep_perform h with ⟨he, hq', hn⟩ | ⟨hq', hn⟩
      · rw [he, hq', hn]
        rcases ih with ⟨hleft, hoff, hq⟩ | ⟨hleft, hq⟩
        · exact Or.inl ⟨⟨rfl, Or.inl hleft⟩, hoff, hq⟩
        · exact Or.inr ⟨by simp [hleft], hq⟩
      · exact Or.inr ⟨fun hleft => by omega, hq'⟩

/-- Along every run, quiet mode is in the audio chain what it is in the record, except from when
the negotiation starts afresh while quiet mode is on until it is next switched on or off. -/
theorem quiet_eq_enabled_iff (moves : List Move) :
    let start := Earbud.new c clockOrigin store
    (start.run moves).audio.quiet = (start.run moves).quietMode.own.enabled ↔
      ¬∃ earlier m later, moves = earlier ++ m :: later ∧
        m.startsAfresh (start.run earlier) = true ∧
        (start.run earlier).quietMode.own.enabled = true ∧
        (start.run moves).switchings = (start.run earlier).switchings := by
  intro start
  rcases quiet_of_run c clockOrigin store moves with ⟨hleft, hoff, hq⟩ | ⟨hleft, hq⟩
  · refine iff_of_false ?_ (not_not_intro hleft)
    rw [hoff, hq]
    decide
  · exact iff_of_true hq hleft

end Run

/-- The link is lost while quiet mode is on: the record is cleared, the audio chain is not. -/
theorem quiet_ne_enabled :
    ¬∀ (c : Config) (clockOrigin : Option WallClock) (store : SessionStore) (moves : List Move),
      let b := (Earbud.new c clockOrigin store).run moves
      b.audio.quiet = b.quietMode.own.enabled := by
  intro h
  have hlost := h (.standard "") none {}
    [.event .initialise, .event .powerOn, .event .enable, .expiry, .event .silenceDetected,
      .event (.peerRecord { detected := true }), .wait 200000, .expiry, .event .peerLinkLost]
  exact absurd hlost (by decide)

end Earbud

end NoiseControl
