import NoiseControl.Proofs.QuietMode.Calls
import NoiseControl.Proofs.QuietMode.Decision
import NoiseControl.Proofs.Trace

/-!
# Quiet mode and the loss of silence

Quiet mode is to end when either side loses silence, so while it is on at a side without silence a
switch off should be pending there.  The election to switch off is held when silence is lost and
when a record without a request arrives.  It is not held when quiet mode comes on after silence was
lost, nor when a request to switch on takes the place of the peer's request to switch off.  Quiet
mode then stays on until the side is told of silence again or of a record that brings the election
up.
-/

namespace NoiseControl.QuietMode.Synchronizer

variable {s : Synchronizer} {now : WallClock} {r : Record} {d : Direction}

/-- Quiet mode is on, silence is lost, and no side asks to switch off. -/
structure Overstays (s : Synchronizer) : Prop where
  on : s.own.enabled = true
  noise : s.own.detected = false
  own : s.own.disableRequested = false
  peer : s.peer.disableRequested = false

theorem not_overstays_iff (s : Synchronizer) : ¬s.Overstays ↔
    (s.own.enabled = true → s.own.detected = false →
      s.own.disableRequested = true ∨ s.peer.disableRequested = true) := by
  constructor
  · intro h hon hnoise
    by_contra hnone
    simp only [not_or, Bool.not_eq_true] at hnone
    exact h ⟨hon, hnoise, hnone.1, hnone.2⟩
  · rintro h ⟨hon, hnoise, hown, hpeer⟩
    rcases h hon hnoise with h | h
    · exact nomatch hown.symm.trans h
    · exact nomatch hpeer.symm.trans h

/-- A call that leaves quiet mode on without silence and does not ask to switch it off: quiet mode
comes on after silence was lost, or a request of the peer to switch on takes the place of its
request to switch off. -/
def misses (s : Synchronizer) : Call → Prop
  | .operation (.fire .enable) =>
    s.own.enabled = false ∧ s.own.detected = false ∧ s.peer.disableRequested = false ∧
      (s.own.enableRequested = true ∨ s.peer.enableRequested = true)
  | .operation (.peerRecord r _) =>
    s.own.enabled = true ∧ s.own.detected = false ∧ s.own.disableRequested = false ∧
      r.enableRequested = true ∧ r.disableRequested = false
  | _ => False

/-- A call after which the loss of silence is known and acted on, or silence is back.  A transition
that is fired is none. -/
def Call.brings : Call → Prop
  | .operation (.fire _) => False
  | .operation (.peerRecord r _) => r.enableRequested = true → r.disableRequested = true
  | _ => True

/-! ### Elections -/

theorem not_overstays_tryDisable (h : s.own.Coherent) (now : WallClock) :
    ¬(s.tryDisable now).1.Overstays := by
  unfold tryDisable
  split
  · rename_i hbusy
    rintro ⟨hon, -, hoff, -⟩
    dsimp only at hon hoff
    have hfree : s.own.enableRequested = false := h.requested_eq_false (d := .enable) hon
    simp [Record.hasRequest, hon, hoff, hfree] at hbusy
  · split
    · rintro ⟨-, -, hoff, -⟩
      cases hoff
    · rename_i hnone
      rintro ⟨-, hnoise, hown, hpeer⟩
      dsimp only at hnoise hown hpeer
      simp [electsDisable, hnoise, hown, hpeer] at hnone

/-! ### Calls -/

theorem not_overstays_detected (s : Synchronizer) (now : WallClock) :
    ¬(s.detected now).1.Overstays := by
  rintro ⟨-, hnoise, -, -⟩
  exact nomatch (kept_tryEnable _ now).2.2.symm.trans hnoise

theorem not_overstays_cleared (h : s.own.Coherent) (now : WallClock) :
    ¬(s.cleared now).1.Overstays := by
  have hnoted : ({ s with own := { s.own with detected := false } } : Synchronizer).own.Coherent :=
    coherent_noting false h
  exact not_overstays_tryDisable hnoted now

theorem overstays_peerRecord (h : s.own.Coherent) (r : Record) (now : WallClock) :
    (s.peerRecord r now).1.Overstays ↔ s.misses (.operation (.peerRecord r now)) := by
  rcases hpending : r.pending? with _ | d
  · -- Without a request in the record the election is held, and nothing was missed.
    have hplain := plain_of_pending? hpending
    have hon : r.enableRequested = false := hplain .enable
    have hheard : (s.peerRecord r now).1 = (((s.hearing r).tryEnable now).1.tryDisable now).1 := by
      rw [peerRecord_plain s hplain]
    rw [hheard]
    refine iff_of_false (not_overstays_tryDisable ?_ now) ?_
    · exact coherent_tryEnable (s := s.hearing r) h now
    · rintro ⟨-, -, -, hasked, -⟩
      exact nomatch hon.symm.trans hasked
  · obtain ⟨hpeer, hon, hnoise, hown⟩ := s.heard_peerRecord hpending now
    have hasked := Record.requested_of_pending? hpending
    cases d with
    | enable =>
      constructor
      · rintro ⟨on, noise, own, peer⟩
        rw [hon] at on
        rw [hown (h.requested_eq_false on)] at own
        exact ⟨on, hnoise.symm.trans noise, own, hasked, hpeer ▸ peer⟩
      · rintro ⟨on, noise, own, -, hoff⟩
        have hkept := hown (h.requested_eq_false on)
        exact ⟨hon.trans on, hnoise.trans noise, hkept.symm ▸ own, hpeer.symm ▸ hoff⟩
    | disable =>
      refine iff_of_false (fun hover => ?_) fun hmiss => nomatch hasked.symm.trans hmiss.2.2.2.2
      have hnone := hover.peer
      rw [hpeer] at hnone
      exact nomatch hasked.symm.trans hnone

theorem overstays_fire (h : s.own.Coherent) (d : Direction) :
    (s.fire d).1.Overstays ↔ s.misses (.operation (.fire d)) ∨ s.Overstays := by
  by_cases hasked : s.own.requested d = true ∨ s.peer.requested d = true
  · cases d with
    | enable =>
      rw [fire_enable hasked]
      constructor
      · rintro ⟨-, noise, own, peer⟩
        cases hon : s.own.enabled with
        | false => exact Or.inl ⟨hon, noise, peer, hasked⟩
        | true => exact Or.inr ⟨hon, noise, own, peer⟩
      · rintro (⟨hoff, noise, peer, -⟩ | ⟨-, noise, own, peer⟩)
        · exact ⟨rfl, noise, h.requested_eq_false (d := .disable) hoff, peer⟩
        · exact ⟨rfl, noise, own, peer⟩
    | disable =>
      rw [fire_disable hasked]
      refine iff_of_false (fun hover => nomatch hover.on) ?_
      rintro (hmiss | ⟨-, -, hown, hpeer⟩)
      · exact hmiss
      · rcases hasked with h | h
        · exact nomatch hown.symm.trans h
        · exact nomatch hpeer.symm.trans h
  · simp only [not_or, Bool.not_eq_true] at hasked
    rw [fire_unasked hasked.1 hasked.2]
    have hnone : ¬s.misses (.operation (.fire d)) := by
      cases d with
      | enable =>
        rintro ⟨-, -, -, hown | hpeer⟩
        · exact nomatch hasked.1.symm.trans hown
        · exact nomatch hasked.2.symm.trans hpeer
      | disable => exact id
    exact (or_iff_right hnone).symm

theorem overstays_afterCall (h : s.own.Coherent) (c : Call) :
    (s.afterCall c).Overstays ↔ s.misses c ∨ s.Overstays ∧ ¬c.brings := by
  cases c with
  | reset => exact iff_of_false (fun hover => nomatch hover.on) (by simp [misses, Call.brings])
  | operation o =>
    cases o with
    | detected now =>
      exact iff_of_false (not_overstays_detected s now) (by simp [misses, Call.brings])
    | cleared now =>
      exact iff_of_false (not_overstays_cleared h now) (by simp [misses, Call.brings])
    | peerRecord r now =>
      refine (overstays_peerRecord h r now).trans (or_iff_left_of_imp ?_).symm
      -- A record that brings nothing is itself one that is missed.
      rintro ⟨⟨on, noise, own, -⟩, hquiet⟩
      simp only [Call.brings, Classical.not_imp, Bool.not_eq_true] at hquiet
      exact ⟨on, noise, own, hquiet.1, hquiet.2⟩
    | fire d =>
      refine (overstays_fire h d).trans ?_
      simp [Call.brings]

/-! ### Runs -/

/-- After a run quiet mode is on without silence and without a switch off to come exactly when a
call was missed and none since has brought it up. -/
theorem silence_kept_iff (delay : Nat) (winsTies : Bool) (calls : List Call) :
    ((afterCalls { delay, winsTies } calls).own.enabled = true →
        (afterCalls { delay, winsTies } calls).own.detected = false →
        (afterCalls { delay, winsTies } calls).own.disableRequested = true ∨
          (afterCalls { delay, winsTies } calls).peer.disableRequested = true) ↔
      ¬Lasts afterCall misses (fun _ c => c.brings) { delay, winsTies } calls := by
  have hlasts : (afterCalls { delay, winsTies } calls).Overstays ↔
      Lasts afterCall misses (fun _ c => c.brings) { delay, winsTies } calls :=
    holds_iff_lasts (fun s => s.own.Coherent) Overstays coherent_clear
      (fun _ c h => coherent_afterCall h c) (fun h => Bool.false_ne_true h.on)
      (fun _ c h => overstays_afterCall h c) calls
  rw [← hlasts, not_overstays_iff]

/-- Silence is lost between the election and its instant: quiet mode comes on and stays. -/
theorem silence_outlived : ¬∀ (delay : Nat) (winsTies : Bool) (calls : List Call),
    (afterCalls { delay, winsTies } calls).own.enabled = true →
      (afterCalls { delay, winsTies } calls).own.detected = false →
      (afterCalls { delay, winsTies } calls).own.disableRequested = true ∨
        (afterCalls { delay, winsTies } calls).peer.disableRequested = true := by
  intro h
  have hrun := h 200000 false [.operation (.peerRecord { detected := true } .zero),
    .operation (.detected .zero), .operation (.cleared .zero), .operation (.fire .enable)]
  exact absurd hrun (by decide)

end NoiseControl.QuietMode.Synchronizer
