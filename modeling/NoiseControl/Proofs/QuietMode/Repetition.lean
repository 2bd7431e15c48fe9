import NoiseControl.Proofs.QuietMode.Calls
import NoiseControl.Proofs.QuietMode.Decision
import NoiseControl.Proofs.Trace

/-!
# Transitions that are made again

A transition is carried out when either record asks for it, whether or not it was made before.  The
own record never asks for one that was made, and carrying one out takes it from both records.  A
record of the peer that still asks for it, sent twice or late, brings it back: when the timer of
that direction expires next, the switch is made again.
-/

namespace NoiseControl.QuietMode

namespace Synchronizer

variable {s : Synchronizer} {c : Call} {d : Direction}

/-- The peer is believed to ask for a transition that this side has made. -/
def Stale (d : Direction) (s : Synchronizer) : Prop :=
  s.own.enabled = decide (d = .enable) ∧ s.peer.requested d = true

/-- A record that asks for a transition comes after it was made. -/
def restores (d : Direction) (s : Synchronizer) : Call → Prop
  | .operation (.peerRecord r _) => s.own.enabled = decide (d = .enable) ∧ r.requested d = true
  | _ => False

/-- A call that takes the peer's record away or takes a transition from it: the next record, the
drop of all, or a transition that is carried out. -/
def clears (s : Synchronizer) : Call → Prop
  | .operation (.peerRecord ..) | .reset => True
  | .operation (.fire d) => s.own.requested d = true ∨ s.peer.requested d = true
  | _ => False

/-! ### Stale requests -/

theorem stale_fire (s : Synchronizer) (d d' : Direction) :
    (s.fire d').1.Stale d ↔ s.Stale d ∧ ¬s.clears (.operation (.fire d')) := by
  by_cases hasked : s.own.requested d' = true ∨ s.peer.requested d' = true
  · -- What is carried out leaves no request for a transition that is then made.
    refine iff_of_false ?_ fun h => h.2 hasked
    rintro ⟨hmade, hpeer⟩
    cases d' with
    | enable =>
      rw [fire_enable hasked] at hmade hpeer
      cases d
      · cases hpeer
      · cases hmade
    | disable =>
      rw [fire_disable hasked] at hmade hpeer
      cases d <;> cases hpeer
  · have hnone := hasked
    simp only [not_or, Bool.not_eq_true] at hnone
    rw [fire_unasked hnone.1 hnone.2]
    exact (and_iff_left hasked).symm

theorem stale_afterCall (s : Synchronizer) (c : Call) :
    (s.afterCall c).Stale d ↔ s.restores d c ∨ s.Stale d ∧ ¬s.clears c := by
  cases c with
  | reset =>
    refine iff_of_false ?_ (by simp [restores, clears])
    rintro ⟨-, hpeer⟩
    cases d <;> cases hpeer
  | operation o =>
    have hreports : ∀ silent now, (s.report silent now).1.Stale d ↔ s.Stale d := fun silent now => by
      have hkept := kept_of_decides (s.report_decides silent now)
      unfold Stale
      rw [hkept.1, hkept.2.1]
      rfl
    cases o with
    | detected now => exact (hreports true now).trans (by simp [restores, clears])
    | cleared now => exact (hreports false now).trans (by simp [restores, clears])
    | peerRecord r now =>
      refine Iff.trans ?_ (or_iff_left fun h => h.2 trivial).symm
      change (s.peerRecord r now).1.own.enabled = _ ∧ (s.peerRecord r now).1.peer.requested d = true ↔ _
      rw [peer_peerRecord, (s.peerRecord_effects r now).1]
      rfl
    | fire d' => exact (stale_fire s d d').trans (or_iff_right id).symm

/-! ### Switches -/

theorem switch_mem_call_iff (s : Synchronizer) (c : Call) (d : Direction) :
    d.switch ∈ (s.call c).2 ↔
      c = .operation (.fire d) ∧ (s.own.requested d = true ∨ s.peer.requested d = true) := by
  have hidle : ∀ {effects : List Effect}, (∀ e ∈ effects, e.schedules = true) → d.switch ∉ effects :=
    fun h hmem => by cases d <;> exact nomatch h _ hmem
  cases c with
  | reset => cases d <;> simp [call, reset, Direction.switch]
  | operation o =>
    cases o with
    | detected now => exact iff_of_false (hidle (tryEnable_effects _ now).2) (by simp)
    | cleared now => exact iff_of_false (hidle (tryDisable_effects _ now).2) (by simp)
    | peerRecord r now => exact iff_of_false (hidle (s.peerRecord_effects r now).2) (by simp)
    | fire d' =>
      by_cases hasked : s.own.requested d' = true ∨ s.peer.requested d' = true
      · cases d' with
        | enable =>
          cases d
          · simpa [call, operate, fire_enable hasked, Direction.switch] using hasked
          · simp [call, operate, fire_enable hasked, Direction.switch]
        | disable =>
          cases d
          · simp [call, operate, fire_disable hasked, Direction.switch]
          · simpa [call, operate, fire_disable hasked, Direction.switch] using hasked
      · have hnone := hasked
        simp only [not_or, Bool.not_eq_true] at hnone
        refine iff_of_false (by simp [call, operate, fire_unasked hnone.1 hnone.2]) ?_
        rintro ⟨heq, hd⟩
        cases heq
        exact hasked hd

theorem switches_once_iff (h : s.own.Coherent) (c : Call) (d : Direction) :
    (d.switch ∈ (s.call c).2 → s.own.enabled = decide (d = .disable)) ↔
      ¬(c = .operation (.fire d) ∧ s.Stale d) := by
  rw [switch_mem_call_iff]
  constructor
  · rintro hopen ⟨rfl, hmade, hpeer⟩
    have hboth := hmade.symm.trans (hopen ⟨rfl, Or.inr hpeer⟩)
    cases d <;> cases hboth
  · rintro hfresh ⟨rfl, hasked⟩
    by_contra hopen
    have hmade : s.own.enabled = decide (d = .enable) := by
      cases d <;> simpa using hopen
    -- Once made, a transition is asked for only by the peer's record.
    have hown := h.requested_eq_false hmade
    exact hfresh ⟨rfl, hmade, hasked.resolve_left (by simp [hown])⟩

/-! ### Runs -/

/-- After any run, the next call switches quiet mode on only when it is off, and off only when it is
on, unless it fires a transition that a record of the peer asked for after it was made and nothing
has taken away since. -/
theorem switches_once_run (delay : Nat) (winsTies : Bool) (calls : List Call) (c : Call) :
    ((.switchOn ∈ ((afterCalls { delay, winsTies } calls).call c).2 →
        (afterCalls { delay, winsTies } calls).own.enabled = false) ∧
      (.switchOff ∈ ((afterCalls { delay, winsTies } calls).call c).2 →
        (afterCalls { delay, winsTies } calls).own.enabled = true)) ↔
      ¬∃ d, c = .operation (.fire d) ∧
        Lasts afterCall (restores d) clears { delay, winsTies } calls := by
  have hlasts : ∀ d, (afterCalls { delay, winsTies } calls).Stale d ↔
      Lasts afterCall (restores d) clears { delay, winsTies } calls := fun d => by
    refine holds_iff_lasts (fun _ => True) (Stale d) trivial (fun _ _ _ => trivial) ?_
      (fun s c _ => s.stale_afterCall c) calls
    rintro ⟨-, hpeer⟩
    cases d <;> cases hpeer
  have hcoherent := coherent_afterCalls delay winsTies calls
  have hon := (switches_once_iff hcoherent c .enable).trans (not_congr (and_congr_right' (hlasts _)))
  have hoff := (switches_once_iff hcoherent c .disable).trans (not_congr (and_congr_right' (hlasts _)))
  refine (and_congr hon hoff).trans ?_
  simp only [not_exists]
  exact ⟨fun h d => by cases d <;> [exact h.1; exact h.2], fun h => ⟨h _, h _⟩⟩

/-- The peer's request is followed and carried out, and the same record comes once more. -/
theorem switched_twice : ¬∀ (delay : Nat) (winsTies : Bool) (calls : List Call) (c : Call),
    (.switchOn ∈ ((afterCalls { delay, winsTies } calls).call c).2 →
        (afterCalls { delay, winsTies } calls).own.enabled = false) ∧
      (.switchOff ∈ ((afterCalls { delay, winsTies } calls).call c).2 →
        (afterCalls { delay, winsTies } calls).own.enabled = true) := by
  intro h
  have hrun := h 200000 false
    [.operation (.peerRecord { detected := true, enableRequested := true } .zero),
      .operation (.fire .enable),
      .operation (.peerRecord { detected := true, enableRequested := true } .zero)]
    (.operation (.fire .enable))
  exact absurd hrun.1 (by decide)

end Synchronizer

end NoiseControl.QuietMode
