import NoiseControl.Proofs.Earbud.Expiry
import NoiseControl.Proofs.Pair.Stage

/-!
# Time passes for a pair

Time passes for a pair only when nothing waits on its links.  Then both sides stand alike, or one
asks for a transition and the other follows it, and the timers that expire on both sides at one time
keep it so.  The steps from deadline to deadline come to an end because every deadline that is left
or new lies ahead.
-/

namespace NoiseControl

open QuietMode (Direction Record Synchronizer Effect)

theorem Settles.bind {α β : Type} {f : Nat → Option α} {g : Nat → α → Option β} {a : α} {b : β}
    (hf : Settles f a) (hg : Settles (fun fuel => g fuel a) b) :
    Settles (fun fuel => (f fuel).bind (g fuel)) b := by
  obtain ⟨n, hn⟩ := hf
  obtain ⟨m, hm⟩ := hg
  refine ⟨max n m, fun fuel hfuel => ?_⟩
  dsimp only
  rw [hn fuel (by omega)]
  exact hm fuel (by omega)

theorem Settles.of_succ {α : Type} {f : Nat → Option α} {a : α}
    (h : Settles (fun fuel => f (fuel + 1)) a) : Settles f a := by
  obtain ⟨n, hn⟩ := h
  refine ⟨n + 1, fun fuel hfuel => ?_⟩
  cases fuel with
  | zero => omega
  | succ fuel => exact hn fuel (by omega)

theorem settles_const {α : Type} (a : α) : Settles (fun _ => some a) a := ⟨0, fun _ _ => rfl⟩

namespace Earbud

variable {c : Config} {side : Side} {now : Nat} {b : Earbud} {x y : Stance}

theorem Paired.advanceTo (h : Paired c side now b) (t : Nat) :
    Paired c side (max now t) (b.advanceTo t) :=
  { h with
    now := congrArg (max · t) h.now
    order := h.order.advanceTo t }

theorem Stands.advanceTo (h : Stands x b) (t : Nat) : Stands x (b.advanceTo t) :=
  h.of_eq rfl rfl rfl rfl

/-- Stances that go together while nothing is on its way between the sides. -/
inductive Stance.Fits : Stance → Stance → Prop where
  | early (x : Stance) (hx : x.isEarly = true) : Fits x x
  | free (on : Bool) : Fits (.free on) (.free on)
  | leads (on : Bool) (time : Nat) : Fits (.asking on time) (.following on time)
  | trails (on : Bool) (time : Nat) : Fits (.following on time) (.asking on time)

theorem Stance.Fits.after (h : x.Fits y) (now : Nat) : (x.after now).Fits (y.after now) := by
  cases h with
  | early x hx =>
    cases x with
    | absent => exact .early _ rfl
    | settling time =>
      dsimp only [Stance.after]
      split
      · exact .free false
      · exact .early _ rfl
    | _ => cases hx
  | free on => exact .free on
  | leads on time =>
    dsimp only [Stance.after]
    split
    · exact .free _
    · exact .leads on time
  | trails on time =>
    dsimp only [Stance.after]
    split
    · exact .free _
    · exact .trails on time

end Earbud

namespace Pair

open Earbud (Paired Stands Stance)

variable {c : Config} {now n : Nat} {p : Pair}

/-- A pair between whose sides nothing is on its way. -/
structure Calm (c : Config) (now : Nat) (p : Pair) : Prop where
  joined : Joined c now p
  stands : ∃ x y, x.Fits y ∧ Stands x p.left ∧ Stands y p.right
  waiting : ∀ s, (p.side s).waiting? = none

theorem Calm.stage (h : Calm c now p) : ∃ n, Stage c now p n := by
  obtain ⟨x, y, hfits, hleft, hright⟩ := h.stands
  cases hfits with
  | early x hx => exact ⟨0, .early x hx (Side.forall_of .left hleft hright) h.waiting⟩
  | free on =>
    exact ⟨2, .idle on (Side.forall_of .left hleft hright) fun s => h.waiting s ▸ Earbud.greets_none⟩
  | leads on time =>
    exact ⟨0, .known on time .left hleft hright (h.waiting .left)
      (h.waiting .right ▸ Earbud.requestless_none)⟩
  | trails on time =>
    exact ⟨0, .known on time .right hright hleft (h.waiting .right)
      (h.waiting .left ▸ Earbud.requestless_none)⟩

/-- A stage in which nothing waits is calm: a request that is not known waits. -/
theorem Stage.calm (hj : Joined c now p) (h : Stage c now p n) (hload : p.load = 0) :
    Calm c now p := by
  have hzero : p.left.load = 0 ∧ p.right.load = 0 := Nat.add_eq_zero_iff.mp hload
  have hwaiting : ∀ s, (p.side s).waiting? = none :=
    Side.forall_of .left (Earbud.load_eq_zero.mp hzero.1) (Earbud.load_eq_zero.mp hzero.2)
  refine ⟨hj, ?_, hwaiting⟩
  cases h with
  | early x hx stands waiting => exact ⟨x, x, .early x hx, stands .left, stands .right⟩
  | idle on stands waiting => exact ⟨_, _, .free on, stands .left, stands .right⟩
  | asked on s asks free request greeting =>
    obtain ⟨r, hr, -⟩ := request
    cases (hwaiting s).symm.trans hr
  | known on time s asks follows taken plain =>
    cases s with
    | left => exact ⟨_, _, .leads on time, asks, follows⟩
    | right => exact ⟨_, _, .trails on time, follows, asks⟩
  | crossed on asks left right =>
    obtain ⟨r, hr, -⟩ := left
    cases (hwaiting .left).symm.trans hr

theorem Calm.advanceTo (h : Calm c now p) (t : Nat) : Calm c (max now t) (p.advanceTo t) := by
  obtain ⟨x, y, hfits, hleft, hright⟩ := h.stands
  have hside : ∀ s, (p.advanceTo t).side s = (p.side s).advanceTo t := fun s => by cases s <;> rfl
  exact {
    joined := fun s => hside s ▸ (h.joined s).advanceTo t
    stands := ⟨x, y, hfits, hleft.advanceTo t, hright.advanceTo t⟩
    waiting := fun s => hside s ▸ h.waiting s }

theorem Calm.taken (h : Calm c now p) : Calm c now ⟨p.left.taken, p.right.taken⟩ := by
  obtain ⟨x, y, hfits, hleft, hright⟩ := h.stands
  exact {
    joined := Side.forall_of .left (h.joined .left).taken (h.joined .right).taken
    stands := ⟨x, y, hfits, hleft.taken, hright.taken⟩
    waiting := Side.forall_of .left (Earbud.waiting?_taken _) (Earbud.waiting?_taken _) }

theorem deliver_eq (h : ∀ s, (p.side s).waiting? = none) :
    p.deliver.1 = ⟨p.left.taken, p.right.taken⟩ := by
  have hleft : p.left.waiting? = none := h .left
  have hright : p.right.waiting? = none := h .right
  have hfirst : p.deliverTo .left = (⟨p.left, p.right.taken⟩, 0) := by
    rw [deliverTo_eq]
    show (({ left := p.left.handed p.right.waiting?, right := p.right.taken } : Pair), p.right.load) = _
    rw [hright, Earbud.load_eq_zero.mpr hright]
    rfl
  have hsecond : (⟨p.left, p.right.taken⟩ : Pair).deliverTo .right =
      (⟨p.left.taken, p.right.taken⟩, 0) := by
    rw [deliverTo_eq]
    show (({ left := p.left.taken, right := p.right.taken.handed p.left.waiting? } : Pair),
      p.left.load) = _
    rw [hleft, Earbud.load_eq_zero.mpr hleft]
    rfl
  show (p.deliverRounds (15 + 1)).1 = _
  unfold deliverRounds
  rw [hfirst]
  dsimp only
  rw [hsecond]
  rfl

/-! ### From deadline to deadline -/

theorem nextDeadline?_spec {d : Nat} (h : p.nextDeadline? = some d) :
    (∃ s, (p.side s).timers.nextDeadline? = some d) ∧
      ∀ s d', (p.side s).timers.nextDeadline? = some d' → d ≤ d' := by
  unfold nextDeadline? at h
  cases hl : p.left.timers.nextDeadline? with
  | none =>
    rw [hl] at h
    refine ⟨⟨.right, h⟩, fun s d' hd => ?_⟩
    cases s with
    | left => exact nomatch hl.symm.trans hd
    | right => exact Nat.le_of_eq (Option.some.inj (h.symm.trans hd))
  | some l =>
    cases hr : p.right.timers.nextDeadline? with
    | none =>
      rw [hl, hr] at h
      refine ⟨⟨.left, hl.trans h⟩, fun s d' hd => ?_⟩
      cases s with
      | left => exact Nat.le_of_eq (Option.some.inj (h.symm.trans (hl.symm.trans hd)))
      | right => exact nomatch hr.symm.trans hd
    | some r =>
      rw [hl, hr] at h
      obtain rfl : min l r = d := Option.some.inj h
      refine ⟨?_, fun s d' hd => ?_⟩
      · rcases Nat.le_total l r with hle | hle
        · exact ⟨.left, hl.trans (congrArg some (Nat.min_eq_left hle).symm)⟩
        · exact ⟨.right, hr.trans (congrArg some (Nat.min_eq_right hle).symm)⟩
      · cases s with
        | left =>
          obtain rfl : l = d' := Option.some.inj (hl.symm.trans hd)
          exact Nat.min_le_left _ _
        | right =>
          obtain rfl : r = d' := Option.some.inj (hr.symm.trans hd)
          exact Nat.min_le_right _ _

theorem nextDeadline?_eq_none (h : p.nextDeadline? = none) (s : Side) :
    (p.side s).timers.nextDeadline? = none := by
  unfold nextDeadline? at h
  cases hl : p.left.timers.nextDeadline? with
  | none =>
    rw [hl] at h
    cases s with
    | left => exact hl
    | right => exact h
  | some l =>
    rw [hl] at h
    cases hr : p.right.timers.nextDeadline? with
    | none => simp [hr] at h
    | some r => simp [hr] at h

theorem nextDeadline?_le {d : Nat} (h : p.nextDeadline? = some d) (s : Side) {timer : ArmedTimer}
    (ht : timer ∈ (p.side s).timers.pending) : d ≤ timer.deadline := by
  cases hd : (p.side s).timers.nextDeadline? with
  | none =>
    rw [TimerQueue.pending_of_nextDeadline?_none hd] at ht
    cases ht
  | some d' =>
    have hfirst := (nextDeadline?_spec h).2 s d' hd
    have hle := TimerQueue.nextDeadline?_le hd ht
    omega

theorem lt_of_filter_nextDeadline? {t : Nat}
    (h : p.nextDeadline?.filter (fun deadline => decide (deadline ≤ t)) = none) (s : Side)
    {timer : ArmedTimer} (ht : timer ∈ (p.side s).timers.pending) : t < timer.deadline := by
  cases hd : p.nextDeadline? with
  | none =>
    rw [TimerQueue.pending_of_nextDeadline?_none (nextDeadline?_eq_none hd s)] at ht
    cases ht
  | some d =>
    have hle := nextDeadline?_le hd s ht
    have hlater : ¬d ≤ t := by simpa [hd] using h
    omega

theorem nextDeadline?_eq_some (hj : Joined c now p) {t : Nat} (h : p.nextDeadline? = some t) :
    ∃ s k, (p.side s).timers.deadline? k = some t := by
  obtain ⟨⟨s, hs⟩, -⟩ := nextDeadline?_spec h
  exact ⟨s, (hj s).order.nextDeadline?_eq_some hs⟩

theorem Calm.fireDue (hpoll : 0 < c.timing.gainPoll) (h : Calm c now p) :
    ∃ left right, Settles (fireDue? p.left) left ∧ Settles (fireDue? p.right) right ∧
      Calm c now ⟨left, right⟩ ∧
      ∀ s k t, ((⟨left, right⟩ : Pair).side s).timers.deadline? k = some t → now < t := by
  obtain ⟨x, y, hfits, hleft, hright⟩ := h.stands
  obtain ⟨left, hsettles, hpaired, hstands, hwaits, hlater⟩ := hleft.fireDue hpoll (h.joined .left)
  obtain ⟨right, hsettles', hpaired', hstands', hwaits', hlater'⟩ :=
    hright.fireDue hpoll (h.joined .right)
  refine ⟨left, right, hsettles, hsettles', ⟨?_, ?_, ?_⟩, ?_⟩
  · exact Side.forall_of .left hpaired hpaired'
  · exact ⟨_, _, hfits.after now, hstands, hstands'⟩
  · exact Side.forall_of .left (hwaits.trans (h.waiting .left)) (hwaits'.trans (h.waiting .right))
  · exact Side.forall_of .left hlater hlater'

theorem stepUntil?_succ {t deadline : Nat}
    (h : p.nextDeadline?.filter (fun deadline => decide (deadline ≤ t)) = some deadline) (fuel : Nat) :
    p.stepUntil? t (fuel + 1) =
      (fireDue? (p.advanceTo deadline).left fuel).bind fun left =>
        (fireDue? (p.advanceTo deadline).right fuel).bind fun right =>
          (deliver ⟨left, right⟩).1.stepUntil? t fuel := by
  simp only [stepUntil?, h]
  rfl

theorem settles_stepUntil?_last {t : Nat}
    (h : p.nextDeadline?.filter (fun deadline => decide (deadline ≤ t)) = none) :
    Settles (p.stepUntil? t) (p.advanceTo t) := by
  refine .of_succ ⟨0, fun fuel _ => ?_⟩
  simp only [stepUntil?, h]

theorem Calm.stepUntil (hpoll : 0 < c.timing.gainPoll) (h : Calm c now p) (t : Nat) :
    ∃ p', Settles (p.stepUntil? t) p' ∧ Calm c (max now t) p' := by
  -- The induction is on how long before the end a deadline may lie.
  obtain ⟨n, hn⟩ : ∃ n, ∀ s k deadline, (p.side s).timers.deadline? k = some deadline →
      t < deadline + n := ⟨t + 1, fun _ _ _ _ => by omega⟩
  induction n generalizing p now with
  | zero =>
    have hlast : p.nextDeadline?.filter (fun deadline => decide (deadline ≤ t)) = none := by
      rw [Option.filter_eq_none_iff]
      intro deadline hnext
      obtain ⟨s, k, hk⟩ := nextDeadline?_eq_some h.joined hnext
      have hlater := hn s k deadline hk
      simpa using hlater
    exact ⟨_, settles_stepUntil?_last hlast, h.advanceTo t⟩
  | succ n ih =>
    cases hd : p.nextDeadline?.filter fun deadline => decide (deadline ≤ t) with
    | none => exact ⟨_, settles_stepUntil?_last hd, h.advanceTo t⟩
    | some deadline =>
      obtain ⟨hnext, hle⟩ := Option.filter_eq_some_iff.mp hd
      have hle : deadline ≤ t := of_decide_eq_true hle
      obtain ⟨s, k, hk⟩ := nextDeadline?_eq_some h.joined hnext
      have hfirst := hn s k deadline hk
      obtain ⟨left, right, hleft, hright, hcalm, hlater⟩ := (h.advanceTo deadline).fireDue hpoll
      have hbound : ∀ s k d, ((⟨left.taken, right.taken⟩ : Pair).side s).timers.deadline? k = some d →
          t < d + n := by
        intro s k d hd
        have hahead : max now deadline < d := by
          cases s with
          | left => exact hlater .left k d hd
          | right => exact hlater .right k d hd
        omega
      obtain ⟨p', hsettles, hcalm'⟩ := ih hcalm.taken hbound
      rw [← deliver_eq hcalm.waiting] at hsettles
      have hend : max (max now deadline) t = max now t := by omega
      refine ⟨p', .of_succ ?_, hend ▸ hcalm'⟩
      rw [funext (stepUntil?_succ hd)]
      exact hleft.bind (g := fun fuel left => (fireDue? (p.advanceTo deadline).right fuel).bind
        fun right => (deliver ⟨left, right⟩).1.stepUntil? t fuel)
        (hright.bind (g := fun fuel right => (deliver ⟨left, right⟩).1.stepUntil? t fuel) hsettles)

end Pair

end NoiseControl
