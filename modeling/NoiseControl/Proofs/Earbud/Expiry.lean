import NoiseControl.Proofs.Earbud.Stance

/-!
# Timers of an earbud that stands in a negotiation

A due timer is handed to the earbud.  The timer of an agreed instant carries the transition out and
leaves the earbud free, that of the start of adaptive processing lets it take part, and the gain
poll changes nothing about where it stands.  After finitely many timers none is due.
-/

namespace NoiseControl

open QuietMode (Direction Record Synchronizer Effect)

/-- The results of a computation on more and more fuel come to be this one. -/
def Settles {α : Type} (f : Nat → Option α) (a : α) : Prop :=
  ∃ enough, ∀ fuel, enough ≤ fuel → f fuel = some a

namespace Earbud

/-- Where an earbud stands after all that is due has expired. -/
def Stance.after (x : Stance) (now : Nat) : Stance :=
  match x with
  | absent => absent
  | settling time => if time ≤ now then free false else settling time
  | free on => free on
  | asking on time => if time ≤ now then free !on else asking on time
  | following on time => if time ≤ now then free !on else following on time

@[simp]
theorem Stance.after_after (x : Stance) (now : Nat) : (x.after now).after now = x.after now := by
  cases x with
  | absent => rfl
  | free on => rfl
  | settling time | asking on time | following on time =>
    by_cases h : time ≤ now <;> simp [after, h]

variable {c : Config} {side : Side} {now time : Nat} {b : Earbud} {x : Stance} {on : Bool}

def popped (b : Earbud) (k : TimerKind) : Earbud := { b with timers := b.timers.cancel k }

theorem Paired.popped (h : Paired c side now b) (k : TimerKind) :
    Paired c side now (b.popped k) :=
  { h with order := h.order.cancel k }

theorem Operating.popped (h : b.Operating) (k : TimerKind) : (b.popped k).Operating where
  state := h.state
  on := h.on
  peerAround := h.peerAround
  steady k' hk' := by
    have hnone := h.steady k' hk'
    show (b.timers.cancel k).find? k' = none
    rw [TimerQueue.find?_cancel, hnone, ite_self]

/-! ### The gain poll -/

theorem timers_pollGain (b : Earbud) :
    b.pollGain.timers =
      if b.runtime.currentMode.isAdaptive then b.timers.arm .gainPoll b.config.timing.gainPoll
      else b.timers := by
  unfold pollGain
  split
  · dsimp only
    split <;> rfl
  · rfl

theorem Operating.pollGain (h : b.Operating) : b.pollGain.Operating := by
  have w := work_pollGain b
  have hkept : gains.keeps b.pollGain.runtime = gains.keeps b.runtime := w.keeps
  exact h.of_eq (congrArg Runtime.state hkept :) (congrArg Runtime.actualEnabled hkept :)
    (congrArg Runtime.peerInCase hkept :) fun k hk =>
      w.find? (by cases k <;> first | rfl | cases hk)

theorem adaptive_pollGain (b : Earbud) : b.pollGain.audio.adaptive = b.audio.adaptive :=
  (work_pollGain b).adaptive (fun _ _ _ => rfl) rfl fun _ => rfl

theorem dispatch_gainPoll (hp : Paired c side now b) :
    ((b.popped .gainPoll).dispatch (.timerExpired .gainPoll)).1 = (b.popped .gainPoll).pollGain ∧
      Paired c side now (b.popped .gainPoll).pollGain := by
  have hpaired := (hp.popped .gainPoll).silent (work_pollGain (b.popped .gainPoll)) rfl
  exact ⟨finishFollowUps_eq_self _ hpaired.done, hpaired⟩

theorem Stands.operating (h : Stands x b) (hx : x ≠ .absent) : b.Operating := by
  have hact := h.activity
  cases x with
  | absent => exact absurd rfl hx
  | settling => exact hact.1
  | _ => exact hact.toOperating

theorem Stands.pollGain (h : Stands x b) (hx : x ≠ .absent) : Stands x b.pollGain := by
  have w := work_pollGain b
  have hop := (h.operating hx).pollGain
  have hadaptive := adaptive_pollGain b
  have hact := h.activity
  refine ⟨?_, (w.silent rfl).1 ▸ h.negotiation, fun d => (w.deadline? rfl).trans (h.timers d)⟩
  cases x with
  | absent => exact absurd rfl hx
  | settling => exact ⟨hop, hadaptive.trans hact.2.1, (w.deadline? rfl).trans hact.2.2⟩
  | _ => exact ⟨hop, hadaptive.trans hact.adaptive⟩

theorem Stands.popped_gainPoll (h : Stands x b) (hx : x ≠ .absent) :
    Stands x (b.popped .gainPoll) := by
  have hop := (h.operating hx).popped .gainPoll
  have hact := h.activity
  have hdeadline : ∀ k, k ≠ .gainPoll →
      (b.popped .gainPoll).timers.deadline? k = b.timers.deadline? k := fun k hk =>
    (TimerQueue.deadline?_cancel _ _).trans (if_neg hk)
  refine ⟨?_, h.negotiation, fun d => (hdeadline _ (by simp)).trans (h.timers d)⟩
  cases x with
  | absent => exact absurd rfl hx
  | settling => exact ⟨hop, hact.2.1, (hdeadline _ (by simp)).trans hact.2.2⟩
  | _ => exact ⟨hop, hact.adaptive⟩

theorem expires_gainPoll (hpoll : 0 < c.timing.gainPoll) (hp : Paired c side now b) (h : Stands x b)
    (hx : x ≠ .absent) {b' : Earbud}
    (hb' : b' = ((b.popped .gainPoll).dispatch (.timerExpired .gainPoll)).1) :
    Paired c side now b' ∧ Stands x b' ∧ b'.waiting? = b.waiting? ∧
      b'.timers.due = (b.timers.cancel .gainPoll).due := by
  have hpopped := hp.popped .gainPoll
  have w := work_pollGain (b.popped .gainPoll)
  obtain ⟨heq, hpaired⟩ := dispatch_gainPoll hp
  have hstands := (h.popped_gainPoll hx).pollGain hx
  have hlink : (b.popped .gainPoll).pollGain.outbox = b.outbox := (w.silent rfl).2.2
  rw [hb', heq]
  refine ⟨hpaired, hstands, by rw [waiting?, hlink, waiting?], ?_⟩
  -- The next reading lies ahead, so the poll does not add to what is due.
  rw [timers_pollGain]
  split
  · have hpos : 0 < (b.popped .gainPoll).config.timing.gainPoll := by
      rw [hpopped.config]
      exact hpoll
    rw [TimerQueue.due_arm _ _ hpos]
    exact congrArg TimerQueue.due (b.timers.cancel_cancel .gainPoll)
  · rfl

/-! ### The start of adaptive processing -/

theorem attempt_reliable (h : b.failures = fun _ _ => false) (command : AudioCommand) :
    b.attempt command = ({ b.command command with calls := b.calls + 1 }, true) := by
  unfold attempt
  rw [h]
  rfl

theorem startAdaptive_running (h : b.Running) : b.startAdaptive = b := by
  unfold startAdaptive
  rw [if_neg (by simp [h.adaptive])]

theorem startAdaptive_settling (h : b.Operating) (hoff : b.audio.adaptive = false)
    (hreliable : b.failures = fun _ _ => false) :
    b.startAdaptive.Running ∧ b.startAdaptive.timers = b.timers := by
  have hstarts : b.startAdaptive =
      { b.command (.adaptiveOn (b.runtime.placement == .inEar) b.config.layout.controlPath?
          b.runtime.currentMode) with calls := b.calls + 1 } := by
    unfold startAdaptive
    rw [if_pos (by simp [isEnabled, h.state, h.on, hoff]), attempt_reliable hreliable]
  rw [hstarts]
  exact ⟨⟨h.of_eq rfl rfl rfl fun _ _ => rfl, rfl⟩, rfl⟩

theorem dispatch_configSettle (hp : Paired c side now b) (hop : b.Operating) :
    ((b.popped .configSettle).dispatch (.timerExpired .configSettle)).1 =
        (b.popped .configSettle).startAdaptive ∧
      Paired c side now (b.popped .configSettle).startAdaptive := by
  have hpaired :=
    (hp.popped .configSettle).silent (work_startAdaptive (b.popped .configSettle)) rfl
  have hhandle : ((b.popped .configSettle).handle (.timerExpired .configSettle)).1 =
      (b.popped .configSettle).startAdaptive :=
    congrArg Prod.fst
      (handleInState_enabled (b.popped .configSettle) hop.state (.timerExpired .configSettle))
  refine ⟨?_, hpaired⟩
  show ((b.popped .configSettle).handle (.timerExpired .configSettle)).1.finishFollowUps = _
  rw [hhandle, finishFollowUps_eq_self _ hpaired.done]

theorem expires_configSettle (hp : Paired c side now b) (h : Stands x b) (hx : x ≠ .absent)
    (hdue : ∀ time, b.timers.deadline? .configSettle = some time → time ≤ now) {b' : Earbud}
    (hb' : b' = ((b.popped .configSettle).dispatch (.timerExpired .configSettle)).1) :
    Paired c side now b' ∧ (Stands x b' ∨ Stands (x.after now) b') ∧ b'.waiting? = b.waiting? ∧
      b'.timers = b.timers.cancel .configSettle := by
  have hop := (h.operating hx).popped .configSettle
  have hpopped := hp.popped .configSettle
  have w := work_startAdaptive (b.popped .configSettle)
  obtain ⟨heq, hpaired⟩ := dispatch_configSettle hp (h.operating hx)
  have hlink : (b.popped .configSettle).startAdaptive.outbox = b.outbox := (w.silent rfl).2.2
  have hq : (b.popped .configSettle).startAdaptive.quietMode = b.quietMode := (w.silent rfl).1
  have hagreed : ∀ d, (b.popped .configSettle).startAdaptive.timers.deadline? (.quietMode d) =
      x.agreed? d := fun d =>
    ((w.deadline? rfl).trans ((TimerQueue.deadline?_cancel _ _).trans (if_neg (by simp)))).trans
      (h.timers d)
  have hact := h.activity
  rw [hb', heq]
  refine ⟨hpaired, ?_, by rw [waiting?, hlink, waiting?], ?_⟩
  · cases x with
    | absent => exact absurd rfl hx
    | free | asking | following =>
      have hrun : (b.popped .configSettle).Running := ⟨hop, hact.adaptive⟩
      refine Or.inl ⟨?_, hq ▸ h.negotiation, hagreed⟩
      rw [startAdaptive_running hrun]
      exact hrun
    | settling time =>
      have hstarts := startAdaptive_settling hop hact.2.1 hpopped.reliable
      refine Or.inr ?_
      rw [Stance.after, if_pos (hdue time hact.2.2)]
      exact ⟨hstarts.1, hq ▸ h.negotiation, hagreed⟩
  · cases hon : b.audio.adaptive with
    | true => exact congrArg Earbud.timers (startAdaptive_running ⟨hop, hon⟩)
    | false => exact (startAdaptive_settling hop hon hpopped.reliable).2

/-! ### Agreed instants -/

theorem Stance.agreed?_eq_some {d : Direction} (h : x.agreed? d = some time) :
    ∃ on, d = .leaving on ∧ (x = .asking on time ∨ x = .following on time) := by
  cases x with
  | asking on t =>
    obtain ⟨hd, ht⟩ := Option.ite_none_right_eq_some.mp h
    obtain rfl := Option.some.inj ht
    exact ⟨on, hd, Or.inl rfl⟩
  | following on t =>
    obtain ⟨hd, ht⟩ := Option.ite_none_right_eq_some.mp h
    obtain rfl := Option.some.inj ht
    exact ⟨on, hd, Or.inr rfl⟩
  | _ => cases h

theorem Stance.agreed?_ne {d d' : Direction} (h : x.agreed? d = some time) (hne : d' ≠ d) :
    x.agreed? d' = none := by
  obtain ⟨on, rfl, rfl | rfl⟩ := agreed?_eq_some h
  · exact if_neg hne
  · exact if_neg hne

/-- At the agreed instant the side that asks and the side that follows do the same. -/
theorem Stands.fires {d : Direction} (h : Stands x b) (hd : x.agreed? d = some time) (now : Nat) :
    b.Running ∧ ∃ on, d = .leaving on ∧ (b.quietMode.fire d).1.Free (!on) ∧
      (b.quietMode.fire d).2 = [if on then .switchOff else .switchOn] ∧
      (time ≤ now → x.after now = .free !on) := by
  obtain ⟨on, rfl, rfl | rfl⟩ := Stance.agreed?_eq_some hd
  · have hneg : b.quietMode.Asks on (Pair.instant time) := h.negotiation
    exact ⟨h.activity, on, rfl, hneg.fire.1, hneg.fire.2, fun hdue => if_pos hdue⟩
  · have hneg : b.quietMode.Follows on := h.negotiation
    exact ⟨h.activity, on, rfl, hneg.fire.1, hneg.fire.2, fun hdue => if_pos hdue⟩

theorem expires_agreed (hp : Paired c side now b) (h : Stands x b) {d : Direction}
    (hd : b.timers.deadline? (.quietMode d) = some time) (hdue : time ≤ now) {b' : Earbud}
    (hb' : b' = ((b.popped (.quietMode d)).dispatch (.timerExpired (.quietMode d))).1) :
    Paired c side now b' ∧ Stands (x.after now) b' ∧ b'.waiting? = b.waiting? ∧
      b'.timers = b.timers.cancel (.quietMode d) := by
  have hagreed : x.agreed? d = some time := (h.timers d).symm.trans hd
  obtain ⟨hrun, on, rfl, hfree, heffects, hafter⟩ := h.fires hagreed now
  have hpopped := hp.popped (.quietMode (.leaving on))
  have hrunning : (b.popped (.quietMode (.leaving on))).Running :=
    ⟨hrun.toOperating.popped _, hrun.adaptive⟩
  have hsetup := b.quietMode.setup_fire (.leaving on)
  have hhandle : ((b.popped (.quietMode (.leaving on))).handle
      (.timerExpired (.quietMode (.leaving on)))).1 =
        (b.popped (.quietMode (.leaving on))).adopt (b.quietMode.fire (.leaving on)) := by
    have hfire := handle_quietModeFire (b.popped (.quietMode (.leaving on))) (.leaving on)
    rw [if_pos ((isEnabled_iff _).mpr hrunning.state), whileAdaptive, if_pos hrunning.adaptive] at hfire
    exact hfire
  rw [hafter hdue]
  generalize b.quietMode.fire (.leaving on) = decision at hsetup hfree heffects hhandle
  obtain ⟨s, effects⟩ := decision
  obtain rfl : effects = [if on then .switchOff else .switchOn] := heffects
  have hpaired := hpopped.adopt hsetup (by cases on <;> simp)
  have heq : b' = _ := hb'.trans (dispatch_eq_adopt hhandle hpaired)
  have htimers : b'.timers = b.timers.cancel (.quietMode (.leaving on)) := by
    rw [heq]
    cases on <;> rfl
  refine ⟨heq ▸ hpaired, ?_, by rw [heq]; cases on <;> rfl, htimers⟩
  rw [heq] at htimers ⊢
  refine stands_adopt hrunning rfl hfree fun d' => ?_
  rw [htimers, TimerQueue.deadline?_cancel]
  by_cases hd' : d' = .leaving on
  · rw [if_pos (by rw [hd'])]
    rfl
  · rw [if_neg (by simpa using hd'), h.timers d', Stance.agreed?_ne hagreed hd']
    rfl

/-! ### All that is due -/

theorem deliverDue?_eq_some {b' : Earbud} {k : TimerKind} {outcome : Outcome}
    (hp : Paired c side now b) (hd : b.deliverDue? = some (b', k, outcome)) :
    b' = ((b.popped k).dispatch (.timerExpired k)).1 ∧ ∃ a ∈ b.timers.pending, a.kind = k ∧
      a.deadline ≤ now ∧ b.timers.deadline? k = some a.deadline := by
  simp only [deliverDue?, Option.map_eq_some_iff, Prod.mk.injEq] at hd
  obtain ⟨⟨k', q⟩, hpop, rfl, rfl, -⟩ := hd
  obtain ⟨a, hfind, hdue, rfl, -⟩ := hp.order.popDue?_eq_some hpop
  rw [hp.now] at hdue
  obtain ⟨hmem, hkind⟩ := TimerQueue.mem_of_find? hfind
  exact ⟨rfl, a, hmem, hkind, hdue, by simp [TimerQueue.deadline?, hfind]⟩

theorem Stands.expires (hpoll : 0 < c.timing.gainPoll) (hp : Paired c side now b) (h : Stands x b)
    {b' : Earbud} {k : TimerKind} {outcome : Outcome} (hd : b.deliverDue? = some (b', k, outcome)) :
    Paired c side now b' ∧ (Stands x b' ∨ Stands (x.after now) b') ∧ b'.waiting? = b.waiting? ∧
      b'.timers.due.length < b.timers.due.length := by
  obtain ⟨hb', a, hmem, rfl, hdue, hdeadline⟩ := deliverDue?_eq_some hp hd
  have hfewer := b.timers.length_due_cancel hmem (by rw [hp.now]; exact hdue)
  have hx : x ≠ .absent := by
    rintro rfl
    have hnone : b.timers.pending = [] := h.activity.2
    rw [hnone] at hmem
    cases hmem
  -- No ramp is pending, so only three kinds of timer can be due.
  have hsteady : a.kind.isSteady = true := by
    cases hs : a.kind.isSteady with
    | true => rfl
    | false => simp [TimerQueue.deadline?, (h.operating hx).steady _ hs] at hdeadline
  generalize a.kind = k at *
  cases k with
  | gainPoll =>
    obtain ⟨hpaired, hstands, hwaits, hsame⟩ := expires_gainPoll hpoll hp h hx hb'
    exact ⟨hpaired, Or.inl hstands, hwaits, by rw [hsame]; exact hfewer⟩
  | configSettle =>
    have htime : ∀ time, b.timers.deadline? .configSettle = some time → time ≤ now := by
      intro time htime
      obtain rfl := Option.some.inj (hdeadline.symm.trans htime)
      exact hdue
    obtain ⟨hpaired, hstands, hwaits, hsame⟩ := expires_configSettle hp h hx htime hb'
    exact ⟨hpaired, hstands, hwaits, by rw [hsame]; exact hfewer⟩
  | quietMode d =>
    obtain ⟨hpaired, hstands, hwaits, hsame⟩ := expires_agreed hp h hdeadline hdue hb'
    exact ⟨hpaired, Or.inr hstands, hwaits, by rw [hsame]; exact hfewer⟩
  | _ => cases hsteady

theorem Stands.after_of_none (h : Stands x b)
    (hnone : ∀ k t, b.timers.deadline? k = some t → now < t) : x.after now = x := by
  have hact := h.activity
  cases x with
  | absent => rfl
  | free on => rfl
  | settling time =>
    have hlater := hnone _ _ hact.2.2
    exact if_neg (by omega)
  | asking on time | following on time =>
    have hlater := hnone (.quietMode (.leaving on)) time ((h.timers _).trans (if_pos rfl))
    exact if_neg (by omega)

/-- After finitely many timers none is due, and the earbud stands as all that was due left it. -/
theorem Stands.fireDue (hpoll : 0 < c.timing.gainPoll) (hp : Paired c side now b) (h : Stands x b) :
    ∃ b', Settles (Pair.fireDue? b) b' ∧ Paired c side now b' ∧ Stands (x.after now) b' ∧
      b'.waiting? = b.waiting? ∧ ∀ k t, b'.timers.deadline? k = some t → now < t := by
  -- The induction is on the number of timers that are due: each that expires leaves fewer.
  obtain ⟨n, hn⟩ : ∃ n, b.timers.due.length = n := ⟨_, rfl⟩
  induction n using Nat.strongRecOn generalizing b x with
  | ind n ih =>
    cases hd : b.deliverDue? with
    | none =>
      have hpop : b.timers.popDue? = none := by simpa [deliverDue?] using hd
      have hnone : ∀ k t, b.timers.deadline? k = some t → now < t := fun k t ht =>
        hp.now ▸ TimerQueue.now_lt_of_popDue?_eq_none hpop ht
      refine ⟨b, ⟨1, fun fuel hfuel => ?_⟩, hp, ?_, rfl, hnone⟩
      · cases fuel with
        | zero => omega
        | succ fuel => simp only [Pair.fireDue?, hd]
      · rw [h.after_of_none hnone]
        exact h
    | some p =>
      obtain ⟨b₁, k, outcome⟩ := p
      obtain ⟨hp₁, hstands, hwaits, hfewer⟩ := h.expires hpoll hp hd
      have hrest : ∃ b', Settles (Pair.fireDue? b₁) b' ∧ Paired c side now b' ∧
          Stands (x.after now) b' ∧ b'.waiting? = b₁.waiting? ∧
          ∀ k t, b'.timers.deadline? k = some t → now < t := by
        rcases hstands with hstands | hstands
        · exact ih _ (hn ▸ hfewer) hp₁ hstands rfl
        · have hrest := ih _ (hn ▸ hfewer) hp₁ hstands rfl
          rwa [Stance.after_after] at hrest
      obtain ⟨b', ⟨enough, hsettles⟩, hp', hstands', hwaits', hnone⟩ := hrest
      refine ⟨b', ⟨enough + 1, fun fuel hfuel => ?_⟩, hp', hstands', hwaits'.trans hwaits, hnone⟩
      cases fuel with
      | zero => omega
      | succ fuel =>
        simp only [Pair.fireDue?, hd]
        exact hsettles fuel (by omega)

end Earbud

end NoiseControl
