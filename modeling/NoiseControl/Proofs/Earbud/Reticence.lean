import NoiseControl.Proofs.Earbud.History
import NoiseControl.Proofs.Earbud.PendingRequest
import NoiseControl.Proofs.QuietMode.Response

/-!
# The negotiation outside adaptive processing

Quiet mode is negotiated while noise control is on and adaptive processing runs.  Otherwise reports
of silence and agreed instants do not count, so an event sends the peer nothing and arms no timer of
a transition.  Records of the peer are the exception: they are not gated, and a record that sets
something off does so in every state.
-/

namespace NoiseControl

open QuietMode (Direction Record Synchronizer Effect)

def Activity.record? : Activity → Option Record
  | .sent r => some r
  | _ => none

def QuietMode.Effect.record? : Effect → Option Record
  | .publish r => some r
  | _ => none

/-- Whether an effect reaches beyond the event: it arms a timer or sends a record. -/
def QuietMode.Effect.reaches : Effect → Bool
  | .arm .. | .publish _ => true
  | _ => false

namespace Earbud

variable {x : Extent} {a b c : Earbud} {d : Direction} {e : Event}

/-- The records sent to the peer, newest first. -/
def recordsSent (b : Earbud) : List Record := b.history.filterMap Activity.record?

/-- From `a` to `b` no record was sent, and no timer of a transition armed. -/
structure Reticent (a b : Earbud) : Prop where
  sent : b.recordsSent = a.recordsSent
  armed : ∀ d timer, b.timers.find? (.quietMode d) = some timer →
    a.timers.find? (.quietMode d) = some timer

theorem Reticent.refl (b : Earbud) : Reticent b b := ⟨rfl, fun _ _ h => h⟩

theorem Reticent.trans (h : Reticent a b) (h' : Reticent b c) : Reticent a c where
  sent := h'.sent.trans h.sent
  armed d timer ht := h.armed d timer (h'.armed d timer ht)

theorem Reticent.unarmed (h : Reticent a b)
    (ha : a.timers.isArmed (.quietMode d) = false) : b.timers.isArmed (.quietMode d) = false := by
  simp only [TimerQueue.isArmed, Option.isSome_eq_false_iff, Option.isNone_iff_eq_none] at ha ⊢
  cases hfind : b.timers.find? (.quietMode d) with
  | none => rfl
  | some timer =>
    have harmed := ha.symm.trans (h.armed d timer hfind)
    cases harmed

theorem Work.recordsSent (w : Work x a b) (hx : x.talks = false) : b.recordsSent = a.recordsSent := by
  induction w with
  | refl => rfl
  | tail _ t ih =>
    rw [← ih]
    cases t with
    | attempt c => rcases attempt_fst _ c with he | he <;> rw [he] <;> rfl
    | save s =>
      unfold saveSession
      split <;> rfl
    | send r h => exact nomatch hx.symm.trans h
    | _ => rfl

theorem Work.reticent (w : Work apart a b) : Reticent a b where
  sent := w.recordsSent rfl
  armed d timer ht := by rwa [w.find? rfl] at ht

theorem reticent_cancel (b : Earbud) (k : TimerKind) : Reticent b (b.cancel k) where
  sent := rfl
  armed d timer ht := by
    simp only [cancel, TimerQueue.find?_cancel] at ht
    split at ht
    · cases ht
    · exact ht

/-! ### Effects -/

theorem recordsSent_carryOut (effects : List Effect) (b : Earbud) :
    (effects.foldl carryOut b).recordsSent = (effects.filterMap Effect.record?).reverse ++ b.recordsSent := by
  induction effects generalizing b with
  | nil => rfl
  | cons e rest ih =>
    rw [List.foldl_cons, ih]
    cases e with
    | publish r =>
      have hsent : (carryOut b (.publish r)).recordsSent = r :: b.recordsSent := rfl
      simp [hsent, Effect.record?]
    | _ => rfl

theorem reticent_adopt_iff {decision : Synchronizer.Decision} (ho : b.timers.InOrder)
    (hc : ∀ d, .cancel d ∉ decision.2) :
    Reticent b (b.adopt decision) ↔ ∀ e ∈ decision.2, e.reaches = false := by
  have hsent := recordsSent_carryOut decision.2 { b with quietMode := decision.1 }
  have hfound := fun d => find?_carryOut (hc d) { b with quietMode := decision.1 }
  constructor
  · intro h e he
    cases e with
    | arm d delay =>
      rcases hfound d with ⟨-, timer, hfind, hnew⟩ | ⟨hnone, -⟩
      -- No timer that was there before has the number of a later arming.
      · have hold := TimerQueue.mem_of_find? (h.armed d timer hfind)
        have hnumber := ho.numbered timer hold.1
        exact absurd hnumber (Nat.not_le_of_lt hnew)
      · exact absurd he (hnone delay)
    | publish r =>
      have hnone : (decision.2.filterMap Effect.record?).reverse = [] :=
        List.append_left_eq_self.mp (hsent.symm.trans h.sent)
      have hmem : r ∈ decision.2.filterMap Effect.record? := List.mem_filterMap.mpr ⟨_, he, rfl⟩
      rw [List.reverse_eq_nil_iff.mp hnone] at hmem
      cases hmem
    | _ => rfl
  · intro h
    refine ⟨hsent.trans ?_, fun d timer ht => ?_⟩
    · have hnone : decision.2.filterMap Effect.record? = [] := by
        refine List.filterMap_eq_nil_iff.mpr fun e he => ?_
        have hreach := h e he
        cases e <;> first | rfl | cases hreach
      rw [hnone]
      rfl
    · rcases hfound d with ⟨⟨delay, hmem⟩, -⟩ | ⟨-, hfind⟩
      · exact nomatch h _ hmem
      · exact hfind.symm.trans ht

/-! ### Events -/

theorem Restart.reticent (r : Restart a b) : Reticent a b := by
  cases r with
  | reset =>
    have hset : Reticent a { a with quietMode := a.quietMode.reset.1 } := ⟨rfl, fun _ _ h => h⟩
    exact (hset.trans (reticent_cancel _ _)).trans (reticent_cancel _ _)
  | initialise runtime => exact ⟨rfl, fun _ _ h => h⟩

theorem reticent_handle (hout : (b.isEnabled && b.audio.adaptive) = false)
    (hother : ∀ r, e ≠ .peerRecord r) :
    Reticent b (b.handle e).1 ∧ (b.handle e).1.followUps = b.followUps := by
  cases h : b.startsAfresh e with
  | true =>
    obtain ⟨x, y, hbefore, hrestart, hafter⟩ := handle_restart h
    exact ⟨hbefore.reticent.trans (hrestart.reticent.trans hafter.reticent),
      (handle_afresh h).followUps⟩
  | false =>
    rcases handle_gated h with hw | ⟨hon | ⟨r, he⟩, -⟩
    · exact ⟨hw.reticent, (hw.silent rfl).2.1⟩
    · exact nomatch hout.symm.trans hon
    · exact absurd he (hother r)

theorem finishFollowUps_outside (hout : (b.isEnabled && b.audio.adaptive) = false) :
    b.finishFollowUps = { b with followUps := [] } := by
  have hignored : ∀ d, (({ b with followUps := [] } : Earbud).handle (.quietModeFire d)).1 =
      { b with followUps := [] } := by
    intro d
    rw [handle_quietModeFire]
    split <;> rename_i hon
    · have hoff : b.audio.adaptive = false := by
        have henabled : b.isEnabled = true := hon
        rwa [henabled, Bool.true_and] at hout
      exact if_neg (by simp [hoff])
    · rfl
  unfold finishFollowUps
  induction b.followUps with
  | nil => rfl
  | cons d rest ih => rw [List.foldl_cons, hignored, ih]

theorem outside_adopt (decision : Synchronizer.Decision) (h : (b.isEnabled && b.audio.adaptive) = false) :
    ((b.adopt decision).isEnabled && (b.adopt decision).audio.adaptive) = false := by
  have hw := work_adopt_beside b decision
  have hkept := congrArg Runtime.state hw.keeps
  have hstate : (b.adopt decision).runtime.state = b.runtime.state := hkept
  rwa [isEnabled, hstate, hw.adaptive (fun _ _ _ => rfl) rfl fun _ => rfl]

/-- Outside adaptive processing an event reaches the peer or arms a timer of a transition exactly
when it is a record of the peer, not in its case, that makes this side respond or arm. -/
theorem reticent_dispatch_iff (hdone : b.followUps = []) (ho : b.timers.InOrder)
    (hout : (b.isEnabled && b.audio.adaptive) = false) (e : Event) :
    Reticent b (b.dispatch e).1 ↔ ¬∃ r, e = .peerRecord r ∧ b.runtime.peerInCase = false ∧
      (b.quietMode.Responds r ∨ ∃ d, b.quietMode.Arms r b.wallNow d) := by
  by_cases hother : ∀ r, e ≠ .peerRecord r
  · obtain ⟨hquiet, hkept⟩ := reticent_handle hout hother
    refine iff_of_true ?_ fun ⟨r, he, _⟩ => hother r he
    show Reticent b (b.handle e).1.finishFollowUps
    rwa [finishFollowUps_eq_self _ (hkept.trans hdone)]
  · simp only [not_forall, Decidable.not_not] at hother
    obtain ⟨r, rfl⟩ := hother
    show Reticent b (b.receiveRecord r).finishFollowUps ↔ _
    unfold receiveRecord
    split <;> rename_i hcase
    · rw [finishFollowUps_eq_self _ hdone]
      refine iff_of_true (.refl b) ?_
      rintro ⟨r', -, hpresent, -⟩
      exact nomatch hpresent.symm.trans hcase
    · rw [finishFollowUps_outside (outside_adopt _ hout)]
      have hsame : Reticent b { b.adopt (b.quietMode.peerRecord r b.wallNow) with followUps := [] } ↔
          Reticent b (b.adopt (b.quietMode.peerRecord r b.wallNow)) :=
        ⟨fun h => ⟨h.sent, h.armed⟩, fun h => ⟨h.sent, h.armed⟩⟩
      have hcancel : ∀ d, .cancel d ∉ (b.quietMode.peerRecord r b.wallNow).2 :=
        b.quietMode.cancel_not_mem_operate (.peerRecord r b.wallNow)
      rw [hsame, reticent_adopt_iff ho hcancel]
      have hset : (∃ r', Event.peerRecord r = .peerRecord r' ∧ b.runtime.peerInCase = false ∧
          (b.quietMode.Responds r' ∨ ∃ d, b.quietMode.Arms r' b.wallNow d)) ↔
          b.quietMode.Responds r ∨ ∃ d, b.quietMode.Arms r b.wallNow d := by
        simp [hcase]
      rw [hset, ← Synchronizer.publish_mem_peerRecord_iff b.quietMode r b.wallNow]
      simp only [← Synchronizer.arm_mem_peerRecord_iff]
      constructor
      · rintro hnone (⟨r', hmem⟩ | ⟨d, after, hmem⟩)
        · exact nomatch hnone _ hmem
        · exact nomatch hnone _ hmem
      · intro hnone eff hmem
        cases eff with
        | arm d after => exact absurd (Or.inr ⟨d, after, hmem⟩) hnone
        | publish r' => exact absurd (Or.inl ⟨r', hmem⟩) hnone
        | _ => rfl

/-! ### Runs -/

theorem orderly_after (hdone : b.followUps = []) (ho : b.timers.InOrder) (turns : List Turn)
    (hq : ∀ q, .timers q ∈ turns → q.InOrder) :
    (b.after turns).followUps = [] ∧ (b.after turns).timers.InOrder := by
  induction turns generalizing b with
  | nil => exact ⟨hdone, ho⟩
  | cons turn rest ih =>
    have hrest : ∀ q, .timers q ∈ rest → q.InOrder := fun q hmem => hq q (List.mem_cons_of_mem _ hmem)
    cases turn with
    | event e =>
      exact ih (followUps_finishFollowUps _) ((work_dispatch b e).inOrder ho) hrest
    | timers q => exact ih hdone (hq q List.mem_cons_self) hrest
    | surround s => exact ih (b := b.surround s) hdone ho hrest

section Run

variable (c : Config) (clockOrigin : Option WallClock) (store : SessionStore)

/-- After any run, an event that comes while noise control is off or adaptive processing does not
run sends no record and arms no timer of a transition, unless it is a record of the peer, not in its
case, that makes this side respond or arm. -/
theorem reticent_outside_iff (turns : List Turn) (hq : ∀ q, .timers q ∈ turns → q.InOrder) (e : Event)
    (hout : (((Earbud.new c clockOrigin store).after turns).isEnabled &&
      ((Earbud.new c clockOrigin store).after turns).audio.adaptive) = false) :
    let b := (Earbud.new c clockOrigin store).after turns
    ((b.dispatch e).1.recordsSent = b.recordsSent ∧
        ∀ d timer, (b.dispatch e).1.timers.find? (.quietMode d) = some timer →
          b.timers.find? (.quietMode d) = some timer) ↔
      ¬∃ r, e = .peerRecord r ∧ b.runtime.peerInCase = false ∧
        (b.quietMode.Responds r ∨ ∃ d, b.quietMode.Arms r b.wallNow d) := by
  intro b
  obtain ⟨hdone, ho⟩ := orderly_after (b := Earbud.new c clockOrigin store) rfl
    TimerQueue.inOrder_empty turns hq
  rw [← reticent_dispatch_iff hdone ho hout e]
  exact ⟨fun h => ⟨h.1, h.2⟩, fun h => ⟨h.sent, h.armed⟩⟩

/-- A request of the peer arrives while noise control is off; its timer is armed. -/
theorem reticent_outside_iff_disabled :
    let turns : List Turn := [.event .initialise, .event .powerOn]
    let b := (Earbud.new (.standard "") none {}).after turns
    let e : Event := .peerRecord { detected := true, enableRequested := true, timestamp := .add .zero 5 }
    (∀ q, .timers q ∈ turns → q.InOrder) ∧ (b.isEnabled && b.audio.adaptive) = false ∧
      (((b.dispatch e).1.recordsSent = b.recordsSent ∧
          ∀ d timer, (b.dispatch e).1.timers.find? (.quietMode d) = some timer →
            b.timers.find? (.quietMode d) = some timer) ↔
        ¬∃ r, e = .peerRecord r ∧ b.runtime.peerInCase = false ∧
          (b.quietMode.Responds r ∨ ∃ d, b.quietMode.Arms r b.wallNow d)) :=
  ⟨by simp, by decide, reticent_outside_iff (.standard "") none {} _ (by simp) _ (by decide)⟩

end Run

/-- Outside adaptive processing a request of the peer arms the timer of the transition. -/
theorem armed_outside : ¬∀ (c : Config) (clockOrigin : Option WallClock) (store : SessionStore)
    (turns : List Turn), (∀ q, .timers q ∈ turns → q.InOrder) → ∀ e : Event,
      let b := (Earbud.new c clockOrigin store).after turns
      (b.isEnabled && b.audio.adaptive) = false →
        (b.dispatch e).1.recordsSent = b.recordsSent ∧
          ∀ d timer, (b.dispatch e).1.timers.find? (.quietMode d) = some timer →
            b.timers.find? (.quietMode d) = some timer := by
  intro h
  have hdisabled := h (.standard "") none {} [.event .initialise, .event .powerOn] (by simp)
    (.peerRecord { detected := true, enableRequested := true, timestamp := .add .zero 5 })
    (by decide)
  have hnone := hdisabled.2 .enable ⟨.quietMode .enable, 5, 1⟩ (by decide)
  exact absurd hnone (by decide)

end Earbud

end NoiseControl
