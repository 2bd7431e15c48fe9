import NoiseControl.Proofs.Earbud.Act
import NoiseControl.Proofs.Earbud.QuietFlag

/-!
# Changes of mode and the negotiation

A negotiation means nothing once the mode changes.  It is dropped with the request for a mode that
is accepted.  Under adaptive processing, while noise control is off and while a switch off is staged
the mode changes later than that, and the event that changes it leaves the negotiation as it is.
-/

namespace NoiseControl.Earbud

variable {a b c : Earbud}

/-- Nothing is under way between the earbuds. -/
structure Undisturbed (b : Earbud) : Prop where
  own : b.quietMode.own = .clear
  peer : b.quietMode.peer = .clear
  unarmed : ∀ d, b.timers.isArmed (.quietMode d) = false

instance (b : Earbud) : Decidable b.Undisturbed :=
  decidable_of_iff (b.quietMode.own = .clear ∧ b.quietMode.peer = .clear ∧
      b.timers.isArmed (.quietMode .enable) = false ∧ b.timers.isArmed (.quietMode .disable) = false)
    ⟨fun h => ⟨h.1, h.2.1, fun d => by cases d; exacts [h.2.2.1, h.2.2.2]⟩,
      fun h => ⟨h.own, h.peer, h.unarmed _, h.unarmed _⟩⟩

theorem undisturbed_iff (hq : b.quietMode = a.quietMode)
    (ht : ∀ d, b.timers.isArmed (.quietMode d) = a.timers.isArmed (.quietMode d)) :
    Undisturbed b ↔ Undisturbed a := by
  constructor
  · exact fun h => ⟨hq ▸ h.own, hq ▸ h.peer, fun d => ht d ▸ h.unarmed d⟩
  · exact fun h => ⟨hq.symm ▸ h.own, hq.symm ▸ h.peer, fun d => (ht d).trans (h.unarmed d)⟩

theorem Work.undisturbed_iff (w : Work apart a b) : Undisturbed b ↔ Undisturbed a :=
  Earbud.undisturbed_iff (w.silent rfl).1 fun _ => congrArg Option.isSome (w.find? rfl)

theorem undisturbed_resetQuietMode (b : Earbud) : Undisturbed b.resetQuietMode where
  own := rfl
  peer := rfl
  unarmed d := by
    show TimerQueue.isArmed ((b.timers.cancel _).cancel _) _ = false
    cases d <;> simp [TimerQueue.isArmed, TimerQueue.find?_cancel]

/-! ### Events that start the negotiation afresh -/

theorem undisturbed_handle {e : Event} (hs : b.runtime.state ≠ .uninitialised)
    (h : b.startsAfresh e = true) : Undisturbed (b.handle e).1 := by
  cases hasked : b.modeAsked? e with
  | some p =>
    obtain ⟨x, m⟩ := p
    rw [startsAfresh_of_modeAsked? hasked] at h
    have hafter := (changeMode_of_modeAsked? hasked).2
    rw [changeMode_fst, if_pos h] at hafter
    exact (Work.undisturbed_iff hafter).mpr (undisturbed_resetQuietMode _)
  | none =>
    unfold startsAfresh at h
    split at h
    · rw [Bool.and_eq_true, beq_iff_eq] at h
      exact absurd h.1 hs
    · exact undisturbed_resetQuietMode b
    · rename_i p
      have hreset := undisturbed_resetQuietMode
        (b.setRuntime fun r => { r with peerInCase := p == .inCase })
      show Undisturbed (b.peerPlaced p)
      unfold peerPlaced
      dsimp only
      split <;> rename_i hentered
      · split
        · have htold := (work_announceBothGains (b.setRuntime fun r =>
            { r with peerInCase := p == .inCase }).resetQuietMode gainOfPeerInCase).mono
            gains_within_apart
          exact (Work.undisturbed_iff (htold.tail (.arm _ _ rfl))).mpr hreset
        · exact hreset
      · exact absurd h hentered
    · rw [hasked] at h
      cases h

theorem undisturbed_dispatch {e : Event} (hs : b.runtime.state ≠ .uninitialised)
    (h : b.startsAfresh e = true) (hdone : b.followUps = []) : Undisturbed (b.dispatch e).1 := by
  have hnone : (b.handle e).1.followUps = [] := (handle_afresh h).followUps.trans hdone
  show Undisturbed (b.handle e).1.finishFollowUps
  rw [finishFollowUps_eq_self _ hnone]
  exact undisturbed_handle hs h

/-! ### Other events -/

theorem currentMode_adopt (b : Earbud) (decision : QuietMode.Synchronizer.Decision) :
    (b.adopt decision).runtime.currentMode = b.runtime.currentMode :=
  (congrArg Runtime.currentMode
    (work_adopt (x := aside) b decision rfl (fun _ => rfl) rfl rfl).keeps :)

theorem currentMode_finishFollowUps (b : Earbud) :
    b.finishFollowUps.runtime.currentMode = b.runtime.currentMode :=
  finishFollowUps_induction (P := fun x => x.runtime.currentMode = b.runtime.currentMode) b rfl
    fun x _ hx => (currentMode_adopt x _).trans hx

theorem currentMode_quietMode (b : Earbud) (d : QuietMode.Direction) :
    (b.dispatch (.timerExpired (.quietMode d))).1.runtime.currentMode = b.runtime.currentMode := by
  refine (currentMode_finishFollowUps (b.handle (.quietModeFire d)).1).trans ?_
  rw [handle_quietModeFire]
  unfold whileAdaptive
  split
  · split
    · exact currentMode_adopt b _
    · rfl
  · rfl

/-- An event that changes the mode, and does not start the negotiation afresh, leaves it alone. -/
theorem apart_of_currentMode_ne {e : Event} (h : b.startsAfresh e = false) (hdone : b.followUps = [])
    (hmode : (b.dispatch e).1.runtime.currentMode ≠ b.runtime.currentMode) :
    Work apart b (b.dispatch e).1 := by
  rcases handle_operation h with hw | ⟨o, ho⟩
  · have hnone : (b.handle e).1.followUps = [] := (hw.silent rfl).2.1.trans hdone
    show Work apart b (b.handle e).1.finishFollowUps
    rw [finishFollowUps_eq_self _ hnone]
    exact hw
  · refine absurd ((currentMode_finishFollowUps (b.handle e).1).trans ?_) hmode
    rw [ho]
    exact currentMode_adopt b _

/-! ### Runs -/

theorem undisturbed_perform_iff {m : Move} (hs : b.runtime.state ≠ .uninitialised)
    (hdone : b.followUps = [])
    (hmode : (b.perform m).runtime.currentMode ≠ b.runtime.currentMode) :
    Undisturbed (b.perform m) ↔ m.startsAfresh b = true ∨ Undisturbed b := by
  rw [perform_eq] at hmode ⊢
  cases m with
  | event e he =>
    dsimp only [dispatched?] at hmode ⊢
    show _ ↔ b.startsAfresh e = true ∨ _
    cases h : b.startsAfresh e with
    | true => exact iff_of_true (undisturbed_dispatch hs h hdone) (Or.inl rfl)
    | false =>
      rw [(apart_of_currentMode_ne h hdone hmode).undisturbed_iff]
      simp
  | expiry =>
    simp only [dispatched?] at hmode ⊢
    cases hp : b.timers.popDue? with
    | none => exact absurd (by rw [hp]; rfl) hmode
    | some p =>
      obtain ⟨k, timers⟩ := p
      rw [hp] at hmode
      dsimp only [Option.map_some] at hmode ⊢
      -- The timer of a transition changes no mode, so the timer that expired is another.
      have hk : ∀ d, TimerKind.quietMode d ≠ k := by
        rintro d rfl
        exact hmode (currentMode_quietMode _ d)
      have hrest : ∀ d, timers.isArmed (.quietMode d) = b.timers.isArmed (.quietMode d) := by
        intro d
        simp only [TimerQueue.popDue?, Option.map_eq_some_iff, Prod.mk.injEq] at hp
        obtain ⟨popped, -, rfl, rfl⟩ := hp
        simp only [TimerQueue.isArmed, TimerQueue.find?_cancel, if_neg (hk d)]
      have happart := apart_of_currentMode_ne (b := { b with timers := timers })
        (by cases k <;> rfl) hdone hmode
      have hpopped := undisturbed_iff (a := b) (b := { b with timers := timers }) rfl hrest
      rw [happart.undisturbed_iff, hpopped]
      exact (or_iff_right (by simp [Move.startsAfresh])).symm
  | wait t => exact absurd rfl hmode
  | surround s => exact absurd rfl hmode

/-- At the end of an event in which the mode changed, both records are clear and no transition is
timed exactly when the event itself started the negotiation afresh, or there was none before. -/
theorem undisturbed_of_mode_change_iff (c : Config) (clockOrigin : Option WallClock)
    (store : SessionStore) (moves : List Move) (m : Move) :
    let b := (Earbud.new c clockOrigin store).run moves
    let after := b.perform m
    b.runtime.state ≠ .uninitialised → after.runtime.currentMode ≠ b.runtime.currentMode →
      (Undisturbed after ↔ m.startsAfresh b = true ∨ Undisturbed b) := by
  intro b after hs hmode
  exact undisturbed_perform_iff hs (sound_run c clockOrigin store moves).2 hmode

/-- Without adaptive processing the mode changes with the request for it. -/
theorem undisturbed_of_mode_change_fixed :
    let b := (Earbud.new { Config.standard "" with adaptive := false } none {}).run
      [.event .initialise, .event .powerOn, .event .enable]
    let after := b.perform (.event (.setMode ⟨1⟩))
    b.runtime.state ≠ .uninitialised ∧ after.runtime.currentMode ≠ b.runtime.currentMode ∧
      Undisturbed after := by
  intro b after
  have hs : b.runtime.state ≠ .uninitialised := by decide
  have hmode : after.runtime.currentMode ≠ b.runtime.currentMode := by decide
  have hafresh : Move.startsAfresh (.event (.setMode ⟨1⟩)) b = true := by decide
  exact ⟨hs, hmode, (undisturbed_of_mode_change_iff { Config.standard "" with adaptive := false } none
    {} [.event .initialise, .event .powerOn, .event .enable] (.event (.setMode ⟨1⟩)) hs hmode).mpr
      (Or.inl hafresh)⟩

/-- Both earbuds observe silence while a mode waits for its ramp, and what they negotiate outlasts
the change. -/
theorem disturbed_mode_change :
    ¬∀ (c : Config) (clockOrigin : Option WallClock) (store : SessionStore) (moves : List Move)
      (m : Move),
      let b := (Earbud.new c clockOrigin store).run moves
      let after := b.perform m
      b.runtime.state ≠ .uninitialised → after.runtime.currentMode ≠ b.runtime.currentMode →
        Undisturbed after := by
  intro h
  have hramp := h (.standard "") none {}
    [.event .initialise, .event .powerOn, .event .enable, .expiry, .event (.setMode ⟨1⟩),
      .event .silenceDetected, .event (.peerRecord { detected := true }), .wait 100000] .expiry
  exact absurd hramp (by decide)

end NoiseControl.Earbud
