import NoiseControl.Proofs.Earbud.Act
import NoiseControl.Proofs.Earbud.Modes

/-!
# No staged request is lost

Under adaptive processing a switch off and a change of mode wait until the gains have ramped down.
As long as one of them waits there is a timer that will complete it: whatever cancels the timers
also completes the request, gives it up, or leaves the state `enabled`.
-/

namespace NoiseControl.Earbud

variable {a b : Earbud}

/-- A mode that is asked for and not loaded waits for a ramp, its own or that of a switch off. -/
def Awaited (b : Earbud) : Prop :=
  b.runtime.state = .enabled → b.runtime.requestedMode ≠ b.runtime.currentMode →
    b.timers.isArmed .muteBeforeMode = true ∨ b.timers.isArmed .muteBeforeDisable = true

theorem awaited_of_state (h : b.runtime.state ≠ .enabled) : Awaited b := fun hs => absurd hs h

theorem awaited_of_modes (h : b.runtime.requestedMode = b.runtime.currentMode) : Awaited b :=
  fun _ hne => absurd h hne

/-! ### Acts -/

theorem Awaited.aside (h : Awaited a) (w : Work aside a b) : Awaited b := by
  have hkeeps := w.keeps
  have hstate : b.runtime.state = a.runtime.state := (congrArg Runtime.state hkeeps :)
  have hcurrent : b.runtime.currentMode = a.runtime.currentMode :=
    (congrArg Runtime.currentMode hkeeps :)
  have hasked : b.runtime.requestedMode = a.runtime.requestedMode :=
    (congrArg Runtime.requestedMode hkeeps :)
  have harmed : ∀ k, Earbud.aside.timer k = false → b.timers.isArmed k = a.timers.isArmed k :=
    fun k hk => congrArg Option.isSome (w.find? hk)
  intro hs hne
  rw [harmed _ rfl, harmed _ rfl]
  exact h (hstate ▸ hs) (by rwa [← hcurrent, ← hasked])

theorem awaited_applyPending (b : Earbud) : Awaited b.applyPending.1 :=
  awaited_of_modes (requestedMode_reconfigure b b.runtime.requestedEnabled)

theorem awaited_switchOff (b : Earbud) (next : Lifecycle) : Awaited (b.switchOff next).1 := by
  have hmodes := requestedMode_reconfigure b false
  refine awaited_of_modes ?_
  rw [runtime_switchOff]
  dsimp only [Runtime.clearUserFlags] at hmodes ⊢
  split
  · exact hmodes
  · split <;> exact hmodes

theorem awaited_requestEnable (hs : b.runtime.state = .disabled) : Awaited b.requestEnable.1 := by
  have hmodes := requestedMode_reconfigure (b.setRuntime fun r => { r with requestedEnabled := true }) true
  unfold requestEnable
  rw [hs]
  dsimp only at hmodes ⊢
  split
  · refine awaited_of_modes ?_
    rw [runtime_enter]
    exact hmodes
  · exact awaited_of_modes hmodes

theorem awaited_requestDisable (hs : b.runtime.state = .enabled) : Awaited b.requestDisable.1 := by
  unfold requestDisable
  rw [hs]
  dsimp only
  split
  · intro _ _
    refine Or.inr ?_
    simp [arm, TimerQueue.isArmed, TimerQueue.find?_arm]
  · exact awaited_switchOff _ _

theorem awaited_requestMode (h : Awaited b) (m : Mode) : Awaited (b.requestMode m).1 := by
  unfold requestMode
  split <;> rename_i hs
  · split
    · exact h
    · have hkeeps := Work.keeps
        (work_refreshLeakthrough (b.setRuntime fun r => { r with requestedMode := m }))
      have hstate := (congrArg Runtime.state hkeeps :)
      exact awaited_of_state fun he => by cases (hs.symm.trans hstate.symm).trans he
  · split
    · exact h
    · dsimp only
      split <;> rename_i hm
      · exact awaited_of_modes hm
      · split
        · intro _ _
          refine Or.inl ?_
          simp [arm, TimerQueue.isArmed, TimerQueue.find?_arm]
        · exact awaited_applyPending _
  · exact h

theorem awaited_enter {next : Lifecycle} (b : Earbud) (hn : next ≠ .enabled) : Awaited (b.enter next) :=
  awaited_of_state (by rw [runtime_enter]; exact hn)

theorem awaited_enterTuning (b : Earbud) (kind : TuningKind) : Awaited (b.enterTuning kind).1 :=
  enterTuning_induction b kind (fun _ => awaited_switchOff _ _)
    (fun _ => awaited_enter b (by cases kind <;> decide)) fun _ hx =>
      hx.aside (.single (.command _ (by cases kind <;> rfl)))

theorem awaited_switchPowerOn (hoff : b.runtime.actualEnabled = false) : Awaited b.switchPowerOn := by
  unfold switchPowerOn
  dsimp only
  split
  · refine awaited_of_modes ?_
    rw [runtime_enter]
    exact requestedMode_reconfigure (b.setRuntime fun r => { r with powerOn := true }) true
  · rw [show (b.setRuntime fun r => { r with powerOn := true }).runtime.actualEnabled = false from hoff]
    exact awaited_enter _ (by decide)

theorem awaited_start (h : Awaited b) (hs : b.runtime.state = .uninitialised) : Awaited b.start.1 := by
  rcases start_fst b with ⟨he, -⟩ | ⟨microphones, mode, ⟨he, -⟩ | ⟨enabled, he, -⟩⟩ <;> rw [he]
  · exact h
  · refine awaited_of_state ?_
    rw [runtime_attempt, show b.loadSession.1.runtime = b.runtime from rfl, hs]
    decide
  · exact awaited_enter _ (by decide)

theorem awaited_startAdaptive (h : Awaited b) : Awaited b.startAdaptive := by
  unfold startAdaptive
  split
  · have hfst := attempt_fst b (.adaptiveOn (b.runtime.placement == .inEar)
      b.config.layout.controlPath? b.runtime.currentMode)
    rcases hfst with he | he <;> rw [he] <;> exact h
  · exact h

theorem Act.awaited (act : Act a b) (h : Awaited a) : Awaited b := by
  cases act with
  | aside t => exact h.aside (.single t)
  | enable hs => exact awaited_requestEnable hs
  | disable hs => exact awaited_requestDisable hs
  | mode m hs => exact awaited_requestMode h m
  | remember => exact h
  | powerOffEnabled hs => exact awaited_switchOff _ _
  | powerOffDisabled hs => exact awaited_enter _ (by decide)
  | powerOn hs hoff => exact awaited_switchPowerOn hoff
  | tune kind hs => exact awaited_enterTuning a kind
  | leaveTuning kind next hs hn => exact awaited_enter _ (by rcases hn with rfl | rfl <;> decide)
  | start hs => exact awaited_start h hs
  | startAdaptive hs => exact awaited_startAdaptive h
  | switchOff hs => exact awaited_switchOff _ _
  | applyPending hs => exact awaited_applyPending _

/-! ### Runs -/

/-- The end of a ramp completes what waited for it. -/
theorem awaited_ramp (k : TimerKind) (hk : k = .muteBeforeDisable ∨ k = .muteBeforeMode) :
    Awaited (b.dispatch (.timerExpired k)).1 := by
  have hhandled : Awaited (b.handle (.timerExpired k)).1 := by
    have hstate : (b.handle (.timerExpired k)).1 = (b.handleInState (.timerExpired k)).1 := by
      rcases hk with rfl | rfl <;> rfl
    rw [hstate]
    by_cases hs : b.runtime.state = .enabled
    · rw [handleInState_enabled b hs]
      rcases hk with rfl | rfl
      · exact awaited_switchOff b _
      · exact awaited_applyPending b
    · rw [handleInState_timer b hs]
      exact awaited_of_state hs
  exact finishFollowUps_induction _ (hhandled.aside (.single (.defer [] rfl))) fun x d hx =>
    hx.aside (work_adopt x _ rfl (fun _ => rfl) rfl rfl)

theorem awaited_run (c : Config) (clockOrigin : Option WallClock) (store : SessionStore)
    (moves : List Move) : Awaited ((Earbud.new c clockOrigin store).run moves) := by
  refine run_induction c clockOrigin store (fun hs => nomatch hs) ?_ ?_ ?_ ?_ moves
  · intro b e hsound _ h
    exact dispatch_induction (fun _ _ act => act.awaited) hsound.classified h e
  · intro b k timers hsound hp h
    by_cases hk : k = .muteBeforeDisable ∨ k = .muteBeforeMode
    · exact awaited_ramp k hk
    · obtain ⟨-, -, -, rfl, -⟩ := hsound.order.popDue?_eq_some hp
      rw [not_or] at hk
      have hpopped : Awaited (b.cancel k) := by
        intro hs hne
        have hkept : ∀ k', k' ≠ k → (b.cancel k).timers.isArmed k' = b.timers.isArmed k' :=
          fun k' hk' => congrArg Option.isSome ((TimerQueue.find?_cancel _ _ _).trans (if_neg hk'))
        rw [hkept _ (Ne.symm hk.1), hkept _ (Ne.symm hk.2)]
        exact h hs hne
      exact dispatch_induction (fun _ _ act => act.awaited) (b := b.cancel k) hsound.classified
        hpopped _
  · exact fun b t h => h
  · exact fun b s h => h

/-- Along every run, a switch off that is asked for in the state `enabled` has its ramp armed, and a
mode that is asked for there and not loaded has its own ramp armed or that of a switch off. -/
theorem staged_run (c : Config) (clockOrigin : Option WallClock) (store : SessionStore)
    (moves : List Move) :
    let b := (Earbud.new c clockOrigin store).run moves
    (b.runtime.state = .enabled → b.runtime.requestedEnabled = false →
        b.timers.isArmed .muteBeforeDisable = true) ∧
      (b.runtime.state = .enabled → b.runtime.requestedMode ≠ b.runtime.currentMode →
        b.timers.isArmed .muteBeforeMode = true ∨ b.timers.isArmed .muteBeforeDisable = true) := by
  intro b
  refine ⟨fun hs hr => ?_, awaited_run c clockOrigin store moves⟩
  obtain ⟨-, off, hoff, -⟩ := (sound_run c clockOrigin store moves).1.staged hs hr
  exact congrArg Option.isSome hoff

theorem staged_run_both :
    let b := (Earbud.new (.standard "") none {}).run
      [.event .initialise, .event .powerOn, .event .enable, .expiry, .event (.setMode ⟨1⟩),
        .event .disable]
    b.runtime.state = .enabled ∧ b.runtime.requestedEnabled = false ∧
      b.runtime.requestedMode ≠ b.runtime.currentMode ∧
      b.timers.isArmed .muteBeforeDisable = true ∧
      (b.timers.isArmed .muteBeforeMode = true ∨ b.timers.isArmed .muteBeforeDisable = true) := by
  intro b
  have hstaged := staged_run (.standard "") none {}
    [.event .initialise, .event .powerOn, .event .enable, .expiry, .event (.setMode ⟨1⟩),
      .event .disable]
  have hs : b.runtime.state = .enabled := by decide
  have hr : b.runtime.requestedEnabled = false := by decide
  have hm : b.runtime.requestedMode ≠ b.runtime.currentMode := by decide
  exact ⟨hs, hr, hm, hstaged.1 hs hr, hstaged.2 hs hm⟩

end NoiseControl.Earbud
