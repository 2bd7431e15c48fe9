import NoiseControl.Proofs.Earbud.Confirmed
import NoiseControl.Proofs.Earbud.Driving
import NoiseControl.Proofs.Earbud.ModeSafety
import NoiseControl.Proofs.Earbud.PowerCycle

/-!
# The power goes off

From every state with power, and whatever the audio chain refuses, the power goes off in one event.  On
the way the mode that is asked for is loaded and the hardware switched off, each of which may fail, and
last the session is saved.  A switch off that is under way is not what is saved of noise control, and
the mode that is saved is the one asked for unless it could not be loaded.
-/

namespace NoiseControl.Earbud

variable {b : Earbud}

/-! ### Winding down -/

theorem powerOn_windDown (b : Earbud) : b.windDown.runtime.powerOn = false := by
  have hquit : ∀ kind, (windDown.quit b kind).runtime.powerOn = false := fun _ => Bool.and_false _
  unfold windDown
  split
  · exact powerOn_reconfigure _ _ _
  · exact hquit .fixed
  · exact hquit .adaptive
  · rfl

/-- Noise control that is on is asked for again, even if it was to be switched off. -/
theorem requestedEnabled_windDown (b : Earbud) :
    b.windDown.runtime.requestedEnabled = (b.isEnabled || b.runtime.requestedEnabled) := by
  have hother : b.runtime.state ≠ .enabled →
      b.runtime.requestedEnabled = (b.isEnabled || b.runtime.requestedEnabled) := by
    intro hs
    rw [isEnabled_eq_false hs, Bool.false_or]
  unfold windDown
  split <;> rename_i hstate
  · rw [b.isEnabled_iff.mpr hstate, Bool.true_or]
    exact requestedEnabled_reconfigure _ _ _
  · exact hother (by simp [hstate])
  · exact hother (by simp [hstate])
  · exact hother (by assumption)

/-- On the way down the mode that is asked for stays so, unless loading it fails. -/
theorem refuses_windDown (hm : b.runtime.requestedMode.index < b.runtime.numModes) :
    let matter := refuses b.runtime.requestedMode
    (b.windDown.tally matter = b.tally matter ∧
        b.windDown.runtime.requestedMode = b.runtime.requestedMode) ∨
      (b.windDown.tally matter = b.tally matter + 1 ∧
        b.windDown.runtime.requestedMode = b.runtime.currentMode) := by
  unfold windDown
  split
  · exact reconfigure_refuses (b.setRuntime fun r =>
      { r with powerOn := false, requestedEnabled := true }).stopSettleTimers false
      b.runtime.requestedMode hm
  · exact Or.inl ⟨rfl, rfl⟩
  · exact Or.inl ⟨rfl, rfl⟩
  · exact Or.inl ⟨rfl, rfl⟩

/-! ### The session -/

/-- The mode that is asked for when the session is saved. -/
theorem requestedMode_windDown (hm : b.runtime.requestedMode.index < b.runtime.numModes) {off : Earbud}
    {s : Session} {done : Bool} (hoff : off.history = .saved s done :: b.windDown.history) :
    b.windDown.runtime.requestedMode =
      if .audio (.setMode b.runtime.requestedMode) false ∈ off.activitiesSince b
        then b.runtime.currentMode else b.runtime.requestedMode := by
  have hsuffix : b.history <:+ off.history := by
    rw [hoff]
    exact (work_windDown b).history_suffix.trans (List.suffix_cons _ _)
  -- Saving the session is no attempt to load a mode.
  have htally : off.tally (refuses b.runtime.requestedMode) =
      b.windDown.tally (refuses b.runtime.requestedMode) := by
    unfold tally
    rw [hoff]
    exact List.countP_cons_of_neg nofun
  have hrefused := refused_mem_iff hsuffix b.runtime.requestedMode
  rw [htally] at hrefused
  rcases refuses_windDown hm with ⟨hsame, hmode⟩ | ⟨hmore, hmode⟩
  · rw [if_neg (by rw [hrefused]; omega), hmode]
  · rw [if_pos (by rw [hrefused]; omega), hmode]

/-! ### Runs -/

/-- After any run, the power goes off in the event that is to switch it off, from every state with power
and whatever audio commands fail.  If a part of the session is to be kept and the store works, the
session is saved once: noise control is to come back if it was on, and else if that was asked for; its
mode is the one that was asked for, or the current one if that could not be loaded. -/
theorem power_off_completes (c : Config) (clockOrigin : Option WallClock) (store : SessionStore)
    (turns : List Turn)
    (hs : ((Earbud.new c clockOrigin store).after turns).runtime.state.isPowered = true) :
    let on := (Earbud.new c clockOrigin store).after turns
    let off := (on.dispatch .powerOff).1
    (off.runtime.state = .powerOff ∧ off.runtime.powerOn = false ∧ off.runtime.actualEnabled = false ∧
        off.runtime.tuningSampleRate = none ∧
        ∀ k ∈ [.configSettle, .muteBeforeDisable, .muteBeforeMode, .pathGainSettle],
          off.timers.isArmed k = false) ∧
      ((c.persist.enabled || c.persist.mode) = true → (∀ n, on.failures n .load = false) →
        (∀ n s, on.failures n (.save s) = false) →
          let before := on.store.data.getD {}
          let refused := .audio (.setMode on.runtime.requestedMode) false ∈ off.activitiesSince on
          let s : Session :=
            { enabled := if c.persist.enabled then on.isEnabled || on.runtime.requestedEnabled
                else before.enabled
              mode := if c.persist.mode then
                  if refused then on.runtime.currentMode else on.runtime.requestedMode
                else before.mode }
          (off.activitiesSince on).filterMap Activity.saved? = [(s, true)] ∧
            off.store = on.store.save s) := by
  intro on off
  have hdone : on.followUps = [] := done_after (b := Earbud.new c clockOrigin store) rfl turns
  have hstate : off.runtime.state = .powerOff := state_powerOff hs hdone
  have hafter : off = (Earbud.new c clockOrigin store).after (turns ++ [.event .powerOff]) :=
    (after_append _ turns [.event .powerOff]).symm
  constructor
  · refine ⟨hstate, ?_, ?_, ?_, fun k hk => isArmed_powerOff hs hdone ?_⟩
    · have hpower : on.windDown.runtime.powerOn = false := powerOn_windDown on
      rcases runtime_powerOff hs hdone with hoff | hoff <;>
        exact (congrArg Runtime.powerOn hoff).trans hpower
    · have hcontained := contained_after c clockOrigin store (turns ++ [.event .powerOff])
      rw [← hafter] at hcontained
      exact hcontained.off (by simp [hstate])
    · rw [hafter] at hstate ⊢
      exact rate_after c clockOrigin store _ (by rw [hstate]; rfl)
    · simp only [List.mem_cons, List.not_mem_nil, or_false] at hk
      rcases hk with rfl | rfl | rfl | rfl <;> rfl
  · intro hkeeps hload hsave before refused s
    have hconfig : on.config = c := config_after _ turns
    have hfailures : on.windDown.failures = on.failures := (work_windDown on).failures
    have hloaded : on.windDown.loadSession.2 = on.store.data := by
      unfold loadSession
      rw [hfailures, hload, ((unsaving_windDown on).unsaved rfl).1]
      rfl
    obtain ⟨hhistory, hstored, hsaves⟩ := saves_powerOff hs hdone (by rwa [← hconfig] at hkeeps)
    rw [hfailures, hsave, hloaded] at hhistory hstored hsaves
    have hranged : Ranged on :=
      (modeSafe_after c clockOrigin store turns).ranged (state_windDown on ▸ initialised_windDown hs)
    have hsession : on.windDown.sessionOver before = s := by
      unfold sessionOver
      rw [(work_windDown on).config, hconfig, requestedEnabled_windDown,
        requestedMode_windDown hranged.requested hhistory]
    rw [hsession] at hstored hsaves
    exact ⟨hsaves, hstored⟩

theorem power_off_completes_refused :
    let refused : FailurePattern := fun _ call =>
      call == .audio (.setMode ⟨3⟩) || call == .audio .hardwareOff
    let on := (Earbud.new (.standard "") none {}).after
      [.event .initialise, .event .powerOn, .event .enable, .event (.timerExpired .configSettle),
        .event .disable, .event (.setMode ⟨3⟩), .surround ⟨none, {}, refused, none, {}, {}⟩]
    let off := (on.dispatch .powerOff).1
    on.runtime.requestedEnabled = false ∧ on.runtime.requestedMode = ⟨3⟩ ∧
      off.runtime.state = .powerOff ∧ off.runtime.actualEnabled = false ∧
      off.store.data = some { enabled := true, mode := ⟨0⟩ } := by
  intro refused on
  have hpowered : on.runtime.state.isPowered = true := by decide +kernel
  have hstaged : on.runtime.requestedEnabled = false ∧ on.isEnabled = true := by decide +kernel
  have hmode : on.runtime.requestedMode = ⟨3⟩ ∧ on.runtime.currentMode = ⟨0⟩ := by decide +kernel
  have hrefused : .audio (.setMode on.runtime.requestedMode) false ∈
      (on.dispatch .powerOff).1.activitiesSince on := by decide +kernel
  obtain ⟨⟨hoff, -, hconfirmed, -⟩, hsaves⟩ :=
    power_off_completes (.standard "") none {} _ hpowered
  obtain ⟨-, hstore⟩ := hsaves rfl (fun _ => rfl) (fun _ _ => rfl)
  refine ⟨hstaged.1, hmode.1, hoff, hconfirmed, ?_⟩
  rw [hstore, if_pos hrefused, hmode.2, hstaged.2]
  rfl

end NoiseControl.Earbud
