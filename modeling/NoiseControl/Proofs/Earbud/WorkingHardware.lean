import NoiseControl.Proofs.Earbud.Reaction
import NoiseControl.Proofs.Earbud.Refusal

/-!
# Requests on working hardware

Where no audio command fails, each request for a mode in range comes to what it asks for: the mode is
loaded, the hardware is switched, and the runtime state says so.  What a call has changed and is to
restore is left alone throughout.
-/

namespace NoiseControl

/-- Whether noise control is on, what it is asked for, and the marks of a call. -/
structure Intent where
  state : Lifecycle
  requestedEnabled : Bool
  requestedMode : Mode
  previousMode : Mode
  userEnabled : Bool
  userSwitchedMode : Bool
  enabledForCall : Bool
  modeForCall : Bool

def Intent.clearUserFlags (i : Intent) : Intent := { i with userEnabled := false, userSwitchedMode := false }

def Intent.clearCall (i : Intent) : Intent :=
  { i.clearUserFlags with enabledForCall := false, modeForCall := false }

def Runtime.intent (r : Runtime) : Intent where
  state := r.state
  requestedEnabled := r.requestedEnabled
  requestedMode := r.requestedMode
  previousMode := r.previousMode
  userEnabled := r.userEnabled
  userSwitchedMode := r.userSwitchedMode
  enabledForCall := r.enabledForCall
  modeForCall := r.modeForCall

namespace Earbud

variable {x : Extent} {a b : Earbud} {m : Mode}

def HardwareWorks (b : Earbud) : Prop := ∀ n c, b.failures n (.audio c) = false

theorem HardwareWorks.work (h : HardwareWorks a) (w : Work x a b) : HardwareWorks b := by
  intro n c
  rw [w.failures]
  exact h n c

theorem HardwareWorks.event (h : HardwareWorks b) (e : Event) : HardwareWorks (b.dispatch e).1 :=
  h.work (work_dispatch b e)

theorem attempt_works (h : HardwareWorks b) (c : AudioCommand) :
    b.attempt c = ({ b.command c with calls := b.calls + 1 }, true) :=
  if_neg (by simp [h b.calls c])

/-! ### The hardware -/

theorem hardwareOn_works (h : HardwareWorks b) : b.hardwareOn.2 = true := by
  unfold hardwareOn
  split <;> rw [attempt_works h]

theorem hardwareOff_works (h : HardwareWorks b) : b.hardwareOff.2 = true := by
  have hcancelled : HardwareWorks (b.cancel .pathGainSettle) := h
  unfold hardwareOff
  dsimp only
  split
  · rw [attempt_works hcancelled]
  · rw [attempt_works (hcancelled.work (work_rampDown _))]

theorem switchHardware_works (h : HardwareWorks b) (on : Bool) :
    (b.switchHardware on).2 = .ok () ∧
      (b.switchHardware on).1.runtime = { b.runtime with actualEnabled := on } := by
  have hturned : (if on then b.hardwareOn else b.stopAdaptive.hardwareOff).2 = true := by
    cases on with
    | true => exact hardwareOn_works h
    | false => exact hardwareOff_works (h.work (work_stopAdaptive (x := turning false) b rfl rfl))
  have hok : (b.switchHardware on).2 = .ok () := by
    unfold switchHardware
    split <;> rename_i heq
    · rfl
    · rw [heq] at hturned
      cases hturned
  rcases switchHardware_cases b on with hdone | ⟨hfailed, -⟩
  · exact hdone
  · exact nomatch hok.symm.trans hfailed

theorem inPower_works (h : HardwareWorks b) (on : Bool) :
    (b.inPower on).2 = .ok () ∧ (b.inPower on).1.runtime = { b.runtime with actualEnabled := on } := by
  unfold inPower
  split <;> rename_i hon
  · exact ⟨rfl, by rw [← hon]⟩
  · exact switchHardware_works h on

/-! ### The mode -/

theorem HardwareWorks.identifyMode (h : HardwareWorks b) (m : Mode) (running : Bool) :
    HardwareWorks (b.identifyMode m running) :=
  h.work (work_identifyMode (x := loading fun _ => true) b running rfl)

/-- The mode is loaded, and the gains are those of the mode. -/
theorem loadMode_works (h : HardwareWorks b) (m : Mode) :
    (b.loadMode m).2 = true ∧ (b.loadMode m).1.audio = { b.audio.clearGains with mode := m } := by
  unfold loadMode
  split
  · rw [attempt_works h]
    exact ⟨rfl, rfl⟩
  · rw [attempt_works (b := b.cancel .pathGainSettle) h]
    exact ⟨rfl, rfl⟩

theorem applyMode_works (h : HardwareWorks b) (hm : m.index < b.runtime.numModes) :
    (b.applyMode m).2 = .ok () ∧ (b.applyMode m).1.runtime.currentMode = m ∧
      (b.applyMode m).1.runtime.requestedMode = b.runtime.requestedMode := by
  have hok : (b.applyMode m).2 = .ok () := by
    have hloaded := (loadMode_works (h.identifyMode m b.audio.adaptive) m).1
    unfold applyMode
    dsimp only
    rw [runtime_identifyMode, if_neg (UInt8.not_le.mpr hm)]
    split <;> rename_i heq
    · rw [heq] at hloaded
      cases hloaded
    · rfl
  rcases applyMode_cases b m with ⟨-, -, hmodes⟩ | ⟨-, ⟨-, hfailed⟩ | ⟨-, hfailed⟩⟩
  · exact ⟨hok, hmodes⟩
  · exact nomatch hok.symm.trans hfailed
  · exact nomatch hok.symm.trans hfailed

theorem inMode_works (h : HardwareWorks b) (hm : m.index < b.runtime.numModes) :
    (b.inMode m).2 = .ok () ∧ (b.inMode m).1.runtime.currentMode = m ∧
      (b.inMode m).1.runtime.requestedMode = b.runtime.requestedMode := by
  unfold inMode
  split <;> rename_i hcurrent
  · exact ⟨rfl, hcurrent.symm, rfl⟩
  · exact applyMode_works h hm

/-- A reconfiguration on working hardware ends in the mode and with the hardware as asked for, and what
is asked for stays so. -/
theorem reconfigure_works (h : HardwareWorks b) (on : Bool) (hm : m.index < b.runtime.numModes) :
    let after := (b.reconfigure on m).1.runtime
    (b.reconfigure on m).2 = .ok () ∧ after.currentMode = m ∧ after.actualEnabled = on ∧
      after.intent = b.runtime.intent := by
  obtain ⟨hmoded, hcurrent, hrequested⟩ := inMode_works (b := b.boost true) h hm
  obtain ⟨hturned, hpower⟩ := inPower_works
    (h.work ((work_boost b true (fun _ => rfl) rfl).trans
      ((work_inMode (b.boost true) (fun _ => true) rfl rfl).mono (loading_within_hardware _ on)))) on
  have hkept := (work_reconfigure b on m).keeps
  obtain ⟨hruntime, houtcome⟩ := reconfigure_eq b on m
  have hmode : (b.reconfigure on m).1.runtime.requestedMode = b.runtime.requestedMode := by
    rw [hruntime, hpower]
    exact hrequested
  refine ⟨?_, ?_, ?_, ?_⟩
  · rw [houtcome, hmoded, hturned]
    rfl
  · rw [hruntime, hpower]
    exact hcurrent
  · rw [hruntime, hpower]
  · have hintent := congrArg (fun r : Runtime => { r.intent with requestedMode := b.runtime.requestedMode }) hkept
    dsimp only [hardware, gains, Runtime.intent] at hintent
    unfold Runtime.intent
    rw [hmode]
    exact hintent

/-! ### Requests -/

theorem Ranged.asking (h : Ranged b) (hm : m.index < b.runtime.numModes) {change : Runtime → Runtime}
    (hmodes : (change b.runtime).modes =
      (b.runtime.currentMode, m, b.runtime.previousMode, b.runtime.numModes)) :
    Ranged (b.setRuntime change) := by
  have hset : Ranged (b.setRuntime fun r => { r with requestedMode := m }) :=
    ⟨h.checked, h.numModes, h.current, hm, h.previous⟩
  exact hset.same rfl hmodes

theorem applyPending_works (h : HardwareWorks b) (hr : Ranged b) :
    b.applyPending.2 = .ok () ∧ b.applyPending.1.runtime.intent = b.runtime.intent := by
  obtain ⟨hok, -, -, hintent⟩ := reconfigure_works h b.runtime.requestedEnabled hr.requested
  exact ⟨hok, hintent⟩

theorem switchOff_works (h : HardwareWorks b) (hr : Ranged b) (next : Lifecycle) :
    (b.switchOff next).2 = .ok () ∧
      (b.switchOff next).1.runtime.intent =
        { b.runtime.intent.clearUserFlags with state := next } := by
  obtain ⟨hok, -, hoff, hintent⟩ := reconfigure_works h false hr.requested
  refine ⟨hok, ?_⟩
  rw [runtime_switchOff, ← hintent]
  dsimp only
  rw [hoff]
  split <;> rfl

theorem requestEnable_works (h : HardwareWorks b) (hr : Ranged b) (hs : b.runtime.state = .disabled) :
    b.requestEnable.2 = .ok () ∧
      b.requestEnable.1.runtime.intent =
        { b.runtime.intent with state := .enabled, requestedEnabled := true } := by
  obtain ⟨hok, -, hon, hintent⟩ := reconfigure_works
    (b := b.setRuntime fun r => { r with requestedEnabled := true }) h true hr.requested
  unfold requestEnable
  rw [hs]
  dsimp only
  refine ⟨hok, ?_⟩
  split <;> rename_i hactual
  · rw [runtime_enter]
    exact congrArg (fun i : Intent => { i with state := .enabled }) hintent
  · exact absurd hon hactual

/-- A switch off is staged under adaptive processing, or comes about at once. -/
theorem requestDisable_works (h : HardwareWorks b) (hr : Ranged b) (hs : b.runtime.state = .enabled) :
    b.requestDisable.2 = .ok () ∧
      (b.requestDisable.1.runtime.intent = { b.runtime.intent with requestedEnabled := false } ∨
        b.requestDisable.1.runtime.intent =
          { b.runtime.intent.clearUserFlags with state := .disabled, requestedEnabled := false }) := by
  unfold requestDisable
  rw [hs]
  dsimp only
  split
  · exact ⟨rfl, Or.inl rfl⟩
  · obtain ⟨hok, hintent⟩ := switchOff_works
      (b := (b.setRuntime fun r => { r with requestedEnabled := false }).stopSettleTimers) h
      (hr.same rfl rfl) .disabled
    exact ⟨hok, Or.inr hintent⟩

theorem requestMode_works (h : HardwareWorks b) (hr : Ranged b)
    (hs : b.runtime.state = .disabled ∨ b.runtime.state = .enabled)
    (hm : m.index < b.runtime.numModes) :
    (b.requestMode m).2 = .ok () ∧
      (b.requestMode m).1.runtime.intent = { b.runtime.intent with requestedMode := m } := by
  have hin : ¬b.runtime.numModes ≤ m.index := UInt8.not_le.mpr hm
  unfold requestMode
  rcases hs with hs | hs <;> rw [hs] <;> dsimp only <;> rw [if_neg hin]
  · obtain ⟨gain, he⟩ := refreshLeakthrough_eq (b.setRuntime fun r => { r with requestedMode := m })
    rw [he]
    exact ⟨rfl, rfl⟩
  · split
    · exact ⟨rfl, rfl⟩
    · split
      · exact ⟨rfl, rfl⟩
      · exact applyPending_works (b := b.setRuntime fun r => { r with requestedMode := m }) h
          (hr.asking hm rfl)

theorem changeMode_works (h : HardwareWorks b) (hr : Ranged b)
    (hs : b.runtime.state = .disabled ∨ b.runtime.state = .enabled)
    (hm : m.index < b.runtime.numModes) :
    (b.changeMode m).2 = .ok () ∧
      (b.changeMode m).1.runtime.intent = { b.runtime.intent with requestedMode := m } := by
  obtain ⟨hok, hintent⟩ := requestMode_works h hr hs hm
  refine ⟨(outcome_changeMode b m).trans hok, ?_⟩
  rw [changeMode_fst, if_pos (by rw [hok]; rfl)]
  exact (congrArg Runtime.intent (runtime_adopt _ _)).trans hintent

/-! ### Calls -/

theorem startCall_disabled (hcall : b.config.call.implicitEnable = true) (hoff : b.isEnabled = false)
    (hok : ((b.setRuntime .clearCall).changeMode b.config.call.mode).2 = .ok ()) :
    b.startCall =
      (((b.setRuntime .clearCall).changeMode b.config.call.mode).1.setRuntime fun r =>
        { r with enabledForCall := true }).requestEnable := by
  have hstill : (b.setRuntime .clearCall).isEnabled = false := hoff
  have hchanged : (b.setRuntime .clearCall).changeMode b.config.call.mode =
      (((b.setRuntime .clearCall).changeMode b.config.call.mode).1, .ok ()) := Prod.ext rfl hok
  unfold startCall
  rw [if_pos hcall]
  dsimp only
  rw [if_neg (by simp [hstill])]
  split <;> rename_i heq
  · rw [show ((b.setRuntime .clearCall).changeMode b.config.call.mode) = _ from heq]
  · exact absurd hchanged (heq _)

theorem startCall_enabled (hcall : b.config.call.implicitEnable = true) (hon : b.isEnabled = true) :
    b.startCall =
      if b.runtime.currentMode = b.config.call.mode then (b.setRuntime .clearCall, .ok ())
      else ((b.setRuntime .clearCall).setRuntime fun r =>
        { r with previousMode := r.currentMode, modeForCall := true }).changeMode b.config.call.mode := by
  unfold startCall
  rw [if_pos hcall]
  exact if_pos (show (b.setRuntime .clearCall).isEnabled = true from hon)

theorem Ranged.callMode (h : Ranged b) (hcall : b.config.call.implicitEnable = true) :
    b.config.call.mode.index < b.runtime.numModes := by
  rw [h.numModes]
  exact Config.callMode_lt h.checked hcall

theorem startCall_works_disabled (h : HardwareWorks b) (hr : Ranged b)
    (hcall : b.config.call.implicitEnable = true) (hs : b.runtime.state = .disabled) :
    b.startCall.1.runtime.intent =
      { b.runtime.intent.clearCall with
        state := .enabled, requestedEnabled := true, requestedMode := b.config.call.mode,
        enabledForCall := true } := by
  have hcleared : Ranged (b.setRuntime .clearCall) := hr.same rfl rfl
  obtain ⟨hok, hmoded⟩ := changeMode_works (b := b.setRuntime .clearCall) h hcleared (Or.inl hs)
    (hr.callMode hcall)
  have hworks := h.work (x := anything) (.trans (.single (.runtime .clearCall rfl))
    (demands_changeMode (b.setRuntime .clearCall) b.config.call.mode).work)
  have hranged := hcleared.changeMode b.config.call.mode
  have hoff := (state_changeMode (b.setRuntime .clearCall) b.config.call.mode).trans hs
  rw [startCall_disabled hcall (isEnabled_eq_false (by simp [hs])) hok]
  generalize ((b.setRuntime .clearCall).changeMode b.config.call.mode).1 = moded at *
  have henabled := (requestEnable_works (b := moded.setRuntime fun r => { r with enabledForCall := true })
    hworks (hranged.same rfl rfl) hoff).2
  rw [henabled]
  exact congrArg (fun i : Intent =>
    { i with state := .enabled, requestedEnabled := true, enabledForCall := true }) hmoded

/-- A call that starts in another mode than that for calls takes the latter and notes the former. -/
theorem startCall_works_enabled (h : HardwareWorks b) (hr : Ranged b)
    (hcall : b.config.call.implicitEnable = true) (hs : b.runtime.state = .enabled) :
    b.startCall.1.runtime.intent =
      if b.runtime.currentMode = b.config.call.mode then b.runtime.intent.clearCall
      else
        { b.runtime.intent.clearCall with
          requestedMode := b.config.call.mode, previousMode := b.runtime.currentMode,
          modeForCall := true } := by
  rw [startCall_enabled hcall (b.isEnabled_iff.mpr hs)]
  split
  · rfl
  · have hnoted : Ranged ((b.setRuntime .clearCall).setRuntime fun r =>
        { r with previousMode := r.currentMode, modeForCall := true }) :=
      ⟨hr.checked, hr.numModes, hr.current, hr.requested, hr.current⟩
    exact (changeMode_works (b := (b.setRuntime .clearCall).setRuntime fun r =>
      { r with previousMode := r.currentMode, modeForCall := true }) h hnoted (Or.inr hs)
      (hr.callMode hcall)).2

theorem endCall_works_forced (h : HardwareWorks b) (hr : Ranged b)
    (hcall : b.config.call.implicitEnable = true) (hs : b.runtime.state = .enabled)
    (hforced : b.runtime.enabledForCall = true) (huser : b.runtime.userEnabled = false) :
    b.endCall.1.runtime.intent = { b.runtime.intent.clearCall with requestedEnabled := false } ∨
      b.endCall.1.runtime.intent =
        { b.runtime.intent.clearCall with state := .disabled, requestedEnabled := false } := by
  have hon : (!b.runtime.userEnabled && b.isEnabled) = true := by
    rw [huser, b.isEnabled_iff.mpr hs]
    rfl
  unfold endCall
  rw [if_pos hcall]
  dsimp only
  rw [if_pos hforced, if_pos hon]
  rcases (requestDisable_works h hr hs).2 with hstaged | hoff
  · exact Or.inl (congrArg Intent.clearCall hstaged)
  · exact Or.inr (congrArg Intent.clearCall hoff)

/-- The end of a call that found noise control on asks for the mode before it again, unless the user
took another. -/
theorem endCall_works_unforced (h : HardwareWorks b) (hr : Ranged b)
    (hcall : b.config.call.implicitEnable = true)
    (hs : b.runtime.state = .disabled ∨ b.runtime.state = .enabled)
    (hforced : b.runtime.enabledForCall = false) :
    b.endCall.1.runtime.intent =
      if b.runtime.modeForCall && !b.runtime.userSwitchedMode then
        { b.runtime.intent.clearCall with requestedMode := b.runtime.previousMode }
      else b.runtime.intent.clearCall := by
  unfold endCall
  rw [if_pos hcall]
  dsimp only
  rw [if_neg (by simp [hforced])]
  split
  · exact congrArg Intent.clearCall (changeMode_works h hr hs hr.previous).2
  · rfl

theorem intent_callStarted (hs : b.runtime.state = .disabled ∨ b.runtime.state = .enabled) :
    (b.dispatch .callStarted).1.runtime.intent = b.startCall.1.runtime.intent := by
  rw [runtime_dispatch, handle_callStarted, if_pos]
  rcases hs with hs | hs <;> simp [isEnabled, hs]

theorem intent_callEnded (hs : b.runtime.state = .disabled ∨ b.runtime.state = .enabled) :
    (b.dispatch .callEnded).1.runtime.intent = b.endCall.1.runtime.intent := by
  rw [runtime_dispatch, handle_callEnded, if_pos]
  rcases hs with hs | hs <;> simp [isEnabled, hs]

/-! ### Timers -/

theorem intent_of_gains (w : Work gains a b) : b.runtime.intent = a.runtime.intent :=
  (congrArg Runtime.intent w.keeps :)

theorem runtime_whileAdaptive (b : Earbud) (decision : QuietMode.Synchronizer.Decision) :
    (b.whileAdaptive decision).runtime = b.runtime := by
  unfold whileAdaptive
  split
  · exact runtime_adopt b decision
  · rfl

/-- A timer that expires bears on what is asked for only if a switch off waits for it. -/
theorem expiry_works (h : HardwareWorks b) (hr : Ranged b) (k : TimerKind) :
    (b.dispatch (.timerExpired k)).1.runtime.intent =
      if k = .muteBeforeDisable ∧ b.runtime.state = .enabled then
        { b.runtime.intent.clearUserFlags with state := .disabled }
      else b.runtime.intent := by
  rw [runtime_dispatch]
  by_cases hs : b.runtime.state = .enabled
  · have hin : b.handleInState (.timerExpired k) = b.handleEnabled (.timerExpired k) :=
      handleInState_enabled b hs _
    cases k with
    | gainPoll => exact intent_of_gains (work_pollGain b)
    | quietMode d =>
      rw [show b.handle (.timerExpired (.quietMode d)) = b.handle (.quietModeFire d) from rfl,
        handle_quietModeFire, if_pos (b.isEnabled_iff.mpr hs), runtime_whileAdaptive]
      rfl
    | configSettle =>
      rw [show b.handle (.timerExpired .configSettle) = (b.startAdaptive, .ok ()) from hin,
        runtime_startAdaptive]
      rfl
    | muteBeforeDisable =>
      rw [if_pos ⟨rfl, hs⟩, show b.handle (.timerExpired .muteBeforeDisable) = b.switchOff .disabled from hin]
      exact (switchOff_works h hr .disabled).2
    | muteBeforeMode =>
      rw [show b.handle (.timerExpired .muteBeforeMode) = b.applyPending from hin]
      exact (applyPending_works h hr).2
    | pathGainSettle =>
      rw [show b.handle (.timerExpired .pathGainSettle) = (b.command .applyPathGains, .ok ()) from hin]
      rfl
  · rw [if_neg fun hk => hs hk.2]
    cases k with
    | gainPoll => exact intent_of_gains (work_pollGain b)
    | quietMode d =>
      rw [show b.handle (.timerExpired (.quietMode d)) = b.handle (.quietModeFire d) from rfl,
        handle_quietModeFire, if_neg fun he => hs (b.isEnabled_iff.mp he)]
    | _ => exact congrArg (fun x : Earbud => x.runtime.intent) (handleInState_timer b hs _)

end Earbud

end NoiseControl
