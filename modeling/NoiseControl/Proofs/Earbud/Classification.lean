import NoiseControl.Proofs.Earbud.Course
import NoiseControl.Proofs.Earbud.Run

/-!
# The state and the hardware agree

The hardware is on exactly in the state `enabled`, the power exactly in the states past
`powerOff`, and the clock is raised only within a reconfiguration.

A switch off under adaptive processing is staged: the earbud stays in the state `enabled`, with
noise control no longer asked for, until the ramp down is over.  A mode that is waiting for its
own ramp would then switch the hardware off behind the state, were it applied.  It never is: as
long as a switch off is staged, its ramp comes before that of any mode.
-/

namespace NoiseControl

def Lifecycle.isPowered : Lifecycle → Bool
  | .uninitialised | .powerOff => false
  | .disabled | .enabled | .tuning | .adaptiveTuning => true

/-- What the runtime state says of the hardware, the power and the clock is right. -/
structure Runtime.Classified (r : Runtime) : Prop where
  hardware : r.actualEnabled = (r.state == .enabled)
  power : r.powerOn = r.state.isPowered
  clock : r.clockBoost = false

namespace Earbud

variable {a b : Earbud}

/-- A switch off is under way, and its ramp comes before that of any mode. -/
structure Staged (b : Earbud) : Prop where
  adaptive : b.audio.adaptive = true
  ramp : ∃ off, b.timers.find? .muteBeforeDisable = some off ∧
    off.deadline ≤ b.timers.now + b.config.timing.gentleMute ∧
    ∀ mode, b.timers.find? .muteBeforeMode = some mode → off.before mode = true

structure Sound (b : Earbud) : Prop where
  classified : b.runtime.Classified
  staged : b.runtime.state = .enabled → b.runtime.requestedEnabled = false → b.Staged
  order : b.timers.InOrder

/-- Nothing that bears on switching noise control on or off. -/
def calm : Extent where
  keeps r :=
    { state := r.state, powerOn := r.powerOn, requestedEnabled := r.requestedEnabled,
      actualEnabled := r.actualEnabled, clockBoost := r.clockBoost }
  timer
    | .muteBeforeDisable | .muteBeforeMode => false
    | _ => true
  audio
    | .adaptiveOn .. | .adaptiveOff | .exitTuning _ => false
    | _ => true
  talks := true

theorem beside_within_calm : beside.Within calm where
  keeps _ _ h := (congrArg calm.keeps h :)
  timer k h := by cases k <;> first | rfl | cases h
  audio c h := by cases c <;> first | rfl | cases h
  talks h := h
  tells _ _ := rfl
  saves _ := rfl

theorem gains_within_calm : gains.Within calm := gains_within_beside.trans beside_within_calm

theorem Sound.calm (h : Sound a) (w : Work calm a b) : Sound b := by
  have hkeeps := w.keeps
  have hstate : b.runtime.state = a.runtime.state := (congrArg Runtime.state hkeeps :)
  have hpower : b.runtime.powerOn = a.runtime.powerOn := (congrArg Runtime.powerOn hkeeps :)
  have hasked : b.runtime.requestedEnabled = a.runtime.requestedEnabled :=
    (congrArg Runtime.requestedEnabled hkeeps :)
  have hactual : b.runtime.actualEnabled = a.runtime.actualEnabled :=
    (congrArg Runtime.actualEnabled hkeeps :)
  have hclock : b.runtime.clockBoost = a.runtime.clockBoost := (congrArg Runtime.clockBoost hkeeps :)
  have hadaptive : b.audio.adaptive = a.audio.adaptive :=
    w.adaptive (fun _ _ _ => rfl) rfl fun _ => rfl
  refine ⟨⟨?_, ?_, ?_⟩, fun hs hr => ?_, w.inOrder h.order⟩
  · rw [hactual, hstate, h.classified.hardware]
  · rw [hpower, hstate, h.classified.power]
  · rw [hclock, h.classified.clock]
  · obtain ⟨hon, hramp⟩ := h.staged (hstate ▸ hs) (hasked ▸ hr)
    refine ⟨hadaptive.trans hon, ?_⟩
    rw [w.find? rfl, w.find? rfl, w.now, w.config]
    exact hramp

theorem Sound.of_asked (hc : b.runtime.Classified) (ho : b.timers.InOrder)
    (h : b.runtime.state = .enabled → b.runtime.requestedEnabled = true) : Sound b :=
  ⟨hc, fun hs hr => by simp [h hs] at hr, ho⟩

theorem Sound.asked (h : Sound b) (hs : b.runtime.state = .enabled) (ha : b.audio.adaptive = false) :
    b.runtime.requestedEnabled = true := by
  cases hr : b.runtime.requestedEnabled with
  | true => rfl
  | false => simp [(h.staged hs hr).adaptive] at ha

/-! ### Reconfiguration -/

section Reconfiguration

variable (b : Earbud) (on : Bool) (m : Mode)

@[simp]
theorem state_reconfigure : (b.reconfigure on m).1.runtime.state = b.runtime.state :=
  (congrArg Runtime.state (work_reconfigure b on m).keeps :)

@[simp]
theorem powerOn_reconfigure : (b.reconfigure on m).1.runtime.powerOn = b.runtime.powerOn :=
  (congrArg Runtime.powerOn (work_reconfigure b on m).keeps :)

@[simp]
theorem requestedEnabled_reconfigure :
    (b.reconfigure on m).1.runtime.requestedEnabled = b.runtime.requestedEnabled :=
  (congrArg Runtime.requestedEnabled (work_reconfigure b on m).keeps :)

@[simp]
theorem clockBoost_reconfigure : (b.reconfigure on m).1.runtime.clockBoost = false := by
  rw [reconfigure_fst]
  rfl

theorem actualEnabled_switchHardware :
    (b.switchHardware on).1.runtime.actualEnabled = on ∨
      (b.switchHardware on).1.runtime.actualEnabled = b.runtime.actualEnabled := by
  have hturn := congrArg Runtime.actualEnabled (work_turnHardware b on).keeps
  unfold switchHardware
  split <;> rename_i turned heq
  · refine Or.inl ?_
    dsimp only
    split
    · have hset :=
        (work_settleAdaptive (turned.setRuntime fun r => { r with actualEnabled := on }) on).keeps
      exact (congrArg Runtime.actualEnabled hset :)
    · rfl
  · rw [heq] at hturn
    exact Or.inr hturn

theorem actualEnabled_reconfigure :
    (b.reconfigure on m).1.runtime.actualEnabled = on ∨
      (b.reconfigure on m).1.runtime.actualEnabled = b.runtime.actualEnabled := by
  rw [reconfigure_fst]
  dsimp only
  have hmode : (if m = (b.boost true).runtime.currentMode then b.boost true
      else ((b.boost true).applyMode m).1).runtime.actualEnabled = b.runtime.actualEnabled := by
    split
    · rfl
    · exact (congrArg Runtime.actualEnabled (work_applyMode (b.boost true) (fun _ => true) rfl rfl).keeps :)
  generalize (if m = (b.boost true).runtime.currentMode then b.boost true
    else ((b.boost true).applyMode m).1) = inMode at hmode ⊢
  have hswitch : (if inMode.runtime.actualEnabled = on then inMode
      else (inMode.switchHardware on).1).runtime.actualEnabled = on ∨
      (if inMode.runtime.actualEnabled = on then inMode
        else (inMode.switchHardware on).1).runtime.actualEnabled = b.runtime.actualEnabled := by
    split
    · exact Or.inr hmode
    · rw [← hmode]
      exact actualEnabled_switchHardware inMode on
  generalize (if inMode.runtime.actualEnabled = on then inMode
    else (inMode.switchHardware on).1) = switched at hswitch ⊢
  have htold : ∀ told : Earbud, Work gains switched told →
      (told.boost false).runtime.actualEnabled = switched.runtime.actualEnabled := fun told w =>
    (congrArg Runtime.actualEnabled w.keeps :)
  split
  · rw [htold _ (work_announceAdaptiveChange _ _ _)]
    exact hswitch
  · exact hswitch

end Reconfiguration

/-! ### Changing state -/

@[simp]
theorem runtime_persistSession (b : Earbud) : b.persistSession.runtime = b.runtime := by
  unfold persistSession
  dsimp only
  split
  · exact runtime_saveSession _ _
  · rfl

@[simp]
theorem runtime_enter (b : Earbud) (s : Lifecycle) :
    (b.enter s).runtime = { b.runtime with state := s } := by
  unfold enter
  dsimp only [setRuntime]
  split
  · rw [runtime_persistSession]
    rfl
  · rfl

theorem runtime_switchOff (b : Earbud) (next : Lifecycle) :
    (b.switchOff next).1.runtime =
      let off := (b.reconfigure false b.runtime.requestedMode).1.runtime
      Runtime.clearUserFlags <|
        if next = .powerOff then { off with actualEnabled := false, state := next }
        else if off.actualEnabled then { off with requestedEnabled := true }
        else { off with state := next } := by
  unfold switchOff
  dsimp only [setRuntime]
  split
  · rw [runtime_enter]
  · split
    · rfl
    · rw [runtime_enter]

/-- A switch off ends with the state and the hardware in agreement, whether the hardware
confirmed it or not. -/
theorem sound_switchOff {next : Lifecycle} (hs : b.runtime.state = .enabled)
    (hp : b.runtime.powerOn = (next != .powerOff)) (hn : next ≠ .enabled) (hu : next ≠ .uninitialised)
    (ho : b.timers.InOrder) : Sound (b.switchOff next).1 := by
  have hr := runtime_switchOff b next
  have horder := (work_switchOff b next).inOrder ho
  cases hoff : (b.reconfigure false b.runtime.requestedMode).1.runtime.actualEnabled with
  | true =>
    by_cases hnext : next = .powerOff
    · refine .of_asked ⟨?_, ?_, ?_⟩ horder ?_ <;> rw [hr] <;>
        simp [hnext, Runtime.clearUserFlags, Lifecycle.isPowered, hp]
    · refine .of_asked ⟨?_, ?_, ?_⟩ horder ?_ <;> rw [hr] <;>
        simp [hnext, Runtime.clearUserFlags, Lifecycle.isPowered, hp, hoff, hs]
  | false =>
    by_cases hnext : next = .powerOff
    · refine .of_asked ⟨?_, ?_, ?_⟩ horder ?_ <;> rw [hr] <;>
        simp [hnext, Runtime.clearUserFlags, Lifecycle.isPowered, hp]
    · have hpowered : next.isPowered = true := by cases next <;> first | rfl | contradiction
      refine .of_asked ⟨?_, ?_, ?_⟩ horder ?_ <;> rw [hr] <;>
        simp [hnext, Runtime.clearUserFlags, hpowered, hp, hoff, hn]

/-! ### Requests -/

theorem Sound.off (h : Sound b) (hs : b.runtime.state ≠ .enabled) : b.runtime.actualEnabled = false := by
  rw [h.classified.hardware]
  exact beq_false_of_ne hs

theorem sound_enter_off {next : Lifecycle} (hn : next ≠ .enabled)
    (hp : next.isPowered = b.runtime.powerOn) (ha : b.runtime.actualEnabled = false)
    (hc : b.runtime.clockBoost = false) (ho : b.timers.InOrder) : Sound (b.enter next) := by
  refine .of_asked ⟨?_, ?_, ?_⟩ ((work_enter b next).inOrder ho) ?_ <;> rw [runtime_enter]
  · exact ha.trans (beq_false_of_ne hn).symm
  · exact hp.symm
  · exact hc
  · exact fun h => absurd h hn

theorem sound_enter_enabled (hp : b.runtime.powerOn = true) (ha : b.runtime.actualEnabled = true)
    (hr : b.runtime.requestedEnabled = true) (hc : b.runtime.clockBoost = false)
    (ho : b.timers.InOrder) : Sound (b.enter .enabled) := by
  refine .of_asked ⟨?_, ?_, ?_⟩ ((work_enter b _).inOrder ho) fun _ => ?_ <;> rw [runtime_enter]
  · exact ha
  · exact hp
  · exact hc
  · exact hr

theorem Sound.requestEnable (h : Sound b) : Sound b.requestEnable.1 := by
  unfold Earbud.requestEnable
  split <;> rename_i hs
  · have hpower : b.runtime.powerOn = true := by rw [h.classified.power, hs]; rfl
    have horder : ∀ change m, ((b.setRuntime change).reconfigure true m).1.timers.InOrder :=
      fun _ _ => (work_reconfigure _ true _).inOrder h.order
    dsimp only
    split <;> rename_i hon
    · exact sound_enter_enabled ((powerOn_reconfigure _ _ _).trans hpower) hon
        (requestedEnabled_reconfigure _ _ _) (clockBoost_reconfigure _ _ _) (horder _ _)
    · refine .of_asked ⟨?_, ?_, clockBoost_reconfigure _ _ _⟩ (horder _ _) fun _ =>
        requestedEnabled_reconfigure _ _ _
      · rw [Bool.eq_false_iff.mpr hon, state_reconfigure]
        exact (beq_false_of_ne fun he : b.runtime.state = .enabled => by rw [hs] at he; cases he).symm
      · rw [powerOn_reconfigure, state_reconfigure]
        exact h.classified.power
  · exact h

theorem Sound.requestDisable (h : Sound b) : Sound b.requestDisable.1 := by
  unfold Earbud.requestDisable
  split <;> rename_i hs
  · have hstop : Work apart b
        (b.setRuntime fun r => { r with requestedEnabled := false }).stopSettleTimers :=
      .trans (.single (.runtime _ rfl)) (work_stopSettleTimers _)
    dsimp only
    split <;> rename_i hon
    · have horder := (hstop.inOrder h.order).arm .muteBeforeDisable b.config.timing.gentleMute
      refine ⟨⟨h.classified.hardware, h.classified.power, h.classified.clock⟩,
        fun _ _ => ⟨hon, ?_⟩, horder⟩
      refine ⟨_, TimerQueue.find?_arm _ _ _ _ |>.trans (if_pos rfl), Nat.le_refl _, ?_⟩
      -- The ramp of a mode was cancelled just before.
      intro mode hmode
      simp [Earbud.arm, Earbud.command, stopSettleTimers, Earbud.cancel, TimerQueue.find?_arm,
        TimerQueue.find?_cancel] at hmode
    · refine sound_switchOff hs ?_ (by decide) (by decide) (hstop.inOrder h.order)
      exact (h.classified.power.trans (by rw [hs]; rfl))
  · exact h

theorem Sound.powerOffEnabled (h : Sound b) (hs : b.runtime.state = .enabled) :
    Sound b.powerOffEnabled.1 := by
  refine sound_switchOff hs rfl (by decide) (by decide) ?_
  have hset : Work apart b
      (b.setRuntime fun r => { r with powerOn := false, requestedEnabled := true }) :=
    .single (.runtime _ rfl)
  exact Work.inOrder (hset.trans (work_stopSettleTimers _)) h.order

theorem Sound.applyPending (h : Sound b) (hs : b.runtime.state = .enabled)
    (hr : b.runtime.requestedEnabled = true) : Sound b.applyPending.1 := by
  have hon : b.runtime.actualEnabled = true := by rw [h.classified.hardware, hs]; rfl
  have hactual := actualEnabled_reconfigure b true b.runtime.requestedMode
  simp only [hon, or_self] at hactual
  unfold Earbud.applyPending
  rw [hr]
  refine .of_asked ⟨?_, ?_, ?_⟩ ((work_reconfigure b true _).inOrder h.order) ?_ <;>
    simp [hactual, hs, hr, h.classified.power]

/-- The ramp of a mode comes after that of a switch off that is under way. -/
theorem Sound.armMode (h : Sound b) : Sound (b.arm .muteBeforeMode b.config.timing.gentleMute) := by
  refine ⟨h.classified, fun hs hr => ?_, h.order.arm _ _⟩
  obtain ⟨hon, off, hfind, hdue, -⟩ := h.staged hs hr
  refine ⟨hon, off, ?_, hdue, fun mode hmode => ?_⟩
  · rw [← hfind]
    exact (TimerQueue.find?_arm _ _ _ _).trans (if_neg (by decide))
  -- Of two timers for one instant the one armed first comes first.
  · have hnumber := h.order.numbered off (TimerQueue.mem_of_find? hfind).1
    simp only [Earbud.arm, TimerQueue.find?_arm, if_true, Option.some.injEq] at hmode
    subst hmode
    simp only [ArmedTimer.before, Bool.or_eq_true, decide_eq_true_eq, Bool.and_eq_true, beq_iff_eq]
    omega

theorem Sound.requestMode (h : Sound b) (m : Mode) : Sound (b.requestMode m).1 := by
  have hset : Sound (b.setRuntime fun r => { r with requestedMode := m }) :=
    h.calm (.single (.runtime _ rfl))
  unfold Earbud.requestMode
  split <;> rename_i hs
  · split
    · exact h
    · exact hset.calm ((work_refreshLeakthrough _).mono gains_within_calm)
  · split
    · exact h
    · dsimp only
      split
      · exact hset
      · split <;> rename_i hon
        · exact (hset.calm (.single (.command .gentleMute rfl))).armMode
        · have hon := Bool.eq_false_iff.mpr hon
          exact hset.applyPending hs (hset.asked hs hon)
  · exact h

theorem Sound.adopt (h : Sound b) (decision : QuietMode.Synchronizer.Decision) :
    Sound (b.adopt decision) :=
  h.calm (work_adopt b decision rfl (fun _ => rfl) rfl rfl)

theorem Sound.enterTuning (h : Sound b) (kind : TuningKind) (hp : b.runtime.powerOn = true) :
    Sound (b.enterTuning kind).1 := by
  refine enterTuning_induction b kind (fun hs => ?_) (fun hs => ?_) fun x hx =>
    hx.calm (.single (.command _ rfl))
  · refine sound_switchOff hs ?_ ?_ ?_ ((work_stopSettleTimers b).inOrder h.order)
    · rw [show b.stopSettleTimers.runtime.powerOn = true from hp]
      cases kind <;> rfl
    · cases kind <;> decide
    · cases kind <;> decide
  · refine sound_enter_off ?_ ?_ (h.off hs) h.classified.clock h.order
    · cases kind <;> decide
    · rw [hp]
      cases kind <;> rfl

theorem Sound.leaveTuning (h : Sound b) (kind : TuningKind) {next : Lifecycle}
    (hs : b.runtime.state ≠ .enabled) (hp : b.runtime.powerOn = true) (hn : next ≠ .enabled)
    (hnext : next.isPowered = (next != .powerOff)) : Sound (b.leaveTuning kind next) := by
  have hw : Work apart b ((b.command .detachTuningLink).command (.exitTuning kind)) :=
    (Relation.ReflTransGen.single (.command _ rfl)).tail (.command _ rfl)
  refine sound_enter_off hn ?_ (h.off hs) h.classified.clock (hw.inOrder h.order)
  refine hnext.trans ?_
  rw [show (setRuntime _ _).runtime.powerOn = (b.runtime.powerOn && next != .powerOff) from rfl, hp]
  rfl

theorem Sound.start (h : Sound b) (hs : b.runtime.state = .uninitialised) : Sound b.start.1 := by
  rcases start_fst b with ⟨he, -⟩ | ⟨microphones, mode, he⟩
  · rw [he]
    exact h
  · have hprobe : Sound (b.loadSession.1.attempt (.start microphones mode)).1 :=
      h.calm ((Relation.ReflTransGen.single .load).tail (.attempt _ rfl))
    have hpower : (b.loadSession.1.attempt (.start microphones mode)).1.runtime.powerOn = false := by
      rw [runtime_attempt]
      exact h.classified.power.trans (by rw [hs]; rfl)
    rcases he with ⟨he, -⟩ | ⟨enabled, he, -⟩ <;> rw [he]
    · exact hprobe
    · exact sound_enter_off (by decide) hpower.symm rfl hprobe.classified.clock hprobe.order

theorem Sound.switchPowerOn (h : Sound b) (hs : b.runtime.state = .powerOff) :
    Sound b.switchPowerOn := by
  have hoff := h.off (by rw [hs]; decide)
  unfold Earbud.switchPowerOn
  dsimp only
  split <;> rename_i hasked
  · have horder : ∀ change m, ((b.setRuntime change).reconfigure true m).1.timers.InOrder :=
      fun _ _ => (work_reconfigure _ true _).inOrder h.order
    split <;> rename_i hon
    · exact sound_enter_enabled (powerOn_reconfigure _ _ _) hon
        ((requestedEnabled_reconfigure _ _ _).trans hasked) (clockBoost_reconfigure _ _ _) (horder _ _)
    · exact sound_enter_off (by decide) (by rw [powerOn_reconfigure]; rfl)
        (Bool.eq_false_iff.mpr hon) (clockBoost_reconfigure _ _ _) (horder _ _)
  · split <;> rename_i hon
    · exact absurd hon (by simp [setRuntime, hoff])
    exact sound_enter_off (by decide) rfl hoff h.classified.clock h.order

/-! ### Events -/

/-- Adaptive processing starts only where it does not run, and there no switch off is staged. -/
theorem Sound.startAdaptive (h : Sound b) : Sound b.startAdaptive := by
  unfold Earbud.startAdaptive
  split <;> rename_i hstart
  · simp only [Bool.and_eq_true, Bool.not_eq_true', isEnabled, beq_iff_eq] at hstart
    have hwork : Work apart b (b.attempt (.adaptiveOn (b.runtime.placement == .inEar)
        b.config.layout.controlPath? b.runtime.currentMode)).1 := .single (.attempt _ rfl)
    refine .of_asked ?_ (hwork.inOrder h.order) fun _ => ?_ <;> rw [runtime_attempt]
    · exact h.classified
    · exact h.asked hstart.1.2 hstart.2
  · exact h

theorem sound_muteBeforeDisable (hc : b.runtime.Classified) (ho : b.timers.InOrder) :
    Sound (b.handle (.timerExpired .muteBeforeDisable)).1 := by
  show Sound (b.handleInState (.timerExpired .muteBeforeDisable)).1
  by_cases hs : b.runtime.state = .enabled
  · rw [handleInState_enabled b hs]
    refine sound_switchOff hs ?_ (by decide) (by decide) ho
    rw [hc.power, hs]
    rfl
  · rw [handleInState_timer b hs]
    exact .of_asked hc ho fun he => absurd he hs

theorem Demand.sound (d : Demand a b) (h : Sound a) : Sound b := by
  cases d with
  | beside t => exact h.calm (.single (t.mono beside_within_calm))
  | enable => exact h.requestEnable
  | disable => exact h.requestDisable
  | mode m => exact h.requestMode m
  | remember => exact h.calm (.single (.runtime _ rfl))

theorem Sound.demands (h : Sound a) (ds : Demands a b) : Sound b := by
  induction ds with
  | refl => exact h
  | tail _ d ih => exact d.sound ih

theorem Sound.course (h : Sound b) {e : Event} {y : Earbud × Outcome} (course : Course b e y)
    (hoff : e ≠ .timerExpired .muteBeforeDisable)
    (hmode : e = .timerExpired .muteBeforeMode → b.runtime.state = .enabled →
      b.runtime.requestedEnabled = true) :
    Sound y.1 := by
  have hpowered : ∀ s, b.runtime.state = s → b.runtime.powerOn = s.isPowered := fun s hs => by
    rw [h.classified.power, hs]
  cases course with
  | demands ds => exact h.demands ds
  | start hs => exact h.start hs
  | powerOn hs => exact h.switchPowerOn hs
  | powerOffDisabled hs =>
    exact sound_enter_off (by decide) rfl (h.off (by rw [hs]; decide)) h.classified.clock h.order
  | powerOffEnabled hs => exact h.powerOffEnabled hs
  | tune kind hs => exact h.enterTuning kind (hs.elim (hpowered _) (hpowered _))
  | host kind rate hs => exact h.calm ((Relation.ReflTransGen.single (.runtime _ rfl)).tail (.command _ rfl))
  | leaveTuning kind next hs hn =>
    refine h.leaveTuning kind ?_ ((hpowered _ hs).trans (by cases kind <;> rfl)) ?_ ?_
    · rw [hs]
      cases kind <;> decide
    · rcases hn with rfl | rfl <;> decide
    · rcases hn with rfl | rfl <;> rfl
  | startAdaptive => exact h.startAdaptive
  | switchOff => exact absurd rfl hoff
  | applyPending hs => exact h.applyPending hs (hmode rfl hs)
  | applyGains => exact h.calm (.single (.command .applyPathGains rfl))

theorem Sound.handle (h : Sound b) {e : Event} (hoff : e ≠ .timerExpired .muteBeforeDisable)
    (hmode : e = .timerExpired .muteBeforeMode → b.runtime.state = .enabled →
      b.runtime.requestedEnabled = true) :
    Sound (b.handle e).1 :=
  h.course (course_handle b e) hoff hmode

theorem Sound.finishFollowUps (h : Sound b) : Sound b.finishFollowUps :=
  finishFollowUps_induction b (h.calm (.single (.defer [] rfl))) fun _ _ h => h.adopt _

/-! ### Runs -/

/-- Were a switch off staged, its ramp would be over before that of a mode. -/
theorem Sound.asked_of_modeRamp (h : Sound b) {timers : TimerQueue}
    (hp : b.timers.popDue? = some (.muteBeforeMode, timers)) (hs : b.runtime.state = .enabled) :
    b.runtime.requestedEnabled = true := by
  obtain ⟨popped, hfind, hdue, -, hfirst⟩ := h.order.popDue?_eq_some hp
  cases hr : b.runtime.requestedEnabled with
  | true => rfl
  | false =>
    obtain ⟨-, off, hramp, -, hbefore⟩ := h.staged hs hr
    have hmode := hbefore popped hfind
    have hlate := hfirst .muteBeforeDisable off hramp (by
      simp only [ArmedTimer.before, Bool.or_eq_true, decide_eq_true_eq, Bool.and_eq_true,
        beq_iff_eq] at hmode
      omega)
    rw [hmode] at hlate
    cases hlate

theorem Sound.expiry (h : Sound b) {k : TimerKind} {timers : TimerQueue}
    (hp : b.timers.popDue? = some (k, timers)) :
    Sound (({ b with timers := timers } : Earbud).handle (.timerExpired k)).1 := by
  obtain ⟨popped, hfind, hdue, htimers, hfirst⟩ := h.order.popDue?_eq_some hp
  by_cases hoff : k = .muteBeforeDisable
  · subst hoff htimers
    exact sound_muteBeforeDisable h.classified (h.order.cancel _)
  have hsound : Sound { b with timers := timers } := by
    subst htimers
    refine ⟨h.classified, fun hs hr => ?_, h.order.cancel k⟩
    obtain ⟨hon, off, hramp, hsoon, hbefore⟩ := h.staged hs hr
    refine ⟨hon, off, ?_, hsoon, fun mode hmode => hbefore mode ?_⟩
    · rw [← hramp]
      exact (TimerQueue.find?_cancel _ _ _).trans (if_neg fun he => hoff he.symm)
    · simp only [TimerQueue.find?_cancel] at hmode
      split at hmode
      · cases hmode
      · exact hmode
  refine hsound.handle (by simpa using hoff) fun he hs => ?_
  obtain rfl : k = .muteBeforeMode := by simpa using he
  exact h.asked_of_modeRamp hp hs

theorem sound_new (c : Config) (clockOrigin : Option WallClock) (store : SessionStore) :
    Sound (Earbud.new c clockOrigin store) :=
  ⟨⟨rfl, rfl, rfl⟩, fun hs => (nomatch hs), TimerQueue.inOrder_empty⟩

theorem sound_run (c : Config) (clockOrigin : Option WallClock) (store : SessionStore)
    (moves : List Move) :
    Sound ((Earbud.new c clockOrigin store).run moves) ∧
      ((Earbud.new c clockOrigin store).run moves).followUps = [] := by
  refine run_invariant (P := fun b => Sound b ∧ b.followUps = []) ?_ ?_ ?_ ?_
    ⟨sound_new c clockOrigin store, rfl⟩ moves
  · intro b e he h
    refine ⟨(h.1.handle ?_ ?_).finishFollowUps, followUps_finishFollowUps _⟩
    · rintro rfl
      cases he
    · rintro rfl
      cases he
  · intro b k timers hp h
    exact ⟨(h.1.expiry hp).finishFollowUps, followUps_finishFollowUps _⟩
  · intro b t h
    refine ⟨⟨h.1.classified, fun hs hr => ?_, h.1.order.advanceTo t⟩, h.2⟩
    obtain ⟨hon, off, hramp, hsoon, hbefore⟩ := h.1.staged hs hr
    refine ⟨hon, off, hramp, ?_, hbefore⟩
    exact Nat.le_trans hsoon (Nat.add_le_add_right (Nat.le_max_left _ _) _)
  · intro b s h
    refine ⟨⟨h.1.classified, fun hs hr => ?_, h.1.order⟩, h.2⟩
    obtain ⟨hon, hramp⟩ := h.1.staged hs hr
    exact ⟨hon, hramp⟩

/-- The earbuds in whose states transitions are carried out that an event left to do. -/
def followUpEntries (b : Earbud) : List QuietMode.Direction → List Earbud
  | [] => []
  | d :: rest => b :: (b.handle (.quietModeFire d)).1.followUpEntries rest

/-- The earbuds whose state may be gone by in the middle of an event. -/
def innerEntries (b : Earbud) : Event → List Earbud
  | .peerState report => [b.followSwitch report.enabled]
  | .placed .own p => [b.setRuntime fun r => { r with placement := p }]
  | .callStarted =>
    let cleared := b.setRuntime .clearCall
    [cleared, cleared.setRuntime fun r => { r with previousMode := r.currentMode, modeForCall := true },
      (cleared.changeMode b.config.call.mode).1.setRuntime fun r => { r with enabledForCall := true }]
  | _ => []

/-- All earbuds whose state may be gone by while an event is dispatched. -/
def entries (b : Earbud) (e : Event) : List Earbud :=
  b :: b.innerEntries e ++
    followUpEntries { (b.handle e).1 with followUps := [] } (b.handle e).1.followUps

theorem Sound.followUpEntries (h : Sound b) (ds : List QuietMode.Direction) :
    ∀ y ∈ b.followUpEntries ds, y.runtime.Classified := by
  induction ds generalizing b with
  | nil => simp [Earbud.followUpEntries]
  | cons d rest ih =>
    intro y hy
    rcases List.mem_cons.mp hy with rfl | hy
    · exact h.classified
    · exact ih (h.handle (by simp) (by simp)) y hy

theorem Sound.innerEntries (h : Sound b) (e : Event) :
    ∀ y ∈ b.innerEntries e, y.runtime.Classified := by
  have hcleared : Sound (b.setRuntime .clearCall) := h.calm (.single (.runtime _ rfl))
  intro y hy
  unfold Earbud.innerEntries at hy
  split at hy
  · rw [List.mem_singleton.mp hy]
    exact (h.demands (demands_followSwitch b _)).classified
  · rw [List.mem_singleton.mp hy]
    exact (h.calm (.single (.runtime _ rfl))).classified
  · simp only [List.mem_cons, List.not_mem_nil, or_false] at hy
    rcases hy with rfl | rfl | rfl
    · exact hcleared.classified
    · exact (hcleared.calm (.single (.runtime _ rfl))).classified
    · exact ((hcleared.demands (demands_changeMode _ b.config.call.mode)).calm (.single (.runtime _ rfl))).classified
  · cases hy

/-- Whatever an event goes through, the state is right about the hardware at each stop. -/
theorem entries_classified {m : Move} {x : Earbud} {e : Event} (h : Sound b)
    (hd : b.dispatched? m = some (x, e)) : ∀ y ∈ x.entries e, y.runtime.Classified := by
  have hall : x.runtime.Classified ∧ (∀ y ∈ x.innerEntries e, y.runtime.Classified) ∧
      Sound (x.handle e).1 := by
    cases m with
    | event e' he =>
      obtain ⟨rfl, rfl⟩ : b = x ∧ e' = e := by simpa [dispatched?] using hd
      refine ⟨h.classified, h.innerEntries e', h.handle ?_ ?_⟩
      · rintro rfl
        cases he
      · rintro rfl
        cases he
    | expiry =>
      simp only [dispatched?, Option.map_eq_some_iff, Prod.mk.injEq] at hd
      obtain ⟨⟨k, timers⟩, hp, rfl, rfl⟩ := hd
      exact ⟨h.classified, fun y hy => (List.not_mem_nil hy).elim, h.expiry hp⟩
    | wait t => cases hd
    | surround s => cases hd
  intro y hy
  unfold entries at hy
  rcases List.mem_append.mp hy with hy | hy
  · rcases List.mem_cons.mp hy with rfl | hy
    · exact hall.1
    · exact hall.2.1 y hy
  · exact (hall.2.2.calm (.single (.defer [] rfl)) :
      Sound { (x.handle e).1 with followUps := [] }).followUpEntries _ y hy

/-- Along every run, the hardware is on exactly in the state `enabled`, the power exactly in the
states past `powerOff`, nothing is left to do and the clock is not raised.  No event, and nothing
that follows from it, ever meets the state `powerOff` with the hardware on. -/
theorem run_classified (c : Config) (clockOrigin : Option WallClock) (store : SessionStore)
    (moves : List Move) :
    let b := (Earbud.new c clockOrigin store).run moves
    (b.runtime.actualEnabled = true ↔ b.runtime.state = .enabled) ∧
      (b.runtime.powerOn = true ↔
        b.runtime.state ∈ [.disabled, .enabled, .tuning, .adaptiveTuning]) ∧
      b.followUps = [] ∧ b.runtime.clockBoost = false ∧
      ∀ m x e, b.dispatched? m = some (x, e) →
        ∀ y ∈ x.entries e, y.runtime.state = .powerOff → y.runtime.actualEnabled = false := by
  intro b
  obtain ⟨h, hdone⟩ := sound_run c clockOrigin store moves
  refine ⟨?_, ?_, hdone, h.classified.clock, fun m x e hd y hy hs => ?_⟩
  · rw [h.classified.hardware, beq_iff_eq]
  · rw [h.classified.power]
    cases b.runtime.state <;> decide
  · rw [(entries_classified h hd y hy).hardware, hs]
    rfl

end Earbud

end NoiseControl
