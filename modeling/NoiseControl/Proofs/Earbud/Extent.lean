import NoiseControl.Proofs.Earbud.Work

/-!
# How far each function reaches

Each extent here is within the next: `levels` for the gains and their reports, `loading` for a mode
beside `turning` and `switching` for the hardware, `hardware` for reconfigurations, `steering` for
them and the changes of state that go with them (which alone are `parting`), `demanding` for these
and the ramp that comes before them, and `apart` for all that is done apart from negotiating quiet
mode.  The gain poll comes in beside the first as `gains`, and then with the hardware.  Each function
that does not negotiate is work of one of them.
-/

namespace NoiseControl.Earbud

/-- Gains are read, written and reported, and the gain poll goes on or stops. -/
def gains : Extent where
  keeps r := { r with leakthroughGain := 0, feedForwardGain := 0 }
  timer
    | .gainPoll => true
    | _ => false
  audio
    | .setGain .. => true
    | _ => false
  talks := false
  tells
    | .stateChanged _ | .modeChanged _ => false
    | _ => true
  saves := false

/-- Gains are read, written and reported. -/
def levels : Extent where
  keeps := gains.keeps
  timer _ := false
  audio := gains.audio
  talks := false
  tells
    | .stateChanged _ | .modeChanged _ | .adaptiveStateChanged _ => false
    | _ => true
  saves := false

/-- A mode is loaded and told to adaptive processing, or given up; the modes are fitting ones. -/
def loading (fits : Mode → Bool) : Extent where
  keeps r :=
    { r with leakthroughGain := 0, feedForwardGain := 0, requestedMode := ⟨0⟩, currentMode := ⟨0⟩ }
  timer
    | .pathGainSettle => true
    | _ => false
  audio
    | .setGain .. => true
    | .setModeIdentifier m | .setMode m | .swapModeLive m => fits m
    | _ => false
  talks := false
  tells
    | .stateChanged _ | .adaptiveStateChanged _ => false
    | _ => true
  saves := false

/-- The hardware is driven on or off.  Adaptive processing is stopped only on the way off. -/
def turning (on : Bool) : Extent where
  keeps := gains.keeps
  timer
    | .configSettle | .pathGainSettle => true
    | _ => false
  audio
    | .setGain .. | .hardwareOn | .hardwareOnMuted | .hardwareOff => true
    | .adaptiveOff => !on
    | _ => false
  talks := false
  tells := levels.tells
  saves := false

/-- The hardware is driven on or off, and said to be so. -/
def switching (on : Bool) : Extent where
  keeps r := { gains.keeps r with actualEnabled := false }
  timer := (turning on).timer
  audio := (turning on).audio
  talks := false
  tells
    | .modeChanged _ | .adaptiveStateChanged _ => false
    | _ => true
  saves := false

def hardware (on : Bool) : Extent where
  keeps r :=
    { gains.keeps r with
      requestedMode := ⟨0⟩, currentMode := ⟨0⟩, actualEnabled := false, clockBoost := false }
  timer
    | .gainPoll => true
    | k => (turning on).timer k
  audio
    | .clockBoost _ | .setModeIdentifier _ | .setMode _ | .swapModeLive _ => true
    | c => (turning on).audio c
  talks := false
  saves := false

/-- The timers of the hardware stop, the session is saved and the state changes. -/
def parting : Extent where
  keeps r := { r with state := .uninitialised }
  timer
    | .gainPoll | .quietMode _ => false
    | _ => true
  audio _ := false
  talks := false
  tells _ := false

/-- Noise control is switched on or off, its mode is loaded and the state changes, without a ramp of
adaptive processing. -/
def steering : Extent where
  keeps r :=
    { previousMode := r.previousMode, numModes := r.numModes, enabledForCall := r.enabledForCall,
      modeForCall := r.modeForCall, peerInCase := r.peerInCase, placement := r.placement,
      tuningSampleRate := r.tuningSampleRate }
  timer
    | .quietMode _ => false
    | _ => true
  audio := (hardware false).audio
  talks := false

/-- Steering, or the ramp of adaptive processing that comes before it. -/
def demanding : Extent where
  keeps := steering.keeps
  timer := steering.timer
  audio
    | .gentleMute => true
    | c => steering.audio c
  talks := false

/-- The audio chain is probed and the earbud set up. -/
def starting : Extent where
  keeps r := { tuningSampleRate := r.tuningSampleRate }
  timer _ := true
  audio
    | .start .. => true
    | c => steering.audio c
  talks := true

/-- Anything but the negotiation of quiet mode. -/
def apart : Extent where
  keeps _ := {}
  timer
    | .quietMode _ => false
    | _ => true
  audio
    | .quietModeOn | .quietModeOff => false
    | _ => true
  talks := false

theorem levels_within_gains : levels.Within gains where
  keeps _ _ h := h
  timer _ h := by cases h
  audio _ h := h
  talks h := h
  tells n h := by cases n <;> first | rfl | cases h
  saves h := h

theorem levels_within_loading (fits : Mode → Bool) : levels.Within (loading fits) where
  keeps r r' h :=
    congrArg (fun r : Runtime => { r with requestedMode := ⟨0⟩, currentMode := ⟨0⟩ }) h
  timer _ h := by cases h
  audio c h := by cases c <;> first | rfl | cases h
  talks h := h
  tells n h := by cases n <;> first | rfl | cases h
  saves h := h

theorem levels_within_turning (on : Bool) : levels.Within (turning on) where
  keeps _ _ h := h
  timer _ h := by cases h
  audio c h := by cases c <;> first | rfl | cases h
  talks h := h
  tells _ h := h
  saves h := h

theorem turning_within_switching (on : Bool) : (turning on).Within (switching on) where
  keeps _ _ h := congrArg (fun r : Runtime => { r with actualEnabled := false }) h
  timer _ h := h
  audio _ h := h
  talks h := h
  tells n h := by cases n <;> first | rfl | cases h
  saves h := h

theorem loading_within_hardware (fits : Mode → Bool) (on : Bool) :
    (loading fits).Within (hardware on) where
  keeps _ _ h := congrArg (fun r : Runtime => { r with actualEnabled := false, clockBoost := false }) h
  timer k h := by cases k <;> first | rfl | cases h
  audio c h := by cases c <;> first | rfl | cases h
  talks h := h
  tells _ _ := rfl
  saves h := h

theorem switching_within_hardware (on : Bool) : (switching on).Within (hardware on) where
  keeps _ _ h :=
    congrArg (fun r : Runtime =>
      { r with requestedMode := ⟨0⟩, currentMode := ⟨0⟩, clockBoost := false }) h
  timer k h := by cases k <;> first | rfl | cases h
  audio c h := by cases c <;> first | exact h | cases h
  talks h := h
  tells _ _ := rfl
  saves h := h

theorem hardware_within_steering (on : Bool) : (hardware on).Within steering where
  keeps _ _ h := (congrArg steering.keeps h :)
  timer k h := by cases k <;> first | rfl | cases h
  audio c h := by cases c <;> first | rfl | cases h
  talks h := h
  tells _ _ := rfl
  saves _ := rfl

theorem parting_within_steering : parting.Within steering where
  keeps _ _ h := (congrArg steering.keeps h :)
  timer k h := by cases k <;> first | rfl | cases h
  audio _ h := by cases h
  talks h := h
  tells _ _ := rfl
  saves _ := rfl

theorem steering_within_demanding : steering.Within demanding where
  keeps _ _ h := h
  timer _ h := h
  audio c h := by cases c <;> first | rfl | cases h
  talks h := h
  tells _ _ := rfl
  saves _ := rfl

theorem gains_within_hardware (on : Bool) : gains.Within (hardware on) where
  keeps _ _ h :=
    congrArg (fun r : Runtime =>
      { r with
        requestedMode := ⟨0⟩, currentMode := ⟨0⟩, actualEnabled := false, clockBoost := false }) h
  timer k h := by cases k <;> first | rfl | cases h
  audio c h := by cases c <;> first | rfl | cases h
  talks h := h
  tells _ _ := rfl
  saves h := h

theorem gains_within_demanding : gains.Within demanding :=
  ((gains_within_hardware true).trans (hardware_within_steering true)).trans steering_within_demanding

theorem demanding_within_apart : demanding.Within apart where
  keeps _ _ _ := rfl
  timer k h := by cases k <;> first | rfl | cases h
  audio c h := by cases c <;> first | rfl | cases h
  talks h := h
  tells _ _ := rfl
  saves _ := rfl

theorem steering_within_starting : steering.Within starting where
  keeps _ _ h := (congrArg starting.keeps h :)
  timer _ _ := rfl
  audio c h := by cases c <;> first | rfl | cases h
  talks _ := rfl
  tells _ _ := rfl
  saves _ := rfl

theorem steering_within_apart : steering.Within apart :=
  steering_within_demanding.trans demanding_within_apart

theorem gains_within_apart : gains.Within apart :=
  gains_within_demanding.trans demanding_within_apart

/-! ### Gains -/

section Gains

variable (b : Earbud)

theorem levels_storeLeakthrough (gain : UInt8) : Work levels b (b.storeLeakthrough gain) := by
  unfold storeLeakthrough
  split
  · exact .single (.runtime _ rfl)
  · exact .refl

theorem levels_refreshLeakthrough : Work levels b b.refreshLeakthrough := by
  unfold refreshLeakthrough
  split
  · exact levels_storeLeakthrough b _
  · exact .refl

theorem levels_writeLeakthrough : Work levels b b.writeLeakthrough := by
  unfold writeLeakthrough
  split
  · exact Work.foldl (fun _ _ => .single (.attempt _ rfl)) _ b
  · exact .refl

theorem levels_announceLeakthrough : Work levels b b.announceLeakthrough := by
  unfold announceLeakthrough
  split
  · exact .single (.announce _)
  · exact .refl

theorem levels_setLeakthrough (gain : UInt8) : Work levels b (b.setLeakthrough gain) :=
  ((levels_storeLeakthrough b gain).trans (levels_writeLeakthrough _)).trans
    (levels_announceLeakthrough _)

theorem levels_followLeakthrough (gain : UInt8) : Work levels b (b.followLeakthrough gain) := by
  unfold followLeakthrough
  split
  · exact .refl
  · exact levels_setLeakthrough b gain

theorem levels_rampDown : Work levels b b.rampDown :=
  Work.foldl (fun b _ => Work.foldl (fun _ _ => .single (.attempt _ rfl)) _ b) _ b

theorem levels_announceBothGains (ofPeer : UInt8) : Work levels b (b.announceBothGains ofPeer) :=
  .single (.announce _ (by cases b.config.side <;> rfl))

theorem work_refreshLeakthrough : Work gains b b.refreshLeakthrough :=
  (levels_refreshLeakthrough b).mono levels_within_gains

theorem work_announceLeakthrough : Work gains b b.announceLeakthrough :=
  (levels_announceLeakthrough b).mono levels_within_gains

theorem work_setLeakthrough (gain : UInt8) : Work gains b (b.setLeakthrough gain) :=
  (levels_setLeakthrough b gain).mono levels_within_gains

theorem work_followLeakthrough (gain : UInt8) : Work gains b (b.followLeakthrough gain) :=
  (levels_followLeakthrough b gain).mono levels_within_gains

theorem work_rampDown : Work gains b b.rampDown := (levels_rampDown b).mono levels_within_gains

theorem work_announceBothGains (ofPeer : UInt8) : Work gains b (b.announceBothGains ofPeer) :=
  (levels_announceBothGains b ofPeer).mono levels_within_gains

theorem work_pollGain : Work gains b b.pollGain := by
  unfold pollGain
  split
  · have hread : Work gains b
        (b.setRuntime fun r => { r with feedForwardGain := b.audio.feedForwardGain }) :=
      .single (.runtime _ rfl)
    have harm := (hread.tail (.arm .gainPoll b.config.timing.gainPoll rfl)).tail
      (.announce (.feedForwardGain b.audio.feedForwardGain))
    dsimp only
    split
    · exact harm.trans (work_announceBothGains _ _)
    · exact harm
  · exact .refl

theorem work_announceAdaptiveChange (wasEnabled : Bool) (formerMode : Mode) :
    Work gains b (b.announceAdaptiveChange wasEnabled formerMode) := by
  unfold announceAdaptiveChange
  dsimp only
  split
  · split
    · exact (Relation.ReflTransGen.single (.announce _)).tail (.arm _ _ rfl)
    · exact (Relation.ReflTransGen.single (.announce _)).tail (.cancel _ rfl)
  · exact .refl

end Gains

/-! ### Reconfiguration -/

section Hardware

variable (b : Earbud) (on : Bool)

theorem work_boost {x : Extent} (raised : Bool)
    (hkeeps : ∀ r, x.keeps { r with clockBoost := raised } = x.keeps r)
    (haudio : x.audio (.clockBoost raised) = true) : Work x b (b.boost raised) :=
  (Relation.ReflTransGen.single (.runtime _ (hkeeps b.runtime))).tail (.command _ haudio)

theorem runtime_identifyMode (m : Mode) (running : Bool) :
    (b.identifyMode m running).runtime = b.runtime := by
  unfold identifyMode
  split <;> rfl

theorem runtime_loadMode (m : Mode) : (b.loadMode m).1.runtime = b.runtime := by
  unfold loadMode
  rw [runtime_attempt]
  split <;> rfl

theorem work_identifyMode {x : Extent} {m : Mode} (running : Bool)
    (haudio : x.audio (.setModeIdentifier m) = true) : Work x b (b.identifyMode m running) := by
  unfold identifyMode
  split
  · exact .single (.command _ haudio)
  · exact .refl

theorem work_abandonMode {x : Extent} (running : Bool)
    (hkeeps : ∀ r m, x.keeps { r with requestedMode := m } = x.keeps r)
    (haudio : x.audio (.setModeIdentifier b.runtime.currentMode) = true) :
    Work x b (b.abandonMode running) :=
  (Relation.ReflTransGen.single (.runtime _ (hkeeps b.runtime _))).trans (work_identifyMode _ _ haudio)

theorem work_loadMode {x : Extent} {m : Mode} (htimer : x.timer .pathGainSettle = true)
    (haudio : x.audio (.setMode m) = true) : Work x b (b.loadMode m).1 := by
  unfold loadMode
  split
  · exact .single (.attempt _ haudio)
  · exact (Relation.ReflTransGen.single (.cancel _ htimer)).tail (.attempt _ haudio)

/-- No mode goes to the audio chain but the one to apply and the one to fall back to. -/
theorem work_applyMode (fits : Mode → Bool) {m : Mode} (hm : fits m = true)
    (hc : fits b.runtime.currentMode = true) : Work (loading fits) b (b.applyMode m).1 := by
  have hid : Work (loading fits) b (b.identifyMode m b.audio.adaptive) := work_identifyMode b _ hm
  have hkept := runtime_identifyMode b m b.audio.adaptive
  unfold applyMode
  dsimp only
  split
  · exact hid.trans (work_abandonMode _ _ (fun _ _ => rfl) (hkept ▸ hc :))
  · have hload := hid.trans (work_loadMode _ rfl hm)
    have hstill := (runtime_loadMode (b.identifyMode m b.audio.adaptive) m).trans hkept
    split <;> rename_i heq <;> rw [heq] at hload hstill
    · exact hload.trans (work_abandonMode _ _ (fun _ _ => rfl) (hstill ▸ hc :))
    · have hmode := hload.tail (.runtime (fun r => { r with currentMode := m }) rfl)
      refine .trans ?_ ((levels_announceLeakthrough _).mono (levels_within_loading fits))
      refine .trans ?_ ((levels_refreshLeakthrough _).mono (levels_within_loading fits))
      split
      · exact (hmode.tail (.command (.swapModeLive m) hm)).tail (.announce _)
      · exact hmode.tail (.announce _)

theorem work_hardwareOn {x : Extent} (htimer : x.timer .pathGainSettle = true)
    (hon : x.audio .hardwareOn = true) (hmuted : x.audio .hardwareOnMuted = true) :
    Work x b b.hardwareOn.1 := by
  unfold hardwareOn
  split
  · exact .single (.attempt _ hon)
  · have h : Work x b (b.attempt .hardwareOnMuted).1 := .single (.attempt _ hmuted)
    split <;> rename_i heq <;> rw [heq] at h
    · exact h.tail (.arm _ _ htimer)
    · exact h

theorem work_hardwareOff {x : Extent} (hlevels : levels.Within x)
    (htimer : x.timer .pathGainSettle = true) (haudio : x.audio .hardwareOff = true) :
    Work x b b.hardwareOff.1 := by
  have h : Work x b (b.cancel .pathGainSettle) := .single (.cancel _ htimer)
  unfold hardwareOff
  dsimp only
  split
  · exact h.tail (.attempt _ haudio)
  · exact (h.trans ((levels_rampDown _).mono hlevels)).tail (.attempt _ haudio)

theorem work_settleAdaptive : Work (turning on) b b.settleAdaptive := by
  unfold settleAdaptive
  split
  · exact .single (.arm _ _ rfl)
  · exact .refl

theorem settleAdaptive_fixed {b : Earbud} (h : b.config.adaptive = false) : b.settleAdaptive = b := by
  unfold settleAdaptive
  rw [h]
  rfl

theorem work_stopAdaptive {x : Extent} (htimer : x.timer .configSettle = true)
    (haudio : x.audio .adaptiveOff = true) : Work x b b.stopAdaptive := by
  have h : Work x b (b.cancel .configSettle) := .single (.cancel _ htimer)
  unfold stopAdaptive
  dsimp only
  split
  · exact h.tail (.command _ haudio)
  · exact h

theorem work_turnHardware :
    Work (turning on) b (if on then b.hardwareOn else b.stopAdaptive.hardwareOff).1 := by
  cases on with
  | true => exact work_hardwareOn b rfl rfl rfl
  | false =>
    exact (work_stopAdaptive b rfl rfl).trans (work_hardwareOff _ (levels_within_turning false) rfl rfl)

theorem work_turned :
    Work (switching on) (if on then b.hardwareOn else b.stopAdaptive.hardwareOff).1
      (b.switchHardware on).1 := by
  unfold switchHardware
  generalize (if on then b.hardwareOn else b.stopAdaptive.hardwareOff) = turned
  obtain ⟨turned, _ | _⟩ := turned
  · exact .refl
  · have hset : Work (switching on) turned
        (turned.setRuntime fun r => { r with actualEnabled := on }) := .single (.runtime _ rfl)
    dsimp only
    split
    · exact (hset.trans ((work_settleAdaptive _ on).mono (turning_within_switching on))).tail
        (.announce _)
    · exact hset.tail (.announce _)

theorem work_switchHardware : Work (switching on) b (b.switchHardware on).1 :=
  ((work_turnHardware b on).mono (turning_within_switching on)).trans (work_turned b on)

theorem reconfigure_fst (m : Mode) :
    (b.reconfigure on m).1 =
      let raised := b.boost true
      let inMode := if m = raised.runtime.currentMode then raised else (raised.applyMode m).1
      let switched :=
        if inMode.runtime.actualEnabled = on then inMode else (inMode.switchHardware on).1
      let told :=
        if switched.config.adaptive then
          switched.announceAdaptiveChange b.runtime.actualEnabled b.runtime.currentMode
        else switched
      told.boost false := by
  unfold reconfigure
  dsimp only
  split <;> split <;> rfl

theorem work_reconfigure (m : Mode) : Work (hardware on) b (b.reconfigure on m).1 := by
  rw [reconfigure_fst]
  dsimp only
  refine .trans ?_ (work_boost _ false (fun _ => rfl) rfl)
  have hmode : Work (hardware on) b
      (if m = (b.boost true).runtime.currentMode then b.boost true else ((b.boost true).applyMode m).1) := by
    split
    · exact work_boost b true (fun _ => rfl) rfl
    · exact (work_boost b true (fun _ => rfl) rfl).trans
        ((work_applyMode _ (fun _ => true) rfl rfl).mono (loading_within_hardware _ on))
  generalize (if m = (b.boost true).runtime.currentMode then b.boost true
    else ((b.boost true).applyMode m).1) = inMode at hmode ⊢
  have hswitch : Work (hardware on) b
      (if inMode.runtime.actualEnabled = on then inMode else (inMode.switchHardware on).1) := by
    split
    · exact hmode
    · exact hmode.trans ((work_switchHardware _ on).mono (switching_within_hardware on))
  generalize (if inMode.runtime.actualEnabled = on then inMode
    else (inMode.switchHardware on).1) = switched at hswitch ⊢
  split
  · exact hswitch.trans ((work_announceAdaptiveChange _ _ _).mono
      (gains_within_hardware on))
  · exact hswitch

theorem work_applyPending : Work (hardware b.runtime.requestedEnabled) b b.applyPending.1 :=
  work_reconfigure b _ _

end Hardware

/-! ### Requests -/

section Requests

variable (b : Earbud)

theorem steers_reconfigure (on : Bool) (m : Mode) : Work steering b (b.reconfigure on m).1 :=
  (work_reconfigure b on m).mono (hardware_within_steering on)

theorem reconfigure_apart (on : Bool) (m : Mode) : Work apart b (b.reconfigure on m).1 :=
  (steers_reconfigure b on m).mono steering_within_apart

theorem work_persistSession {x : Extent} (hsaves : x.saves = true) : Work x b b.persistSession := by
  unfold persistSession
  dsimp only
  split
  · exact (Relation.ReflTransGen.single .load).tail (.save _ hsaves)
  · exact .refl

theorem parts_stopSettleTimers : Work parting b b.stopSettleTimers :=
  ((Relation.ReflTransGen.single (.cancel _ rfl)).tail (.cancel _ rfl)).tail (.cancel _ rfl)

theorem steers_stopSettleTimers : Work steering b b.stopSettleTimers :=
  (parts_stopSettleTimers b).mono parting_within_steering

theorem work_stopSettleTimers : Work apart b b.stopSettleTimers :=
  (steers_stopSettleTimers b).mono steering_within_apart

theorem parts_enter (state : Lifecycle) : Work parting b (b.enter state) := by
  unfold enter
  dsimp only
  refine .tail ?_ (.runtime _ rfl)
  split
  · exact ((parts_stopSettleTimers b).tail (.cancel _ rfl)).trans (work_persistSession _ rfl)
  · exact .refl

theorem steers_enter (state : Lifecycle) : Work steering b (b.enter state) :=
  (parts_enter b state).mono parting_within_steering

theorem work_enter (state : Lifecycle) : Work apart b (b.enter state) :=
  (steers_enter b state).mono steering_within_apart

theorem enter_of_ne {state : Lifecycle} (h : state ≠ .powerOff) :
    b.enter state = b.setRuntime fun r => { r with state := state } := by
  unfold enter
  rw [if_neg fun hp => h hp.1]

theorem isArmed_of_stopSettleTimers {k : TimerKind} (h : b.stopSettleTimers.timers.isArmed k = true) :
    b.timers.isArmed k = true :=
  isArmed_of_cancel (isArmed_of_cancel (isArmed_of_cancel h))

theorem timers_persistSession : b.persistSession.timers = b.timers := by
  unfold persistSession
  dsimp only
  split
  · exact timers_saveSession _ _
  · rfl

/-- A change of state arms nothing. -/
theorem isArmed_of_enter {k : TimerKind} {state : Lifecycle}
    (h : (b.enter state).timers.isArmed k = true) : b.timers.isArmed k = true := by
  unfold enter at h
  dsimp only at h
  split at h
  · rw [show (setRuntime _ _).timers = (persistSession _).timers from rfl,
      timers_persistSession] at h
    exact isArmed_of_stopSettleTimers b (isArmed_of_cancel h)
  · exact h

theorem steers_switchOff (next : Lifecycle) : Work steering b (b.switchOff next).1 := by
  have h := steers_reconfigure b false b.runtime.requestedMode
  unfold switchOff
  dsimp only
  refine .tail ?_ (.runtime _ rfl)
  split
  · exact (h.tail (.runtime _ rfl)).trans (steers_enter _ _)
  · split
    · exact h.tail (.runtime _ rfl)
    · exact h.trans (steers_enter _ _)

theorem work_switchOff (next : Lifecycle) : Work apart b (b.switchOff next).1 :=
  (steers_switchOff b next).mono steering_within_apart

/-- Adaptive processing is started by one command for the mode that is current. -/
theorem attempts_startAdaptive {x : Extent}
    (h : x.audio (.adaptiveOn (b.runtime.placement == .inEar) b.config.layout.controlPath?
      b.runtime.currentMode) = true) : Work x b b.startAdaptive := by
  unfold startAdaptive
  split
  · exact .single (.attempt _ h)
  · exact .refl

theorem work_startAdaptive : Work apart b b.startAdaptive := attempts_startAdaptive b rfl

@[simp]
theorem runtime_startAdaptive : b.startAdaptive.runtime = b.runtime := by
  unfold startAdaptive
  split
  · exact runtime_attempt b _
  · rfl

theorem steers_requestEnable : Work steering b b.requestEnable.1 := by
  unfold requestEnable
  split
  · have hset : Work steering b (b.setRuntime fun r => { r with requestedEnabled := true }) :=
      .single (.runtime _ rfl)
    have h := hset.trans (steers_reconfigure _ true b.runtime.requestedMode)
    dsimp only
    split
    · exact h.trans (steers_enter _ _)
    · exact h
  · exact .refl

theorem work_requestEnable : Work apart b b.requestEnable.1 :=
  (steers_requestEnable b).mono steering_within_apart

theorem ramps_requestDisable : Work demanding b b.requestDisable.1 := by
  unfold requestDisable
  split
  · have hset : Work demanding b (b.setRuntime fun r => { r with requestedEnabled := false }) :=
      .single (.runtime _ rfl)
    have h := hset.trans ((steers_stopSettleTimers _).mono steering_within_demanding)
    dsimp only
    split
    · exact (h.tail (.command _ rfl)).tail (.arm _ _ rfl)
    · exact h.trans ((steers_switchOff _ _).mono steering_within_demanding)
  · exact .refl

theorem work_requestDisable : Work apart b b.requestDisable.1 :=
  (ramps_requestDisable b).mono demanding_within_apart

theorem steers_powerOffEnabled : Work steering b b.powerOffEnabled.1 := by
  have hset : Work steering b
      (b.setRuntime fun r => { r with powerOn := false, requestedEnabled := true }) :=
    .single (.runtime _ rfl)
  exact (hset.trans (steers_stopSettleTimers _)).trans (steers_switchOff _ _)

theorem work_powerOffEnabled : Work apart b b.powerOffEnabled.1 :=
  (steers_powerOffEnabled b).mono steering_within_apart

theorem ramps_requestMode (m : Mode) : Work demanding b (b.requestMode m).1 := by
  have hset : Work demanding b (b.setRuntime fun r => { r with requestedMode := m }) :=
    .single (.runtime _ rfl)
  unfold requestMode
  split
  · split
    · exact .refl
    · exact hset.trans ((work_refreshLeakthrough _).mono gains_within_demanding)
  · split
    · exact .refl
    · dsimp only
      split
      · exact hset
      · split
        · exact (hset.tail (.command _ rfl)).tail (.arm _ _ rfl)
        · exact hset.trans ((steers_reconfigure _ _ _).mono steering_within_demanding)
  · exact .refl

theorem work_requestMode (m : Mode) : Work apart b (b.requestMode m).1 :=
  (ramps_requestMode b m).mono demanding_within_apart

/-- A tuning session is entered with noise control switched off, and its link is attached unless
that failed. -/
theorem enterTuning_induction {P : Earbud → Prop} (kind : TuningKind)
    (off : b.runtime.state = .enabled → P (b.stopSettleTimers.switchOff (tuningState kind)).1)
    (enter : b.runtime.state ≠ .enabled → P (b.enter (tuningState kind)))
    (attach : ∀ x, P x → P (x.command (.attachTuningLink kind))) : P (b.enterTuning kind).1 := by
  have hleft : P (if b.isEnabled then b.stopSettleTimers.switchOff (tuningState kind)
      else (b.enter (tuningState kind), .ok ())).1 := by
    split <;> rename_i hs
    · exact off (eq_of_beq hs)
    · exact enter fun he => hs (beq_iff_eq.mpr he)
  unfold enterTuning
  dsimp only
  generalize (if b.isEnabled then b.stopSettleTimers.switchOff (tuningState kind)
    else (b.enter (tuningState kind), .ok ())) = left at hleft ⊢
  obtain ⟨left, _ | _⟩ := left
  · exact hleft
  · exact attach _ hleft

theorem work_enterTuning (kind : TuningKind) : Work apart b (b.enterTuning kind).1 :=
  enterTuning_induction b kind (fun _ => (work_stopSettleTimers b).trans (work_switchOff _ _))
    (fun _ => work_enter b _) fun _ h => h.tail (.command _ rfl)

theorem work_leaveTuning (kind : TuningKind) (next : Lifecycle) :
    Work apart b (b.leaveTuning kind next) := by
  have h : Work apart b ((b.command .detachTuningLink).command (.exitTuning kind)) :=
    (Relation.ReflTransGen.single (.command _ rfl)).tail (.command _ rfl)
  exact (h.tail (.runtime _ rfl)).trans (work_enter _ _)

/-- Switching the power on leads to where noise control is on or off. -/
theorem switchPowerOn_eq :
    ∃ next : Lifecycle, (next = .enabled ∨ next = .disabled) ∧
      b.switchPowerOn =
        let b := b.setRuntime fun r => { r with powerOn := true }
        (if b.runtime.requestedEnabled then (b.reconfigure true b.runtime.requestedMode).1
          else b).enter next := by
  have hnext : ∀ on : Bool, (if on then Lifecycle.enabled else .disabled) = .enabled ∨
      (if on then Lifecycle.enabled else .disabled) = .disabled := by
    decide
  exact ⟨_, hnext _, rfl⟩

theorem steers_switchPowerOn : Work steering b b.switchPowerOn := by
  have hset : Work steering b (b.setRuntime fun r => { r with powerOn := true }) :=
    .single (.runtime _ rfl)
  unfold switchPowerOn
  dsimp only
  refine .trans ?_ (steers_enter _ _)
  split
  · exact hset.trans (steers_reconfigure _ _ _)
  · exact hset

theorem work_switchPowerOn : Work apart b b.switchPowerOn :=
  (steers_switchPowerOn b).mono steering_within_apart

/-! ### Requests that end a negotiation -/

theorem changeMode_fst (m : Mode) :
    (b.changeMode m).1 =
      if (b.requestMode m).2.isOk then (b.requestMode m).1.resetQuietMode else (b.requestMode m).1 := by
  unfold changeMode
  obtain ⟨after, _ | _⟩ := b.requestMode m <;> rfl

theorem chooseMode_fst (m : Mode) :
    (b.chooseMode m).1 =
      if (b.requestMode m).2.isOk then
        (b.requestMode m).1.resetQuietMode.setRuntime fun r => { r with userSwitchedMode := true }
      else (b.requestMode m).1 := by
  unfold chooseMode changeMode
  obtain ⟨after, _ | _⟩ := b.requestMode m <;> rfl

theorem chooseEnable_fst :
    b.chooseEnable.1 = b.requestEnable.1 ∨
      b.chooseEnable.1 = b.requestEnable.1.setRuntime fun r => { r with userEnabled := true } := by
  unfold chooseEnable
  split <;> rename_i h
  · exact Or.inr (by rw [h])
  · exact Or.inl rfl

theorem work_chooseEnable : Work apart b b.chooseEnable.1 := by
  rcases chooseEnable_fst b with h | h <;> rw [h]
  · exact work_requestEnable b
  · exact (work_requestEnable b).tail (.runtime _ rfl)

end Requests

/-! ### Events -/

section Events

variable (b : Earbud)

/-- Initialisation is refused, or fails at the probe, or ends in the state `powerOff`. -/
theorem start_fst :
    (b.start.1 = b ∧ b.start.2.isOk = false) ∨ ∃ microphones mode,
      let probed := (b.loadSession.1.attempt (.start microphones mode)).1
      (b.start.1 = probed ∧ b.start.2.isOk = false) ∨ ∃ enabled,
        b.start.1 = { probed.setRuntime fun r =>
          { r with
            requestedEnabled := enabled
            requestedMode := mode
            currentMode := mode
            previousMode := mode
            actualEnabled := false
            numModes := probed.config.numModes } with
          quietMode := newSynchronizer probed.config }.enter .powerOff ∧ b.start.2.isOk = true := by
  unfold start
  split
  · exact Or.inl ⟨rfl, rfl⟩
  · split
    · dsimp only
      split <;> rename_i probed heq <;> obtain rfl : _ = probed := congrArg Prod.fst heq
      · exact Or.inr ⟨_, _, Or.inl ⟨rfl, rfl⟩⟩
      · exact Or.inr ⟨_, _, Or.inr ⟨_, rfl, rfl⟩⟩
    · exact Or.inl ⟨rfl, rfl⟩

theorem work_start : Work starting b b.start.1 := by
  rcases start_fst b with ⟨he, -⟩ | ⟨microphones, mode, he⟩
  · rw [he]
  · have hprobe : Work starting b (b.loadSession.1.attempt (.start microphones mode)).1 :=
      (Relation.ReflTransGen.single .load).tail (.attempt _ rfl)
    rcases he with ⟨he, -⟩ | ⟨enabled, he, -⟩ <;> rw [he]
    · exact hprobe
    · refine .trans ?_ ((steers_enter _ _).mono steering_within_starting)
      exact (hprobe.tail (.runtime _ rfl)).tail (.negotiate _ rfl)

theorem handleTuning_fst (kind : TuningKind) (e : Event) :
    (b.handleTuning kind e).1 = b ∨
      (∃ rate, (b.handleTuning kind e).1 =
        (b.setRuntime fun r => { r with tuningSampleRate := some rate }).command
          (.enterTuning kind rate)) ∨
      (b.handleTuning kind e).1 = b.leaveTuning kind .powerOff ∨
      (b.handleTuning kind e).1 = b.leaveTuning kind .disabled := by
  cases e with
  | tuningLinkAttached rate => exact Or.inr (Or.inl ⟨rate, rfl⟩)
  | powerOff => exact Or.inr (Or.inr (Or.inl rfl))
  | tuningLinkDetached => exact Or.inr (Or.inr (Or.inr rfl))
  | exitTuning => cases kind <;> first | exact Or.inl rfl | exact Or.inr (Or.inr (Or.inr rfl))
  | exitAdaptiveTuning =>
    cases kind <;> first | exact Or.inl rfl | exact Or.inr (Or.inr (Or.inr rfl))
  | _ => exact Or.inl rfl

theorem isEnabled_iff : b.isEnabled = true ↔ b.runtime.state = .enabled := beq_iff_eq

theorem handleInState_enabled (hs : b.runtime.state = .enabled) (e : Event) :
    b.handleInState e = b.handleEnabled e := by
  simp only [handleInState, hs]

theorem handle_initialise (hs : b.runtime.state = .uninitialised) :
    (b.handle .initialise).1 = b.start.1 := by
  show (b.handleInState .initialise).1 = _
  simp only [handleInState, hs]
  rfl

/-- Timers and agreed instants mean something in the state `enabled` only. -/
theorem handleInState_timer (hs : b.runtime.state ≠ .enabled) (k : TimerKind) :
    (b.handleInState (.timerExpired k)).1 = b := by
  unfold handleInState
  split <;> first | rfl | contradiction

theorem handleInState_quietModeFire (hs : b.runtime.state ≠ .enabled) (d : QuietMode.Direction) :
    (b.handleInState (.quietModeFire d)).1 = b := by
  unfold handleInState
  split <;> first | rfl | contradiction

def followSwitch (enabled : Bool) : Earbud :=
  if enabled = b.isEnabled then b else if enabled then b.chooseEnable.1 else b.requestDisable.1

def followMode (m : Mode) : Earbud :=
  if m = b.runtime.requestedMode then b else (b.chooseMode m).1

theorem followPeer_eq (report : PeerReport) (h : b.runtime.peerInCase = false) :
    b.followPeer report =
      ((b.followSwitch report.enabled).followMode report.mode).followLeakthrough
        report.leakthroughGain := by
  unfold followPeer
  rw [if_neg (by simp [h])]
  rfl

theorem work_followSwitch (enabled : Bool) : Work apart b (b.followSwitch enabled) := by
  unfold followSwitch
  split
  · exact .refl
  · split
    · exact work_chooseEnable b
    · exact work_requestDisable b

theorem work_ownPlaced (p : Placement) : Work apart b (b.ownPlaced p) := by
  have h : Work apart b (b.setRuntime fun r => { r with placement := p }) := .single (.runtime _ rfl)
  unfold ownPlaced
  dsimp only
  split
  · split
    · exact h.trans (work_requestDisable _)
    · split
      · exact h.tail (.command _ rfl)
      · exact h
  · exact h

theorem handle_quietModeFire (d : QuietMode.Direction) :
    (b.handle (.quietModeFire d)).1 = if b.isEnabled then b.whileAdaptive (b.quietMode.fire d) else b := by
  show (b.handleInState (.quietModeFire d)).1 = _
  by_cases hs : b.runtime.state = .enabled
  · rw [handleInState_enabled b hs, if_pos (b.isEnabled_iff.mpr hs)]
    rfl
  · rw [handleInState_quietModeFire b hs, if_neg fun h => hs (b.isEnabled_iff.mp h)]

theorem followUps_adopt_fire (d : QuietMode.Direction) :
    (b.adopt (b.quietMode.fire d)).followUps = b.followUps := by
  unfold QuietMode.Synchronizer.fire
  split
  · rfl
  · cases d <;> rfl

/-- What is kept by each transition that fires is kept when all that was left to do is done. -/
theorem finishFollowUps_induction {P : Earbud → Prop} (b : Earbud)
    (h : P { b with followUps := [] }) (fire : ∀ b d, P b → P (b.adopt (b.quietMode.fire d))) :
    P b.finishFollowUps := by
  have hstep : ∀ b d, P b → P (b.handle (.quietModeFire d)).1 := by
    intro b d hb
    rw [handle_quietModeFire]
    unfold whileAdaptive
    split
    · split
      · exact fire b d hb
      · exact hb
    · exact hb
  exact List.foldlRecOn b.followUps _ h fun x hx d _ => hstep x d hx

@[simp]
theorem runtime_finishFollowUps : b.finishFollowUps.runtime = b.runtime :=
  finishFollowUps_induction (P := fun x => x.runtime = b.runtime) b rfl fun x _ h =>
    (runtime_adopt x _).trans h

theorem runtime_dispatch (e : Event) : (b.dispatch e).1.runtime = (b.handle e).1.runtime :=
  runtime_finishFollowUps _

theorem followUps_finishFollowUps : b.finishFollowUps.followUps = [] :=
  finishFollowUps_induction (P := fun b => b.followUps = []) b rfl fun b d h =>
    (followUps_adopt_fire b d).trans h

theorem finishFollowUps_eq_self (h : b.followUps = []) : b.finishFollowUps = b := by
  unfold finishFollowUps
  rw [h]
  exact congrArg (fun ds => { b with followUps := ds }) h.symm

end Events

end NoiseControl.Earbud
