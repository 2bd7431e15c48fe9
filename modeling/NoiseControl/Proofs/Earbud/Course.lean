import NoiseControl.Proofs.Earbud.Extent

/-!
# The course of an event

Most events come down to demands, one after the other: switch on, switch off, take a mode, each made
where the state takes it, and touches beside them that bear on no demand.  Each other event takes a
course of its own from the earbud as the event finds it, and with an outcome of its own.
-/

namespace NoiseControl.Earbud

/-- Gains, quiet mode, what is known of the peer and of the ear, and the marks of a call. -/
def beside : Extent where
  keeps r :=
    { r with
      leakthroughGain := 0, feedForwardGain := 0, userEnabled := false, userSwitchedMode := false,
      enabledForCall := false, modeForCall := false, peerInCase := false, placement := .outOfEar }
  timer
    | .gainPoll | .quietMode _ => true
    | _ => false
  audio
    | .setGain .. | .quietModeOn | .quietModeOff | .updateInEar _ => true
    | _ => false
  talks := true
  tells := gains.tells

theorem gains_within_beside : gains.Within beside where
  keeps _ _ h := (congrArg beside.keeps h :)
  timer k h := by cases k <;> first | rfl | cases h
  audio c h := by cases c <;> first | rfl | cases h
  talks h := by cases h
  tells _ h := h
  saves _ := rfl

/-- The same, but for the gain poll. -/
def aloof : Extent where
  keeps := beside.keeps
  timer
    | .quietMode _ => true
    | _ => false
  audio := beside.audio
  talks := true
  tells := beside.tells

theorem aloof_within_beside : aloof.Within beside where
  keeps _ _ h := h
  timer k h := by cases k <;> first | rfl | cases h
  audio _ h := h
  talks h := h
  tells _ h := h
  saves _ := rfl

theorem levels_within_aloof : levels.Within aloof where
  keeps _ _ h := (congrArg beside.keeps h :)
  timer _ h := by cases h
  audio c h := by cases c <;> first | rfl | cases h
  talks h := by cases h
  tells n h := by cases n <;> first | rfl | cases h
  saves _ := rfl

/-- The gain poll is left alone, or it goes on because the adaptive mode is current. -/
def PollsOn (a b : Earbud) : Prop :=
  b.timers.find? .gainPoll = a.timers.find? .gainPoll ∨
    a.runtime.currentMode.isAdaptive = true ∧ b.timers.isArmed .gainPoll = true

inductive Demand : Earbud → Earbud → Prop where
  | beside {a b : Earbud} (t : Touch beside a b) (hp : PollsOn a b) : Demand a b
  | enable (b : Earbud) (hs : b.runtime.state = .disabled) : Demand b b.requestEnable.1
  | disable (b : Earbud) (hs : b.runtime.state = .enabled) : Demand b b.requestDisable.1
  | mode (b : Earbud) (m : Mode) (hs : b.runtime.state = .disabled ∨ b.runtime.state = .enabled) :
      Demand b (b.requestMode m).1
  /-- The mode to go back to after a call is noted. -/
  | remember (b : Earbud) :
      Demand b (b.setRuntime fun r => { r with previousMode := r.currentMode, modeForCall := true })

abbrev Demands : Earbud → Earbud → Prop := Relation.ReflTransGen Demand

inductive Course (b : Earbud) : Event → Earbud × Outcome → Prop where
  | demands {e : Event} {y : Earbud × Outcome} (h : Demands b y.1) : Course b e y
  | start (hs : b.runtime.state = .uninitialised) : Course b .initialise b.start
  | powerOn (hs : b.runtime.state = .powerOff) : Course b .powerOn (b.switchPowerOn, .ok ())
  | powerOffDisabled (hs : b.runtime.state = .disabled) :
      Course b .powerOff ((b.setRuntime fun r => { r with powerOn := false }).enter .powerOff, .ok ())
  | powerOffEnabled (hs : b.runtime.state = .enabled) : Course b .powerOff b.powerOffEnabled
  | tune {e : Event} (kind : TuningKind)
      (hs : b.runtime.state = .disabled ∨ b.runtime.state = .enabled)
      (hk : kind = .adaptive → b.config.adaptive = true) : Course b e (b.enterTuning kind)
  | host {e : Event} (kind : TuningKind) (rate : UInt32) (hs : b.runtime.state = tuningState kind) :
      Course b e
        ((b.setRuntime fun r => { r with tuningSampleRate := some rate }).command
          (.enterTuning kind rate), .ok ())
  | leaveTuning {e : Event} (kind : TuningKind) (next : Lifecycle)
      (hs : b.runtime.state = tuningState kind) (hn : next = .powerOff ∨ next = .disabled)
      (he : next = .powerOff → e = .powerOff) : Course b e (b.leaveTuning kind next, .ok ())
  | startAdaptive (hs : b.runtime.state = .enabled) :
      Course b (.timerExpired .configSettle) (b.startAdaptive, .ok ())
  | switchOff (hs : b.runtime.state = .enabled) :
      Course b (.timerExpired .muteBeforeDisable) (b.switchOff .disabled)
  | applyPending (hs : b.runtime.state = .enabled) :
      Course b (.timerExpired .muteBeforeMode) b.applyPending
  | applyGains (hs : b.runtime.state = .enabled) :
      Course b (.timerExpired .pathGainSettle) (b.command .applyPathGains, .ok ())

variable {a b : Earbud}

/-! ### Demands -/

theorem Work.demands (w : Work aloof a b) : Demands a b := by
  induction w with
  | refl => exact .refl
  | tail _ t ih =>
    exact ih.tail (.beside (t.mono aloof_within_beside) (Or.inl (Work.find? (.single t) rfl)))

theorem demands_levels (w : Work levels a b) : Demands a b := (w.mono levels_within_aloof).demands

theorem work_adopt_aloof (b : Earbud) (decision : QuietMode.Synchronizer.Decision) :
    Work aloof b (b.adopt decision) :=
  work_adopt b decision rfl (fun _ => rfl) rfl rfl

theorem work_adopt_beside (b : Earbud) (decision : QuietMode.Synchronizer.Decision) :
    Work beside b (b.adopt decision) :=
  (work_adopt_aloof b decision).mono aloof_within_beside

theorem demands_adopt (b : Earbud) (decision : QuietMode.Synchronizer.Decision) :
    Demands b (b.adopt decision) :=
  (work_adopt_aloof b decision).demands

theorem demands_runtime (b : Earbud) {change : Runtime → Runtime}
    (h : beside.keeps (change b.runtime) = beside.keeps b.runtime) :
    Demands b (b.setRuntime change) :=
  .single (.beside (.runtime change h) (Or.inl rfl))

theorem demands_startGainPoll (b : Earbud) (h : b.runtime.currentMode.isAdaptive = true) :
    Demands b b.startGainPoll :=
  .single (.beside (.arm _ _ rfl) (Or.inr ⟨h, isArmed_arm _ _ _⟩))

theorem demands_pollGain (b : Earbud) : Demands b b.pollGain := by
  unfold pollGain
  split <;> rename_i hmode
  · have hread : Demands b
        (b.setRuntime fun r => { r with feedForwardGain := b.audio.feedForwardGain }) :=
      demands_levels (.single (.runtime _ rfl))
    have hpolled := (hread.trans (demands_startGainPoll _ hmode)).trans
      (demands_levels (.single (.announce (.feedForwardGain b.audio.feedForwardGain))))
    dsimp only
    split
    · exact hpolled.trans (demands_levels (levels_announceBothGains _ _))
    · exact hpolled
  · exact .refl

theorem demands_whileAdaptive (b : Earbud) (decision : QuietMode.Synchronizer.Decision) :
    Demands b (b.whileAdaptive decision) := by
  unfold whileAdaptive
  split
  · exact demands_adopt b decision
  · exact .refl

theorem demands_requestEnable (b : Earbud) : Demands b b.requestEnable.1 := by
  by_cases hs : b.runtime.state = .disabled
  · exact .single (.enable b hs)
  · unfold requestEnable
    split
    · contradiction
    · exact .refl

theorem demands_requestDisable (b : Earbud) : Demands b b.requestDisable.1 := by
  by_cases hs : b.runtime.state = .enabled
  · exact .single (.disable b hs)
  · unfold requestDisable
    split
    · contradiction
    · exact .refl

theorem demands_requestMode (b : Earbud) (m : Mode) : Demands b (b.requestMode m).1 := by
  by_cases hs : b.runtime.state = .disabled ∨ b.runtime.state = .enabled
  · exact .single (.mode b m hs)
  · rw [not_or] at hs
    unfold requestMode
    split
    · exact absurd ‹_› hs.1
    · exact absurd ‹_› hs.2
    · exact .refl

theorem demands_changeMode (b : Earbud) (m : Mode) : Demands b (b.changeMode m).1 := by
  rw [changeMode_fst]
  split
  · exact (demands_requestMode b m).trans (demands_adopt _ _)
  · exact demands_requestMode b m

theorem demands_chooseMode (b : Earbud) (m : Mode) : Demands b (b.chooseMode m).1 := by
  rw [chooseMode_fst]
  split
  · exact ((demands_requestMode b m).trans (demands_adopt _ _)).trans (demands_runtime _ rfl)
  · exact demands_requestMode b m

theorem demands_chooseEnable (b : Earbud) : Demands b b.chooseEnable.1 := by
  rcases chooseEnable_fst b with h | h <;> rw [h]
  · exact demands_requestEnable b
  · exact (demands_requestEnable b).trans (demands_runtime _ rfl)

theorem demands_startCall (b : Earbud) : Demands b b.startCall.1 := by
  have hclear : Demands b (b.setRuntime .clearCall) := demands_runtime b rfl
  unfold startCall
  split
  · dsimp only
    split
    · split
      · exact hclear
      · exact (hclear.tail (.remember _)).trans (demands_changeMode _ _)
    · have hmode := hclear.trans (demands_changeMode _ b.config.call.mode)
      split <;> rename_i heq
      · rw [show (b.setRuntime .clearCall).changeMode b.config.call.mode = _ from heq] at hmode
        exact (hmode.trans (demands_runtime _ rfl)).trans (demands_requestEnable _)
      · exact hmode
  · exact .refl

theorem demands_endCall (b : Earbud) : Demands b b.endCall.1 := by
  unfold endCall
  split
  · dsimp only
    refine .trans ?_ (demands_runtime _ rfl)
    split
    · split
      · exact demands_requestDisable b
      · exact .refl
    · split
      · exact demands_changeMode b _
      · exact .refl
  · exact .refl

theorem demands_followSwitch (b : Earbud) (enabled : Bool) : Demands b (b.followSwitch enabled) := by
  unfold followSwitch
  split
  · exact .refl
  · split
    · exact demands_chooseEnable b
    · exact demands_requestDisable b

theorem demands_followPeer (b : Earbud) (report : PeerReport) : Demands b (b.followPeer report) := by
  cases hcase : b.runtime.peerInCase with
  | true =>
    unfold followPeer
    rw [if_pos hcase]
  | false =>
    rw [followPeer_eq b report hcase]
    have hswitch := demands_followSwitch b report.enabled
    refine .trans (hswitch.trans ?_) (demands_levels (levels_followLeakthrough _ _))
    unfold followMode
    split
    · exact .refl
    · exact demands_chooseMode _ _

theorem demands_ownPlaced (b : Earbud) (p : Placement) : Demands b (b.ownPlaced p) := by
  have hset : Demands b (b.setRuntime fun r => { r with placement := p }) := demands_runtime b rfl
  unfold ownPlaced
  dsimp only
  split
  · split
    · exact hset.trans (demands_requestDisable _)
    · split
      · exact hset.tail (.beside (.command _ rfl) (Or.inl rfl))
      · exact hset
  · exact hset

theorem demands_peerPlaced (b : Earbud) (p : Placement) : Demands b (b.peerPlaced p) := by
  have hset : Demands b (b.setRuntime fun r => { r with peerInCase := p == .inCase }) :=
    demands_runtime b rfl
  unfold peerPlaced
  dsimp only
  split
  · have hreset := hset.trans (demands_adopt _ (b.setRuntime fun r =>
      { r with peerInCase := p == .inCase }).quietMode.reset)
    split <;> rename_i hruns
    · exact (hreset.trans (demands_levels (levels_announceBothGains _ _))).trans
        (demands_startGainPoll _ (Bool.and_eq_true_iff.mp hruns).2)
    · exact hreset
  · exact hset

/-! ### Events -/

theorem course_refuse (b : Earbud) (e e' : Event) : Course b e (b.refuse e') := .demands .refl

theorem course_enterAdaptive (hs : b.runtime.state = .disabled ∨ b.runtime.state = .enabled)
    (e : Event) :
    Course b e
      (if b.config.adaptive then b.enterTuning .adaptive else b.refuse .enterAdaptiveTuning) := by
  split <;> rename_i hfitted
  · exact .tune _ hs fun _ => hfitted
  · exact course_refuse b _ _

theorem course_handleDisabled (hs : b.runtime.state = .disabled) (e : Event) :
    Course b e (b.handleDisabled e) := by
  cases e with
  | powerOff => exact .powerOffDisabled hs
  | enable => exact .demands (demands_requestEnable b)
  | setMode m => exact .demands (demands_requestMode b m)
  | enterTuning => exact .tune _ (Or.inl hs) nofun
  | enterAdaptiveTuning => exact course_enterAdaptive (Or.inl hs) _
  | callStarted => exact .demands (demands_startCall b)
  | callEnded => exact .demands (demands_endCall b)
  | _ => exact course_refuse b _ _

theorem course_handleEnabled (hs : b.runtime.state = .enabled) (e : Event) :
    Course b e (b.handleEnabled e) := by
  cases e with
  | powerOff => exact .powerOffEnabled hs
  | disable => exact .demands (demands_requestDisable b)
  | setMode m => exact .demands (demands_requestMode b m)
  | enterTuning => exact .tune _ (Or.inr hs) nofun
  | enterAdaptiveTuning => exact course_enterAdaptive (Or.inr hs) _
  | setLeakthroughGain gain => exact .demands (demands_levels (levels_setLeakthrough b gain))
  | timerExpired k =>
    cases k with
    | configSettle => exact .startAdaptive hs
    | muteBeforeDisable => exact .switchOff hs
    | muteBeforeMode => exact .applyPending hs
    | pathGainSettle => exact .applyGains hs
    | _ => exact course_refuse b _ _
  | silenceDetected => exact .demands (demands_whileAdaptive b _)
  | silenceCleared => exact .demands (demands_whileAdaptive b _)
  | quietModeFire d => exact .demands (demands_whileAdaptive b _)
  | callStarted => exact .demands (demands_startCall b)
  | callEnded => exact .demands (demands_endCall b)
  | _ => exact course_refuse b _ _

theorem course_handleTuning (kind : TuningKind) (hs : b.runtime.state = tuningState kind)
    (e : Event) : Course b e (b.handleTuning kind e) := by
  cases e with
  | tuningLinkAttached rate => exact .host kind rate hs
  | powerOff => exact .leaveTuning kind _ hs (Or.inl rfl) fun _ => rfl
  | tuningLinkDetached => exact .leaveTuning kind _ hs (Or.inr rfl) nofun
  | exitTuning =>
    cases kind with
    | fixed => exact .leaveTuning .fixed _ hs (Or.inr rfl) nofun
    | adaptive => exact course_refuse b _ _
  | exitAdaptiveTuning =>
    cases kind with
    | fixed => exact course_refuse b _ _
    | adaptive => exact .leaveTuning .adaptive _ hs (Or.inr rfl) nofun
  | _ => exact course_refuse b _ _

theorem course_handleInState (b : Earbud) (e : Event) : Course b e (b.handleInState e) := by
  unfold handleInState
  split <;> rename_i hs
  · unfold handleUninitialised
    split
    · exact .start hs
    · exact course_refuse b _ _
  · unfold handlePowerOff
    split
    · exact .powerOn hs
    · exact course_refuse b _ _
  · exact course_handleDisabled hs e
  · exact course_handleEnabled hs e
  · exact course_handleTuning .fixed hs e
  · exact course_handleTuning .adaptive hs e

theorem course_handle (b : Earbud) (e : Event) : Course b e (b.handle e) := by
  cases e with
  | peerRecord r =>
    refine .demands ?_
    show Demands b (b.receiveRecord r)
    unfold receiveRecord
    split
    · exact .refl
    · exact demands_adopt b _
  | peerState report => exact .demands (demands_followPeer b report)
  | peerFeedForwardGain gain => exact .demands (demands_levels (levels_announceBothGains b gain))
  | peerLinkLost => exact .demands (demands_adopt b _)
  | placed whose p =>
    cases whose with
    | own => exact .demands (demands_ownPlaced b p)
    | peer => exact .demands (demands_peerPlaced b p)
  | timerExpired k =>
    cases k with
    | gainPoll => exact .demands (demands_pollGain b)
    | quietMode d =>
      refine .demands ?_
      rw [show b.handle (.timerExpired (.quietMode d)) = b.handle (.quietModeFire d) from rfl,
        handle_quietModeFire]
      split
      · exact demands_whileAdaptive b _
      · exact .refl
    | _ => exact course_handleInState b _
  | enable => exact .demands (demands_chooseEnable b)
  | setMode m => exact .demands (demands_chooseMode b m)
  | setNextMode => exact .demands (demands_chooseMode b _)
  | _ => exact course_handleInState b _

/-- What follows from an event only touches what lies beside demands. -/
theorem aloof_finishFollowUps (b : Earbud) : Work aloof b b.finishFollowUps :=
  finishFollowUps_induction b (.single (.defer [] rfl)) fun x _ h => h.trans (work_adopt_aloof x _)

theorem work_finishFollowUps (b : Earbud) : Work beside b b.finishFollowUps :=
  (aloof_finishFollowUps b).mono aloof_within_beside

end NoiseControl.Earbud
