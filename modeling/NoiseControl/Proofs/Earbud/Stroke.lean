import NoiseControl.Proofs.Earbud.History
import NoiseControl.Proofs.Earbud.Reaction

/-!
# The strokes of an event

Only a few strokes bear on the hardware, on the mode that is loaded and on the gains: the earbud is
reconfigured, its leakthrough gain is written or read back, the gains of fixed filters are given up.
Most events come down to them.  Initialisation, switching the power off, the expiry of the timers of
the gains and news of where the peer was placed each make a stroke of their own.
-/

namespace NoiseControl.Earbud

/-- What leaves alone the hardware, the mode that is loaded and the gains. -/
def still : Extent where
  keeps r :=
    { actualEnabled := r.actualEnabled, currentMode := r.currentMode,
      leakthroughGain := r.leakthroughGain }
  timer
    | .gainPoll | .pathGainSettle => false
    | _ => true
  audio
    | .start .. | .hardwareOn | .hardwareOnMuted | .hardwareOff | .setMode _ | .setGain ..
    | .applyPathGains => false
    | _ => true
  talks := true
  tells := gains.tells

/-- The same with the gain poll, which the adaptive mode keeps up. -/
def polling : Extent where
  keeps := still.keeps
  timer
    | .pathGainSettle => false
    | _ => true
  audio := still.audio
  talks := true
  tells := gains.tells

theorem still_within_polling : still.Within polling where
  keeps _ _ h := h
  timer k h := by cases k <;> first | rfl | cases h
  audio _ h := h
  talks h := h
  tells _ h := h
  saves h := h

theorem still_announceBothGains (b : Earbud) (ofPeer : UInt8) :
    Work still b (b.announceBothGains ofPeer) :=
  .single (.announce _ (by cases b.config.side <;> rfl))

/-- The strokes that lead from one earbud to another, and whether the leakthrough gain was read back
among them on its own, without a mode being loaded. -/
inductive Strokes (a : Earbud) : Bool → Earbud → Prop where
  | start : Strokes a false a
  | touch {reads : Bool} {b c : Earbud} (s : Strokes a reads b) (t : Touch still b c) :
      Strokes a reads c
  | settle {reads : Bool} {b : Earbud} (s : Strokes a reads b) :
      Strokes a reads (b.cancel .pathGainSettle)
  | write {reads : Bool} {b : Earbud} (s : Strokes a reads b) (gain : UInt8) :
      Strokes a reads (b.setLeakthrough gain)
  | read {reads : Bool} {b : Earbud} (s : Strokes a reads b) : Strokes a true b.refreshLeakthrough
  | reconfigure {reads : Bool} {b : Earbud} (s : Strokes a reads b) (on : Bool) (m : Mode) :
      Strokes a reads (b.reconfigure on m).1

variable {a b c : Earbud} {reads reads' : Bool}

namespace Strokes

theorem work (s : Strokes a reads b) (w : Work still b c) : Strokes a reads c := by
  induction w with
  | refl => exact s
  | tail _ t ih => exact ih.touch t

theorem trans (s : Strokes a reads b) (s' : Strokes b reads' c) : Strokes a (reads || reads') c := by
  induction s' with
  | start => rwa [Bool.or_false]
  | touch _ t ih => exact ih.touch t
  | settle _ ih => exact ih.settle
  | write _ gain ih => exact ih.write gain
  | read _ ih =>
    rw [Bool.or_true]
    exact ih.read
  | reconfigure _ on m ih => exact ih.reconfigure on m

theorem anything (s : Strokes a reads b) : Work anything a b := by
  induction s with
  | start => exact .refl
  | touch _ t ih => exact ih.trans (Work.anything (.single t))
  | settle _ ih => exact ih.tail (.cancel _ rfl)
  | write _ gain ih => exact ih.trans (levels_setLeakthrough _ gain).anything
  | read _ ih => exact ih.trans (levels_refreshLeakthrough _).anything
  | reconfigure _ on m ih => exact ih.trans (work_reconfigure _ on m).anything

theorem setRuntime (s : Strokes a reads b) (change : Runtime → Runtime)
    (h : still.keeps (change b.runtime) = still.keeps b.runtime) :
    Strokes a reads (b.setRuntime change) :=
  s.touch (.runtime change h)

theorem stopSettleTimers (s : Strokes a reads b) : Strokes a reads b.stopSettleTimers :=
  ((s.touch (.cancel _ rfl)).touch (.cancel _ rfl)).touch (.cancel _ rfl)

theorem persistSession (s : Strokes a reads b) : Strokes a reads b.persistSession := by
  unfold Earbud.persistSession
  dsimp only
  split
  · exact (s.touch .load).touch (.save _)
  · exact s

theorem enter (s : Strokes a reads b) (next : Lifecycle) : Strokes a reads (b.enter next) := by
  unfold Earbud.enter
  dsimp only
  refine Strokes.setRuntime ?_ _ rfl
  split
  · exact s.stopSettleTimers.settle.persistSession
  · exact s

theorem adopt (s : Strokes a reads b) (decision : QuietMode.Synchronizer.Decision) :
    Strokes a reads (b.adopt decision) :=
  s.work (work_adopt b decision rfl (fun _ => rfl) rfl rfl)

theorem follow (s : Strokes a reads b) (gain : UInt8) : Strokes a reads (b.followLeakthrough gain) := by
  unfold followLeakthrough
  split
  · exact s
  · exact s.write gain

/-- Switching the power off goes on whatever the hardware does, and is told apart below. -/
theorem switchOff (s : Strokes a reads b) {next : Lifecycle} (hn : next ≠ .powerOff) :
    Strokes a reads (b.switchOff next).1 := by
  have hoff := s.reconfigure false b.runtime.requestedMode
  unfold Earbud.switchOff
  dsimp only
  rw [if_neg hn]
  refine Strokes.setRuntime ?_ _ rfl
  split
  · exact hoff.setRuntime _ rfl
  · exact hoff.enter next

end Strokes

/-! ### Requests -/

/-- Whether a mode is accepted that only waits for noise control to be switched on. -/
def waits (b : Earbud) (m : Mode) : Bool :=
  b.runtime.state == .disabled && decide (m.index < b.runtime.numModes)

/-- Whether an event asks for a mode and the mode only waits. -/
def asksToWait (b : Earbud) (e : Event) : Bool :=
  match b.modeAsked? e with
  | some (x, m) => x.waits m
  | none => false

theorem waits_of_ne (hs : b.runtime.state ≠ .disabled) (m : Mode) : b.waits m = false := by
  rw [waits, beq_false_of_ne hs, Bool.false_and]

theorem strokes_requestEnable (b : Earbud) : Strokes b false b.requestEnable.1 := by
  unfold requestEnable
  split
  · have hasked : Strokes b false (b.setRuntime fun r => { r with requestedEnabled := true }) :=
      Strokes.start.setRuntime _ rfl
    have hon := hasked.reconfigure true b.runtime.requestedMode
    dsimp only
    split
    · exact hon.enter .enabled
    · exact hon
  · exact .start

theorem strokes_requestDisable (b : Earbud) : Strokes b false b.requestDisable.1 := by
  unfold requestDisable
  split
  · have hasked : Strokes b false
        (b.setRuntime fun r => { r with requestedEnabled := false }).stopSettleTimers :=
      (Strokes.start.setRuntime _ rfl).stopSettleTimers
    dsimp only
    split
    · exact (hasked.touch (.command .gentleMute rfl)).touch (.arm _ _ rfl)
    · exact hasked.switchOff (by decide)
  · exact .start

/-- Only a mode that waits has the gain read back on its own. -/
theorem strokes_requestMode (b : Earbud) (m : Mode) : Strokes b (b.waits m) (b.requestMode m).1 := by
  have hasked : Strokes b false (b.setRuntime fun r => { r with requestedMode := m }) :=
    Strokes.start.setRuntime _ rfl
  unfold requestMode
  split <;> rename_i hs
  · rw [waits, hs]
    split <;> rename_i hm
    · simpa [UInt8.not_lt.mpr hm] using Strokes.start
    · simpa [UInt8.not_le.mp hm] using hasked.read
  · rw [waits_of_ne (by simp [hs])]
    split
    · exact .start
    · dsimp only
      split
      · exact hasked
      · split
        · exact (hasked.touch (.command .gentleMute rfl)).touch (.arm _ _ rfl)
        · exact hasked.reconfigure _ _
  · rw [waits_of_ne ‹_›]
    exact .start

theorem strokes_changeMode (b : Earbud) (m : Mode) : Strokes b (b.waits m) (b.changeMode m).1 := by
  rw [changeMode_fst]
  split
  · exact (strokes_requestMode b m).adopt _
  · exact strokes_requestMode b m

theorem strokes_chooseMode (b : Earbud) (m : Mode) : Strokes b (b.waits m) (b.chooseMode m).1 := by
  rw [chooseMode_fst]
  split
  · exact ((strokes_requestMode b m).adopt _).setRuntime _ rfl
  · exact strokes_requestMode b m

theorem strokes_chooseEnable (b : Earbud) : Strokes b false b.chooseEnable.1 := by
  rcases chooseEnable_fst b with h | h <;> rw [h]
  · exact strokes_requestEnable b
  · exact (strokes_requestEnable b).setRuntime _ rfl

theorem strokes_startCall (hs : (b.isEnabled || b.runtime.state == .disabled) = true) :
    Strokes b (b.asksToWait .callStarted) b.startCall.1 := by
  have hcleared : Strokes b false (b.setRuntime .clearCall) := Strokes.start.setRuntime _ rfl
  unfold asksToWait modeAsked? startCall
  dsimp only
  cases hcall : b.config.call.implicitEnable with
  | false =>
    rw [Bool.and_false, if_neg (by decide), if_neg (by decide)]
    exact .start
  | true =>
    have hswitch : (b.setRuntime .clearCall).isEnabled = b.isEnabled := rfl
    have hcurrent : (b.setRuntime .clearCall).runtime.currentMode = b.runtime.currentMode := rfl
    have hconfig : (b.setRuntime .clearCall).config = b.config := rfl
    rw [hs, Bool.and_true, if_pos rfl, if_pos rfl, hswitch, hcurrent, hconfig]
    by_cases hon : b.isEnabled = true
    · rw [if_pos hon, if_pos hon]
      by_cases hmode : b.runtime.currentMode = b.config.call.mode
      · rw [if_pos hmode, if_pos hmode]
        exact hcleared
      · rw [if_neg hmode, if_neg hmode]
        exact (hcleared.setRuntime _ rfl).trans (strokes_changeMode _ _)
    · rw [if_neg hon, if_neg hon]
      have hmode := hcleared.trans (strokes_changeMode (b.setRuntime .clearCall) b.config.call.mode)
      rw [Bool.false_or] at hmode
      -- Whether noise control is then switched on goes by whether the mode was accepted.
      generalize (b.setRuntime .clearCall).changeMode b.config.call.mode = moded at hmode ⊢
      obtain ⟨after, _ | _⟩ := moded
      · exact hmode
      · have hforced := (hmode.setRuntime (fun r => { r with enabledForCall := true }) rfl).trans
          (strokes_requestEnable _)
        rwa [Bool.or_false] at hforced

theorem strokes_endCall (hs : (b.isEnabled || b.runtime.state == .disabled) = true) :
    Strokes b (b.asksToWait .callEnded) b.endCall.1 := by
  unfold asksToWait modeAsked? endCall
  dsimp only
  rw [hs, Bool.true_and]
  cases b.config.call.implicitEnable with
  | false => exact .start
  | true =>
    refine Strokes.setRuntime ?_ _ rfl
    cases b.runtime.enabledForCall with
    | true =>
      show Strokes b false (if !b.runtime.userEnabled && b.isEnabled then b.requestDisable
        else (b, .ok ())).1
      split
      · exact strokes_requestDisable b
      · exact .start
    | false =>
      rw [Bool.true_and, Bool.not_false, Bool.true_and, if_neg Bool.false_ne_true]
      by_cases hback : (b.runtime.modeForCall && !b.runtime.userSwitchedMode) = true
      · rw [if_pos hback, if_pos hback]
        exact strokes_changeMode b _
      · rw [if_neg hback, if_neg hback]
        exact .start

theorem strokes_followSwitch (b : Earbud) (enabled : Bool) :
    Strokes b false (b.followSwitch enabled) := by
  unfold followSwitch
  split
  · exact .start
  · split
    · exact strokes_chooseEnable b
    · exact strokes_requestDisable b

theorem strokes_followPeer (b : Earbud) (report : PeerReport) :
    Strokes b (b.asksToWait (.peerState report)) (b.followPeer report) := by
  unfold asksToWait modeAsked?
  dsimp only
  cases hcase : b.runtime.peerInCase with
  | true =>
    rw [followPeer, if_pos hcase, if_pos (Or.inl rfl)]
    exact .start
  | false =>
    rw [followPeer_eq b report hcase, followMode]
    have hswitched := strokes_followSwitch b report.enabled
    refine Strokes.follow ?_ _
    by_cases hm : report.mode = (b.followSwitch report.enabled).runtime.requestedMode
    · rw [if_pos hm, if_pos (Or.inr hm)]
      exact hswitched
    · rw [if_neg hm, if_neg (by simp [hm])]
      exact hswitched.trans (strokes_chooseMode _ _)

theorem strokes_enterTuning (b : Earbud) (kind : TuningKind) :
    Strokes b false (b.enterTuning kind).1 :=
  enterTuning_induction b kind
    (fun _ => Strokes.start.stopSettleTimers.switchOff (by cases kind <;> decide))
    (fun _ => Strokes.start.enter _) fun _ h => h.touch (.command _ rfl)

theorem strokes_leaveTuning (b : Earbud) (kind : TuningKind) (next : Lifecycle) :
    Strokes b false (b.leaveTuning kind next) := by
  have hleft := (Strokes.start.touch (.command .detachTuningLink rfl)).touch
    (.command (.exitTuning kind) rfl) (a := b)
  exact (hleft.setRuntime _ rfl).enter next

theorem strokes_switchPowerOn (b : Earbud) : Strokes b false b.switchPowerOn := by
  have hset : Strokes b false (b.setRuntime fun r => { r with powerOn := true }) :=
    Strokes.start.setRuntime _ rfl
  unfold switchPowerOn
  dsimp only
  refine Strokes.enter ?_ _
  split
  · exact hset.reconfigure _ _
  · exact hset

theorem strokes_startAdaptive (b : Earbud) : Strokes b false b.startAdaptive := by
  unfold startAdaptive
  split
  · exact Strokes.start.touch (.attempt _ rfl)
  · exact .start

theorem strokes_whileAdaptive (b : Earbud) (decision : QuietMode.Synchronizer.Decision) :
    Strokes b false (b.whileAdaptive decision) := by
  unfold whileAdaptive
  split
  · exact Strokes.start.adopt decision
  · exact .start

theorem strokes_ownPlaced (b : Earbud) (p : Placement) : Strokes b false (b.ownPlaced p) := by
  have hset : Strokes b false (b.setRuntime fun r => { r with placement := p }) :=
    Strokes.start.setRuntime _ rfl
  unfold ownPlaced
  dsimp only
  split
  · split
    · exact hset.trans (strokes_requestDisable _)
    · split
      · exact hset.touch (.command _ rfl)
      · exact hset
  · exact hset

/-! ### Switching the power off -/

/-- The power is to go off with noise control on. -/
def PowersOff (b : Earbud) (m : Move) : Prop := m = .event .powerOff ∧ b.isEnabled = true

/-- The power goes off with noise control on: it is to come on again with the power. -/
def leave (b : Earbud) : Earbud :=
  (b.setRuntime fun r => { r with powerOn := false, requestedEnabled := true }).stopSettleTimers

/-- The hardware was to go off with the power, and may have refused. -/
def leaveHardware (b : Earbud) : Earbud := (b.leave.reconfigure false b.runtime.requestedMode).1

theorem still_leave (b : Earbud) : Work still b b.leave :=
  (((Relation.ReflTransGen.single (.runtime _ rfl)).tail (.cancel _ rfl)).tail (.cancel _ rfl)).tail
    (.cancel _ rfl)

/-- The hardware is taken to be off, whatever it did. -/
theorem strokes_powerOffEnabled (b : Earbud) :
    Strokes (b.leaveHardware.setRuntime fun r => { r with actualEnabled := false }) false
      b.powerOffEnabled.1 :=
  (Strokes.start.enter .powerOff).setRuntime _ rfl

/-! ### Events -/

theorem actualEnabled_start (hoff : b.runtime.actualEnabled = false) :
    b.start.1.runtime.actualEnabled = false := by
  rcases start_fst b with ⟨he, -⟩ | ⟨microphones, mode, ⟨he, -⟩ | ⟨enabled, he, -⟩⟩ <;> rw [he]
  · exact hoff
  · rw [runtime_attempt]
    exact hoff
  · exact (congrArg Runtime.actualEnabled (parts_enter _ .powerOff).keeps :)

/-- What an event comes to. -/
inductive Account (b : Earbud) : Event → Earbud → Prop where
  | strokes {e : Event} {x : Earbud} (s : Strokes b (b.asksToWait e) x) : Account b e x
  | start (hs : b.runtime.state = .uninitialised) : Account b .initialise b.start.1
  | powerOff (hs : b.runtime.state = .enabled) : Account b .powerOff b.powerOffEnabled.1
  | applyGains : Account b (.timerExpired .pathGainSettle) (b.command .applyPathGains)
  | poll : Account b (.timerExpired .gainPoll) b.pollGain
  | peerPlaced (p : Placement) : Account b (.placed .peer p) (b.peerPlaced p)

theorem account_enterAdaptive (b : Earbud) :
    Account b .enterAdaptiveTuning
      (if b.config.adaptive then b.enterTuning .adaptive else b.refuse .enterAdaptiveTuning).1 := by
  split
  · exact .strokes (strokes_enterTuning b .adaptive)
  · exact .strokes .start

theorem account_handleDisabled (hs : b.runtime.state = .disabled) {e : Event}
    (hnext : e ≠ .setNextMode) (hpeer : ∀ report, e ≠ .peerState report) :
    Account b e (b.handleDisabled e).1 := by
  have hin : (b.isEnabled || b.runtime.state == .disabled) = true := by simp [hs]
  cases e with
  | powerOff => exact .strokes ((Strokes.start.setRuntime _ rfl).enter .powerOff)
  | enable => exact .strokes (strokes_requestEnable b)
  | setMode m => exact .strokes (strokes_requestMode b m)
  | enterTuning => exact .strokes (strokes_enterTuning b .fixed)
  | enterAdaptiveTuning => exact account_enterAdaptive b
  | callStarted => exact .strokes (strokes_startCall hin)
  | callEnded => exact .strokes (strokes_endCall hin)
  | setNextMode => exact absurd rfl hnext
  | peerState report => exact absurd rfl (hpeer report)
  | _ => exact .strokes .start

theorem account_handleEnabled (hs : b.runtime.state = .enabled) {e : Event}
    (hnext : e ≠ .setNextMode) (hpeer : ∀ report, e ≠ .peerState report) :
    Account b e (b.handleEnabled e).1 := by
  have hin : (b.isEnabled || b.runtime.state == .disabled) = true := by simp [isEnabled, hs]
  cases e with
  | powerOff => exact .powerOff hs
  | disable => exact .strokes (strokes_requestDisable b)
  | setMode m => exact .strokes (strokes_requestMode b m)
  | enterTuning => exact .strokes (strokes_enterTuning b .fixed)
  | enterAdaptiveTuning => exact account_enterAdaptive b
  | setLeakthroughGain gain => exact .strokes (Strokes.start.write gain)
  | callStarted => exact .strokes (strokes_startCall hin)
  | callEnded => exact .strokes (strokes_endCall hin)
  | silenceDetected => exact .strokes (strokes_whileAdaptive b _)
  | silenceCleared => exact .strokes (strokes_whileAdaptive b _)
  | quietModeFire d => exact .strokes (strokes_whileAdaptive b _)
  | timerExpired k =>
    cases k with
    | configSettle => exact .strokes (strokes_startAdaptive b)
    | muteBeforeDisable => exact .strokes (Strokes.start.switchOff (by decide))
    | muteBeforeMode => exact .strokes (Strokes.start.reconfigure _ _)
    | pathGainSettle => exact .applyGains
    | _ => exact .strokes .start
  | setNextMode => exact absurd rfl hnext
  | peerState report => exact absurd rfl (hpeer report)
  | _ => exact .strokes .start

/-- Away from `disabled` no mode waits, except that a report of the peer may lead there first. -/
theorem asksToWait_of_ne (hs : b.runtime.state ≠ .disabled) {e : Event}
    (hpeer : ∀ report, e ≠ .peerState report) : b.asksToWait e = false := by
  have hkept : ∀ x m, b.modeAsked? e = some (x, m) → x.runtime.state = b.runtime.state := by
    intro x m h
    cases e with
    | peerState report => exact absurd rfl (hpeer report)
    | setMode m' =>
      cases h
      rfl
    | setNextMode =>
      cases h
      rfl
    | callStarted =>
      simp only [modeAsked?] at h
      split at h
      · split at h
        · split at h <;> cases h
          rfl
        · cases h
          rfl
      · cases h
    | callEnded =>
      simp only [modeAsked?] at h
      split at h <;> cases h
      rfl
    | _ => cases h
  unfold asksToWait
  cases hm : b.modeAsked? e with
  | none => rfl
  | some p => exact waits_of_ne (hkept p.1 p.2 hm ▸ hs) p.2

theorem account_handleTuning (kind : TuningKind) (hs : b.runtime.state = tuningState kind) {e : Event}
    (hpeer : ∀ report, e ≠ .peerState report) : Account b e (b.handleTuning kind e).1 := by
  have hdisabled : b.runtime.state ≠ .disabled := by
    rw [hs]
    cases kind <;> decide
  refine .strokes ?_
  rw [asksToWait_of_ne hdisabled hpeer]
  rcases handleTuning_fst b kind e with he | ⟨rate, he⟩ | he | he <;> rw [he]
  · exact .start
  · exact (Strokes.start.setRuntime _ rfl).touch (.command (.enterTuning kind rate) rfl)
  · exact strokes_leaveTuning b kind _
  · exact strokes_leaveTuning b kind _

theorem account_handleInState (b : Earbud) {e : Event} (hnext : e ≠ .setNextMode)
    (hpeer : ∀ report, e ≠ .peerState report) : Account b e (b.handleInState e).1 := by
  have hrefused : b.runtime.state ≠ .disabled → Account b e b := fun hs =>
    .strokes (asksToWait_of_ne hs hpeer ▸ .start)
  unfold handleInState
  split <;> rename_i hs
  · unfold handleUninitialised
    split
    · exact .start hs
    · exact hrefused (by simp [hs])
  · unfold handlePowerOff
    split
    · exact .strokes (strokes_switchPowerOn b)
    · exact hrefused (by simp [hs])
  · exact account_handleDisabled hs hnext hpeer
  · exact account_handleEnabled hs hnext hpeer
  · exact account_handleTuning .fixed hs hpeer
  · exact account_handleTuning .adaptive hs hpeer

theorem account_handle (b : Earbud) (e : Event) : Account b e (b.handle e).1 := by
  cases e with
  | peerRecord r =>
    refine .strokes ?_
    show Strokes b false (b.receiveRecord r)
    unfold receiveRecord
    split
    · exact .start
    · exact Strokes.start.adopt _
  | peerState report => exact .strokes (strokes_followPeer b report)
  | peerFeedForwardGain gain =>
    exact .strokes (Strokes.start.work (still_announceBothGains b gain))
  | peerLinkLost => exact .strokes (Strokes.start.adopt _)
  | placed whose p =>
    cases whose with
    | own => exact .strokes (strokes_ownPlaced b p)
    | peer => exact .peerPlaced p
  | timerExpired k =>
    cases k with
    | gainPoll => exact .poll
    | quietMode d =>
      refine .strokes ?_
      rw [show b.handle (.timerExpired (.quietMode d)) = b.handle (.quietModeFire d) from rfl,
        handle_quietModeFire]
      split
      · exact strokes_whileAdaptive b _
      · exact .start
    | _ => exact account_handleInState b nofun nofun
  | enable => exact .strokes (strokes_chooseEnable b)
  | setMode m => exact .strokes (strokes_chooseMode b m)
  | setNextMode => exact .strokes (strokes_chooseMode b _)
  | _ => exact account_handleInState b nofun nofun

theorem polling_pollGain (b : Earbud) : Work polling b b.pollGain := by
  unfold pollGain
  split
  · have hread : Work polling b
        (b.setRuntime fun r => { r with feedForwardGain := b.audio.feedForwardGain }) :=
      .single (.runtime _ rfl)
    have harm := (hread.tail (.arm .gainPoll b.config.timing.gainPoll rfl)).tail
      (.announce (.feedForwardGain b.audio.feedForwardGain))
    dsimp only
    split
    · exact harm.trans ((still_announceBothGains _ _).mono still_within_polling)
    · exact harm
  · exact .refl

theorem polling_peerPlaced (b : Earbud) (p : Placement) : Work polling b (b.peerPlaced p) := by
  have hset : Work polling b (b.setRuntime fun r => { r with peerInCase := p == .inCase }) :=
    .single (.runtime _ rfl)
  have hreset := hset.trans (work_adopt _ (b.setRuntime fun r =>
    { r with peerInCase := p == .inCase }).quietMode.reset rfl (fun _ => rfl) rfl rfl)
  unfold peerPlaced
  dsimp only
  split
  · split
    · have htold := hreset.trans ((still_announceBothGains _ gainOfPeerInCase).mono still_within_polling)
      exact htold.tail (.arm .gainPoll _ rfl)
    · exact hreset
  · exact hset

/-- What follows from an event makes no stroke. -/
theorem still_finishFollowUps (b : Earbud) : Work still b b.finishFollowUps :=
  finishFollowUps_induction b (.single (.defer [] rfl)) fun x _ h =>
    h.trans (work_adopt x _ rfl (fun _ => rfl) rfl rfl)

end NoiseControl.Earbud
