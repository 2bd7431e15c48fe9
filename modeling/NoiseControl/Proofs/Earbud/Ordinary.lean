import NoiseControl.Proofs.Earbud.Reaction

/-!
# Ordinary work

The marks that a call leaves and the whereabouts of the peer are changed by few events: by the start
and the end of a call, by initialisation, and by news of where the peer is.  All other events are
ordinary work, which leaves both alone.
-/

namespace NoiseControl.Earbud

variable {a b : Earbud} {e : Event}

/-- Anything but what a call has forced, the mode before it and whether the peer is in its case. -/
def ordinary : Extent where
  keeps r :=
    { previousMode := r.previousMode, enabledForCall := r.enabledForCall,
      modeForCall := r.modeForCall, peerInCase := r.peerInCase }
  timer _ := true
  audio _ := true
  talks := true

theorem demanding_within_ordinary : demanding.Within ordinary where
  keeps _ _ h := (congrArg ordinary.keeps h :)
  timer _ _ := rfl
  audio _ _ := rfl
  talks _ := rfl
  tells _ _ := rfl
  saves _ := rfl

theorem gains_within_ordinary : gains.Within ordinary :=
  gains_within_demanding.trans demanding_within_ordinary

theorem Work.ordinary_demanding (w : Work demanding a b) : Work ordinary a b :=
  w.mono demanding_within_ordinary

theorem Work.ordinary_steering (w : Work steering a b) : Work ordinary a b :=
  (w.mono steering_within_demanding).ordinary_demanding

section Ordinary

variable (b : Earbud)

theorem ordinary_adopt (decision : QuietMode.Synchronizer.Decision) :
    Work ordinary b (b.adopt decision) :=
  work_adopt b decision rfl (fun _ => rfl) rfl rfl

theorem ordinary_whileAdaptive (decision : QuietMode.Synchronizer.Decision) :
    Work ordinary b (b.whileAdaptive decision) := by
  unfold whileAdaptive
  split
  · exact ordinary_adopt b decision
  · exact .refl

theorem ordinary_chooseEnable : Work ordinary b b.chooseEnable.1 := by
  rcases chooseEnable_fst b with h | h <;> rw [h]
  · exact (steers_requestEnable b).ordinary_steering
  · exact (steers_requestEnable b).ordinary_steering.tail (.runtime _ rfl)

theorem ordinary_changeMode (m : Mode) : Work ordinary b (b.changeMode m).1 := by
  have hmode := (ramps_requestMode b m).ordinary_demanding
  rw [changeMode_fst]
  split
  · exact hmode.trans (ordinary_adopt _ _)
  · exact hmode

theorem ordinary_chooseMode (m : Mode) : Work ordinary b (b.chooseMode m).1 := by
  have hmode := (ramps_requestMode b m).ordinary_demanding
  rw [chooseMode_fst]
  split
  · exact (hmode.trans (ordinary_adopt _ _)).tail (.runtime _ rfl)
  · exact hmode

theorem ordinary_followPeer (report : PeerReport) : Work ordinary b (b.followPeer report) := by
  cases hcase : b.runtime.peerInCase with
  | true =>
    unfold followPeer
    rw [if_pos hcase]
  | false =>
    have hswitch : Work ordinary b (b.followSwitch report.enabled) := by
      unfold followSwitch
      split
      · exact .refl
      · split
        · exact ordinary_chooseEnable b
        · exact (ramps_requestDisable b).ordinary_demanding
    rw [followPeer_eq b report hcase]
    refine .trans (hswitch.trans ?_) ((work_followLeakthrough _ _).mono gains_within_ordinary)
    unfold followMode
    split
    · exact .refl
    · exact ordinary_chooseMode _ _

theorem ordinary_ownPlaced (p : Placement) : Work ordinary b (b.ownPlaced p) := by
  have hset : Work ordinary b (b.setRuntime fun r => { r with placement := p }) :=
    .single (.runtime _ rfl)
  unfold ownPlaced
  dsimp only
  split
  · split
    · exact hset.trans (ramps_requestDisable _).ordinary_demanding
    · split
      · exact hset.tail (.command _ rfl)
      · exact hset
  · exact hset

theorem ordinary_enterTuning (kind : TuningKind) : Work ordinary b (b.enterTuning kind).1 :=
  enterTuning_induction b kind
    (fun _ => Work.ordinary_steering ((steers_stopSettleTimers b).trans (steers_switchOff _ _)))
    (fun _ => (steers_enter b _).ordinary_steering) fun _ h => h.tail (.command _ rfl)

theorem ordinary_leaveTuning (kind : TuningKind) (next : Lifecycle) :
    Work ordinary b (b.leaveTuning kind next) := by
  have h : Work ordinary b ((b.command .detachTuningLink).command (.exitTuning kind)) :=
    (Relation.ReflTransGen.single (.command _ rfl)).tail (.command _ rfl)
  exact (h.tail (.runtime _ rfl)).trans (steers_enter _ _).ordinary_steering

end Ordinary

/-! ### Events -/

theorem ordinary_handleEnabled (hstart : e ≠ .callStarted) (hend : e ≠ .callEnded) :
    Work ordinary b (b.handleEnabled e).1 := by
  cases e with
  | powerOff => exact (steers_powerOffEnabled b).ordinary_steering
  | disable => exact (ramps_requestDisable b).ordinary_demanding
  | setMode m => exact (ramps_requestMode b m).ordinary_demanding
  | enterTuning => exact ordinary_enterTuning b _
  | enterAdaptiveTuning =>
    show Work ordinary b (if b.config.adaptive then b.enterTuning .adaptive else b.refuse _).1
    split
    · exact ordinary_enterTuning b _
    · exact .refl
  | setLeakthroughGain gain => exact (work_setLeakthrough b gain).mono gains_within_ordinary
  | timerExpired k =>
    cases k with
    | configSettle => exact attempts_startAdaptive b rfl
    | muteBeforeDisable => exact (steers_switchOff b _).ordinary_steering
    | muteBeforeMode => exact (steers_reconfigure b _ _).ordinary_steering
    | pathGainSettle => exact .single (.command _ rfl)
    | _ => exact .refl
  | silenceDetected => exact ordinary_whileAdaptive b _
  | silenceCleared => exact ordinary_whileAdaptive b _
  | quietModeFire d => exact ordinary_whileAdaptive b _
  | callStarted => exact absurd rfl hstart
  | callEnded => exact absurd rfl hend
  | _ => exact .refl

theorem ordinary_handleDisabled (hstart : e ≠ .callStarted) (hend : e ≠ .callEnded) :
    Work ordinary b (b.handleDisabled e).1 := by
  unfold handleDisabled
  split
  · exact .trans (.single (.runtime _ rfl)) (steers_enter _ _).ordinary_steering
  · exact (steers_requestEnable b).ordinary_steering
  · exact (ramps_requestMode b _).ordinary_demanding
  · exact ordinary_enterTuning b _
  · split
    · exact ordinary_enterTuning b _
    · exact .refl
  · exact absurd rfl hstart
  · exact absurd rfl hend
  · exact .refl

theorem ordinary_handleTuning (kind : TuningKind) (e : Event) :
    Work ordinary b (b.handleTuning kind e).1 := by
  rcases handleTuning_fst b kind e with he | ⟨rate, he⟩ | he | he <;> rw [he]
  · exact (Relation.ReflTransGen.single (.runtime _ rfl)).tail (.command _ rfl)
  · exact ordinary_leaveTuning b _ _
  · exact ordinary_leaveTuning b _ _

theorem ordinary_handleInState (hs : e = .initialise → b.runtime.state ≠ .uninitialised)
    (hstart : e ≠ .callStarted) (hend : e ≠ .callEnded) : Work ordinary b (b.handleInState e).1 := by
  unfold handleInState
  split <;> rename_i hstate
  · unfold handleUninitialised
    split
    · exact absurd hstate (hs rfl)
    · exact .refl
  · unfold handlePowerOff
    split
    · exact (steers_switchPowerOn b).ordinary_steering
    · exact .refl
  · exact ordinary_handleDisabled hstart hend
  · exact ordinary_handleEnabled hstart hend
  · exact ordinary_handleTuning .fixed e
  · exact ordinary_handleTuning .adaptive e

theorem ordinary_handle (hs : e = .initialise → b.runtime.state ≠ .uninitialised)
    (hstart : e ≠ .callStarted) (hend : e ≠ .callEnded) (hplaced : ∀ p, e ≠ .placed .peer p) :
    Work ordinary b (b.handle e).1 := by
  cases e with
  | peerRecord r =>
    show Work ordinary b (b.receiveRecord r)
    unfold receiveRecord
    split
    · exact .refl
    · exact ordinary_adopt b _
  | peerState report => exact ordinary_followPeer b report
  | peerFeedForwardGain gain => exact .single (.announce _)
  | peerLinkLost => exact ordinary_adopt b _
  | placed whose p =>
    cases whose with
    | own => exact ordinary_ownPlaced b p
    | peer => exact absurd rfl (hplaced p)
  | timerExpired k =>
    cases k with
    | gainPoll => exact (work_pollGain b).mono gains_within_ordinary
    | quietMode d => exact ordinary_handleInState nofun nofun nofun
    | _ => exact ordinary_handleInState hs hstart hend
  | enable => exact ordinary_chooseEnable b
  | setMode m => exact ordinary_chooseMode b m
  | setNextMode => exact ordinary_chooseMode b _
  | _ => exact ordinary_handleInState hs hstart hend

/-! ### The whereabouts of the peer -/

/-- Anything but whether the peer is in its case. -/
def unplaced : Extent where
  keeps r := { peerInCase := r.peerInCase }
  timer _ := true
  audio _ := true
  talks := true

theorem Work.unplaced_ordinary (w : Work ordinary a b) : Work unplaced a b :=
  w.mono
    { keeps := fun _ _ h => (congrArg unplaced.keeps h :)
      timer := fun _ _ => rfl
      audio := fun _ _ => rfl
      talks := fun _ => rfl
      tells := fun _ _ => rfl
      saves := fun _ => rfl }

theorem Work.unplaced_steering (w : Work steering a b) : Work unplaced a b :=
  w.ordinary_steering.unplaced_ordinary

theorem unplaced_startCall (b : Earbud) : Work unplaced b b.startCall.1 := by
  have hclear : Work unplaced b (b.setRuntime .clearCall) := .single (.runtime _ rfl)
  unfold startCall
  split
  · dsimp only
    split
    · split
      · exact hclear
      · exact (hclear.tail (.runtime _ rfl)).trans (ordinary_changeMode _ _).unplaced_ordinary
    · have hmode := hclear.trans
        (ordinary_changeMode (b.setRuntime .clearCall) b.config.call.mode).unplaced_ordinary
      split <;> rename_i heq
      · rw [show (b.setRuntime .clearCall).changeMode b.config.call.mode = _ from heq] at hmode
        exact (hmode.tail (.runtime _ rfl)).trans (steers_requestEnable _).unplaced_steering
      · exact hmode
  · exact .refl

theorem unplaced_endCall (b : Earbud) : Work unplaced b b.endCall.1 := by
  unfold endCall
  split
  · dsimp only
    refine .tail ?_ (.runtime _ rfl)
    split
    · split
      · exact (ramps_requestDisable b).ordinary_demanding.unplaced_ordinary
      · exact .refl
    · split
      · exact (ordinary_changeMode b _).unplaced_ordinary
      · exact .refl
  · exact .refl

theorem unplaced_start (b : Earbud) : Work unplaced b b.start.1 := by
  rcases start_fst b with ⟨he, -⟩ | ⟨microphones, mode, he⟩
  · rw [he]
  · have hprobe : Work unplaced b (b.loadSession.1.attempt (.start microphones mode)).1 :=
      (Relation.ReflTransGen.single .load).tail (.attempt _ rfl)
    rcases he with ⟨he, -⟩ | ⟨enabled, he, -⟩ <;> rw [he]
    · exact hprobe
    · exact ((hprobe.tail (.runtime _ rfl)).tail (.negotiate _ rfl)).trans
        (steers_enter _ _).unplaced_steering

/-- Only news of where the peer is changes whether it is in its case. -/
theorem peerInCase_dispatch (b : Earbud) {e : Event} (hplaced : ∀ p, e ≠ .placed .peer p) :
    (b.dispatch e).1.runtime.peerInCase = b.runtime.peerInCase := by
  have hhandle : Work unplaced b (b.handle e).1 := by
    by_cases hstart : e = .callStarted
    · subst hstart
      rw [handle_callStarted]
      split
      · exact unplaced_startCall b
      · exact .refl
    by_cases hend : e = .callEnded
    · subst hend
      rw [handle_callEnded]
      split
      · exact unplaced_endCall b
      · exact .refl
    by_cases hinit : e = .initialise ∧ b.runtime.state = .uninitialised
    · obtain ⟨rfl, hs⟩ := hinit
      rw [handle_initialise b hs]
      exact unplaced_start b
    · refine (ordinary_handle (fun he hs => hinit ⟨he, hs⟩) hstart hend hplaced).unplaced_ordinary
  rw [runtime_dispatch]
  exact (congrArg Runtime.peerInCase hhandle.keeps :)

end NoiseControl.Earbud
