import NoiseControl.Proofs.Earbud.Course

/-!
# The route of an event

An event reconfigures an earbud once, or twice when it follows its peer in two things, or not at all.
Each time the earbud is brought to the mode that is asked for then.  Meanwhile a mode may be asked for or
noted, and adaptive processing may start in the current one; no mode is loaded, the hardware is not
driven, no gain is written, and the clients are told of no change of these.  At the end of the route the
leakthrough gain may be set, or the hardware taken to be off with the power, whatever it did.
-/

namespace NoiseControl

structure Reconfiguration where
  before : Earbud
  on : Bool

namespace Reconfiguration

def mode (r : Reconfiguration) : Mode := r.before.runtime.requestedMode

def after (r : Reconfiguration) : Earbud := (r.before.reconfigure r.on r.mode).1

end Reconfiguration

/-- The events that may set the leakthrough gain. -/
def Event.setsGain : Event → Bool
  | .setLeakthroughGain _ | .peerState _ => true
  | _ => false

namespace Earbud

/-! ### Which reconfigurations are made -/

section Reconfigurations

variable (b : Earbud)

def enabling : List Reconfiguration :=
  if b.runtime.state = .disabled then
    [⟨b.setRuntime fun r => { r with requestedEnabled := true }, true⟩]
  else []

/-- While adaptive processing runs it is ramped down first, and the hardware is driven later. -/
def disabling : List Reconfiguration :=
  if b.isEnabled && !b.audio.adaptive then
    [⟨(b.setRuntime fun r => { r with requestedEnabled := false }).stopSettleTimers, false⟩]
  else []

def choosing (m : Mode) : List Reconfiguration :=
  if b.isEnabled && !b.audio.adaptive && m.index < b.runtime.numModes &&
      m != b.runtime.currentMode then
    [⟨b.setRuntime fun r => { r with requestedMode := m }, b.runtime.requestedEnabled⟩]
  else []

def leaving : List Reconfiguration := if b.isEnabled then [⟨b.stopSettleTimers, false⟩] else []

def poweringOn : List Reconfiguration :=
  if b.runtime.requestedEnabled then [⟨b.setRuntime fun r => { r with powerOn := true }, true⟩] else []

def poweringOff : List Reconfiguration :=
  [⟨(b.setRuntime fun r =>
    { r with powerOn := false, requestedEnabled := true }).stopSettleTimers, false⟩]

def calling : List Reconfiguration :=
  if b.config.call.implicitEnable then
    let b := b.setRuntime .clearCall
    let mode := b.config.call.mode
    if b.isEnabled then
      if b.runtime.currentMode = mode then []
      else
        (b.setRuntime fun r => { r with previousMode := r.currentMode, modeForCall := true }).choosing
          mode
    else if (b.changeMode mode).2.isOk then
      ((b.changeMode mode).1.setRuntime fun r => { r with enabledForCall := true }).enabling
    else []
  else []

def hangingUp : List Reconfiguration :=
  if b.config.call.implicitEnable then
    if b.runtime.enabledForCall then
      if !b.runtime.userEnabled && b.isEnabled then b.disabling else []
    else if b.runtime.modeForCall && !b.runtime.userSwitchedMode then
      b.choosing b.runtime.previousMode
    else []
  else []

def followingSwitch (enabled : Bool) : List Reconfiguration :=
  if enabled = b.isEnabled then [] else if enabled then b.enabling else b.disabling

def followingMode (m : Mode) : List Reconfiguration :=
  if m = b.runtime.requestedMode then [] else b.choosing m

def following (report : PeerReport) : List Reconfiguration :=
  if b.runtime.peerInCase then []
  else b.followingSwitch report.enabled ++ (b.followSwitch report.enabled).followingMode report.mode

/-- The reconfigurations of an event that goes by the state. -/
def reconfigurationsInState : Event → List Reconfiguration
  | .powerOn => if b.runtime.state = .powerOff then b.poweringOn else []
  | .powerOff => if b.isEnabled then b.poweringOff else []
  | .enable => b.enabling
  | .disable => b.disabling
  | .setMode m => b.choosing m
  | .enterTuning => b.leaving
  | .enterAdaptiveTuning => if b.config.adaptive then b.leaving else []
  | .callStarted => b.calling
  | .callEnded => b.hangingUp
  | .timerExpired .muteBeforeDisable => if b.isEnabled then [⟨b, false⟩] else []
  | .timerExpired .muteBeforeMode => if b.isEnabled then [⟨b, b.runtime.requestedEnabled⟩] else []
  | _ => []

/-- The reconfigurations that an event makes, in order. -/
def reconfigurations : Event → List Reconfiguration
  | .peerState report => b.following report
  | .placed .own .inCase =>
    if b.runtime.actualEnabled then
      (b.setRuntime fun r => { r with placement := .inCase }).disabling
    else []
  | .setNextMode => b.choosing (b.runtime.currentMode.next b.runtime.numModes)
  | e => b.reconfigurationsInState e

end Reconfigurations

/-! ### What comes meanwhile -/

def meanwhile : Extent where
  keeps r :=
    { currentMode := r.currentMode, requestedMode := r.requestedMode,
      previousMode := r.previousMode, numModes := r.numModes, actualEnabled := r.actualEnabled,
      clockBoost := r.clockBoost }
  timer _ := true
  audio
    | .quietModeOn | .quietModeOff | .gentleMute | .updateInEar _ | .applyPathGains
    | .attachTuningLink _ | .detachTuningLink | .enterTuning .. | .exitTuning _ => true
    | _ => false
  talks := true
  tells
    | .stateChanged _ | .modeChanged _ | .adaptiveStateChanged _ => false
    | _ => true

inductive Route (a : Earbud) : List Reconfiguration → Earbud → Prop where
  | start : Route a [] a
  | touch {l : List Reconfiguration} {b c : Earbud} (p : Route a l b) (t : Touch meanwhile b c) :
      Route a l c
  | ask {l : List Reconfiguration} {b : Earbud} (p : Route a l b) (m : Mode)
      (hm : m.index < b.runtime.numModes) :
      Route a l (b.setRuntime fun r => { r with requestedMode := m })
  /-- The mode to go back to after a call is noted. -/
  | remember {l : List Reconfiguration} {b : Earbud} (p : Route a l b) :
      Route a l (b.setRuntime fun r => { r with previousMode := r.currentMode, modeForCall := true })
  | adapt {l : List Reconfiguration} {b : Earbud} (p : Route a l b) : Route a l b.startAdaptive
  | reconfigure {l : List Reconfiguration} {b : Earbud} (p : Route a l b) (on : Bool) :
      Route a (l ++ [⟨b, on⟩]) (b.reconfigure on b.runtime.requestedMode).1

variable {a b c : Earbud} {e : Event} {l l' : List Reconfiguration}

theorem parting_within_meanwhile : parting.Within meanwhile where
  keeps _ _ h := (congrArg meanwhile.keeps h :)
  timer _ _ := rfl
  audio _ h := by cases h
  talks _ := rfl
  tells _ h := by cases h
  saves _ := rfl

theorem meanwhile_adopt (b : Earbud) (decision : QuietMode.Synchronizer.Decision) :
    Work meanwhile b (b.adopt decision) :=
  work_adopt b decision rfl (fun _ => rfl) rfl rfl

theorem meanwhile_announceBothGains (b : Earbud) (ofPeer : UInt8) :
    Work meanwhile b (b.announceBothGains ofPeer) :=
  .single (.announce _ (by cases b.config.side <;> rfl))

theorem meanwhile_refreshLeakthrough (b : Earbud) : Work meanwhile b b.refreshLeakthrough := by
  unfold refreshLeakthrough storeLeakthrough
  split
  · split
    · exact .single (.runtime _ rfl)
    · exact .refl
  · exact .refl

theorem meanwhile_pollGain (b : Earbud) : Work meanwhile b b.pollGain := by
  unfold pollGain
  split
  · have hread : Work meanwhile b
        (b.setRuntime fun r => { r with feedForwardGain := b.audio.feedForwardGain }) :=
      .single (.runtime _ rfl)
    have hpolled := (hread.tail (.arm .gainPoll b.config.timing.gainPoll rfl)).tail
      (.announce (.feedForwardGain b.audio.feedForwardGain))
    dsimp only
    split
    · exact hpolled.trans (meanwhile_announceBothGains _ _)
    · exact hpolled
  · exact .refl

theorem meanwhile_finishFollowUps (b : Earbud) : Work meanwhile b b.finishFollowUps :=
  finishFollowUps_induction b (.single (.defer [] rfl)) fun x _ h => h.trans (meanwhile_adopt x _)

namespace Route

theorem work (p : Route a l b) (w : Work meanwhile b c) : Route a l c := by
  induction w with
  | refl => exact p
  | tail _ t ih => exact ih.touch t

theorem trans (p : Route a l b) (q : Route b l' c) : Route a (l ++ l') c := by
  induction q with
  | start => rwa [List.append_nil]
  | touch _ t ih => exact ih.touch t
  | ask _ m hm ih => exact ih.ask m hm
  | remember _ ih => exact ih.remember
  | adapt _ ih => exact ih.adapt
  | reconfigure _ on ih =>
    rw [← List.append_assoc]
    exact ih.reconfigure on

theorem setRuntime (p : Route a l b) (change : Runtime → Runtime)
    (h : meanwhile.keeps (change b.runtime) = meanwhile.keeps b.runtime) :
    Route a l (b.setRuntime change) :=
  p.touch (.runtime change h)

theorem enter (p : Route a l b) (next : Lifecycle) : Route a l (b.enter next) :=
  p.work ((parts_enter b next).mono parting_within_meanwhile)

theorem stopSettleTimers (p : Route a l b) : Route a l b.stopSettleTimers :=
  p.work ((parts_stopSettleTimers b).mono parting_within_meanwhile)

theorem adopt (p : Route a l b) (decision : QuietMode.Synchronizer.Decision) :
    Route a l (b.adopt decision) :=
  p.work (meanwhile_adopt b decision)

theorem config (p : Route a l b) : b.config = a.config := by
  induction p with
  | start => rfl
  | touch _ t ih => exact (Work.config (.single t)).trans ih
  | ask _ m hm ih => exact ih
  | remember _ ih => exact ih
  | adapt _ ih => exact (work_startAdaptive _).config.trans ih
  | reconfigure _ on ih => exact (work_reconfigure _ on _).config.trans ih

theorem switchOff (p : Route a l b) {next : Lifecycle} (hn : next ≠ .powerOff) :
    Route a (l ++ [⟨b, false⟩]) (b.switchOff next).1 := by
  have hoff := p.reconfigure false
  unfold Earbud.switchOff
  dsimp only
  rw [if_neg hn]
  refine Route.setRuntime ?_ _ rfl
  split
  · exact hoff.setRuntime _ rfl
  · exact hoff.enter next

end Route

/-! ### Requests -/

theorem route_requestEnable (b : Earbud) : Route b b.enabling b.requestEnable.1 := by
  unfold enabling requestEnable
  split
  · rename_i hs
    have hasked : Route b [] (b.setRuntime fun r => { r with requestedEnabled := true }) :=
      Route.start.setRuntime _ rfl
    have hon := hasked.reconfigure true
    rw [hs]
    dsimp only
    split
    · exact hon.enter .enabled
    · exact hon
  · split
    · contradiction
    · exact .start

theorem route_requestDisable (b : Earbud) : Route b b.disabling b.requestDisable.1 := by
  unfold requestDisable
  split <;> rename_i hs
  · have hon : b.isEnabled = true := b.isEnabled_iff.mpr hs
    have hasked : Route b []
        (b.setRuntime fun r => { r with requestedEnabled := false }).stopSettleTimers :=
      (Route.start.setRuntime _ rfl).stopSettleTimers
    dsimp only
    split <;> rename_i hruns
    · have hruns : b.audio.adaptive = true := hruns
      rw [disabling, if_neg (by simp [hruns])]
      exact (hasked.touch (.command .gentleMute rfl)).touch (.arm _ _ rfl)
    · have hruns : b.audio.adaptive = false := Bool.eq_false_iff.mpr hruns
      rw [disabling, if_pos (by simp [hon, hruns])]
      exact hasked.switchOff (by decide)
  · have hs : b.runtime.state ≠ .enabled := hs
    rw [disabling, if_neg (by simp [isEnabled_iff, hs])]
    exact .start

theorem choosing_of_not_enabled {b : Earbud} (hs : b.runtime.state ≠ .enabled) (m : Mode) :
    b.choosing m = [] :=
  if_neg (by simp [isEnabled_iff, hs])

theorem route_requestMode (b : Earbud) (m : Mode) :
    Route b (b.choosing m) (b.requestMode m).1 := by
  have hask : ¬b.runtime.numModes ≤ m.index →
      Route b [] (b.setRuntime fun r => { r with requestedMode := m }) := by
    intro hm
    exact Route.start.ask m (UInt8.not_le.mp hm)
  unfold requestMode
  split <;> rename_i hs
  · rw [choosing_of_not_enabled (by simp [hs])]
    split <;> rename_i hm
    · exact .start
    · exact (hask hm).work (meanwhile_refreshLeakthrough _)
  · have hon : b.isEnabled = true := b.isEnabled_iff.mpr hs
    split <;> rename_i hm
    · rw [choosing, if_neg (by simp [UInt8.not_lt.mpr hm])]
      exact .start
    · dsimp only
      split <;> rename_i hcurrent
      · have hcurrent : m = b.runtime.currentMode := hcurrent
        rw [choosing, if_neg (by simp [← hcurrent])]
        exact hask hm
      · split <;> rename_i hruns
        · have hruns : b.audio.adaptive = true := hruns
          rw [choosing, if_neg (by simp [hruns])]
          exact ((hask hm).touch (.command .gentleMute rfl)).touch (.arm _ _ rfl)
        · have hruns : b.audio.adaptive = false := Bool.eq_false_iff.mpr hruns
          have hcurrent : m ≠ b.runtime.currentMode := hcurrent
          rw [choosing, if_pos (by simp [hon, hruns, hcurrent, UInt8.not_le.mp hm])]
          exact (hask hm).reconfigure b.runtime.requestedEnabled
  · rw [choosing_of_not_enabled hs]
    exact .start

theorem route_changeMode (b : Earbud) (m : Mode) : Route b (b.choosing m) (b.changeMode m).1 := by
  rw [changeMode_fst]
  split
  · exact (route_requestMode b m).adopt _
  · exact route_requestMode b m

theorem route_chooseMode (b : Earbud) (m : Mode) : Route b (b.choosing m) (b.chooseMode m).1 := by
  rw [chooseMode_fst]
  split
  · exact ((route_requestMode b m).adopt _).setRuntime _ rfl
  · exact route_requestMode b m

theorem route_chooseEnable (b : Earbud) : Route b b.enabling b.chooseEnable.1 := by
  rcases chooseEnable_fst b with h | h <;> rw [h]
  · exact route_requestEnable b
  · exact (route_requestEnable b).setRuntime _ rfl

theorem route_startCall (b : Earbud) : Route b b.calling b.startCall.1 := by
  have hcleared : Route b [] (b.setRuntime .clearCall) := Route.start.setRuntime _ rfl
  unfold calling startCall
  split
  · dsimp only
    split <;> rename_i hon
    · split
      · exact hcleared
      · exact hcleared.remember.trans (route_changeMode _ _)
    · have hs : (b.setRuntime .clearCall).runtime.state ≠ .enabled := fun h =>
        hon ((isEnabled_iff _).mpr h)
      have hmode := hcleared.trans (route_changeMode (b.setRuntime .clearCall) b.config.call.mode)
      rw [choosing_of_not_enabled hs] at hmode
      -- Whether noise control is then switched on goes by whether the mode was accepted.
      generalize hmoded : (b.setRuntime .clearCall).changeMode b.config.call.mode = moded at hmode
      have hconfig : (b.setRuntime .clearCall).config.call.mode = b.config.call.mode := rfl
      rw [hconfig, hmoded]
      obtain ⟨after, _ | _⟩ := moded
      · exact hmode
      · exact (hmode.setRuntime _ rfl).trans (route_requestEnable _)
  · exact .start

theorem route_endCall (b : Earbud) : Route b b.hangingUp b.endCall.1 := by
  unfold hangingUp endCall
  split
  · dsimp only
    refine Route.setRuntime ?_ _ rfl
    split
    · split
      · exact route_requestDisable b
      · exact .start
    · split
      · exact route_changeMode b _
      · exact .start
  · exact .start

theorem route_followSwitch (b : Earbud) (enabled : Bool) :
    Route b (b.followingSwitch enabled) (b.followSwitch enabled) := by
  unfold followingSwitch followSwitch
  split
  · exact .start
  · split
    · exact route_chooseEnable b
    · exact route_requestDisable b

theorem route_followMode (b : Earbud) (m : Mode) :
    Route b (b.followingMode m) (b.followMode m) := by
  unfold followingMode followMode
  split
  · exact .start
  · exact route_chooseMode b m

/-- The two things in which a peer, not in its case, is followed before its leakthrough gain. -/
theorem route_following (hcase : b.runtime.peerInCase = false) (report : PeerReport) :
    Route b (b.following report)
      ((b.followSwitch report.enabled).followMode report.mode) := by
  unfold following
  rw [if_neg (by simp [hcase])]
  exact (route_followSwitch b report.enabled).trans (route_followMode _ report.mode)

/-! ### Events -/

theorem route_enterTuning (b : Earbud) (kind : TuningKind) :
    Route b b.leaving (b.enterTuning kind).1 := by
  unfold leaving
  refine enterTuning_induction b kind (fun hs => ?_) (fun hs => ?_) fun _ h =>
    h.touch (.command _ rfl)
  · rw [if_pos ((isEnabled_iff b).mpr hs)]
    exact Route.start.stopSettleTimers.switchOff (by cases kind <;> decide)
  · rw [if_neg (by simp [isEnabled_iff, hs])]
    exact Route.start.enter _

theorem route_leaveTuning (b : Earbud) (kind : TuningKind) (next : Lifecycle) :
    Route b [] (b.leaveTuning kind next) := by
  have hleft := (Route.start.touch (.command .detachTuningLink rfl)).touch
    (.command (.exitTuning kind) rfl) (a := b)
  exact (hleft.setRuntime _ rfl).enter next

theorem route_switchPowerOn (b : Earbud) : Route b b.poweringOn b.switchPowerOn := by
  have hset : Route b [] (b.setRuntime fun r => { r with powerOn := true }) :=
    Route.start.setRuntime _ rfl
  unfold switchPowerOn poweringOn
  dsimp only
  refine Route.enter ?_ _
  cases hasked : b.runtime.requestedEnabled with
  | true =>
    rw [if_pos rfl, if_pos (by exact hasked)]
    exact hset.reconfigure true
  | false =>
    rw [if_neg (by simp), if_neg (by exact Bool.eq_false_iff.mp hasked)]
    exact hset

theorem route_whileAdaptive (b : Earbud) (decision : QuietMode.Synchronizer.Decision) :
    Route b [] (b.whileAdaptive decision) := by
  unfold whileAdaptive
  split
  · exact Route.start.adopt decision
  · exact .start

theorem isEnabled_eq_false (hs : b.runtime.state ≠ .enabled) : b.isEnabled = false :=
  Bool.eq_false_iff.mpr fun h => hs (b.isEnabled_iff.mp h)

theorem disabling_of_not_enabled (hs : b.runtime.state ≠ .enabled) : b.disabling = [] := by
  simp [disabling, isEnabled_eq_false hs]

/-- Where noise control is neither off nor on, only the power switches anything. -/
theorem reconfigurationsInState_eq_nil (hoff : b.runtime.state ≠ .disabled)
    (hon : b.runtime.state ≠ .enabled) {e : Event}
    (hpower : e = .powerOn → b.runtime.state ≠ .powerOff) : b.reconfigurationsInState e = [] := by
  -- A call asks for a mode first, and that is refused here.
  have hrefused : ∀ m, ((b.setRuntime .clearCall).changeMode m).2.isOk = false := by
    intro m
    unfold changeMode requestMode
    split <;> rename_i heq
    · split at heq <;> first | contradiction | cases heq
    · split <;> first | contradiction | rfl
  cases e with
  | powerOn => exact if_neg (hpower rfl)
  | powerOff => simp [reconfigurationsInState, isEnabled_eq_false hon]
  | enable => exact if_neg hoff
  | disable => exact disabling_of_not_enabled hon
  | setMode m => exact choosing_of_not_enabled hon m
  | enterTuning => simp [reconfigurationsInState, leaving, isEnabled_eq_false hon]
  | enterAdaptiveTuning => simp [reconfigurationsInState, leaving, isEnabled_eq_false hon]
  | callStarted =>
    have hcleared : (b.setRuntime .clearCall).isEnabled = false := isEnabled_eq_false hon
    simp [reconfigurationsInState, calling, hcleared, hrefused]
  | callEnded =>
    simp [reconfigurationsInState, hangingUp, isEnabled_eq_false hon, choosing_of_not_enabled hon]
  | timerExpired k => cases k <;> simp [reconfigurationsInState, isEnabled_eq_false hon]
  | _ => rfl

theorem route_handleUninitialised (hs : b.runtime.state = .uninitialised) (he : e ≠ .initialise) :
    Route b (b.reconfigurationsInState e) (b.handleUninitialised e).1 := by
  have hrefused : b.handleUninitialised e = b.refuse e := by
    unfold handleUninitialised
    split
    · exact absurd rfl he
    · rfl
  rw [hrefused, reconfigurationsInState_eq_nil (by simp [hs]) (by simp [hs]) fun _ => by simp [hs]]
  exact .start

theorem route_handlePowerOff (hs : b.runtime.state = .powerOff) (e : Event) :
    Route b (b.reconfigurationsInState e) (b.handlePowerOff e).1 := by
  unfold handlePowerOff
  split <;> rename_i he
  · rw [reconfigurationsInState, if_pos hs]
    exact route_switchPowerOn b
  · rw [reconfigurationsInState_eq_nil (by simp [hs]) (by simp [hs]) fun h => absurd h he]
    exact .start

theorem route_handleDisabled (hs : b.runtime.state = .disabled) (e : Event) :
    Route b (b.reconfigurationsInState e) (b.handleDisabled e).1 := by
  have hon : b.runtime.state ≠ .enabled := by simp [hs]
  cases e with
  | powerOn =>
    rw [reconfigurationsInState, if_neg (by simp [hs])]
    exact .start
  | powerOff =>
    rw [reconfigurationsInState, isEnabled_eq_false hon]
    exact Route.enter (Route.start.setRuntime _ rfl) _
  | enable => exact route_requestEnable b
  | disable =>
    rw [reconfigurationsInState, disabling_of_not_enabled hon]
    exact .start
  | setMode m => exact route_requestMode b m
  | enterTuning => exact route_enterTuning b .fixed
  | enterAdaptiveTuning =>
    unfold reconfigurationsInState handleDisabled
    dsimp only
    split
    · exact route_enterTuning b .adaptive
    · exact .start
  | callStarted => exact route_startCall b
  | callEnded => exact route_endCall b
  | timerExpired k =>
    cases k <;> simp only [reconfigurationsInState, isEnabled_eq_false hon] <;> exact .start
  | _ => exact .start

theorem route_handleEnabled (hs : b.runtime.state = .enabled) (hoff : e ≠ .powerOff)
    (hgain : e.setsGain = false) :
    Route b (b.reconfigurationsInState e) (b.handleEnabled e).1 := by
  have hon : b.isEnabled = true := b.isEnabled_iff.mpr hs
  cases e with
  | powerOn =>
    rw [reconfigurationsInState, if_neg (by simp [hs])]
    exact .start
  | powerOff => exact absurd rfl hoff
  | enable =>
    rw [reconfigurationsInState, enabling, if_neg (by simp [hs])]
    exact .start
  | disable => exact route_requestDisable b
  | setMode m => exact route_requestMode b m
  | enterTuning => exact route_enterTuning b .fixed
  | enterAdaptiveTuning =>
    unfold reconfigurationsInState handleEnabled
    dsimp only
    split
    · exact route_enterTuning b .adaptive
    · exact .start
  | setLeakthroughGain gain => cases hgain
  | callStarted => exact route_startCall b
  | callEnded => exact route_endCall b
  | silenceDetected => exact route_whileAdaptive b _
  | silenceCleared => exact route_whileAdaptive b _
  | quietModeFire d => exact route_whileAdaptive b _
  | timerExpired k =>
    cases k with
    | configSettle => exact Route.start.adapt
    | muteBeforeDisable =>
      rw [reconfigurationsInState, if_pos hon]
      exact Route.start.switchOff (by decide)
    | muteBeforeMode =>
      rw [reconfigurationsInState, if_pos hon]
      exact Route.start.reconfigure b.runtime.requestedEnabled
    | pathGainSettle => exact Route.start.touch (.command .applyPathGains rfl)
    | _ => exact .start
  | _ => exact .start

theorem route_handleTuning (kind : TuningKind) (hs : b.runtime.state = tuningState kind) (e : Event) :
    Route b (b.reconfigurationsInState e) (b.handleTuning kind e).1 := by
  have hnone : b.reconfigurationsInState e = [] := by
    apply reconfigurationsInState_eq_nil <;> cases kind <;> simp [hs, tuningState]
  rw [hnone]
  rcases handleTuning_fst b kind e with he | ⟨rate, he⟩ | he | he <;> rw [he]
  · exact .start
  · exact (Route.start.setRuntime _ rfl).touch (.command (.enterTuning kind rate) rfl)
  · exact route_leaveTuning b kind _
  · exact route_leaveTuning b kind _

theorem route_handleInState (hs : e = .initialise → b.runtime.state ≠ .uninitialised)
    (hoff : e = .powerOff → b.runtime.state ≠ .enabled) (hgain : e.setsGain = false) :
    Route b (b.reconfigurationsInState e) (b.handleInState e).1 := by
  unfold handleInState
  split <;> rename_i hstate
  · exact route_handleUninitialised hstate fun he => hs he hstate
  · exact route_handlePowerOff ‹_› e
  · exact route_handleDisabled ‹_› e
  · exact route_handleEnabled hstate (fun he => hoff he hstate) hgain
  · exact route_handleTuning .fixed ‹_› e
  · exact route_handleTuning .adaptive ‹_› e

theorem route_ownPlaced (b : Earbud) (p : Placement) :
    Route b (b.reconfigurations (.placed .own p)) (b.ownPlaced p) := by
  have hset : Route b [] (b.setRuntime fun r => { r with placement := p }) :=
    Route.start.setRuntime _ rfl
  unfold ownPlaced
  dsimp only
  split <;> rename_i hwas
  · have hactual : b.runtime.actualEnabled = true := (Bool.and_eq_true_iff.mp hwas).1
    cases p with
    | inCase =>
      rw [reconfigurations, if_pos hactual]
      exact hset.trans (route_requestDisable _)
    | _ =>
      dsimp only
      split
      · exact hset.touch (.command _ rfl)
      · exact hset
  · cases p with
    | inCase =>
      rw [reconfigurations]
      split <;> rename_i hactual
      -- The guard failed though the hardware is on, so noise control is not enabled.
      · rw [disabling_of_not_enabled]
        · exact hset
        · intro hs
          exact hwas (Bool.and_eq_true_iff.mpr ⟨hactual, (isEnabled_iff _).mpr hs⟩)
      · exact hset
    | _ => exact hset

theorem route_peerPlaced (b : Earbud) (p : Placement) : Route b [] (b.peerPlaced p) := by
  have hset : Route b [] (b.setRuntime fun r => { r with peerInCase := p == .inCase }) :=
    Route.start.setRuntime _ rfl
  unfold peerPlaced
  dsimp only
  split
  · split
    · have htold := hset.adopt
        (b.setRuntime fun r => { r with peerInCase := p == .inCase }).quietMode.reset
      exact (htold.work (meanwhile_announceBothGains _ _)).touch (.arm .gainPoll _ rfl)
    · exact hset.adopt _
  · exact hset

theorem route_handle (hs : e = .initialise → b.runtime.state ≠ .uninitialised)
    (hoff : e = .powerOff → b.runtime.state ≠ .enabled) (hgain : e.setsGain = false) :
    Route b (b.reconfigurations e) (b.handle e).1 := by
  have hin := route_handleInState hs hoff hgain
  cases e with
  | peerRecord r =>
    show Route b [] (b.receiveRecord r)
    unfold receiveRecord
    split
    · exact .start
    · exact Route.start.adopt _
  | peerState report => cases hgain
  | peerFeedForwardGain gain => exact Route.start.work (meanwhile_announceBothGains b gain)
  | peerLinkLost => exact Route.start.adopt _
  | placed whose p =>
    cases whose with
    | own => exact route_ownPlaced b p
    | peer => exact route_peerPlaced b p
  | timerExpired k =>
    cases k with
    | gainPoll => exact Route.start.work (meanwhile_pollGain b)
    | quietMode d => exact route_handleInState (e := .quietModeFire d) nofun nofun rfl
    | _ => exact hin
  | enable => exact route_chooseEnable b
  | setMode m => exact route_chooseMode b m
  | setNextMode => exact route_chooseMode b _
  | _ => exact hin

/-! ### How an event ends -/

/-- How an event ends for an earbud that its route has led from `b` to `x`. -/
inductive Ending (b x : Earbud) : Event → Earbud → Prop where
  | none {e : Event} (he : e = .powerOff → b.runtime.state ≠ .enabled) : Ending b x e x
  | level {e : Event} (he : e.setsGain = true) (gain : UInt8) : Ending b x e (x.setLeakthrough gain)
  | part (hs : b.runtime.state = .enabled) :
      Ending b x .powerOff
        (((x.setRuntime fun r => { r with actualEnabled := false }).enter .powerOff).setRuntime
          .clearUserFlags)

/-- An event leads through its reconfigurations to its ending. -/
def Arrives (b : Earbud) (e : Event) (y : Earbud) : Prop :=
  ∃ x, Route b (b.reconfigurations e) x ∧ Ending b x e y

theorem arrives_powerOffEnabled (hs : b.runtime.state = .enabled) :
    Arrives b .powerOff b.powerOffEnabled.1 := by
  have hasked : Route b []
      (b.setRuntime fun r => { r with powerOn := false, requestedEnabled := true }) :=
    Route.start.setRuntime _ rfl
  have hdriven := hasked.stopSettleTimers.reconfigure false
  have hlist : b.reconfigurations .powerOff = b.poweringOff := if_pos (b.isEnabled_iff.mpr hs)
  refine ⟨_, ?_, .part hs⟩
  rw [hlist]
  exact hdriven

theorem arrives_followPeer (b : Earbud) (report : PeerReport) :
    Arrives b (.peerState report) (b.followPeer report) := by
  cases hcase : b.runtime.peerInCase with
  | true =>
    refine ⟨b, ?_, ?_⟩
    · rw [show b.reconfigurations (.peerState report) = [] from if_pos hcase]
      exact .start
    · rw [followPeer, if_pos hcase]
      exact .none nofun
  | false =>
    refine ⟨_, route_following hcase report, ?_⟩
    rw [followPeer_eq b report hcase]
    unfold followLeakthrough
    split
    · exact .none nofun
    · exact .level rfl _

theorem arrives_setLeakthroughGain (b : Earbud) (gain : UInt8) :
    Arrives b (.setLeakthroughGain gain) (b.handle (.setLeakthroughGain gain)).1 := by
  refine ⟨b, .start, ?_⟩
  show Ending b b _ (b.handleInState _).1
  unfold handleInState
  split
  · exact .none nofun
  · exact .none nofun
  · exact .none nofun
  · exact .level rfl gain
  · exact .none nofun
  · exact .none nofun

theorem arrives_handle (hs : e = .initialise → b.runtime.state ≠ .uninitialised) :
    Arrives b e (b.handle e).1 := by
  cases hgain : e.setsGain with
  | true =>
    cases e with
    | peerState report => exact arrives_followPeer b report
    | setLeakthroughGain gain => exact arrives_setLeakthroughGain b gain
    | _ => cases hgain
  | false =>
    by_cases hoff : e = .powerOff ∧ b.runtime.state = .enabled
    · obtain ⟨rfl, hstate⟩ := hoff
      have hhandle : b.handle .powerOff = b.powerOffEnabled := by
        show b.handleInState .powerOff = _
        simp only [handleInState, hstate]
        rfl
      rw [hhandle]
      exact arrives_powerOffEnabled hstate
    · have hstays : e = .powerOff → b.runtime.state ≠ .enabled := fun he hon => hoff ⟨he, hon⟩
      exact ⟨_, route_handle hs hstays hgain, .none hstays⟩

/-- An event brings an earbud through its reconfigurations to its ending, unless it initialises it; what
follows from it comes last. -/
theorem dispatch_arrives (b : Earbud) (e : Event) :
    (e = .initialise ∧ b.runtime.state = .uninitialised ∧ Work meanwhile b.start.1 (b.dispatch e).1) ∨
      ∃ y, Arrives b e y ∧ Work meanwhile y (b.dispatch e).1 := by
  have wrest : Work meanwhile (b.handle e).1 (b.dispatch e).1 := meanwhile_finishFollowUps _
  by_cases hinit : e = .initialise ∧ b.runtime.state = .uninitialised
  · obtain ⟨rfl, hs⟩ := hinit
    rw [handle_initialise b hs] at wrest
    exact Or.inl ⟨rfl, hs, wrest⟩
  · exact Or.inr ⟨_, arrives_handle fun he hs => hinit ⟨he, hs⟩, wrest⟩

end Earbud

end NoiseControl
