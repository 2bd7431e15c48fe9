import NoiseControl.Proofs.Earbud.Classification

/-!
# Without power

Until it is initialised and while its power is off an earbud takes no request.  All that events do
then, but for the one that ends it, is to negotiate and to set and report gains.  Only its own expiry
touches the gain poll.
-/

namespace NoiseControl.Earbud

variable {b : Earbud} {e : Event}

/-! ### Requests are refused -/

theorem requestEnable_refused (hs : b.runtime.state ≠ .disabled) :
    b.requestEnable = b.refuse .enable := by
  unfold requestEnable
  split
  · contradiction
  · rfl

theorem requestDisable_refused (hs : b.runtime.state ≠ .enabled) :
    b.requestDisable = b.refuse .disable := by
  unfold requestDisable
  split
  · contradiction
  · rfl

theorem requestMode_refused (hoff : b.runtime.state ≠ .disabled) (hon : b.runtime.state ≠ .enabled)
    (m : Mode) : b.requestMode m = b.refuse (.setMode m) := by
  unfold requestMode
  split
  · contradiction
  · contradiction
  · rfl

theorem chooseEnable_refused (hs : b.runtime.state ≠ .disabled) : b.chooseEnable.1 = b := by
  unfold chooseEnable
  rw [requestEnable_refused hs]
  rfl

theorem chooseMode_refused (hoff : b.runtime.state ≠ .disabled) (hon : b.runtime.state ≠ .enabled)
    (m : Mode) : (b.chooseMode m).1 = b := by
  rw [chooseMode_fst, requestMode_refused hoff hon]
  rfl

theorem followSwitch_refused (hoff : b.runtime.state ≠ .disabled) (hon : b.runtime.state ≠ .enabled)
    (enabled : Bool) : b.followSwitch enabled = b := by
  unfold followSwitch
  rw [chooseEnable_refused hoff, requestDisable_refused hon]
  exact (ite_congr rfl (fun _ => rfl) fun _ => ite_self b).trans (ite_self b)

theorem followMode_refused (hoff : b.runtime.state ≠ .disabled) (hon : b.runtime.state ≠ .enabled)
    (m : Mode) : b.followMode m = b := by
  unfold followMode
  rw [chooseMode_refused hoff hon, ite_self]

theorem handleInState_unpowered (hs : b.runtime.state.isPowered = false)
    (hinit : e = .initialise → b.runtime.state ≠ .uninitialised)
    (hpower : e = .powerOn → b.runtime.state ≠ .powerOff) : (b.handleInState e).1 = b := by
  unfold handleInState
  split <;> rename_i heq
  · unfold handleUninitialised
    split
    · exact absurd heq (hinit rfl)
    · rfl
  · unfold handlePowerOff
    split
    · exact absurd heq (hpower rfl)
    · rfl
  all_goals
    rw [heq] at hs
    cases hs

/-! ### Events -/

theorem aloof_followPeer (hoff : b.runtime.state ≠ .disabled) (hon : b.runtime.state ≠ .enabled)
    (report : PeerReport) : Work aloof b (b.followPeer report) := by
  cases hcase : b.runtime.peerInCase with
  | true =>
    unfold followPeer
    rw [if_pos hcase]
  | false =>
    rw [followPeer_eq b report hcase, followSwitch_refused hoff hon, followMode_refused hoff hon]
    exact (levels_followLeakthrough b _).mono levels_within_aloof

theorem aloof_ownPlaced (hoff : b.runtime.actualEnabled = false) (p : Placement) :
    Work aloof b (b.ownPlaced p) := by
  have hidle : ¬((b.setRuntime fun r => { r with placement := p }).runtime.actualEnabled &&
      (b.setRuntime fun r => { r with placement := p }).isEnabled) = true := by
    simp [setRuntime, hoff]
  unfold ownPlaced
  dsimp only
  rw [if_neg hidle]
  exact .single (.runtime _ rfl)

theorem aloof_peerPlaced (hoff : b.runtime.actualEnabled = false) (p : Placement) :
    Work aloof b (b.peerPlaced p) := by
  have hset : Work aloof b (b.setRuntime fun r => { r with peerInCase := p == .inCase }) :=
    .single (.runtime _ rfl)
  have hreset := hset.trans (work_adopt_aloof _ (b.setRuntime fun r =>
    { r with peerInCase := p == .inCase }).quietMode.reset)
  unfold peerPlaced
  dsimp only
  split
  · split <;> rename_i hruns
    · have hkept := congrArg Runtime.actualEnabled (Work.keeps hreset)
      have hon := (Bool.and_eq_true_iff.mp hruns).1
      exact nomatch hoff.symm.trans (hkept.symm.trans hon)
    · exact hreset
  · exact hset

/-- Without power an event that does not end this leaves all alone but the negotiation and the
gains. -/
theorem aloof_handle (hs : b.runtime.state.isPowered = false) (hoff : b.runtime.actualEnabled = false)
    (hinit : e = .initialise → b.runtime.state ≠ .uninitialised)
    (hpower : e = .powerOn → b.runtime.state ≠ .powerOff) (hpoll : e ≠ .timerExpired .gainPoll) :
    Work aloof b (b.handle e).1 := by
  have hdisabled : b.runtime.state ≠ .disabled := fun he => by simp [he, Lifecycle.isPowered] at hs
  have henabled : b.runtime.state ≠ .enabled := fun he => by simp [he, Lifecycle.isPowered] at hs
  have hin : ∀ e', (e' = .initialise → e = .initialise) → (e' = .powerOn → e = .powerOn) →
      Work aloof b (b.handleInState e').1 := by
    intro e' hi hp
    rw [handleInState_unpowered hs (fun he => hinit (hi he)) fun he => hpower (hp he)]
  cases e with
  | peerRecord r =>
    show Work aloof b (b.receiveRecord r)
    unfold receiveRecord
    split
    · exact .refl
    · exact work_adopt_aloof b _
  | peerState report => exact aloof_followPeer hdisabled henabled report
  | peerFeedForwardGain gain => exact (levels_announceBothGains b gain).mono levels_within_aloof
  | peerLinkLost => exact work_adopt_aloof b _
  | placed whose p =>
    cases whose with
    | own => exact aloof_ownPlaced hoff p
    | peer => exact aloof_peerPlaced hoff p
  | timerExpired k =>
    cases k with
    | gainPoll => exact absurd rfl hpoll
    | quietMode d => exact hin (.quietModeFire d) (by simp) (by simp)
    | _ => exact hin _ id id
  | enable =>
    show Work aloof b b.chooseEnable.1
    rw [chooseEnable_refused hdisabled]
  | setMode m =>
    show Work aloof b (b.chooseMode m).1
    rw [chooseMode_refused hdisabled henabled]
  | setNextMode =>
    show Work aloof b (b.chooseMode _).1
    rw [chooseMode_refused hdisabled henabled]
  | _ => exact hin _ id id

end NoiseControl.Earbud
