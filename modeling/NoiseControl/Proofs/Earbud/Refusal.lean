import NoiseControl.Proofs.Earbud.ModeRange

/-!
# A refusal changes nothing

A request is refused when the state does not take it or when there is no such mode.  Both are found
out before anything is done: a request that was taken up can still fail for the hardware, but is not
refused any more, since the modes it goes by are in range.
-/

namespace NoiseControl

/-- The error says that a request was not taken up. -/
def Error.isRefusal : Error → Bool
  | .rejected .. | .modeOutOfRange .. => true
  | _ => false

def Outcome.refused : Outcome → Bool
  | .ok () => false
  | .error e => e.isRefusal

namespace Earbud

variable {b : Earbud}

/-- What came of an event is not a refusal; or it is, and nothing was done.  That there is no such
mode is said of the mode of the event only. -/
inductive Verdict (b : Earbud) (e : Event) : Earbud × Outcome → Prop where
  | taken {y : Earbud × Outcome} (h : y.2.refused = false) : Verdict b e y
  | rejected (e' : Event) : Verdict b e (b.refuse e')
  | outside (m : Mode) (he : e = .setMode m) (hm : b.runtime.numModes ≤ m.index) :
      Verdict b e (b, .error (.modeOutOfRange m b.runtime.numModes))

theorem Verdict.unchanged {e : Event} {y : Earbud × Outcome} (v : Verdict b e y)
    (hr : y.2.refused = true) : y.1 = b := by
  cases v with
  | taken h => simp [h] at hr
  | rejected => rfl
  | outside => rfl

theorem Verdict.relabel {e : Event} {y : Earbud × Outcome} (v : Verdict b e y)
    (h : ∀ m, e ≠ .setMode m) (e' : Event) : Verdict b e' y := by
  cases v with
  | taken hr => exact .taken hr
  | rejected => exact .rejected _
  | outside m he => exact absurd he (h m)

/-- Only a mode that was to be set is said not to be there. -/
theorem Verdict.mode {e : Event} {y : Earbud × Outcome} (v : Verdict b e y) {m : Mode} {count : UInt8}
    (h : y.2 = .error (.modeOutOfRange m count)) :
    e = .setMode m ∧ count = b.runtime.numModes ∧ b.runtime.numModes ≤ m.index := by
  cases v with
  | taken hr =>
    rw [h] at hr
    cases hr
  | rejected => cases h
  | outside m' he hm =>
    cases h
    exact ⟨he, rfl, hm⟩

/-! ### Requests that are taken up -/

theorem taken_reconfigure (on : Bool) {m : Mode} (hm : m.index < b.runtime.numModes) :
    (b.reconfigure on m).2.refused = false := by
  rcases outcome_reconfigure b on m with h | ⟨fault, h⟩ | ⟨-, hout⟩
  · rw [h]
    rfl
  · rw [h]
    rfl
  · exact absurd hm (UInt8.not_lt.mpr hout)

theorem taken_switchOff (h : Ranged b) (next : Lifecycle) : (b.switchOff next).2.refused = false :=
  taken_reconfigure false h.requested

theorem taken_requestEnable (h : Ranged b) (hs : b.runtime.state = .disabled) :
    b.requestEnable.2.refused = false := by
  unfold requestEnable
  rw [hs]
  exact taken_reconfigure (b := b.setRuntime fun r => { r with requestedEnabled := true }) true h.requested

theorem taken_requestDisable (h : Ranged b) (hs : b.runtime.state = .enabled) :
    b.requestDisable.2.refused = false := by
  unfold requestDisable
  rw [hs]
  dsimp only
  split
  · rfl
  · apply taken_switchOff
    exact h.same rfl rfl

theorem taken_requestMode (hs : b.runtime.state = .disabled ∨ b.runtime.state = .enabled) {m : Mode}
    (hm : m.index < b.runtime.numModes) : (b.requestMode m).2.refused = false := by
  have hin : ¬b.runtime.numModes ≤ m.index := UInt8.not_le.mpr hm
  unfold requestMode
  rcases hs with hs | hs <;> rw [hs] <;> dsimp only <;> rw [if_neg hin]
  · rfl
  · split
    · rfl
    · split
      · rfl
      · exact taken_reconfigure (b := b.setRuntime fun r => { r with requestedMode := m }) _ hm

theorem outcome_changeMode (b : Earbud) (m : Mode) : (b.changeMode m).2 = (b.requestMode m).2 := by
  unfold changeMode
  obtain ⟨after, _ | _⟩ := b.requestMode m <;> rfl

theorem outcome_chooseMode (b : Earbud) (m : Mode) : (b.chooseMode m).2 = (b.requestMode m).2 := by
  unfold chooseMode changeMode
  obtain ⟨after, _ | _⟩ := b.requestMode m <;> rfl

theorem state_changeMode (b : Earbud) (m : Mode) :
    (b.changeMode m).1.runtime.state = b.runtime.state := by
  rw [changeMode_fst]
  split
  · exact (state_beside (work_adopt_beside _ _)).trans (state_requestMode b m)
  · exact state_requestMode b m

theorem taken_startCall (h : Ranged b) (hs : b.runtime.state = .disabled ∨ b.runtime.state = .enabled) :
    b.startCall.2.refused = false := by
  unfold startCall
  split <;> rename_i hcall
  · have hmode : b.config.call.mode.index < b.runtime.numModes := by
      rw [h.numModes]
      exact Config.callMode_lt h.checked hcall
    dsimp only
    split <;> rename_i hon
    · split
      · rfl
      · rw [outcome_changeMode]
        apply taken_requestMode
        · exact hs
        · exact hmode
    · have hoff : b.runtime.state = .disabled := hs.resolve_right fun hs => hon (beq_iff_eq.mpr hs)
      have htaken : ((b.setRuntime .clearCall).changeMode b.config.call.mode).2.refused = false := by
        rw [outcome_changeMode]
        exact taken_requestMode (b := b.setRuntime .clearCall) (Or.inl hoff) hmode
      have hranged : Ranged ((b.setRuntime .clearCall).changeMode b.config.call.mode).1 := by
        apply Ranged.changeMode
        exact h.same rfl rfl
      have hstate : ((b.setRuntime .clearCall).changeMode b.config.call.mode).1.runtime.state =
          .disabled := (state_changeMode _ _).trans hoff
      split <;> rename_i heq
      · rw [show (b.setRuntime .clearCall).changeMode b.config.call.mode = _ from heq] at hranged hstate
        apply taken_requestEnable
        · exact hranged.same rfl rfl
        · exact hstate
      · exact htaken
  · rfl

theorem taken_endCall (h : Ranged b) (hs : b.runtime.state = .disabled ∨ b.runtime.state = .enabled) :
    b.endCall.2.refused = false := by
  unfold endCall
  split
  · dsimp only
    split
    · split <;> rename_i hon
      · rw [Bool.and_eq_true] at hon
        exact taken_requestDisable h (eq_of_beq hon.2)
      · rfl
    · split
      · rw [outcome_changeMode]
        exact taken_requestMode hs h.previous
      · rfl
  · rfl

theorem taken_enterTuning (h : Ranged b) (kind : TuningKind) : (b.enterTuning kind).2.refused = false := by
  have hleft : (if b.isEnabled then b.stopSettleTimers.switchOff (tuningState kind)
      else (b.enter (tuningState kind), .ok ())).2.refused = false := by
    split
    · exact taken_switchOff (b := b.stopSettleTimers) (h.same rfl rfl) (tuningState kind)
    · rfl
  unfold enterTuning
  dsimp only
  generalize (if b.isEnabled then b.stopSettleTimers.switchOff (tuningState kind)
    else (b.enter (tuningState kind), .ok ())) = left at hleft ⊢
  obtain ⟨left, _ | _⟩ := left
  · exact hleft
  · rfl

/-! ### Requests that may be refused -/

/-- The mode is in range and taken up or not, or it is not in range. -/
theorem requestMode_cases (b : Earbud) (m : Mode) :
    (b.requestMode m).2.refused = false ∨ b.requestMode m = b.refuse (.setMode m) ∨
      b.runtime.state ≠ .uninitialised ∧ b.runtime.numModes ≤ m.index ∧
        b.requestMode m = (b, .error (.modeOutOfRange m b.runtime.numModes)) := by
  by_cases hs : b.runtime.state = .disabled ∨ b.runtime.state = .enabled
  · by_cases hin : m.index < b.runtime.numModes
    · exact Or.inl (taken_requestMode hs hin)
    · have hout : b.runtime.numModes ≤ m.index := UInt8.not_lt.mp hin
      refine Or.inr (Or.inr ⟨?_, hout, ?_⟩)
      · rcases hs with hs | hs <;> rw [hs] <;> decide
      · unfold requestMode
        rcases hs with hs | hs <;> rw [hs] <;> exact if_pos hout
  · rw [not_or] at hs
    refine Or.inr (Or.inl ?_)
    unfold requestMode
    split
    · exact absurd ‹_› hs.1
    · exact absurd ‹_› hs.2
    · rfl

theorem chooseMode_of_error {m : Mode} {x : Earbud} {fault : Error}
    (h : b.requestMode m = (x, .error fault)) : b.chooseMode m = (x, .error fault) := by
  unfold chooseMode changeMode
  rw [h]

theorem verdict_requestMode (b : Earbud) (m : Mode) : Verdict b (.setMode m) (b.requestMode m) := by
  rcases requestMode_cases b m with h | h | ⟨-, hm, h⟩
  · exact .taken h
  · rw [h]
    exact .rejected _
  · rw [h]
    exact .outside m rfl hm

theorem verdict_chooseMode (b : Earbud) (m : Mode) : Verdict b (.setMode m) (b.chooseMode m) := by
  rcases requestMode_cases b m with h | h | ⟨-, hm, h⟩
  · exact .taken (by rw [outcome_chooseMode, h])
  · rw [chooseMode_of_error h]
    exact .rejected _
  · rw [chooseMode_of_error h]
    exact .outside m rfl hm

theorem verdict_chooseNextMode (h : b.runtime.state ≠ .uninitialised → Ranged b) :
    Verdict b .setNextMode (b.chooseMode (b.runtime.currentMode.next b.runtime.numModes)) := by
  rcases requestMode_cases b (b.runtime.currentMode.next b.runtime.numModes) with
    hr | hr | ⟨hs, hout, -⟩
  · exact .taken (by rw [outcome_chooseMode, hr])
  · rw [chooseMode_of_error hr]
    exact .rejected _
  · have hcurrent := (h hs).current
    exact absurd (Mode.next_lt _ hcurrent) (UInt8.not_lt.mpr hout)

theorem verdict_requestEnable (h : b.runtime.state ≠ .uninitialised → Ranged b) (e : Event) :
    Verdict b e b.requestEnable := by
  by_cases hs : b.runtime.state = .disabled
  · exact .taken (taken_requestEnable (h (by rw [hs]; decide)) hs)
  · unfold requestEnable
    split
    · contradiction
    · exact .rejected _

theorem verdict_chooseEnable (h : b.runtime.state ≠ .uninitialised → Ranged b) (e : Event) :
    Verdict b e b.chooseEnable := by
  have henable := verdict_requestEnable h e
  unfold chooseEnable
  split <;> rename_i heq
  · exact .taken rfl
  · exact henable

/-! ### Events -/

theorem verdict_handleDisabled (h : Ranged b) (hs : b.runtime.state = .disabled) (e : Event) :
    Verdict b e (b.handleDisabled e) := by
  unfold handleDisabled
  split
  · exact .taken rfl
  · exact .taken (taken_requestEnable h hs)
  · exact verdict_requestMode b _
  · exact .taken (taken_enterTuning h _)
  · split
    · exact .taken (taken_enterTuning h _)
    · exact .rejected _
  · exact .taken (taken_startCall h (Or.inl hs))
  · exact .taken (taken_endCall h (Or.inl hs))
  · exact .rejected _

theorem verdict_handleEnabled (h : Ranged b) (hs : b.runtime.state = .enabled) (e : Event) :
    Verdict b e (b.handleEnabled e) := by
  cases e with
  | powerOff =>
    have hranged : Ranged (b.setRuntime fun r =>
        { r with powerOn := false, requestedEnabled := true }).stopSettleTimers := h.same rfl rfl
    exact .taken (taken_switchOff hranged .powerOff)
  | disable => exact .taken (taken_requestDisable h hs)
  | setMode m => exact verdict_requestMode b m
  | enterTuning => exact .taken (taken_enterTuning h _)
  | enterAdaptiveTuning =>
    show Verdict b _ (if b.config.adaptive then b.enterTuning .adaptive else b.refuse _)
    split
    · exact .taken (taken_enterTuning h _)
    · exact .rejected _
  | timerExpired k =>
    cases k with
    | muteBeforeDisable => exact .taken (taken_switchOff h _)
    | muteBeforeMode => exact .taken (taken_reconfigure _ h.requested)
    | configSettle | pathGainSettle => exact .taken rfl
    | _ => exact .rejected _
  | setLeakthroughGain | silenceDetected | silenceCleared | quietModeFire => exact .taken rfl
  | callStarted => exact .taken (taken_startCall h (Or.inr hs))
  | callEnded => exact .taken (taken_endCall h (Or.inr hs))
  | _ => exact .rejected _

theorem verdict_handleTuning (b : Earbud) (kind : TuningKind) (e : Event) :
    Verdict b e (b.handleTuning kind e) := by
  cases e with
  | tuningLinkAttached | powerOff | tuningLinkDetached => exact .taken rfl
  | exitTuning =>
    show Verdict b _ (if kind = .fixed then (b.leaveTuning kind .disabled, .ok ()) else b.refuse _)
    split
    · exact .taken rfl
    · exact .rejected _
  | exitAdaptiveTuning =>
    show Verdict b _ (if kind = .adaptive then (b.leaveTuning kind .disabled, .ok ()) else b.refuse _)
    split
    · exact .taken rfl
    · exact .rejected _
  | _ => exact .rejected _

/-- Initialisation that fails leaves no trace but the probe of the audio chain. -/
theorem start_failed {e : Error} (h : b.start.2 = .error e) :
    e.isRefusal = false ∧ (b.start.1 = b ∨ ∃ m, b.start.1 =
      { b with
        calls := b.calls + 2
        history := .audio (.start b.config.microphones m) false :: b.history }) := by
  rcases start_cases b with ⟨fault, he⟩ | he | ⟨-, enabled, m, -, he⟩ <;> rw [he] at h ⊢
  · cases h
    exact ⟨rfl, Or.inl rfl⟩
  · cases h
    exact ⟨rfl, Or.inl rfl⟩
  · rcases probe_cases b.loadSession.1 enabled m with hprobe | hok
    · rw [hprobe] at h ⊢
      cases h
      exact ⟨rfl, Or.inr ⟨m, rfl⟩⟩
    · cases hok.symm.trans h

theorem verdict_start (b : Earbud) (e : Event) : Verdict b e b.start := by
  refine .taken ?_
  cases ho : b.start.2 with
  | ok u => rfl
  | error fault => exact (start_failed ho).1

theorem verdict_handleInState (h : b.runtime.state ≠ .uninitialised → Ranged b) (e : Event) :
    Verdict b e (b.handleInState e) := by
  unfold handleInState
  split <;> rename_i hs
  · unfold handleUninitialised
    split
    · exact verdict_start b _
    · exact .rejected _
  · unfold handlePowerOff
    split
    · exact .taken rfl
    · exact .rejected _
  · exact verdict_handleDisabled (h (by rw [hs]; decide)) hs e
  · exact verdict_handleEnabled (h (by rw [hs]; decide)) hs e
  · exact verdict_handleTuning b _ e
  · exact verdict_handleTuning b _ e

theorem verdict_handle (h : b.runtime.state ≠ .uninitialised → Ranged b) (e : Event) :
    Verdict b e (b.handle e) := by
  have hin := verdict_handleInState h e
  cases e with
  | peerRecord | peerState | peerFeedForwardGain | peerLinkLost => exact .taken rfl
  | placed whose p => cases whose <;> exact .taken rfl
  | timerExpired k =>
    cases k with
    | gainPoll => exact .taken rfl
    | quietMode d => exact (verdict_handleInState h (.quietModeFire d)).relabel (by simp) _
    | _ => exact hin
  | enable => exact verdict_chooseEnable h _
  | setMode m => exact verdict_chooseMode b m
  | setNextMode => exact verdict_chooseNextMode h
  | _ => exact hin

theorem dispatch_refused (h : b.runtime.state ≠ .uninitialised → Ranged b) (hdone : b.followUps = [])
    {e : Event} (hr : (b.dispatch e).2.refused = true) : (b.dispatch e).1 = b := by
  have hunchanged : (b.handle e).1 = b := (verdict_handle h e).unchanged hr
  show (b.handle e).1.finishFollowUps = b
  rw [hunchanged]
  exact finishFollowUps_eq_self b hdone

/-- Whatever led an earbud to where it is, and whatever timers are pending then: an event that it
refuses changes nothing, and neither does an initialisation that fails, but for the probe of the
audio chain. -/
theorem refusal_changes_nothing (c : Config) (clockOrigin : Option WallClock) (store : SessionStore)
    (moves : List Move) (timers : TimerQueue) :
    let b : Earbud := { (Earbud.new c clockOrigin store).run moves with timers := timers }
    (∀ e e' s, (b.dispatch e).2 = .error (.rejected e' s) → (b.dispatch e).1 = b) ∧
      (∀ e m count, (b.dispatch e).2 = .error (.modeOutOfRange m count) → (b.dispatch e).1 = b) ∧
      ∀ fault, (b.dispatch .initialise).2 = .error fault →
        (b.dispatch .initialise).1 = b ∨ ∃ m, (b.dispatch .initialise).1 =
          { b with
            calls := b.calls + 2
            history := .audio (.start b.config.microphones m) false :: b.history } := by
  intro b
  have hranged : b.runtime.state ≠ .uninitialised → Ranged b := fun hs =>
    (ranged_run c clockOrigin store moves hs).same rfl rfl
  have hdone : b.followUps = [] := (sound_run c clockOrigin store moves).2
  refine ⟨fun e e' s he => ?_, fun e m count he => ?_, fun fault he => ?_⟩
  · apply dispatch_refused hranged hdone
    rw [he]
    rfl
  · apply dispatch_refused hranged hdone
    rw [he]
    rfl
  · have hhandle : b.handle .initialise = b.handleInState .initialise := rfl
    by_cases hs : b.runtime.state = .uninitialised
    · have hstart : b.handle .initialise = b.start := by
        rw [hhandle, handleInState, hs]
        rfl
      have hfailed : b.start.2 = .error fault := by rw [← hstart]; exact he
      have hend : (b.dispatch .initialise).1 = b.start.1.finishFollowUps := by rw [← hstart]; rfl
      rw [hend]
      rcases (start_failed hfailed).2 with hsame | ⟨m, hprobe⟩
      · rw [hsame]
        exact Or.inl (finishFollowUps_eq_self b hdone)
      · rw [hprobe]
        exact Or.inr ⟨m, finishFollowUps_eq_self _ hdone⟩
    · refine Or.inl (dispatch_refused hranged hdone ?_)
      show (b.handleInState .initialise).2.refused = true
      unfold handleInState
      split <;> first | rfl | contradiction

/-- A request that comes too early, a mode that there is not, and an audio chain that fails. -/
theorem refusal_changes_nothing_met :
    let fresh := Earbud.new (.standard "") none {}
    let ready := fresh.run [.event .initialise, .event .powerOn]
    let broken := fresh.run [.surround ⟨none, {}, fun _ _ => true, none, {}, {}⟩]
    ((fresh.dispatch .powerOn).2 = .error (.rejected .powerOn .uninitialised) ∧
        (fresh.dispatch .powerOn).1 = fresh) ∧
      ((ready.dispatch (.setMode ⟨10⟩)).2 = .error (.modeOutOfRange ⟨10⟩ 10) ∧
        (ready.dispatch (.setMode ⟨10⟩)).1 = ready) ∧
      ((broken.dispatch .initialise).2 = .error (.start .probeRejected) ∧
        ((broken.dispatch .initialise).1 = broken ∨ ∃ m, (broken.dispatch .initialise).1 =
          { broken with
            calls := broken.calls + 2
            history := .audio (.start broken.config.microphones m) false :: broken.history })) := by
  intro fresh ready broken
  have hearly : (fresh.dispatch .powerOn).2 = .error (.rejected .powerOn .uninitialised) := by decide
  have hrange : (ready.dispatch (.setMode ⟨10⟩)).2 = .error (.modeOutOfRange ⟨10⟩ 10) := by decide
  have hprobe : (broken.dispatch .initialise).2 = .error (.start .probeRejected) := by decide
  have hall := fun moves (b : Earbud) (hb : fresh.run moves = b) =>
    hb ▸ refusal_changes_nothing (.standard "") none {} moves (fresh.run moves).timers
  have hfresh := hall [] fresh rfl
  have hready := hall _ ready rfl
  have hbroken := hall _ broken rfl
  -- Neither earbud need be worked out again.
  clear_value ready broken
  exact ⟨⟨hearly, hfresh.1 _ _ _ hearly⟩, ⟨hrange, hready.2.1 _ _ _ hrange⟩, hprobe,
    hbroken.2.2 _ hprobe⟩

end Earbud

end NoiseControl
