import NoiseControl.Proofs.Earbud.Run
import NoiseControl.Proofs.QuietMode.Operation

/-!
# What an event does to the negotiation

An event leaves the negotiation of quiet mode alone, or carries it one operation on, or makes it
start afresh.  It starts afresh on initialisation, when the link is lost, when the peer enters its
case, and with every change of mode that is accepted.
-/

namespace NoiseControl

open QuietMode (Direction Record Synchronizer Effect)

def Activity.switchesQuietMode : Activity → Bool
  | .audio .quietModeOn _ | .audio .quietModeOff _ => true
  | _ => false

/-- What an event has the negotiation do, unless that starts afresh. -/
def Event.operation? (now : WallClock) : Event → Option Synchronizer.Operation
  | .peerRecord r => some (.peerRecord r now)
  | .silenceDetected => some (.detected now)
  | .silenceCleared => some (.cleared now)
  | .quietModeFire d | .timerExpired (.quietMode d) => some (.fire d)
  | _ => none

namespace Earbud

variable {a b : Earbud}

/-! ### Changes of mode -/

/-- The mode that an event asks for, and the earbud as it is then. -/
def modeAsked? (b : Earbud) : Event → Option (Earbud × Mode)
  | .setMode m => some (b, m)
  | .setNextMode => some (b, b.runtime.currentMode.next b.runtime.numModes)
  | .peerState report =>
    if b.runtime.peerInCase ∨ report.mode = (b.followSwitch report.enabled).runtime.requestedMode then
      none
    else some (b.followSwitch report.enabled, report.mode)
  | .callStarted =>
    if (b.isEnabled || b.runtime.state == .disabled) && b.config.call.implicitEnable then
      let cleared := b.setRuntime .clearCall
      if b.isEnabled then
        if b.runtime.currentMode = b.config.call.mode then none
        else
          some (cleared.setRuntime fun r => { r with previousMode := r.currentMode, modeForCall := true },
            b.config.call.mode)
      else some (cleared, b.config.call.mode)
    else none
  | .callEnded =>
    if (b.isEnabled || b.runtime.state == .disabled) && b.config.call.implicitEnable
        && !b.runtime.enabledForCall && b.runtime.modeForCall && !b.runtime.userSwitchedMode then
      some (b, b.runtime.previousMode)
    else none
  | _ => none

def startsAfresh (b : Earbud) : Event → Bool
  | .initialise => b.runtime.state == .uninitialised && b.start.2.isOk
  | .peerLinkLost => true
  | .placed .peer p => p == .inCase && !b.runtime.peerInCase
  | e =>
    match b.modeAsked? e with
    | some (x, m) => (x.requestMode m).2.isOk
    | none => false

theorem handle_callStarted (b : Earbud) :
    (b.handle .callStarted).1 =
      if b.isEnabled || b.runtime.state == .disabled then b.startCall.1 else b := by
  show (b.handleInState .callStarted).1 = _
  unfold handleInState
  split <;> rename_i hs <;> simp [isEnabled, hs] <;> rfl

theorem handle_callEnded (b : Earbud) :
    (b.handle .callEnded).1 =
      if b.isEnabled || b.runtime.state == .disabled then b.endCall.1 else b := by
  show (b.handleInState .callEnded).1 = _
  unfold handleInState
  split <;> rename_i hs <;> simp [isEnabled, hs] <;> rfl

/-- All there is to an event that asks for a mode, but the change itself, has nothing to do with
the negotiation. -/
theorem changeMode_of_modeAsked? {e : Event} {x : Earbud} {m : Mode}
    (h : b.modeAsked? e = some (x, m)) :
    Work apart b x ∧ Work apart (x.changeMode m).1 (b.handle e).1 := by
  have hchoose : ∀ (x : Earbud) (m : Mode), Work apart (x.changeMode m).1 (x.chooseMode m).1 := by
    intro x m
    rw [changeMode_fst, chooseMode_fst]
    split
    · exact .single (.runtime _ rfl)
    · exact .refl
  unfold modeAsked? at h
  split at h
  · cases h
    exact ⟨.refl, hchoose b m⟩
  · cases h
    exact ⟨.refl, hchoose b _⟩
  · rename_i report
    split at h <;> rename_i hcase
    · cases h
    · simp only [not_or, Bool.not_eq_true] at hcase
      cases h
      refine ⟨work_followSwitch b _, ?_⟩
      rw [show (b.handle (.peerState report)).1 = b.followPeer report from rfl,
        followPeer_eq b report hcase.1, followMode, if_neg hcase.2]
      exact (hchoose _ _).trans ((work_followLeakthrough _ _).mono gains_within_apart)
  · split at h <;> rename_i hcall
    · rw [Bool.and_eq_true] at hcall
      rw [handle_callStarted, if_pos hcall.1]
      unfold startCall
      rw [if_pos hcall.2]
      dsimp only at h ⊢
      split at h <;> rename_i hon
      · rw [if_pos (show (b.setRuntime .clearCall).isEnabled = true from hon)]
        split at h <;> rename_i hmode
        · cases h
        · cases h
          rw [if_neg (show ¬(b.setRuntime .clearCall).runtime.currentMode =
            (b.setRuntime .clearCall).config.call.mode from hmode)]
          exact ⟨(Relation.ReflTransGen.single (.runtime _ rfl)).tail (.runtime _ rfl), .refl⟩
      · cases h
        rw [if_neg (show ¬(b.setRuntime .clearCall).isEnabled = true from hon)]
        refine ⟨.single (.runtime _ rfl), ?_⟩
        split <;> rename_i heq
        · rw [show (b.setRuntime .clearCall).changeMode b.config.call.mode = _ from heq]
          exact .trans (.single (.runtime _ rfl)) (work_requestEnable _)
        · exact .refl
    · cases h
  · split at h <;> rename_i hcall
    · simp only [Bool.and_eq_true, Bool.not_eq_true'] at hcall
      cases h
      obtain ⟨⟨⟨⟨hstate, hcall⟩, hforced⟩, hmode⟩, huser⟩ := hcall
      rw [handle_callEnded, if_pos hstate]
      unfold endCall
      rw [if_pos hcall]
      dsimp only
      rw [if_neg (by simp [hforced]), if_pos (by simp [hmode, huser])]
      exact ⟨.refl, .single (.runtime _ rfl)⟩
    · cases h
  · cases h

theorem startsAfresh_of_modeAsked? {e : Event} {x : Earbud} {m : Mode}
    (h : b.modeAsked? e = some (x, m)) : b.startsAfresh e = (x.requestMode m).2.isOk := by
  unfold startsAfresh
  split
  · cases h
  · cases h
  · cases h
  · rw [h]

theorem work_callStarted (h : b.modeAsked? .callStarted = none) :
    Work apart b (b.handle .callStarted).1 := by
  rw [handle_callStarted]
  simp only [modeAsked?] at h
  split <;> rename_i hstate
  · rw [hstate, Bool.true_and] at h
    unfold startCall
    split at h <;> rename_i hcall
    · rw [if_pos hcall]
      dsimp only at h ⊢
      split at h <;> rename_i hon
      · split at h <;> rename_i hmode
        · rw [if_pos (show (b.setRuntime .clearCall).isEnabled = true from hon),
            if_pos (show (b.setRuntime .clearCall).runtime.currentMode =
              (b.setRuntime .clearCall).config.call.mode from hmode)]
          exact .single (.runtime _ rfl)
        · cases h
      · cases h
    · rw [if_neg hcall]
  · exact .refl

theorem work_callEnded (h : b.modeAsked? .callEnded = none) :
    Work apart b (b.handle .callEnded).1 := by
  rw [handle_callEnded]
  simp only [modeAsked?] at h
  split <;> rename_i hstate
  · rw [hstate, Bool.true_and] at h
    unfold endCall
    split <;> rename_i hcall
    · dsimp only
      refine .tail ?_ (.runtime _ rfl)
      split <;> rename_i hforced
      · split
        · exact work_requestDisable b
        · exact .refl
      · split <;> rename_i hmode
        · simp only [Bool.and_eq_true, Bool.not_eq_true'] at hmode
          simp [hcall, hforced, hmode] at h
        · exact .refl
    · exact .refl
  · exact .refl

theorem handleEnabled_operation {e : Event} (hs : b.runtime.state = .enabled)
    (h : b.modeAsked? e = none) :
    Work apart b (b.handleEnabled e).1 ∨ b.audio.adaptive = true ∧
      ∃ o, e.operation? b.wallNow = some o ∧
        (b.handleEnabled e).1 = b.adopt (b.quietMode.operate o) := by
  have hgate : ∀ o, e.operation? b.wallNow = some o →
      Work apart b (b.whileAdaptive (b.quietMode.operate o)) ∨ b.audio.adaptive = true ∧
        ∃ o', e.operation? b.wallNow = some o' ∧
          b.whileAdaptive (b.quietMode.operate o) = b.adopt (b.quietMode.operate o') := by
    intro o ho
    unfold whileAdaptive
    split <;> rename_i hon
    · exact Or.inr ⟨hon, o, ho, rfl⟩
    · exact Or.inl .refl
  cases e with
  | powerOff => exact Or.inl (work_powerOffEnabled b)
  | disable => exact Or.inl (work_requestDisable b)
  | setMode m => exact Or.inl (work_requestMode b m)
  | enterTuning => exact Or.inl (work_enterTuning b .fixed)
  | enterAdaptiveTuning =>
    refine Or.inl ?_
    show Work apart b (if b.config.adaptive then b.enterTuning .adaptive else b.refuse _).1
    split
    · exact work_enterTuning b .adaptive
    · exact .refl
  | setLeakthroughGain gain => exact Or.inl ((work_setLeakthrough b gain).mono gains_within_apart)
  | timerExpired k =>
    refine Or.inl ?_
    cases k with
    | configSettle => exact work_startAdaptive b
    | muteBeforeDisable => exact work_switchOff b .disabled
    | muteBeforeMode => exact reconfigure_apart b _ _
    | pathGainSettle => exact .single (.command .applyPathGains rfl)
    | gainPoll => exact .refl
    | quietMode d => exact .refl
  | silenceDetected => exact hgate (.detected b.wallNow) rfl
  | silenceCleared => exact hgate (.cleared b.wallNow) rfl
  | quietModeFire d => exact hgate (.fire d) rfl
  | callStarted =>
    have hcall := work_callStarted h
    rw [handle_callStarted, if_pos (by simp [isEnabled, hs])] at hcall
    exact Or.inl hcall
  | callEnded =>
    have hcall := work_callEnded h
    rw [handle_callEnded, if_pos (by simp [isEnabled, hs])] at hcall
    exact Or.inl hcall
  | _ => exact Or.inl .refl

theorem handleDisabled_apart {e : Event} (hs : b.runtime.state = .disabled)
    (h : b.modeAsked? e = none) : Work apart b (b.handleDisabled e).1 := by
  unfold handleDisabled
  split
  · exact .trans (.single (.runtime _ rfl)) (work_enter _ _)
  · exact work_requestEnable b
  · exact work_requestMode b _
  · exact work_enterTuning b _
  · split
    · exact work_enterTuning b _
    · exact .refl
  · have hcall := work_callStarted h
    rwa [handle_callStarted, if_pos (by simp [hs])] at hcall
  · have hcall := work_callEnded h
    rwa [handle_callEnded, if_pos (by simp [hs])] at hcall
  · exact .refl

theorem handleTuning_apart (kind : TuningKind) (e : Event) :
    Work apart b (b.handleTuning kind e).1 := by
  rcases handleTuning_fst b kind e with he | ⟨rate, he⟩ | he | he <;> rw [he]
  · exact (Relation.ReflTransGen.single (.runtime _ rfl)).tail (.command _ rfl)
  · exact work_leaveTuning b _ _
  · exact work_leaveTuning b _ _

theorem followPeer_apart (report : PeerReport) (h : b.modeAsked? (.peerState report) = none) :
    Work apart b (b.followPeer report) := by
  simp only [modeAsked?, ite_eq_left_iff, reduceCtorEq, imp_false, Decidable.not_not] at h
  cases hcase : b.runtime.peerInCase with
  | true =>
    unfold followPeer
    rw [if_pos hcase]
  | false =>
    have hmode := h.resolve_left (by simp [hcase])
    rw [followPeer_eq b report hcase, followMode, if_pos hmode]
    exact (work_followSwitch b _).trans ((work_followLeakthrough _ _).mono gains_within_apart)

theorem peerPlaced_apart (p : Placement) (h : b.startsAfresh (.placed .peer p) = false) :
    Work apart b (b.peerPlaced p) := by
  unfold peerPlaced
  dsimp only
  split <;> rename_i hentered
  · rw [show b.startsAfresh (.placed .peer p) = true from hentered] at h
    cases h
  · exact .single (.runtime _ rfl)

theorem handleInState_operation {e : Event} (hasked : b.modeAsked? e = none)
    (h : b.startsAfresh e = false) :
    Work apart b (b.handleInState e).1 ∨ (b.isEnabled && b.audio.adaptive) = true ∧
      ∃ o, e.operation? b.wallNow = some o ∧
        (b.handleInState e).1 = b.adopt (b.quietMode.operate o) := by
  unfold handleInState
  split <;> rename_i hs
  · unfold handleUninitialised
    split
    · simp only [startsAfresh, hs, beq_self_eq_true, Bool.true_and] at h
      rcases start_fst b with ⟨he, -⟩ | ⟨microphones, mode, ⟨he, -⟩ | ⟨enabled, he, hok⟩⟩
      · exact Or.inl (by rw [he])
      · refine Or.inl ?_
        rw [he]
        exact (Relation.ReflTransGen.single .load).tail (.attempt _ rfl)
      · rw [hok] at h
        cases h
    · exact Or.inl .refl
  · unfold handlePowerOff
    split
    · exact Or.inl (work_switchPowerOn b)
    · exact Or.inl .refl
  · exact Or.inl (handleDisabled_apart hs hasked)
  · have hon : b.isEnabled = true := b.isEnabled_iff.mpr hs
    rw [hon, Bool.true_and]
    exact handleEnabled_operation hs hasked
  · exact Or.inl (handleTuning_apart .fixed e)
  · exact Or.inl (handleTuning_apart .adaptive e)

/-- An event after which the negotiation does not start afresh has it do what the event says or
nothing at all.  Where noise control is off or adaptive processing does not run, it is only a record
of a peer out of its case that has it do something. -/
theorem handle_gated {e : Event} (h : b.startsAfresh e = false) :
    Work apart b (b.handle e).1 ∨
      ((b.isEnabled && b.audio.adaptive) = true ∨ ∃ r, e = .peerRecord r) ∧
        ((∃ r, e = .peerRecord r) → b.runtime.peerInCase = false) ∧
        ∃ o, e.operation? b.wallNow = some o ∧ (b.handle e).1 = b.adopt (b.quietMode.operate o) := by
  cases hasked : b.modeAsked? e with
  | some p =>
    obtain ⟨x, m⟩ := p
    rw [startsAfresh_of_modeAsked? hasked] at h
    obtain ⟨hbefore, hafter⟩ := changeMode_of_modeAsked? hasked
    rw [changeMode_fst, if_neg (by simp [h])] at hafter
    exact Or.inl ((hbefore.trans (work_requestMode x m)).trans hafter)
  | none =>
    have hstate : (∀ r, e ≠ .peerRecord r) →
        Work apart b (b.handleInState e).1 ∨
          ((b.isEnabled && b.audio.adaptive) = true ∨ ∃ r, e = .peerRecord r) ∧
            ((∃ r, e = .peerRecord r) → b.runtime.peerInCase = false) ∧
            ∃ o, e.operation? b.wallNow = some o ∧
              (b.handleInState e).1 = b.adopt (b.quietMode.operate o) := fun hother =>
      (handleInState_operation hasked h).imp_right fun ⟨hon, ho⟩ =>
        ⟨Or.inl hon, fun ⟨r, hr⟩ => absurd hr (hother r), ho⟩
    cases e with
    | peerRecord r =>
      show Work apart b (b.receiveRecord r) ∨ _ ∧ _ ∧ ∃ o, _ ∧ b.receiveRecord r = _
      unfold receiveRecord
      split <;> rename_i hcase
      · exact Or.inl .refl
      · exact Or.inr ⟨Or.inr ⟨r, rfl⟩, fun _ => Bool.eq_false_iff.mpr hcase, _, rfl, rfl⟩
    | peerState report => exact Or.inl (followPeer_apart report hasked)
    | peerFeedForwardGain gain =>
      exact Or.inl ((work_announceBothGains b gain).mono gains_within_apart)
    | peerLinkLost => cases h
    | placed whose p =>
      cases whose with
      | own => exact Or.inl (work_ownPlaced b p)
      | peer => exact Or.inl (peerPlaced_apart p h)
    | timerExpired k =>
      cases k with
      | gainPoll => exact Or.inl ((work_pollGain b).mono gains_within_apart)
      | quietMode d =>
        exact (handleInState_operation (e := .quietModeFire d) rfl rfl).imp_right
          fun ⟨hon, ho⟩ => ⟨Or.inl hon, nofun, ho⟩
      | _ => exact hstate nofun
    | enable => exact Or.inl (work_chooseEnable b)
    | setMode m => cases hasked
    | setNextMode => cases hasked
    | _ => exact hstate nofun

theorem handle_operation {e : Event} (h : b.startsAfresh e = false) :
    Work apart b (b.handle e).1 ∨ ∃ o, (b.handle e).1 = b.adopt (b.quietMode.operate o) :=
  (handle_gated h).imp_right fun ⟨_, _, o, _, ho⟩ => ⟨o, ho⟩

/-! ### Starting afresh -/

def switchings (b : Earbud) : Nat := b.history.countP Activity.switchesQuietMode

structure Afresh (a b : Earbud) : Prop where
  own : b.quietMode.own = .clear
  peer : b.quietMode.peer = .clear
  followUps : b.followUps = a.followUps
  quiet : b.audio.quiet = a.audio.quiet
  switchings : b.switchings = a.switchings

theorem Work.quiet (w : Work apart a b) : b.audio.quiet = a.audio.quiet := by
  refine w.audio AudioChain.quiet fun chain c hc => ?_
  cases c with
  | setGain ch p g => cases ch <;> rfl
  | exitTuning kind => cases kind <;> rfl
  | quietModeOn => cases hc
  | quietModeOff => cases hc
  | _ => rfl

theorem Work.switchings (w : Work apart a b) : b.switchings = a.switchings := by
  induction w with
  | refl => rfl
  | tail _ h ih =>
    rw [← ih]
    cases h with
    | command c hc => cases c <;> first | rfl | cases hc
    | attempt c hc =>
      rcases attempt_fst _ c with he | he <;> rw [he] <;> cases c <;> first | rfl | cases hc
    | save s =>
      unfold saveSession
      split <;> rfl
    | send r hc => cases hc
    | _ => rfl

theorem Afresh.work {c : Earbud} (h : Afresh a b) (w : Work apart b c) : Afresh a c where
  own := by rw [(w.silent rfl).1, h.own]
  peer := by rw [(w.silent rfl).1, h.peer]
  followUps := (w.silent rfl).2.1.trans h.followUps
  quiet := w.quiet.trans h.quiet
  switchings := w.switchings.trans h.switchings

theorem Work.afresh {c : Earbud} (w : Work apart a b) (h : Afresh b c) : Afresh a c where
  own := h.own
  peer := h.peer
  followUps := h.followUps.trans (w.silent rfl).2.1
  quiet := h.quiet.trans w.quiet
  switchings := h.switchings.trans w.switchings

/-- The negotiation is dropped, or made anew by an initialisation. -/
inductive Restart : Earbud → Earbud → Prop where
  | reset (b : Earbud) : Restart b b.resetQuietMode
  | initialise (b : Earbud) (runtime : Runtime) :
      Restart b { b with runtime := runtime, quietMode := newSynchronizer b.config }

/-- An event after which the negotiation starts afresh does nothing else to it. -/
theorem handle_restart {e : Event} (h : b.startsAfresh e = true) :
    ∃ x y, Work apart b x ∧ Restart x y ∧ Work apart y (b.handle e).1 := by
  cases hasked : b.modeAsked? e with
  | some p =>
    obtain ⟨x, m⟩ := p
    rw [startsAfresh_of_modeAsked? hasked] at h
    obtain ⟨hbefore, hafter⟩ := changeMode_of_modeAsked? hasked
    rw [changeMode_fst, if_pos h] at hafter
    exact ⟨_, _, hbefore.trans (work_requestMode x m), .reset _, hafter⟩
  | none =>
    unfold startsAfresh at h
    split at h
    · simp only [Bool.and_eq_true, beq_iff_eq] at h
      rw [handle_initialise b h.1]
      rcases start_fst b with ⟨-, hok⟩ | ⟨microphones, mode, ⟨-, hok⟩ | ⟨enabled, he, -⟩⟩
      · simp [hok] at h
      · simp [hok] at h
      · have hprobe : Work apart b (b.loadSession.1.attempt (.start microphones mode)).1 :=
          (Relation.ReflTransGen.single .load).tail (.attempt _ rfl)
        rw [he]
        exact ⟨_, _, hprobe, .initialise _ _, work_enter _ _⟩
    · exact ⟨b, _, .refl, .reset b, .refl⟩
    · rename_i p
      have hset : Work apart b (b.setRuntime fun r => { r with peerInCase := p == .inCase }) :=
        .single (.runtime _ rfl)
      refine ⟨_, _, hset, .reset _, ?_⟩
      show Work apart _ (b.peerPlaced p)
      unfold peerPlaced
      dsimp only
      split <;> rename_i hentered
      · split
        · exact ((work_announceBothGains _ _).mono gains_within_apart).tail (.arm _ _ rfl)
        · exact .refl
      · exact absurd h hentered
    · rw [hasked] at h
      cases h

theorem Restart.afresh (r : Restart a b) : Afresh a b := by
  cases r with
  | reset => exact ⟨rfl, rfl, rfl, rfl, rfl⟩
  | initialise runtime => exact ⟨rfl, rfl, rfl, rfl, rfl⟩

theorem handle_afresh {e : Event} (h : b.startsAfresh e = true) : Afresh b (b.handle e).1 := by
  obtain ⟨x, y, hbefore, hrestart, hafter⟩ := handle_restart h
  exact hbefore.afresh (hrestart.afresh.work hafter)

theorem afresh_dispatch {e : Event} (h : b.startsAfresh e = true) (hdone : b.followUps = []) :
    Afresh b (b.dispatch e).1 := by
  have hafresh := handle_afresh h
  have hnone : (b.handle e).1.followUps = [] := hafresh.followUps.trans hdone
  show Afresh b (b.handle e).1.finishFollowUps
  unfold finishFollowUps
  rw [hnone]
  exact ⟨hafresh.own, hafresh.peer, hdone.symm, hafresh.quiet, hafresh.switchings⟩

end Earbud

end NoiseControl
