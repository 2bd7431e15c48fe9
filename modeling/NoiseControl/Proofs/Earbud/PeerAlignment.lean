import NoiseControl.Proofs.Earbud.AdaptiveProcessing
import NoiseControl.Proofs.Earbud.Countdown
import NoiseControl.Proofs.Earbud.FixedFilters
import NoiseControl.Proofs.Earbud.Reached
import NoiseControl.Proofs.Earbud.WorkingHardware

/-!
# Alignment with the peer

A report of the peer says whether its noise control is on, in which mode and with which leakthrough gain.
On working hardware an earbud comes to the same, at once or when the ramps it begins are over.  The gain
is followed at once in any case.  If the mode has to wait for a ramp, the gain is set in the mode before
it, and loading the mode brings back its own gain.
-/

namespace NoiseControl

namespace TimerKind

/-- The timers of ramps. -/
def ramps : TimerKind → Bool
  | muteBeforeDisable | muteBeforeMode => true
  | _ => false

/-- The expiry of a timer begins no ramp. -/
theorem rearms_ramp (k : TimerKind) {k' : TimerKind} (hk' : k'.ramps = true) : k.rearms k' = false := by
  cases k <;> cases k' <;> first | rfl | cases hk'

end TimerKind

namespace Earbud

variable {c : Config} {b settled : Earbud} {m : Mode} {gain : UInt8} {k : TimerKind}

/-! ### Ramps that end -/

/-- The timers of ramps expire one by one, in any order, until none is armed. -/
inductive RampsEnd : Earbud → Earbud → Prop where
  | idle {b : Earbud} (h : b.ramping = false) : RampsEnd b b
  | expire {b settled : Earbud} {k : TimerKind} (hk : k.ramps = true)
      (harmed : b.timers.isArmed k = true) (h : RampsEnd (b.expire k) settled) : RampsEnd b settled

theorem rampsEnd_exists (b : Earbud) : ∃ settled, RampsEnd b settled := by
  have hmode : ∀ b : Earbud, b.timers.isArmed .muteBeforeDisable = false →
      ∃ settled, RampsEnd b settled := by
    intro b hoff
    cases harmed : b.timers.isArmed .muteBeforeMode with
    | false => exact ⟨b, .idle (by simp [ramping, hoff, harmed])⟩
    | true =>
      have hdone : (b.expire .muteBeforeMode).timers.isArmed .muteBeforeMode = false :=
        not_isArmed_expire rfl
      have hstill : (b.expire .muteBeforeMode).timers.isArmed .muteBeforeDisable = false :=
        (isArmed_expire (by decide) rfl).trans hoff
      exact ⟨_, .expire rfl harmed (.idle (by simp [ramping, hdone, hstill]))⟩
  cases harmed : b.timers.isArmed .muteBeforeDisable with
  | false => exact hmode b harmed
  | true =>
    obtain ⟨settled, h⟩ := hmode (b.expire .muteBeforeDisable) (not_isArmed_expire rfl)
    exact ⟨settled, .expire rfl harmed h⟩

theorem RampsEnd.induct {P : Earbud → Prop} (h : RampsEnd b settled) (hb : P b)
    (hstep : ∀ b k, k.ramps = true → b.timers.isArmed k = true → P b → P (b.expire k)) :
    P settled ∧ settled.ramping = false := by
  induction h with
  | idle h => exact ⟨hb, h⟩
  | expire hk harmed _ ih => exact ih (hstep _ _ hk harmed hb)

theorem HardwareWorks.expire (h : HardwareWorks b) (k : TimerKind) : HardwareWorks (b.expire k) :=
  HardwareWorks.event (b := b.popped k) h _

theorem Ranged.expire (h : Ranged b) (hs : (b.expire k).runtime.state ≠ .uninitialised) :
    Ranged (b.expire k) :=
  ranged_dispatch (b := b.popped k) (fun _ => h.same rfl rfl) _ hs

/-! ### The gain of a mode -/

theorem runtime_writeLeakthrough (b : Earbud) : b.writeLeakthrough.runtime = b.runtime := by
  unfold writeLeakthrough
  split
  · exact (Work.foldl (x := { levels with keeps := id }) (fun _ _ => .single (.attempt _ rfl)) _ b).keeps
  · rfl

theorem runtime_announceLeakthrough (b : Earbud) : b.announceLeakthrough.runtime = b.runtime := by
  unfold announceLeakthrough
  split <;> rfl

theorem leakthrough_setLeakthrough (hmode : b.runtime.currentMode.isAdaptive = false) (gain : UInt8) :
    (b.setLeakthrough gain).runtime.leakthroughGain = gain := by
  have hhas : b.hasLeakthrough = true := by simp [hasLeakthrough, hmode]
  unfold setLeakthrough
  rw [runtime_announceLeakthrough, runtime_writeLeakthrough,
    show b.storeLeakthrough gain = b.setRuntime _ from if_pos hhas]
  rfl

theorem leakthrough_followLeakthrough (hmode : b.runtime.currentMode.isAdaptive = false)
    (gain : UInt8) : (b.followLeakthrough gain).runtime.leakthroughGain = gain := by
  unfold followLeakthrough
  split <;> rename_i hsame
  · exact hsame.symm
  · exact leakthrough_setLeakthrough hmode gain

/-- Where no gain was written since the mode was loaded, the gain that is read is that of the mode. -/
theorem leakthrough_refreshLeakthrough (hpath : b.config.layout.controlPath? ≠ none)
    (hmode : b.runtime.currentMode.isAdaptive = false) (chain : AudioChain)
    (haudio : b.audio = { chain.clearGains with mode := m }) :
    b.refreshLeakthrough.runtime.leakthroughGain = AudioChain.modeGain m := by
  have hhas : b.hasLeakthrough = true := by simp [hasLeakthrough, hmode]
  obtain ⟨path, hpath⟩ := Option.ne_none_iff_exists'.mp hpath
  have hread : b.audio.readGain .left path = AudioChain.modeGain m := by
    rw [haudio]
    cases path <;> rfl
  unfold refreshLeakthrough
  rw [hpath]
  dsimp only
  rw [hread, show b.storeLeakthrough _ = b.setRuntime _ from if_pos hhas]
  rfl

theorem leakthrough_applyMode (h : HardwareWorks b) (hm : m.index < b.runtime.numModes)
    (hpath : b.config.layout.controlPath? ≠ none) (hmode : m.isAdaptive = false) :
    (b.applyMode m).1.runtime.leakthroughGain = AudioChain.modeGain m := by
  have hidentified : Work (loading fun _ => true) b (b.identifyMode m b.audio.adaptive) :=
    work_identifyMode b b.audio.adaptive rfl
  obtain ⟨hloaded, haudio⟩ := loadMode_works (h.identifyMode m b.audio.adaptive) m
  have hconfig : ((b.identifyMode m b.audio.adaptive).loadMode m).1.config = b.config :=
    (work_loadMode (x := loading fun _ => true) _ rfl rfl).config.trans hidentified.config
  unfold applyMode
  dsimp only
  rw [runtime_identifyMode, if_neg (UInt8.not_le.mpr hm)]
  split <;> rename_i heq <;> rw [heq] at hloaded haudio hconfig
  · cases hloaded
  · rw [runtime_announceLeakthrough]
    refine leakthrough_refreshLeakthrough ?_ ?_ (b.identifyMode m b.audio.adaptive).audio ?_
    · split <;> exact hconfig ▸ hpath
    · split <;> exact hmode
    · split <;> exact haudio

/-- A reconfiguration on working hardware leaves the gain as it was, or brings that of the mode that it
loads. -/
theorem leakthrough_reconfigure (h : HardwareWorks b) (on : Bool) (hm : m.index < b.runtime.numModes)
    (hpath : b.config.layout.controlPath? ≠ none) (hmode : m.isAdaptive = false) :
    (b.reconfigure on m).1.runtime.leakthroughGain =
      if b.runtime.currentMode = m then b.runtime.leakthroughGain else AudioChain.modeGain m := by
  have hworks : HardwareWorks ((b.boost true).inMode m).1 :=
    HardwareWorks.work (a := b.boost true) h (work_inMode _ (fun _ => true) rfl rfl)
  rw [(reconfigure_eq b on m).1]
  dsimp only
  rw [(inPower_works hworks on).2]
  dsimp only
  unfold inMode
  split <;> rename_i hcurrent
  · exact (if_pos hcurrent.symm).symm
  · refine Eq.trans ?_ (if_neg fun he => hcurrent he.symm).symm
    exact leakthrough_applyMode (b := b.boost true) h hm hpath hmode

/-! ### On the way off -/

/-- Noise control is off, or goes off when a ramp is over; the mode is asked for. -/
structure Retiring (m : Mode) (b : Earbud) : Prop where
  works : HardwareWorks b
  ranged : Ranged b
  asked : b.runtime.requestedMode = m
  off : b.runtime.state = .disabled ∨
    b.runtime.state = .enabled ∧ b.timers.isArmed .muteBeforeDisable = true

theorem Retiring.expire (h : Retiring m b) (k : TimerKind) : Retiring m (b.expire k) := by
  have hintent : (b.expire k).runtime.intent =
      if k = .muteBeforeDisable ∧ b.runtime.state = .enabled then
        { b.runtime.intent.clearUserFlags with state := .disabled }
      else b.runtime.intent :=
    expiry_works (b := b.popped k) h.works (h.ranged.same rfl rfl) k
  have hasked : (b.expire k).runtime.requestedMode = m := by
    have hsame : (b.expire k).runtime.requestedMode = b.runtime.requestedMode := by
      show (b.expire k).runtime.intent.requestedMode = _
      rw [hintent]
      split <;> rfl
    exact hsame.trans h.asked
  have hoff : (b.expire k).runtime.state = .disabled ∨
      (b.expire k).runtime.state = .enabled ∧
        (b.expire k).timers.isArmed .muteBeforeDisable = true := by
    show (b.expire k).runtime.intent.state = _ ∨ (b.expire k).runtime.intent.state = _ ∧ _
    rw [hintent]
    rcases h.off with hs | ⟨hs, harmed⟩
    · rw [if_neg (by simp [hs])]
      exact Or.inl hs
    · split <;> rename_i hdue
      · exact Or.inl rfl
      · have hother : ¬TimerKind.muteBeforeDisable = k := fun he => hdue ⟨he.symm, hs⟩
        rw [isArmed_expire hother (k.rearms_ramp rfl)]
        exact Or.inr ⟨hs, harmed⟩
  exact ⟨h.works.expire k, h.ranged.expire (by rcases hoff with hs | ⟨hs, -⟩ <;> simp [hs]), hasked, hoff⟩

/-! ### On the way on -/

/-- Noise control is on and stays so, in the mode that is asked for or about to load it.  The mode has
this leakthrough gain if it is loaded, and else brings it. -/
structure Arriving (m : Mode) (gain : UInt8) (b : Earbud) : Prop where
  works : HardwareWorks b
  ranged : Ranged b
  on : b.runtime.state = .enabled
  stays : b.runtime.requestedEnabled = true
  unramped : b.timers.isArmed .muteBeforeDisable = false
  asked : b.runtime.requestedMode = m
  waits : b.runtime.currentMode ≠ m → b.timers.isArmed .muteBeforeMode = true
  path : b.config.layout.controlPath? ≠ none
  gain : m.isAdaptive = false →
    (if b.runtime.currentMode = m then b.runtime.leakthroughGain else AudioChain.modeGain m) = gain

theorem Arriving.runtime_expire (h : Arriving m gain b) :
    (b.expire .muteBeforeMode).runtime =
      ((b.popped .muteBeforeMode).reconfigure true m).1.runtime := by
  have hpending : (b.popped .muteBeforeMode).handle (.timerExpired .muteBeforeMode) =
      (b.popped .muteBeforeMode).applyPending := handleInState_enabled (b.popped .muteBeforeMode) h.on _
  unfold Earbud.expire
  rw [runtime_dispatch, hpending]
  show (reconfigure _ b.runtime.requestedEnabled b.runtime.requestedMode).1.runtime = _
  rw [h.stays, h.asked]

theorem Arriving.expire (h : Arriving m gain b) (hk : k.ramps = true)
    (harmed : b.timers.isArmed k = true) : Arriving m gain (b.expire k) := by
  obtain rfl : k = .muteBeforeMode := by
    cases k with
    | muteBeforeMode => rfl
    | muteBeforeDisable => exact nomatch h.unramped.symm.trans harmed
    | _ => cases hk
  have hm : m.index < b.runtime.numModes := h.asked ▸ h.ranged.requested
  have hruntime := h.runtime_expire
  obtain ⟨-, hcurrent, -, hintent⟩ := reconfigure_works (b := b.popped .muteBeforeMode)
    h.works true hm
  have hgain := leakthrough_reconfigure (b := b.popped .muteBeforeMode) h.works true hm h.path
  rw [← hruntime] at hcurrent hintent hgain
  have hon : (b.expire .muteBeforeMode).runtime.state = .enabled :=
    (congrArg Intent.state hintent).trans h.on
  exact {
    works := h.works.expire _
    ranged := h.ranged.expire (by simp [hon])
    on := hon
    stays := (congrArg Intent.requestedEnabled hintent).trans h.stays
    unramped := (isArmed_expire (by decide) rfl).trans h.unramped
    asked := (congrArg Intent.requestedMode hintent).trans h.asked
    waits := fun hne => absurd hcurrent hne
    path := config_expire b .muteBeforeMode ▸ h.path
    gain := fun hmode => by
      rw [if_pos hcurrent, hgain hmode]
      exact h.gain hmode }

/-! ### What a report asks for -/

theorem beside_chooseMode (b : Earbud) (m : Mode) :
    Work beside (b.requestMode m).1 (b.chooseMode m).1 := by
  rw [chooseMode_fst]
  split
  · exact (work_adopt_beside _ _).tail (.runtime (fun r => { r with userSwitchedMode := true }) rfl)
  · exact .refl

theorem followMode_works (h : HardwareWorks b) (hr : Ranged b)
    (hs : b.runtime.state = .disabled ∨ b.runtime.state = .enabled)
    (hm : m.index < b.runtime.numModes) :
    (b.followMode m).runtime.state = b.runtime.state ∧
      (b.followMode m).runtime.requestedEnabled = b.runtime.requestedEnabled ∧
      (b.followMode m).runtime.requestedMode = m := by
  unfold followMode
  split <;> rename_i hsame
  · exact ⟨rfl, rfl, hsame.symm⟩
  · have hintent := (requestMode_works h hr hs hm).2
    have hkeeps := (beside_chooseMode b m).keeps
    exact ⟨(congrArg Runtime.state hkeeps :).trans (congrArg Intent.state hintent),
      (congrArg Runtime.requestedEnabled hkeeps :).trans (congrArg Intent.requestedEnabled hintent),
      (congrArg Runtime.requestedMode hkeeps :).trans (congrArg Intent.requestedMode hintent)⟩

theorem requestMode_enabled (hs : b.runtime.state = .enabled) (hm : m.index < b.runtime.numModes)
    (hnew : m ≠ b.runtime.currentMode) :
    b.requestMode m =
      let asked := b.setRuntime fun r => { r with requestedMode := m }
      if b.audio.adaptive then
        ((asked.command .gentleMute).arm .muteBeforeMode b.config.timing.gentleMute, .ok ())
      else asked.applyPending := by
  unfold requestMode
  rw [hs]
  exact (if_neg (UInt8.not_le.mpr hm)).trans (if_neg hnew)

/-- While noise control is on, a mode is loaded at once unless it waits for a ramp of adaptive
processing. -/
theorem currentMode_followMode (h : HardwareWorks b) (hs : b.runtime.state = .enabled)
    (hloaded : b.runtime.requestedMode = b.runtime.currentMode) (hm : m.index < b.runtime.numModes) :
    (b.followMode m).runtime.currentMode = m ↔
      ¬(b.audio.adaptive = true ∧ m ≠ b.runtime.currentMode) := by
  unfold followMode
  rw [hloaded]
  split <;> rename_i hsame
  · subst hsame
    simp
  · have hkept : (b.chooseMode m).1.runtime.currentMode = (b.requestMode m).1.runtime.currentMode :=
      (congrArg Runtime.currentMode (beside_chooseMode b m).keeps :)
    rw [hkept, requestMode_enabled hs hm hsame]
    cases hruns : b.audio.adaptive with
    | true => exact iff_of_false (fun he => hsame he.symm) (by simp [hsame])
    | false =>
      have hcurrent := (reconfigure_works (b := b.setRuntime fun r => { r with requestedMode := m }) h
        b.runtime.requestedEnabled hm).2.1
      exact iff_of_true hcurrent (by simp)

theorem currentMode_requestEnable (h : HardwareWorks b) (hr : Ranged b)
    (hs : b.runtime.state = .disabled) :
    b.requestEnable.1.runtime.currentMode = b.runtime.requestedMode := by
  have hcurrent := (reconfigure_works (b := b.setRuntime fun r => { r with requestedEnabled := true }) h
    true hr.requested).2.1
  unfold requestEnable
  rw [hs]
  dsimp only
  split
  · rw [runtime_enter]
    exact hcurrent
  · exact hcurrent

/-- Adaptive processing runs only while the hardware is on. -/
theorem Reached.idle (hb : Reached c b) (hoff : b.runtime.actualEnabled = false) :
    b.audio.adaptive = false := by
  obtain ⟨clockOrigin, store, moves, rfl⟩ := hb
  cases hc : c.adaptive with
  | true => exact (attended_eq_false.mp ((attended_run hc clockOrigin store moves).off hoff)).1
  | false =>
    have hqueue : Incident.event (.timerExpired .configSettle) ∉ moves.map .move := by simp
    have hplain := untouched_run hc clockOrigin store hqueue
    rw [List.foldl_map] at hplain
    exact hplain.idle

/-- An earbud that follows its peer on is in the mode that was asked for before, and has adaptive
processing only if it was on before. -/
theorem followSwitch_on (hb : Reached c b) (h : HardwareWorks b)
    (hs : b.runtime.state = .disabled ∨ b.runtime.state = .enabled ∧ b.ramping = false) :
    let on := b.followSwitch true
    (on.runtime.state = .enabled ∧ on.runtime.requestedEnabled = true ∧
        on.runtime.requestedMode = on.runtime.currentMode) ∧
      (on.audio.adaptive = true ↔ b.isEnabled = true ∧ b.audio.adaptive = true) ∧
      (b.isEnabled = true → on.runtime.currentMode = b.runtime.currentMode) := by
  intro on
  rcases hs with hs | ⟨hs, hidle⟩
  · have hoff : b.isEnabled = false := isEnabled_eq_false (by simp [hs])
    have hranged := hb.ranged (by simp [hs])
    have hon : on = b.chooseEnable.1 := (if_neg (by simp [hoff])).trans (if_pos rfl)
    have w : Work beside b.requestEnable.1 on := by
      rw [hon]
      rcases chooseEnable_fst b with he | he <;> rw [he]
      exact .single (.runtime (fun r => { r with userEnabled := true }) rfl)
    have hkeeps := w.keeps
    have hintent := (requestEnable_works h hranged hs).2
    have hstill : b.requestEnable.1.audio.adaptive = false :=
      (steers_requestEnable b).idle (fun _ _ _ => rfl) (hb.idle (hb.sound.off (by simp [hs])))
    have hadaptive : on.audio.adaptive = false := w.idle (fun _ _ _ => rfl) hstill
    have hasked : on.runtime.requestedMode = b.runtime.requestedMode :=
      (congrArg Runtime.requestedMode hkeeps :).trans (congrArg Intent.requestedMode hintent)
    have hcurrent : on.runtime.currentMode = b.runtime.requestedMode :=
      (congrArg Runtime.currentMode hkeeps :).trans (currentMode_requestEnable h hranged hs)
    refine ⟨⟨?_, ?_, hasked.trans hcurrent.symm⟩, by simp [hadaptive, hoff], by simp [hoff]⟩
    · exact (congrArg Runtime.state hkeeps :).trans (congrArg Intent.state hintent)
    · exact (congrArg Runtime.requestedEnabled hkeeps :).trans (congrArg Intent.requestedEnabled hintent)
  · have hon : b.isEnabled = true := b.isEnabled_iff.mpr hs
    have hsame : on = b := if_pos hon.symm
    rw [hsame, hon]
    exact ⟨⟨hs, hb.settled hs hidle⟩, by simp, fun _ => rfl⟩

theorem followSwitch_off (h : HardwareWorks b) (hr : Ranged b)
    (hs : b.runtime.state = .disabled ∨ b.runtime.state = .enabled) :
    let off := b.followSwitch false
    off.runtime.state = .disabled ∨
      off.runtime.state = .enabled ∧ off.runtime.requestedEnabled = false := by
  intro off
  rcases hs with hs | hs
  · have hsame : off = b := if_pos (isEnabled_eq_false (by simp [hs])).symm
    rw [hsame]
    exact Or.inl hs
  · have hon : b.isEnabled = true := b.isEnabled_iff.mpr hs
    have hoff : off = b.requestDisable.1 := (if_neg (by simp [hon])).trans (if_neg (by decide))
    rw [hoff]
    rcases (requestDisable_works h hr hs).2 with hintent | hintent
    · exact Or.inr ⟨(congrArg Intent.state hintent).trans hs, (congrArg Intent.requestedEnabled hintent :)⟩
    · exact Or.inl (congrArg Intent.state hintent :)

theorem Reached.retiring (hb : Reached c b) (h : HardwareWorks b)
    (hs : b.runtime.state = .disabled ∨
      b.runtime.state = .enabled ∧ b.runtime.requestedEnabled = false) :
    Retiring b.runtime.requestedMode b := by
  refine ⟨h, hb.ranged (by rcases hs with hs | ⟨hs, -⟩ <;> simp [hs]), rfl, ?_⟩
  rcases hs with hs | ⟨hs, hasked⟩
  · exact Or.inl hs
  · obtain ⟨off, hfind, -⟩ := (hb.sound.staged hs hasked).ramp
    exact Or.inr ⟨hs, by simp [TimerQueue.isArmed, hfind]⟩

theorem Reached.arriving (hb : Reached c b) (h : HardwareWorks b) (hs : b.runtime.state = .enabled)
    (hstays : b.runtime.requestedEnabled = true) (hpath : c.layout.controlPath? ≠ none)
    (hgain : b.runtime.requestedMode.isAdaptive = false →
      (if b.runtime.currentMode = b.runtime.requestedMode then b.runtime.leakthroughGain
        else AudioChain.modeGain b.runtime.requestedMode) = gain) :
    Arriving b.runtime.requestedMode gain b := by
  have hunramped : b.timers.isArmed .muteBeforeDisable = false :=
    Bool.eq_false_iff.mpr fun harmed => nomatch hstays.symm.trans (hb.poised.ramp harmed).2
  refine ⟨h, hb.ranged (by simp [hs]), hs, hstays, hunramped, rfl, fun hne => ?_, ?_, hgain⟩
  · refine (hb.awaited hs fun he => hne he.symm).resolve_right fun harmed => ?_
    exact nomatch hunramped.symm.trans harmed
  · rwa [hb.config]

theorem runtime_peerState (hcase : b.runtime.peerInCase = false) (report : PeerReport) :
    (b.dispatch (.peerState report)).1.runtime =
      (((b.followSwitch report.enabled).followMode report.mode).followLeakthrough
        report.leakthroughGain).runtime := by
  rw [runtime_dispatch]
  exact congrArg Earbud.runtime (followPeer_eq b report hcase)

theorem Ranged.followSwitch (h : Ranged b) (enabled : Bool) :
    Ranged (b.followSwitch enabled) ∧
      (b.followSwitch enabled).runtime.numModes = b.runtime.numModes := by
  have hranged : Ranged (b.followSwitch enabled) := (route_followSwitch b enabled).ranged h
  refine ⟨hranged, ?_⟩
  rw [hranged.numModes, h.numModes, (work_followSwitch b enabled).config]

/-- The mode that is reported is asked for, and the gain is followed in the mode that is then current. -/
theorem peerState_works (h : HardwareWorks b) (hr : Ranged b) (hcase : b.runtime.peerInCase = false)
    (report : PeerReport) (hm : report.mode.index < b.runtime.numModes)
    (hs : (b.followSwitch report.enabled).runtime.state = .disabled ∨
      (b.followSwitch report.enabled).runtime.state = .enabled) :
    let switched := b.followSwitch report.enabled
    let told := (b.dispatch (.peerState report)).1
    (told.runtime.state = switched.runtime.state ∧
        told.runtime.requestedEnabled = switched.runtime.requestedEnabled ∧
        told.runtime.requestedMode = report.mode) ∧
      told.runtime.currentMode = (switched.followMode report.mode).runtime.currentMode ∧
      (told.runtime.currentMode.isAdaptive = false →
        told.runtime.leakthroughGain = report.leakthroughGain) := by
  intro switched told
  obtain ⟨hranged, hnum⟩ := hr.followSwitch report.enabled
  obtain ⟨hstate, hstays, hasked⟩ := followMode_works (h.work (work_followSwitch b report.enabled))
    hranged hs (hnum ▸ hm)
  have hruntime : told.runtime = _ := runtime_peerState hcase report
  have hkeeps := (levels_followLeakthrough (switched.followMode report.mode)
    report.leakthroughGain).keeps
  rw [← hruntime] at hkeeps
  have hcurrent : told.runtime.currentMode = (switched.followMode report.mode).runtime.currentMode :=
    (congrArg Runtime.currentMode hkeeps :)
  refine ⟨⟨?_, ?_, ?_⟩, hcurrent, fun hmode => ?_⟩
  · exact (congrArg Runtime.state hkeeps :).trans hstate
  · exact (congrArg Runtime.requestedEnabled hkeeps :).trans hstays
  · exact (congrArg Runtime.requestedMode hkeeps :).trans hasked
  · rw [hruntime]
    exact leakthrough_followLeakthrough (hcurrent ▸ hmode) report.leakthroughGain

theorem Reached.retires (hb : Reached c b) (h : HardwareWorks b)
    (hs : b.runtime.state = .disabled ∨ b.runtime.state = .enabled)
    (hcase : b.runtime.peerInCase = false) (hm : m.index < b.runtime.numModes) (gain : UInt8) :
    Retiring m (b.dispatch (.peerState ⟨false, m, gain⟩)).1 := by
  have hranged := hb.ranged (by rcases hs with hs | hs <;> simp [hs])
  have hceased := followSwitch_off h hranged hs
  obtain ⟨⟨hstate, hstays, hasked⟩, -⟩ := peerState_works h hranged hcase ⟨false, m, gain⟩ hm
    (hceased.imp_right And.left)
  dsimp only at hceased hstate hstays hasked
  rw [← hstate, ← hstays] at hceased
  have hretiring := (hb.event (.peerState ⟨false, m, gain⟩)).retiring (h.event _) hceased
  rwa [hasked] at hretiring

theorem Reached.arrives (hb : Reached c b) (h : HardwareWorks b)
    (hpath : c.layout.controlPath? ≠ none)
    (hs : b.runtime.state = .disabled ∨ b.runtime.state = .enabled ∧ b.ramping = false)
    (hcase : b.runtime.peerInCase = false) (hm : m.index < b.runtime.numModes) (gain : UInt8) :
    Arriving m
      (if b.isEnabled = true ∧ b.audio.adaptive = true ∧ m ≠ b.runtime.currentMode then
        AudioChain.modeGain m
      else gain) (b.dispatch (.peerState ⟨true, m, gain⟩)).1 := by
  have hranged := hb.ranged (by rcases hs with hs | ⟨hs, -⟩ <;> simp [hs])
  obtain ⟨⟨hswitched, hstaying, hloaded⟩, hadaptive, hkept⟩ := followSwitch_on hb h hs
  obtain ⟨⟨hstate, hstays, hasked⟩, hcurrent, hgain⟩ := peerState_works h hranged hcase
    ⟨true, m, gain⟩ hm (Or.inr hswitched)
  dsimp only at hswitched hstaying hloaded hadaptive hkept hstate hstays hasked hcurrent hgain
  have hmode := currentMode_followMode (h.work (work_followSwitch b true)) hswitched hloaded
    ((hranged.followSwitch true).2 ▸ hm)
  have hstaged : (b.followSwitch true).audio.adaptive = true ∧
      m ≠ (b.followSwitch true).runtime.currentMode ↔
        b.isEnabled = true ∧ b.audio.adaptive = true ∧ m ≠ b.runtime.currentMode := by
    rw [hadaptive, and_assoc]
    exact and_congr_right fun hon => by rw [hkept hon]
  rw [← hcurrent, hstaged] at hmode
  have harriving := (hb.event (.peerState ⟨true, m, gain⟩)).arriving (h.event _)
    (hstate.trans hswitched) (hstays.trans hstaying) hpath (fun _ => rfl)
  rw [hasked] at harriving
  refine { harriving with gain := fun hother => ?_ }
  split <;> rename_i hm
  · rw [if_neg (hmode.mp hm)]
    exact hgain ((congrArg Mode.isAdaptive hm).trans hother)
  · rw [if_pos (not_not.mp fun hnot => hm (hmode.mpr hnot))]

/-- On working hardware an earbud without a ramp comes to have noise control on or off as its peer
reports, and to ask for the mode that it reports, which is loaded if noise control is on.  It comes to
have the leakthrough gain that is reported exactly if the mode need not wait for a ramp, or brings that
gain of itself. -/
theorem peer_followed_iff (before : Earbud) (hb : Reached c before) (h : HardwareWorks before)
    (hlayout : c.layout = .hybrid ∨ c.layout = .feedForward)
    (hs : before.runtime.state = .disabled ∨
      before.runtime.state = .enabled ∧ before.ramping = false)
    (hcase : before.runtime.peerInCase = false) (report : PeerReport)
    (hm : report.mode.index < before.runtime.numModes) :
    let told := (before.dispatch (.peerState report)).1
    (∃ settled, RampsEnd told settled) ∧
      ∀ settled, RampsEnd told settled →
        settled.isEnabled = report.enabled ∧ settled.runtime.requestedMode = report.mode ∧
        (report.enabled = true →
          settled.runtime.currentMode = report.mode ∧
          (report.mode.isAdaptive = false →
            (settled.runtime.leakthroughGain = report.leakthroughGain ↔
              (before.isEnabled = true ∧ before.audio.adaptive = true ∧
                report.mode ≠ before.runtime.currentMode →
                  AudioChain.modeGain report.mode = report.leakthroughGain)))) := by
  intro told
  refine ⟨rampsEnd_exists told, fun settled hsettled => ?_⟩
  have hoff : settled.ramping = false → ∀ k : TimerKind, k.ramps = true →
      settled.timers.isArmed k = false := by
    intro hidle k hk
    obtain ⟨hdisable, hmode⟩ := Bool.or_eq_false_iff.mp hidle
    cases k <;> first | exact hdisable | exact hmode | cases hk
  obtain ⟨on, m, gain⟩ := report
  cases on with
  | false =>
    have hretires := hb.retires h (hs.imp_right And.left) hcase hm gain
    obtain ⟨hretiring, hidle⟩ := hsettled.induct hretires fun _ k _ _ h => h.expire k
    have hdisabled : settled.runtime.state = .disabled :=
      hretiring.off.resolve_right fun hwaits => nomatch (hoff hidle _ rfl).symm.trans hwaits.2
    exact ⟨isEnabled_eq_false (by simp [hdisabled]), hretiring.asked, nofun⟩
  | true =>
    have hpath : c.layout.controlPath? ≠ none := by
      rcases hlayout with hl | hl <;> rw [hl] <;> nofun
    have harrives := hb.arrives h hpath hs hcase hm gain
    obtain ⟨harriving, hidle⟩ := hsettled.induct harrives fun _ _ hk harmed h => h.expire hk harmed
    have hcurrent : settled.runtime.currentMode = m := by
      by_contra hne
      exact nomatch (hoff hidle _ rfl).symm.trans (harriving.waits hne)
    refine ⟨(isEnabled_iff _).mpr harriving.on, harriving.asked, fun _ => ⟨hcurrent, fun hmode => ?_⟩⟩
    have hgain := harriving.gain hmode
    rw [if_pos hcurrent] at hgain
    rw [hgain]
    dsimp only
    split <;> rename_i hstaged
    · exact ⟨fun he _ => he, fun he => he hstaged⟩
    · exact iff_of_true rfl fun h => absurd h hstaged

/-- Adaptive processing does not run yet when the peer reports another mode and its gain. -/
theorem peer_followed_iff_early :
    let before := (Earbud.new (.standard "") none {}).run
      [.event .initialise, .event .powerOn, .event .enable]
    ∃ settled, RampsEnd (before.dispatch (.peerState ⟨true, ⟨2⟩, 50⟩)).1 settled ∧
      settled.runtime.currentMode = ⟨2⟩ ∧ settled.runtime.leakthroughGain = 50 := by
  intro before
  obtain ⟨⟨settled, hsettled⟩, hfollowed⟩ := peer_followed_iff before
    (reached_run (.standard "") none {} _) (fun _ _ => rfl) (Or.inl rfl) (Or.inr (by decide))
    (by decide) ⟨true, ⟨2⟩, 50⟩ (by decide)
  obtain ⟨-, -, hon⟩ := hfollowed settled hsettled
  obtain ⟨hmode, hgain⟩ := hon rfl
  refine ⟨settled, hsettled, hmode, (hgain rfl).mpr ?_⟩
  rintro ⟨-, hruns, -⟩
  exact absurd hruns (by decide)

/-- Adaptive processing runs, and its ramp comes before the mode. -/
theorem peer_gain_lost : ¬∀ (c : Config) (before : Earbud), Reached c before → HardwareWorks before →
    c.layout = .hybrid ∨ c.layout = .feedForward →
    (before.runtime.state = .disabled ∨
      before.runtime.state = .enabled ∧ before.ramping = false) →
    before.runtime.peerInCase = false → ∀ report : PeerReport,
      report.mode.index < before.runtime.numModes →
      ∀ settled, RampsEnd (before.dispatch (.peerState report)).1 settled →
        settled.isEnabled = report.enabled ∧ settled.runtime.requestedMode = report.mode ∧
        (report.enabled = true →
          settled.runtime.currentMode = report.mode ∧
          (report.mode.isAdaptive = false →
            settled.runtime.leakthroughGain = report.leakthroughGain)) := by
  intro h
  have hreached := reached_run (.standard "") none {}
    [.event .initialise, .event .powerOn, .event .enable, .expiry]
  have hfollowed := h _ _ hreached (fun _ _ => rfl) (Or.inl rfl) (by decide) (by decide)
    ⟨true, ⟨2⟩, 50⟩ (by decide) _
    (.expire (k := .muteBeforeMode) rfl (by decide +kernel) (.idle (by decide +kernel)))
  exact absurd ((hfollowed.2.2 rfl).2 rfl) (by decide +kernel)

end Earbud

end NoiseControl
