import NoiseControl.Proofs.Earbud.History
import NoiseControl.Proofs.Earbud.Modes

/-!
# Gentle mutes come to an end

Adaptive processing is muted before it is switched off or its mode is swapped, and the timer that is
armed with the mute completes the change, which ends the mute.  There is one way for a mute to last
with nothing left to end it: the ramp of a mode is over, and then no mode is swapped, because what
was asked for was given up meanwhile or cannot be loaded.
-/

namespace NoiseControl

/-- What a command says of a gentle mute: that one begins, or that none lasts. -/
def muting : Matter Bool
  | .gentleMute, _ => some true
  | .swapModeLive _, _ | .adaptiveOff, _ | .adaptiveOn .., _ => some false
  | _, _ => none

namespace Earbud

variable {x : Extent} {a b c : Earbud}

def gentlyMuted (b : Earbud) : Bool := b.latest? muting == some true

def mutings (b : Earbud) : Nat := b.tally muting

/-- The timer of a ramp down is armed. -/
def ramping (b : Earbud) : Bool :=
  b.timers.isArmed .muteBeforeDisable || b.timers.isArmed .muteBeforeMode

theorem gentlyMuted_iff : b.gentlyMuted = true ↔ b.latest? muting = some true := beq_iff_eq

theorem gentlyMuted_of_mutings_eq (h : a.history <:+ b.history) (hn : b.mutings = a.mutings) :
    b.gentlyMuted = a.gentlyMuted := by
  unfold gentlyMuted
  rw [latest?_eq_of_tally_eq h hn]

/-- Work that mutes nothing leaves a mute as it was, if it leaves it on. -/
theorem Work.mutings (w : Work x a b) (hx : x.audio .gentleMute = false)
    (hb : b.gentlyMuted = true) : b.mutings = a.mutings := by
  refine w.unsaid (v := true) (fun c done hc hsaid => ?_) (gentlyMuted_iff.mp hb)
  cases c with
  | gentleMute => simp [hx] at hc
  | _ => cases hsaid

theorem Work.gentlyMuted (w : Work x a b) (hx : x.audio .gentleMute = false)
    (hb : b.gentlyMuted = true) : a.gentlyMuted = true :=
  (gentlyMuted_of_mutings_eq w.history_suffix (w.mutings hx hb)).symm.trans hb

/-! ### Nothing muted -/

/-- No mute lasts, and no switch off waits for its ramp. -/
structure Unmuted (b : Earbud) : Prop where
  mute : b.gentlyMuted = false
  ramp : b.timers.isArmed .muteBeforeDisable = false

theorem Work.unmuted (w : Work x a b) (hx : x.audio .gentleMute = false)
    (ha : a.gentlyMuted = false) : b.gentlyMuted = false := by
  cases hb : b.gentlyMuted with
  | false => rfl
  | true => rw [w.gentlyMuted hx hb] at ha; cases ha

theorem isArmed_off_stopSettleTimers (b : Earbud) :
    b.stopSettleTimers.timers.isArmed .muteBeforeDisable = false := by
  simp [stopSettleTimers, cancel, TimerQueue.isArmed, TimerQueue.find?_cancel]

theorem Unmuted.setRuntime (h : Unmuted b) (change : Runtime → Runtime) :
    Unmuted (b.setRuntime change) := ⟨h.mute, h.ramp⟩

theorem Unmuted.enter (h : Unmuted b) (next : Lifecycle) : Unmuted (b.enter next) where
  mute := (steers_enter b next).unmuted rfl h.mute
  ramp := by
    cases hr : (b.enter next).timers.isArmed .muteBeforeDisable with
    | false => rfl
    | true => exact (isArmed_of_enter _ hr).symm.trans h.ramp

theorem Unmuted.reconfigure (h : Unmuted b) (on : Bool) (m : Mode) :
    Unmuted (b.reconfigure on m).1 where
  mute := (steers_reconfigure b on m).unmuted rfl h.mute
  ramp := ((work_reconfigure b on m).isArmed rfl).trans h.ramp

theorem unmuted_switchHardware (h : b.audio.adaptive = true) :
    (b.switchHardware false).1.gentlyMuted = false := by
  have hstopped : b.stopAdaptive.gentlyMuted = false := by
    have hcommand : b.stopAdaptive = (b.cancel .configSettle).command .adaptiveOff := if_pos h
    rw [hcommand]
    rfl
  have hoff := (work_hardwareOff b.stopAdaptive (levels_within_turning false) rfl rfl).mono
    (turning_within_switching false)
  exact Work.unmuted (hoff.trans (work_turned b false)) rfl hstopped

theorem unmuted_reconfigure (hon : b.runtime.actualEnabled = true) (hadaptive : b.audio.adaptive = true)
    (m : Mode) : (b.reconfigure false m).1.gentlyMuted = false := by
  have hmoded := work_inMode (b.boost true) (fun _ => true) (m := m) rfl rfl
  have hstill : ((b.boost true).inMode m).1.runtime.actualEnabled = true :=
    (congrArg Runtime.actualEnabled hmoded.keeps :).trans hon
  have hruns : ((b.boost true).inMode m).1.audio.adaptive = true :=
    (hmoded.adaptive (fun _ _ _ => rfl) rfl fun _ => rfl).trans hadaptive
  rw [reconfigure_stages]
  generalize ((b.boost true).inMode m).1 = moded at hstill hruns ⊢
  have hpower : (moded.inPower false).1.gentlyMuted = false := by
    unfold inPower
    rw [if_neg (by simp [hstill])]
    exact unmuted_switchHardware hruns
  have htold := (work_tellAdaptive (moded.inPower false).1 b.runtime.actualEnabled
    b.runtime.currentMode).unmuted rfl hpower
  exact (work_boost (x := hardware false) _ false (fun _ => rfl) rfl).unmuted rfl htold

theorem unmuted_switchOff
    (hm : b.gentlyMuted = true → b.runtime.actualEnabled = true ∧ b.audio.adaptive = true)
    (hr : b.timers.isArmed .muteBeforeDisable = false) (next : Lifecycle) :
    Unmuted (b.switchOff next).1 := by
  have hoff : Unmuted (b.reconfigure false b.runtime.requestedMode).1 := by
    refine ⟨?_, ((work_reconfigure b false _).isArmed rfl).trans hr⟩
    cases hmuted : b.gentlyMuted with
    | false => exact (steers_reconfigure b false _).unmuted rfl hmuted
    | true => exact unmuted_reconfigure (hm hmuted).1 (hm hmuted).2 _
  unfold switchOff
  dsimp only
  refine Unmuted.setRuntime ?_ _
  split
  · exact (hoff.setRuntime _).enter _
  · split
    · exact hoff.setRuntime _
    · exact hoff.enter _

/-! ### What an event does to a mute -/

/-- A mute lasts only while adaptive processing runs in the state `enabled`, and only there a switch
off that is no longer asked for has its ramp armed. -/
structure Poised (b : Earbud) : Prop where
  mute : b.gentlyMuted = true → b.runtime.state = .enabled ∧ b.audio.adaptive = true
  ramp : b.timers.isArmed .muteBeforeDisable = true →
    b.runtime.state = .enabled ∧ b.runtime.requestedEnabled = false

theorem Unmuted.poised (h : Unmuted b) : Poised b where
  mute hm := nomatch h.mute.symm.trans hm
  ramp hr := nomatch h.ramp.symm.trans hr

theorem Poised.unmuted (h : Poised b) (hs : b.runtime.state ≠ .enabled) : Unmuted b :=
  ⟨Bool.eq_false_iff.mpr fun hm => hs (h.mute hm).1, Bool.eq_false_iff.mpr fun hr => hs (h.ramp hr).1⟩

/-- If a mute lasts at `b`, it lasted at `a` with the same ramps, or it has begun since and its ramp
is armed. -/
structure Ramps (a b : Earbud) : Prop where
  grows : a.history <:+ b.history
  mute : b.gentlyMuted = true →
    b.mutings = a.mutings ∧ b.ramping = a.ramping ∨ a.mutings < b.mutings ∧ b.ramping = true

theorem Ramps.refl (b : Earbud) : Ramps b b := ⟨List.suffix_rfl, fun _ => Or.inl ⟨rfl, rfl⟩⟩

theorem Ramps.trans (h : Ramps a b) (h' : Ramps b c) : Ramps a c := by
  refine ⟨h.grows.trans h'.grows, fun hm => ?_⟩
  have hle : a.mutings ≤ b.mutings := tally_le h.grows muting
  rcases h'.mute hm with ⟨hn, hr⟩ | ⟨hn, hr⟩
  · have hmuted : b.gentlyMuted = true := (gentlyMuted_of_mutings_eq h'.grows hn).symm.trans hm
    rw [hn, hr]
    exact h.mute hmuted
  · exact Or.inr ⟨by omega, hr⟩

theorem ramps_of_unmuted (hg : a.history <:+ b.history) (hm : b.gentlyMuted = false) : Ramps a b :=
  ⟨hg, fun h => nomatch hm.symm.trans h⟩

/-- Work that arms and cancels no ramp and mutes nothing. -/
theorem Work.ramps (w : Work x a b) (hx : x.audio .gentleMute = false)
    (hoff : x.timer .muteBeforeDisable = false) (hmode : x.timer .muteBeforeMode = false) :
    Ramps a b := by
  refine ⟨w.history_suffix, fun hm => Or.inl ⟨w.mutings hx hm, ?_⟩⟩
  simp only [ramping, TimerQueue.isArmed, w.find? hoff, w.find? hmode]

theorem Poised.beside (h : Poised a) (w : Work beside a b) : Poised b ∧ Ramps a b := by
  have hstate : b.runtime.state = a.runtime.state := (congrArg Runtime.state w.keeps :)
  have hasked : b.runtime.requestedEnabled = a.runtime.requestedEnabled :=
    (congrArg Runtime.requestedEnabled w.keeps :)
  have hadaptive := w.adaptive (fun _ _ _ => rfl) rfl fun _ => rfl
  have hramp : b.timers.isArmed .muteBeforeDisable = a.timers.isArmed .muteBeforeDisable :=
    w.isArmed rfl
  refine ⟨⟨fun hm => ?_, fun hr => ?_⟩, w.ramps rfl rfl rfl⟩
  · rw [hstate, hadaptive]
    exact h.mute (w.gentlyMuted rfl hm)
  · rw [hstate, hasked]
    exact h.ramp (hramp ▸ hr)

theorem Poised.setRuntime (h : Poised b) (change : Runtime → Runtime)
    (hs : (change b.runtime).state = b.runtime.state)
    (hr : (change b.runtime).requestedEnabled = b.runtime.requestedEnabled) :
    Poised (b.setRuntime change) ∧ Ramps b (b.setRuntime change) := by
  refine ⟨⟨fun hm => ?_, fun hramp => ?_⟩, ⟨List.suffix_rfl, fun _ => Or.inl ⟨rfl, rfl⟩⟩⟩
  · obtain ⟨hon, hruns⟩ := h.mute hm
    exact ⟨hs.trans hon, hruns⟩
  · obtain ⟨hon, hasked⟩ := h.ramp hramp
    exact ⟨hs.trans hon, hr.trans hasked⟩

theorem Unmuted.requestEnable (h : Unmuted b) : Unmuted b.requestEnable.1 := by
  unfold Earbud.requestEnable
  split
  · have hon := (h.setRuntime fun r => { r with requestedEnabled := true }).reconfigure true
      b.runtime.requestedMode
    dsimp only
    split
    · exact hon.enter _
    · exact hon
  · exact h

theorem Unmuted.switchPowerOn (h : Unmuted b) : Unmuted b.switchPowerOn := by
  have hset := h.setRuntime fun r => { r with powerOn := true }
  unfold Earbud.switchPowerOn
  dsimp only
  split
  · exact (hset.reconfigure _ _).enter _
  · exact hset.enter _

theorem Unmuted.start (h : Unmuted b) : Unmuted b.start.1 := by
  refine ⟨(work_start b).unmuted rfl h.mute, ?_⟩
  have hprobe : ∀ command, (b.loadSession.1.attempt command).1.timers = b.timers := by
    intro command
    rcases attempt_fst b.loadSession.1 command with he | he <;> rw [he] <;> rfl
  rcases start_fst b with ⟨he, -⟩ | ⟨microphones, mode, ⟨he, -⟩ | ⟨enabled, he, -⟩⟩ <;> rw [he]
  · exact h.ramp
  · rw [hprobe]
    exact h.ramp
  · refine Bool.eq_false_iff.mpr fun hr => ?_
    have hbefore := isArmed_of_enter _ hr
    change (b.loadSession.1.attempt _).1.timers.isArmed _ = true at hbefore
    rw [hprobe, h.ramp] at hbefore
    cases hbefore

theorem ramps_gentleMute (h : b.history = a.history) {k : TimerKind}
    (hk : k = .muteBeforeDisable ∨ k = .muteBeforeMode) (after : Nat) :
    Ramps a ((b.command .gentleMute).arm k after) := by
  refine ⟨⟨[.audio .gentleMute true], congrArg _ h.symm⟩, fun _ => Or.inr ⟨?_, ?_⟩⟩
  · simp [mutings, tally, arm, command, Activity.tells, muting, h]
  · have harmed := isArmed_arm (b.command .gentleMute) k after
    unfold ramping
    rcases hk with rfl | rfl <;> rw [harmed]
    · rfl
    · exact Bool.or_true _

theorem Poised.requestDisable (h : Poised b) (hs : b.runtime.state = .enabled) :
    Poised b.requestDisable.1 ∧ Ramps b b.requestDisable.1 := by
  have hgrows := (work_requestDisable b).history_suffix
  unfold Earbud.requestDisable at hgrows ⊢
  rw [hs] at hgrows ⊢
  dsimp only at hgrows ⊢
  split <;> rename_i hruns
  · have hbegun := ramps_gentleMute (a := b)
      (b := (b.setRuntime fun r => { r with requestedEnabled := false }).stopSettleTimers) rfl
      (Or.inl rfl) b.config.timing.gentleMute
    exact ⟨⟨fun _ => ⟨hs, hruns⟩, fun _ => ⟨hs, rfl⟩⟩, hbegun⟩
  · rw [if_neg hruns] at hgrows
    have hoff := unmuted_switchOff
      (b := (b.setRuntime fun r => { r with requestedEnabled := false }).stopSettleTimers)
      (fun hm => absurd (h.mute hm).2 hruns) (isArmed_off_stopSettleTimers _) .disabled
    exact ⟨hoff.poised, ramps_of_unmuted hgrows hoff.mute⟩

/-- A mode that is loaded at once finds nothing muted, since adaptive processing does not run. -/
theorem Poised.applyAtOnce (h : Poised b) (hruns : b.audio.adaptive = false) :
    Poised b.applyPending.1 ∧ Ramps b b.applyPending.1 := by
  have w := work_reconfigure b b.runtime.requestedEnabled b.runtime.requestedMode
  have hstill : b.applyPending.1.gentlyMuted = false := by
    refine Work.unmuted w rfl (Bool.eq_false_iff.mpr fun hm => ?_)
    exact nomatch hruns.symm.trans (h.mute hm).2
  refine ⟨⟨fun hm => (nomatch hstill.symm.trans hm), fun hr => ?_⟩, w.ramps rfl rfl rfl⟩
  obtain ⟨hs, hasked⟩ := h.ramp ((w.isArmed rfl).symm.trans hr)
  exact ⟨(state_reconfigure b _ _).trans hs, (requestedEnabled_reconfigure b _ _).trans hasked⟩

theorem Poised.requestMode (h : Poised b) (m : Mode) :
    Poised (b.requestMode m).1 ∧ Ramps b (b.requestMode m).1 := by
  obtain ⟨hset, hramps⟩ := h.setRuntime (fun r => { r with requestedMode := m }) rfl rfl
  unfold Earbud.requestMode
  split <;> rename_i hs
  · split
    · exact ⟨h, .refl b⟩
    · obtain ⟨hpoised, hgains⟩ := hset.beside ((work_refreshLeakthrough _).mono gains_within_beside)
      exact ⟨hpoised, hramps.trans hgains⟩
  · split
    · exact ⟨h, .refl b⟩
    · dsimp only
      split
      · exact ⟨hset, hramps⟩
      · split <;> rename_i hruns
        · have hbegun := ramps_gentleMute (a := b)
            (b := b.setRuntime fun r => { r with requestedMode := m }) rfl (Or.inr rfl)
            b.config.timing.gentleMute
          refine ⟨⟨fun _ => ⟨hs, hruns⟩, fun hr => h.ramp ?_⟩, hbegun⟩
          have hother : (b.timers.arm .muteBeforeMode b.config.timing.gentleMute).isArmed
              .muteBeforeDisable = b.timers.isArmed .muteBeforeDisable :=
            congrArg Option.isSome ((TimerQueue.find?_arm _ _ _ _).trans (if_neg (by decide)))
          exact hother.symm.trans hr
        · obtain ⟨hpoised, happlied⟩ := hset.applyAtOnce (Bool.eq_false_iff.mpr hruns)
          exact ⟨hpoised, hramps.trans happlied⟩
  · exact ⟨h, .refl b⟩

theorem Demand.ramps (d : Demand a b) (h : Poised a) : Poised b ∧ Ramps a b := by
  cases d with
  | beside t => exact h.beside (.single t)
  | enable hs =>
    have hon := (h.unmuted (by rw [hs]; decide)).requestEnable
    exact ⟨hon.poised, ramps_of_unmuted (work_requestEnable a).history_suffix hon.mute⟩
  | disable hs => exact h.requestDisable hs
  | mode m => exact h.requestMode m
  | remember => exact h.setRuntime _ rfl rfl

theorem Demands.ramps (ds : Demands a b) (h : Poised a) : Poised b ∧ Ramps a b := by
  induction ds with
  | refl => exact ⟨h, .refl a⟩
  | tail _ d ih =>
    obtain ⟨hpoised, hramps⟩ := d.ramps ih.1
    exact ⟨hpoised, ih.2.trans hramps⟩

theorem Poised.applyPending (h : Poised b) (hc : b.runtime.Classified) (hs : b.runtime.state = .enabled) :
    Poised b.applyPending.1 ∧ Ramps b b.applyPending.1 := by
  have w := work_reconfigure b b.runtime.requestedEnabled b.runtime.requestedMode
  have hramps : Ramps b b.applyPending.1 := w.ramps rfl rfl rfl
  refine ⟨⟨fun hm => ⟨(state_reconfigure b _ _).trans hs, ?_⟩, fun hr => ?_⟩, hramps⟩
  · have hruns := (h.mute (Work.gentlyMuted w rfl hm)).2
    cases hasked : b.runtime.requestedEnabled with
    | true =>
      have won := work_reconfigure b true b.runtime.requestedMode
      unfold Earbud.applyPending
      rw [hasked]
      exact (Work.adaptive won (fun _ _ _ => rfl) rfl fun _ => rfl).trans hruns
    -- The hardware goes off, and with it the mute.
    | false =>
      unfold Earbud.applyPending at hm
      rw [hasked, unmuted_reconfigure (by rw [hc.hardware, hs]; rfl) hruns] at hm
      cases hm
  · obtain ⟨-, hasked⟩ := h.ramp ((w.isArmed rfl).symm.trans hr)
    exact ⟨(state_reconfigure b _ _).trans hs, (requestedEnabled_reconfigure b _ _).trans hasked⟩

theorem Poised.startAdaptive (h : Poised b) : Poised b.startAdaptive ∧ Ramps b b.startAdaptive := by
  unfold Earbud.startAdaptive
  split
  · have hstarted : ∀ command, muting command true = some false → muting command false = some false →
        (b.attempt command).1.gentlyMuted = false ∧ (b.attempt command).1.timers = b.timers := by
      intro command hdone hfailed
      rcases attempt_fst b command with he | he <;> rw [he]
      · exact ⟨by simp [gentlyMuted, latest?, Activity.tells, hfailed], rfl⟩
      · exact ⟨by simp [gentlyMuted, latest?, Earbud.command, Activity.tells, hdone], rfl⟩
    obtain ⟨hmute, htimers⟩ := hstarted (.adaptiveOn (b.runtime.placement == .inEar)
      b.config.layout.controlPath? b.runtime.currentMode) rfl rfl
    have hgrows : b.history <:+ (b.attempt (.adaptiveOn (b.runtime.placement == .inEar)
        b.config.layout.controlPath? b.runtime.currentMode)).1.history :=
      Work.history_suffix (x := anything) (.single (.attempt _ rfl))
    refine ⟨⟨fun hm => absurd (hmute.symm.trans hm) Bool.false_ne_true, fun hr => ?_⟩,
      ramps_of_unmuted hgrows hmute⟩
    rw [runtime_attempt]
    exact h.ramp (htimers ▸ hr)
  · exact ⟨h, .refl b⟩

theorem Unmuted.command (h : Unmuted b) (command : AudioCommand)
    (hc : muting command true ≠ some true) : Unmuted (b.command command) := by
  refine ⟨Bool.eq_false_iff.mpr fun hm => ?_, h.ramp⟩
  have hbefore : b.gentlyMuted = true := by
    rw [gentlyMuted_iff] at hm ⊢
    simp only [latest?, Earbud.command, List.findSome?_cons, Activity.tells] at hm
    split at hm
    · rename_i said hsaid
      rw [hm] at hsaid
      exact absurd hsaid hc
    · exact hm
  exact Bool.false_ne_true (h.mute.symm.trans hbefore)

theorem Unmuted.ends {y : Earbud} (h : Unmuted y) (hg : b.history <:+ y.history) :
    Poised y ∧ Ramps b y := ⟨h.poised, ramps_of_unmuted hg h.mute⟩

theorem Course.ramps {e : Event} {y : Earbud × Outcome} (course : Course b e y)
    (hc : b.runtime.Classified) (h : Poised b)
    (hpop : e = .timerExpired .muteBeforeDisable →
      b.timers.isArmed .muteBeforeDisable = false) :
    Poised y.1 ∧ Ramps b y.1 := by
  have hgrows : b.history <:+ y.1.history := course.work.history_suffix
  have hruns : b.runtime.state = .enabled → b.gentlyMuted = true →
      b.runtime.actualEnabled = true ∧ b.audio.adaptive = true := fun hs hm =>
    ⟨by rw [hc.hardware, hs]; rfl, (h.mute hm).2⟩
  cases course with
  | demands ds => exact ds.ramps h
  | start hs => exact (h.unmuted (by rw [hs]; decide)).start.ends hgrows
  | powerOn hs => exact (h.unmuted (by rw [hs]; decide)).switchPowerOn.ends hgrows
  | powerOffDisabled hs =>
    have hset := (h.unmuted (by rw [hs]; decide)).setRuntime fun r => { r with powerOn := false }
    exact (hset.enter .powerOff).ends hgrows
  | powerOffEnabled hs =>
    refine Unmuted.ends (unmuted_switchOff ?_ (isArmed_off_stopSettleTimers _) .powerOff) hgrows
    exact hruns hs
  | tune kind hs =>
    refine Unmuted.ends (enterTuning_induction b kind (fun hs => ?_) (fun hs => ?_) fun x hx => ?_) hgrows
    · exact unmuted_switchOff (b := b.stopSettleTimers) (hruns hs) (isArmed_off_stopSettleTimers b) _
    · exact (h.unmuted hs).enter _
    · exact hx.command _ (by simp [muting])
  | host kind rate hs =>
    have hset := (h.unmuted (by rw [hs]; cases kind <;> decide)).setRuntime fun r =>
      { r with tuningSampleRate := some rate }
    exact (hset.command _ (by simp [muting])).ends hgrows
  | leaveTuning kind next hs hn =>
    have hdetached := (h.unmuted (by rw [hs]; cases kind <;> decide)).command .detachTuningLink
      (by simp [muting])
    have hleft := hdetached.command (.exitTuning kind) (by simp [muting])
    exact ((hleft.setRuntime _).enter next).ends hgrows
  | startAdaptive hs => exact h.startAdaptive
  | switchOff hs => exact (unmuted_switchOff (hruns hs) (hpop rfl) .disabled).ends hgrows
  | applyPending hs => exact h.applyPending hc hs
  | applyGains hs =>
    have w : Work ⟨id, fun _ => false, (· == .applyPathGains), false, fun _ => false, false⟩ b
        (b.command .applyPathGains) := .single (.command _ rfl)
    exact ⟨⟨h.mute, h.ramp⟩, w.ramps rfl rfl rfl⟩

theorem Poised.dispatch (h : Poised b) (hc : b.runtime.Classified) (e : Event)
    (hpop : e = .timerExpired .muteBeforeDisable →
      b.timers.isArmed .muteBeforeDisable = false) :
    Poised (b.dispatch e).1 ∧ Ramps b (b.dispatch e).1 := by
  obtain ⟨hpoised, hramps⟩ := (course_handle b e).ramps hc h hpop
  obtain ⟨hend, hafter⟩ := hpoised.beside (work_finishFollowUps _)
  exact ⟨hend, hramps.trans hafter⟩

theorem Poised.unmuted_ramp (h : Poised b) (hc : b.runtime.Classified)
    (hpop : b.timers.isArmed .muteBeforeDisable = false) (hs : b.runtime.state = .enabled) :
    (b.dispatch (.timerExpired .muteBeforeDisable)).1.gentlyMuted = false := by
  have hoff : b.handle (.timerExpired .muteBeforeDisable) = b.switchOff .disabled :=
    handleInState_enabled b hs (.timerExpired .muteBeforeDisable)
  have hunmuted := unmuted_switchOff (fun hm => ⟨by rw [hc.hardware, hs]; rfl, (h.mute hm).2⟩) hpop
    .disabled
  refine (work_finishFollowUps (b.handle (.timerExpired .muteBeforeDisable)).1).unmuted rfl ?_
  rw [hoff]
  exact hunmuted.mute

/-! ### Runs -/

def Move.endsModeRamp (m : Move) (b : Earbud) : Prop :=
  m = .expiry ∧ (∃ timers, b.timers.popDue? = some (.muteBeforeMode, timers)) ∧ b.gentlyMuted = true

/-- A mute lasts without a ramp exactly if it was left so. -/
def Lasting (left : Prop) (b : Earbud) : Prop := b.gentlyMuted = true → (b.ramping = false ↔ left)

theorem Ramps.lasting {left : Prop} (h : Ramps a b) (ha : Lasting left a) (ended : Prop)
    (hnone : b.mutings = a.mutings → a.gentlyMuted = true → ¬ended) :
    Lasting (b.mutings = a.mutings ∧ (left ∨ ended)) b := by
  intro hm
  rcases h.mute hm with ⟨hn, hr⟩ | ⟨hn, hr⟩
  · have hbefore : a.gentlyMuted = true := (gentlyMuted_of_mutings_eq h.grows hn).symm.trans hm
    rw [hr, ha hbefore]
    simp [hn, hnone hn hbefore]
  · rw [hr]
    exact iff_of_false (by decide) fun hleft => Nat.ne_of_gt hn hleft.1

theorem ramping_cancel {k : TimerKind} (hoff : k ≠ .muteBeforeDisable) (hmode : k ≠ .muteBeforeMode) :
    (b.cancel k).ramping = b.ramping := by
  have hkept : ∀ k', k' ≠ k → (b.cancel k).timers.isArmed k' = b.timers.isArmed k' := fun k' hk' =>
    congrArg Option.isSome ((TimerQueue.find?_cancel _ _ _).trans (if_neg hk'))
  unfold ramping
  rw [hkept _ (Ne.symm hoff), hkept _ (Ne.symm hmode)]

theorem Poised.cancel (h : Poised b) (k : TimerKind) : Poised (b.cancel k) :=
  ⟨h.mute, fun hr => h.ramp (isArmed_of_cancel hr)⟩

theorem lasting_expiry {left : Prop} (hsound : Sound b) (h : Poised b) (hl : Lasting left b)
    {k : TimerKind} {timers : TimerQueue} (hp : b.timers.popDue? = some (k, timers)) :
    let after := (({ b with timers := timers } : Earbud).dispatch (.timerExpired k)).1
    Poised after ∧ Lasting (after.mutings = b.mutings ∧ (left ∨ Move.endsModeRamp .expiry b)) after := by
  obtain ⟨-, -, -, rfl, -⟩ := hsound.order.popDue?_eq_some hp
  have hpopped := h.cancel k
  obtain ⟨hpoised, hramps⟩ := hpopped.dispatch hsound.classified (.timerExpired k) fun he => by
    obtain rfl : k = .muteBeforeDisable := by simpa using he
    exact not_isArmed_cancel _ _
  refine ⟨hpoised, ?_⟩
  by_cases hoff : k = .muteBeforeDisable
  -- The end of the ramp of a switch off ends the mute.
  · subst hoff
    intro hm
    rcases hramps.mute hm with ⟨hn, -⟩ | ⟨hn, hr⟩
    · have hbefore : (b.cancel .muteBeforeDisable).gentlyMuted = true :=
        (gentlyMuted_of_mutings_eq hramps.grows hn).symm.trans hm
      have hnone := hpopped.unmuted_ramp hsound.classified (not_isArmed_cancel _ _) (hpopped.mute hbefore).1
      exact nomatch hnone.symm.trans hm
    · exact iff_of_false (fun hnone => nomatch hr.symm.trans hnone) fun hleft =>
        Nat.ne_of_gt hn hleft.1
  by_cases hmode : k = .muteBeforeMode
  · subst hmode
    intro hm
    rcases hramps.mute hm with ⟨hn, hr⟩ | ⟨hn, hr⟩
    · have hbefore : b.gentlyMuted = true := (gentlyMuted_of_mutings_eq hramps.grows hn).symm.trans hm
      refine iff_of_true (hr.trans ?_) ⟨hn, Or.inr ⟨rfl, ⟨_, hp⟩, hbefore⟩⟩
      -- A switch off that is staged would have ended its own ramp first.
      have hasked := hsound.asked_of_modeRamp hp (h.mute hbefore).1
      have hstaged : (b.cancel .muteBeforeMode).timers.isArmed .muteBeforeDisable = false :=
        Bool.eq_false_iff.mpr fun hr => nomatch hasked.symm.trans (hpopped.ramp hr).2
      unfold ramping
      rw [hstaged, not_isArmed_cancel]
      rfl
    · exact iff_of_false (fun hnone => nomatch hr.symm.trans hnone) fun hleft =>
        Nat.ne_of_gt hn hleft.1
  · have hlp : Lasting left (b.cancel k) := fun hm => (ramping_cancel hoff hmode).symm ▸ hl hm
    refine hramps.lasting hlp _ fun _ _ => ?_
    rintro ⟨-, ⟨timers, hp'⟩, -⟩
    rw [hp] at hp'
    cases hp'
    exact hmode rfl

theorem lasting_perform {left : Prop} (hsound : Sound b) (h : Poised b) (hl : Lasting left b)
    (m : Move) :
    Poised (b.perform m) ∧
      Lasting ((b.perform m).mutings = b.mutings ∧ (left ∨ m.endsModeRamp b)) (b.perform m) := by
  have hidle : ∀ m : Move, m ≠ .expiry → ¬m.endsModeRamp b := fun m hm he => hm he.1
  rw [perform_eq]
  cases m with
  | event e he =>
    obtain ⟨hpoised, hramps⟩ := h.dispatch hsound.classified e fun hexpired => by
      subst hexpired
      cases he
    exact ⟨hpoised, hramps.lasting hl _ fun _ _ => hidle _ (by simp)⟩
  | wait t => exact ⟨⟨h.mute, h.ramp⟩, (Ramps.refl b).lasting hl _ fun _ _ => hidle _ (by simp)⟩
  | surround s => exact ⟨⟨h.mute, h.ramp⟩, (Ramps.refl b).lasting hl _ fun _ _ => hidle _ (by simp)⟩
  | expiry =>
    simp only [dispatched?]
    cases hp : b.timers.popDue? with
    | none =>
      refine ⟨h, (Ramps.refl b).lasting hl _ fun _ _ => ?_⟩
      rintro ⟨-, ⟨timers, hp'⟩, -⟩
      rw [hp] at hp'
      cases hp'
    | some p => exact lasting_expiry hsound h hl hp

theorem mutings_perform (b : Earbud) (m : Move) : b.mutings ≤ (b.perform m).mutings :=
  tally_le (history_perform b m) muting

section Run

variable (config : Config) (clockOrigin : Option WallClock) (store : SessionStore)

theorem lasting_run (moves : List Move) :
    let start := Earbud.new config clockOrigin store
    Poised (start.run moves) ∧
      Lasting (Since perform mutings (fun b m => m.endsModeRamp b) start moves) (start.run moves) := by
  intro start
  induction moves using List.reverseRecOn with
  | nil =>
    have hnew : Unmuted start := ⟨rfl, rfl⟩
    exact ⟨hnew.poised, fun hm => nomatch hnew.mute.symm.trans hm⟩
  | append_singleton moves m ih =>
    have hsound := (sound_run config clockOrigin store moves).1
    rw [since_snoc mutings_perform, run_snoc]
    exact lasting_perform hsound ih.1 ih.2 m

/-- Whatever happens to an earbud, a gentle mute that lasts while noise control is on has a timer
armed that completes the change it was for; except from the end of a mode's ramp that left it on,
until it is muted anew or the mute ends. -/
theorem gentle_mute_ends_iff (moves : List Move) :
    let start := Earbud.new config clockOrigin store
    let b := start.run moves
    (b.runtime.state = .enabled → b.gentlyMuted = true →
        b.timers.isArmed .muteBeforeDisable = true ∨ b.timers.isArmed .muteBeforeMode = true) ↔
      ¬∃ earlier later, moves = earlier ++ .expiry :: later ∧
        (∃ timers, (start.run earlier).timers.popDue? = some (.muteBeforeMode, timers)) ∧
        (start.run earlier).gentlyMuted = true ∧ b.mutings = (start.run earlier).mutings := by
  intro start b
  obtain ⟨hpoised, hlasting⟩ := lasting_run config clockOrigin store moves
  have hramping : b.ramping = true ↔
      b.timers.isArmed .muteBeforeDisable = true ∨ b.timers.isArmed .muteBeforeMode = true :=
    Bool.or_eq_true_iff
  constructor
  · rintro hends ⟨earlier, later, rfl, hdue, hmuted, hn⟩
    have hgrows : (start.run earlier).history <:+ b.history := by
      rw [show b = (start.run earlier).run (.expiry :: later) from List.foldl_append]
      exact history_run _ _
    have hstill : b.gentlyMuted = true := (gentlyMuted_of_mutings_eq hgrows hn).trans hmuted
    have hleft := (hlasting hstill).mpr ⟨earlier, .expiry, later, rfl, ⟨rfl, hdue, hmuted⟩, hn⟩
    exact nomatch hleft.symm.trans (hramping.mpr (hends (hpoised.mute hstill).1 hstill))
  · intro hnone _ hmuted
    refine hramping.mp (Bool.not_eq_false _ |>.mp fun hleft => hnone ?_)
    obtain ⟨earlier, _, later, heq, ⟨rfl, hdue, hmuted⟩, hn⟩ := (hlasting hmuted).mp hleft
    exact ⟨earlier, later, heq, hdue, hmuted, hn⟩

end Run

/-- A mode is asked for and the mode before it asked for again: the ramp is over and nothing is
swapped, and the mute lasts. -/
theorem gentle_mute_lasting :
    ¬∀ (config : Config) (clockOrigin : Option WallClock) (store : SessionStore),
      config.adaptive = true → ∀ moves,
        let b := (Earbud.new config clockOrigin store).run moves
        b.runtime.state = .enabled → b.gentlyMuted = true →
          b.timers.isArmed .muteBeforeDisable = true ∨ b.timers.isArmed .muteBeforeMode = true := by
  intro h
  have harmed := h (.standard "") none {} (by decide)
    [.event .initialise, .event .powerOn, .event .enable, .expiry, .event (.setMode ⟨1⟩),
      .event (.setMode ⟨0⟩), .wait 100000, .expiry] (by decide) (by decide)
  exact absurd harmed (by decide)

end Earbud

end NoiseControl
