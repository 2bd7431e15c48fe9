import NoiseControl.Proofs.Earbud.Act
import NoiseControl.Proofs.Earbud.Initialised
import NoiseControl.Proofs.Earbud.Unpowered

/-!
# The gain poll

A reconfiguration starts the gain poll when adaptive noise control comes to run and stops it when it
ceases to.  The poll goes on by itself as long as the adaptive mode is current.  With adaptive filters
nothing else touches it, so it is under way whenever adaptive noise control runs, and while it is under
way the adaptive mode is current.
-/

namespace NoiseControl

/-- Adaptive noise control runs: the hardware is on in the adaptive mode. -/
def Runtime.runs (r : Runtime) : Bool := r.actualEnabled && r.currentMode.isAdaptive

namespace Earbud

variable {a b : Earbud}

def polls (b : Earbud) : Bool := b.timers.isArmed .gainPoll

/-! ### Work that does not bear on the poll -/

def unpolled : Extent where
  keeps r := { actualEnabled := r.actualEnabled, currentMode := r.currentMode }
  timer
    | .gainPoll => false
    | _ => true
  audio _ := true
  talks := true

theorem aloof_within_unpolled : aloof.Within unpolled where
  keeps _ _ h := (congrArg unpolled.keeps h :)
  timer k h := by cases k <;> first | rfl | cases h
  audio _ _ := rfl
  talks _ := rfl
  tells _ _ := rfl
  saves _ := rfl

theorem parting_within_unpolled : parting.Within unpolled where
  keeps _ _ h := (congrArg unpolled.keeps h :)
  timer k h := by cases k <;> first | rfl | cases h
  audio _ _ := rfl
  talks _ := rfl
  tells _ _ := rfl
  saves _ := rfl

theorem levels_within_unpolled : levels.Within unpolled :=
  levels_within_aloof.trans aloof_within_unpolled

theorem Work.polls {x : Extent} (w : Work x a b) (hx : x.timer .gainPoll = false) : b.polls = a.polls :=
  w.isArmed hx

theorem Work.runs (w : Work unpolled a b) : b.runtime.runs = a.runtime.runs :=
  (congrArg Runtime.runs w.keeps :)

theorem Work.currentMode_unpolled (w : Work unpolled a b) :
    b.runtime.currentMode = a.runtime.currentMode :=
  (congrArg Runtime.currentMode w.keeps :)

theorem unpolled_enter (b : Earbud) (next : Lifecycle) : Work unpolled b (b.enter next) :=
  (parts_enter b next).mono parting_within_unpolled

theorem unpolled_stopSettleTimers (b : Earbud) : Work unpolled b b.stopSettleTimers :=
  (parts_stopSettleTimers b).mono parting_within_unpolled

/-! ### Reconfigurations -/

/-- What changed is whether adaptive noise control runs, or whether the mode is the adaptive one. -/
theorem announceAdaptiveChange_eq (b : Earbud) (wasEnabled : Bool) (formerMode : Mode) :
    b.announceAdaptiveChange wasEnabled formerMode =
      if (wasEnabled && formerMode.isAdaptive) != b.runtime.runs ||
          formerMode.isAdaptive != b.runtime.currentMode.isAdaptive then
        let told := b.announce (.adaptiveStateChanged b.runtime.runs)
        if b.runtime.runs then told.startGainPoll else told.stopGainPoll
      else b := by
  have hcondition : ((wasEnabled != b.runtime.actualEnabled && b.runtime.currentMode.isAdaptive) ||
      (formerMode != b.runtime.currentMode &&
        (formerMode.isAdaptive || b.runtime.currentMode.isAdaptive))) =
      ((wasEnabled && formerMode.isAdaptive) != b.runtime.runs ||
        formerMode.isAdaptive != b.runtime.currentMode.isAdaptive) := by
    unfold Runtime.runs
    by_cases hsame : formerMode = b.runtime.currentMode
    · rw [← hsame]
      cases formerMode.isAdaptive <;> simp
    · have hone : ¬(formerMode.isAdaptive = true ∧ b.runtime.currentMode.isAdaptive = true) := by
        rintro ⟨hformer, hcurrent⟩
        exact hsame ((beq_iff_eq.mp hformer).trans (beq_iff_eq.mp hcurrent).symm)
      rw [show (formerMode != b.runtime.currentMode) = true from bne_iff_ne.mpr hsame]
      revert hone
      cases formerMode.isAdaptive <;> cases b.runtime.currentMode.isAdaptive <;> simp
  unfold announceAdaptiveChange
  dsimp only
  rw [hcondition]
  rfl

/-- The poll is made to go by whether adaptive noise control runs, unless that did not change, nor
whether the mode is the adaptive one. -/
theorem polls_announceAdaptiveChange (b : Earbud) (wasEnabled : Bool) (formerMode : Mode) :
    (b.announceAdaptiveChange wasEnabled formerMode).polls = b.runtime.runs ∨
      (b.announceAdaptiveChange wasEnabled formerMode).polls = b.polls ∧
        formerMode.isAdaptive = b.runtime.currentMode.isAdaptive ∧
          (wasEnabled && formerMode.isAdaptive) = b.runtime.runs := by
  rw [announceAdaptiveChange_eq]
  split <;> rename_i hchanged
  · refine Or.inl ?_
    dsimp only
    split <;> rename_i hruns
    · exact (isArmed_arm _ _ _).trans hruns.symm
    · exact (not_isArmed_cancel _ _).trans (Bool.eq_false_iff.mpr hruns).symm
  · obtain ⟨hruns, hmode⟩ := Bool.or_eq_false_iff.mp (Bool.eq_false_iff.mpr hchanged)
    exact Or.inr ⟨rfl, bne_eq_false_iff_eq.mp hmode, bne_eq_false_iff_eq.mp hruns⟩

section Reconfiguration

variable (b : Earbud) (on : Bool) (m : Mode)

theorem polls_inPower :
    let switched := (((b.boost true).inMode m).1.inPower on).1
    switched.polls = b.polls ∧ switched.config = b.config := by
  have hmode := work_inMode (b.boost true) (fun _ => true) (m := m) rfl rfl
  have hpower := work_inPower ((b.boost true).inMode m).1 on
  exact ⟨(hpower.polls rfl).trans (hmode.polls rfl), hpower.config.trans hmode.config⟩

theorem polls_reconfigure (hc : b.config.adaptive = true) :
    let after := (b.reconfigure on m).1
    after.polls = after.runtime.runs ∨
      after.polls = b.polls ∧
        b.runtime.currentMode.isAdaptive = after.runtime.currentMode.isAdaptive ∧
          b.runtime.runs = after.runtime.runs := by
  obtain ⟨hpolls, hconfig⟩ := polls_inPower b on m
  have hruntime := (reconfigure_eq b on m).1
  dsimp only at hpolls hconfig hruntime ⊢
  rw [hruntime, reconfigure_stages, tellAdaptive, if_pos (hconfig ▸ hc), ← hpolls]
  exact polls_announceAdaptiveChange _ _ _

theorem polls_reconfigure_fixed (hc : b.config.adaptive = false) :
    (b.reconfigure on m).1.polls = b.polls := by
  obtain ⟨hpolls, hconfig⟩ := polls_inPower b on m
  rw [reconfigure_stages, tellAdaptive, if_neg (by simp [hconfig, hc])]
  exact hpolls

end Reconfiguration

/-! ### Adaptive filters -/

structure Polled (b : Earbud) : Prop where
  config : b.config.adaptive = true
  runs : b.runtime.runs = true → b.polls = true
  mode : b.polls = true → b.runtime.currentMode.isAdaptive = true

theorem Polled.work (h : Polled a) (w : Work unpolled a b) : Polled b where
  config := w.config ▸ h.config
  runs := by
    rw [w.runs, w.polls rfl]
    exact h.runs
  mode := by
    rw [w.polls rfl, w.currentMode_unpolled]
    exact h.mode

theorem Polled.setRuntime (h : Polled b) (change : Runtime → Runtime)
    (hkeeps : unpolled.keeps (change b.runtime) = unpolled.keeps b.runtime) :
    Polled (b.setRuntime change) :=
  h.work (.single (.runtime change hkeeps))

/-- While the hardware is on, the poll is under way exactly when adaptive noise control runs. -/
theorem Polled.polls_eq (h : Polled b) (hon : b.runtime.actualEnabled = true) :
    b.polls = b.runtime.runs := by
  cases hpolls : b.polls with
  | true => rw [Runtime.runs, hon, h.mode hpolls, Bool.and_true]
  | false =>
    cases hruns : b.runtime.runs with
    | true => exact nomatch hpolls.symm.trans (h.runs hruns)
    | false => rfl

/-- A reconfiguration that begins with the hardware on leaves the poll going by adaptive noise control,
whether or not anything changes. -/
theorem Polled.polls_reconfigure_on (h : Polled b) (hon : b.runtime.actualEnabled = true) (on : Bool)
    (m : Mode) : (b.reconfigure on m).1.polls = (b.reconfigure on m).1.runtime.runs := by
  rcases polls_reconfigure b on m h.config with hpolls | ⟨hpolls, -, hruns⟩
  · exact hpolls
  · exact hpolls.trans ((h.polls_eq hon).trans hruns)

theorem Polled.reconfigure (h : Polled b) (on : Bool) (m : Mode) : Polled (b.reconfigure on m).1 := by
  have hconfig := (work_reconfigure b on m).config
  rcases polls_reconfigure b on m h.config with hpolls | ⟨hpolls, hmode, hruns⟩
  · refine ⟨hconfig ▸ h.config, fun hr => hpolls.trans hr, fun hp => ?_⟩
    exact (Bool.and_eq_true_iff.mp (hpolls.symm.trans hp)).2
  · refine ⟨hconfig ▸ h.config, ?_, ?_⟩
    · rw [← hruns, hpolls]
      exact h.runs
    · rw [← hmode, hpolls]
      exact h.mode

theorem Polled.off (h : Polled b) : Polled (b.setRuntime fun r => { r with actualEnabled := false }) where
  config := h.config
  runs hr := nomatch hr
  mode := h.mode

theorem Polled.switchOff (h : Polled b) (next : Lifecycle) : Polled (b.switchOff next).1 := by
  have hoff := h.reconfigure false b.runtime.requestedMode
  unfold Earbud.switchOff
  dsimp only
  refine Polled.setRuntime ?_ _ rfl
  split
  · exact hoff.off.work (unpolled_enter _ _)
  · split
    · exact hoff.setRuntime _ rfl
    · exact hoff.work (unpolled_enter _ _)

/-! ### Requests -/

theorem Polled.requestEnable (h : Polled b) : Polled b.requestEnable.1 := by
  unfold Earbud.requestEnable
  split
  · have hon := (h.setRuntime (fun r => { r with requestedEnabled := true }) rfl).reconfigure true
      b.runtime.requestedMode
    dsimp only
    split
    · exact hon.work (unpolled_enter _ _)
    · exact hon
  · exact h

theorem Polled.requestDisable (h : Polled b) : Polled b.requestDisable.1 := by
  unfold Earbud.requestDisable
  split
  · have hstopped := (h.setRuntime (fun r => { r with requestedEnabled := false }) rfl).work
      (unpolled_stopSettleTimers _)
    dsimp only
    split
    · exact hstopped.work ((Relation.ReflTransGen.single (.command _ rfl)).tail (.arm _ _ rfl))
    · exact hstopped.switchOff _
  · exact h

theorem Polled.requestMode (h : Polled b) (m : Mode) : Polled (b.requestMode m).1 := by
  have hasked := h.setRuntime (fun r => { r with requestedMode := m }) rfl
  unfold Earbud.requestMode
  split
  · split
    · exact h
    · exact hasked.work ((levels_refreshLeakthrough _).mono levels_within_unpolled)
  · split
    · exact h
    · dsimp only
      split
      · exact hasked
      · split
        · exact hasked.work ((Relation.ReflTransGen.single (.command _ rfl)).tail (.arm _ _ rfl))
        · exact hasked.reconfigure _ _
  · exact h

theorem Polled.powerOffEnabled (h : Polled b) : Polled b.powerOffEnabled.1 :=
  ((h.setRuntime (fun r => { r with powerOn := false, requestedEnabled := true }) rfl).work
    (unpolled_stopSettleTimers _)).switchOff _

theorem Polled.enterTuning (h : Polled b) (kind : TuningKind) : Polled (b.enterTuning kind).1 :=
  enterTuning_induction b kind (fun _ => (h.work (unpolled_stopSettleTimers b)).switchOff _)
    (fun _ => h.work (unpolled_enter b _)) fun _ hx => hx.work (.single (.command _ rfl))

theorem unpolled_leaveTuning (b : Earbud) (kind : TuningKind) (next : Lifecycle) :
    Work unpolled b (b.leaveTuning kind next) := by
  have h : Work unpolled b ((b.command .detachTuningLink).command (.exitTuning kind)) :=
    (Relation.ReflTransGen.single (.command _ rfl)).tail (.command _ rfl)
  exact (h.tail (.runtime _ rfl)).trans (unpolled_enter _ _)

theorem Polled.switchPowerOn (h : Polled b) : Polled b.switchPowerOn := by
  obtain ⟨next, -, he⟩ := switchPowerOn_eq b
  have hset := h.setRuntime (fun r => { r with powerOn := true }) rfl
  rw [he]
  refine Polled.work ?_ (unpolled_enter _ next)
  split
  · exact hset.reconfigure _ _
  · exact hset

theorem polls_start (b : Earbud) : b.start.1.polls = b.polls := by
  rcases start_fst b with ⟨he, -⟩ | ⟨microphones, mode, he⟩
  · rw [he]
  · have hprobe : Work unpolled b (b.loadSession.1.attempt (.start microphones mode)).1 :=
      (Relation.ReflTransGen.single .load).tail (.attempt _ rfl)
    rcases he with ⟨he, -⟩ | ⟨enabled, he, -⟩ <;> rw [he]
    · exact hprobe.polls rfl
    · exact ((unpolled_enter _ _).polls rfl).trans (hprobe.polls rfl)

theorem Polled.start (h : Polled b) (hidle : b.polls = false) : Polled b.start.1 := by
  -- Any mode may be loaded, as no poll is under way.
  have hstill := (polls_start b).trans hidle
  have hconfig := (work_start b).config
  refine ⟨hconfig ▸ h.config, fun hruns => ?_, fun hpolls => nomatch hstill.symm.trans hpolls⟩
  have hwas : b.runtime.runs = true := by
    rcases start_fst b with ⟨he, -⟩ | ⟨microphones, mode, he⟩
    · rwa [he] at hruns
    · rcases he with ⟨he, -⟩ | ⟨enabled, he, -⟩ <;> rw [he] at hruns
      · rwa [runtime_attempt] at hruns
      · rw [runtime_enter] at hruns
        cases hruns
  exact nomatch hidle.symm.trans (h.runs hwas)

/-! ### Events -/

theorem Polled.demand (h : Polled a) (d : Demand a b) : Polled b := by
  cases d with
  | beside t hp =>
    have w : Work beside a b := .single t
    have hmode : b.runtime.currentMode = a.runtime.currentMode :=
      (congrArg Runtime.currentMode w.keeps :)
    have hruns : b.runtime.runs = a.runtime.runs := (congrArg Runtime.runs w.keeps :)
    refine ⟨w.config ▸ h.config, ?_, ?_⟩ <;> rcases hp with hfind | ⟨hadaptive, harmed⟩
    · rw [hruns, show b.polls = a.polls from congrArg Option.isSome hfind]
      exact h.runs
    · exact fun _ => harmed
    · rw [hmode, show b.polls = a.polls from congrArg Option.isSome hfind]
      exact h.mode
    · exact fun _ => hmode ▸ hadaptive
  | enable => exact h.requestEnable
  | disable => exact h.requestDisable
  | mode m => exact h.requestMode m
  | remember => exact h.setRuntime _ rfl

theorem Polled.demands (h : Polled a) (ds : Demands a b) : Polled b := by
  induction ds with
  | refl => exact h
  | tail _ d ih => exact ih.demand d

theorem Polled.course {e : Event} {y : Earbud × Outcome} (h : Polled b)
    (hidle : b.runtime.state = .uninitialised → b.polls = false) (course : Course b e y) :
    Polled y.1 := by
  cases course with
  | demands ds => exact h.demands ds
  | start hs => exact h.start (hidle hs)
  | powerOn => exact h.switchPowerOn
  | powerOffDisabled => exact (h.setRuntime _ rfl).work (unpolled_enter _ _)
  | powerOffEnabled => exact h.powerOffEnabled
  | tune kind => exact h.enterTuning kind
  | host kind rate => exact (h.setRuntime _ rfl).work (.single (.command _ rfl))
  | leaveTuning kind next => exact h.work (unpolled_leaveTuning b kind next)
  | startAdaptive => exact h.work (attempts_startAdaptive b rfl)
  | switchOff => exact h.switchOff _
  | applyPending => exact h.reconfigure _ _
  | applyGains => exact h.work (.single (.command _ rfl))

theorem Polled.dispatch (h : Polled b) (hidle : b.runtime.state = .uninitialised → b.polls = false)
    (e : Event) : Polled (b.dispatch e).1 :=
  (h.course hidle (course_handle b e)).work ((aloof_finishFollowUps _).mono aloof_within_unpolled)

theorem polls_pollGain (b : Earbud) :
    b.pollGain.polls = (b.runtime.currentMode.isAdaptive || b.polls) := by
  unfold pollGain
  split <;> rename_i hmode
  · have harmed : ∀ x : Earbud, Work levels
        ((b.setRuntime fun r => { r with feedForwardGain := b.audio.feedForwardGain }).startGainPoll) x →
        x.polls = true := fun x w => (w.polls rfl).trans (isArmed_arm _ _ _)
    rw [hmode, Bool.true_or]
    dsimp only
    split
    · exact harmed _ (.head (.announce _) (levels_announceBothGains _ _))
    · exact harmed _ (.single (.announce _))
  · rw [Bool.eq_false_iff.mpr hmode, Bool.false_or]

/-- The expiry of the poll renews it in the adaptive mode, and only there. -/
theorem Polled.renewed (h : Polled b) :
    Polled ((b.cancel .gainPoll).dispatch (.timerExpired .gainPoll)).1 := by
  have hfollowed : Work unpolled (b.cancel .gainPoll).pollGain
      ((b.cancel .gainPoll).dispatch (.timerExpired .gainPoll)).1 :=
    (aloof_finishFollowUps _).mono aloof_within_unpolled
  have w := work_pollGain (b.cancel .gainPoll)
  have hpolls := polls_pollGain (b.cancel .gainPoll)
  rw [polls, polls, not_isArmed_cancel, Bool.or_false] at hpolls
  refine Polled.work ?_ hfollowed
  have hmode : (b.cancel .gainPoll).pollGain.runtime.currentMode = b.runtime.currentMode :=
    (congrArg Runtime.currentMode w.keeps :)
  refine ⟨w.config ▸ h.config, fun hruns => ?_, fun hp => ?_⟩
  · have hadaptive := (Bool.and_eq_true_iff.mp hruns).2
    rw [hmode] at hadaptive
    exact hpolls.trans hadaptive
  · rw [hmode]
    exact hpolls.symm.trans hp

/-! ### Runs -/

theorem polls_dispatch_uninitialised (hs : b.runtime.state = .uninitialised)
    (hoff : b.runtime.actualEnabled = false) {e : Event} (hpoll : e ≠ .timerExpired .gainPoll) :
    (b.dispatch e).1.polls = b.polls := by
  have hhandled : (b.handle e).1.polls = b.polls := by
    by_cases he : e = .initialise
    · subst he
      rw [handle_initialise b hs, polls_start]
    · have hunpowered : b.runtime.state.isPowered = false := by rw [hs]; rfl
      exact (aloof_handle hunpowered hoff (fun hi => absurd hi he) (by simp [hs]) hpoll).polls rfl
  exact ((aloof_finishFollowUps _).polls rfl).trans hhandled

/-- The gain poll is as it should be, and none is under way before initialisation. -/
structure Regular (b : Earbud) : Prop extends Polled b where
  idle : b.runtime.state = .uninitialised → b.polls = false

theorem Regular.dispatch (h : Regular b)
    (hoff : b.runtime.state = .uninitialised → b.runtime.actualEnabled = false) {e : Event}
    (hpoll : e ≠ .timerExpired .gainPoll) : Regular (b.dispatch e).1 where
  toPolled := h.toPolled.dispatch h.idle e
  idle := by
    intro hs
    by_cases hwas : b.runtime.state = .uninitialised
    · exact (polls_dispatch_uninitialised hwas (hoff hwas) hpoll).trans (h.idle hwas)
    · exact absurd hs (initialised_dispatch hwas e)

/-- With adaptive filters the gain poll is under way whenever adaptive noise control runs, and only in
the adaptive mode. -/
theorem regular_run (c : Config) (hc : c.adaptive = true) (clockOrigin : Option WallClock)
    (store : SessionStore) (moves : List Move) :
    Regular ((Earbud.new c clockOrigin store).run moves) := by
  have hnew : Regular (Earbud.new c clockOrigin store) := ⟨⟨hc, nofun, nofun⟩, fun _ => rfl⟩
  have hoff : ∀ b : Earbud, Sound b →
      b.runtime.state = .uninitialised → b.runtime.actualEnabled = false := by
    intro b hsound hs
    apply hsound.off
    simp [hs]
  refine run_induction c clockOrigin store hnew ?_ ?_ ?_ ?_ moves
  · intro b e hsound he h
    refine h.dispatch (hoff b hsound) ?_
    rintro rfl
    cases he
  · intro b k timers hsound hp h
    obtain ⟨armed, hfind, -, rfl, -⟩ := hsound.order.popDue?_eq_some hp
    show Regular ((b.cancel k).dispatch (.timerExpired k)).1
    by_cases hk : k = .gainPoll
    · subst hk
      have hpolls : b.polls = true := by simp [polls, TimerQueue.isArmed, hfind]
      have hinitialised : b.runtime.state ≠ .uninitialised := by
        intro hs
        simp [h.idle hs] at hpolls
      have hstill := initialised_dispatch (b := b.cancel .gainPoll) hinitialised
        (.timerExpired .gainPoll)
      exact ⟨h.toPolled.renewed, fun hs => absurd hs hstill⟩
    · have w : Work unpolled b (b.cancel k) :=
        .single (.cancel k (by cases k <;> first | rfl | exact absurd rfl hk))
      have hpopped : Regular (b.cancel k) :=
        ⟨h.toPolled.work w, fun hs => (w.polls rfl).trans (h.idle hs)⟩
      apply hpopped.dispatch (hoff b hsound)
      simpa using hk
  · intro b t h
    exact ⟨⟨h.config, h.runs, h.mode⟩, h.idle⟩
  · intro b s h
    exact ⟨⟨h.config, h.runs, h.mode⟩, h.idle⟩

theorem polled_run (c : Config) (clockOrigin : Option WallClock) (store : SessionStore)
    (moves : List Move)
    (hc : ((Earbud.new c clockOrigin store).run moves).config.adaptive = true) :
    Polled ((Earbud.new c clockOrigin store).run moves) := by
  rw [config_run] at hc
  exact (regular_run c hc clockOrigin store moves).toPolled

end Earbud

end NoiseControl
