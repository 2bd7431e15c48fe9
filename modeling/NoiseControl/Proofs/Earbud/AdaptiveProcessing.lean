import NoiseControl.Proofs.Earbud.Act
import NoiseControl.Proofs.Earbud.History
import NoiseControl.Proofs.Earbud.Modes

/-!
# Adaptive processing runs or is about to

When the hardware is switched on for adaptive processing a timer is armed, and adaptive processing
starts when it expires.  On the way off both are stopped before the hardware is asked, and neither
comes back if the hardware then refuses: so noise control is left without adaptive processing after
a refusal, or when adaptive processing does not start, and only then.
-/

namespace NoiseControl

/-- What a command says of adaptive processing being given up since the hardware was last switched
on for it. -/
def abandoning : Matter Bool
  | .hardwareOn, true => some false
  | .hardwareOff, false | .adaptiveOn .., false => some true
  | _, _ => none

namespace Earbud

variable {a b : Earbud}

def attended (b : Earbud) : Bool := b.audio.adaptive || b.timers.isArmed .configSettle

def abandoned (b : Earbud) : Bool := b.latest? abandoning == some true

structure Fitted (b : Earbud) : Prop where
  adaptive : b.config.adaptive = true
  off : b.runtime.actualEnabled = false → b.attended = false

structure Attended (b : Earbud) : Prop extends Fitted b where
  on : b.runtime.actualEnabled = true → b.attended = !b.abandoned

/-- Adaptive processing was stopped, and the hardware asked to go off. -/
structure Stopped (b : Earbud) : Prop where
  adaptive : b.config.adaptive = true
  idle : b.attended = false
  refused : b.runtime.actualEnabled = true → b.abandoned = true

theorem Stopped.attended (h : Stopped b) : Attended b := by
  refine ⟨⟨h.adaptive, fun _ => h.idle⟩, fun hon => ?_⟩
  rw [h.idle, h.refused hon]
  rfl

theorem attended_eq_false :
    b.attended = false ↔ b.audio.adaptive = false ∧ b.timers.isArmed .configSettle = false := by
  simp [attended]

/-! ### Work that does not bear on it -/

def indifferent : Extent where
  keeps r := { actualEnabled := r.actualEnabled }
  timer
    | .configSettle => false
    | _ => true
  audio
    | .hardwareOn | .hardwareOff | .adaptiveOn .. | .adaptiveOff | .exitTuning _ => false
    | _ => true
  talks := true

theorem loading_within_indifferent (fits : Mode → Bool) : (loading fits).Within indifferent where
  keeps _ _ h := (congrArg indifferent.keeps h :)
  timer k h := by cases k <;> first | rfl | cases h
  audio c h := by cases c <;> first | rfl | cases h
  talks h := by cases h
  tells _ _ := rfl
  saves _ := rfl

theorem beside_within_indifferent : beside.Within indifferent where
  keeps _ _ h := (congrArg indifferent.keeps h :)
  timer k h := by cases k <;> first | rfl | cases h
  audio c h := by cases c <;> first | rfl | cases h
  talks h := h
  tells _ _ := rfl
  saves _ := rfl

theorem gains_within_indifferent : gains.Within indifferent :=
  gains_within_beside.trans beside_within_indifferent

theorem attended_indifferent (w : Work indifferent a b) : b.attended = a.attended := by
  have hadaptive := w.adaptive (fun _ _ _ => rfl) rfl fun _ => rfl
  have harmed : b.timers.isArmed .configSettle = a.timers.isArmed .configSettle := w.isArmed rfl
  unfold attended
  rw [hadaptive, harmed]

theorem actualEnabled_indifferent (w : Work indifferent a b) :
    b.runtime.actualEnabled = a.runtime.actualEnabled :=
  (congrArg Runtime.actualEnabled w.keeps :)

theorem abandoned_indifferent (w : Work indifferent a b) : b.abandoned = a.abandoned := by
  unfold abandoned
  rw [w.latest? fun c done hc => by cases c <;> first | rfl | cases hc]

theorem Fitted.work (h : Fitted a) (w : Work indifferent a b) : Fitted b where
  adaptive := (congrArg Config.adaptive w.config).trans h.adaptive
  off hoff := by
    rw [actualEnabled_indifferent w] at hoff
    rw [attended_indifferent w]
    exact h.off hoff

theorem Attended.work (h : Attended a) (w : Work indifferent a b) : Attended b where
  toFitted := h.toFitted.work w
  on hon := by
    rw [actualEnabled_indifferent w] at hon
    rw [attended_indifferent w, abandoned_indifferent w]
    exact h.on hon

theorem Stopped.work (h : Stopped a) (w : Work indifferent a b) : Stopped b where
  adaptive := (congrArg Config.adaptive w.config).trans h.adaptive
  idle := (attended_indifferent w).trans h.idle
  refused hon := by
    rw [actualEnabled_indifferent w] at hon
    rw [abandoned_indifferent w]
    exact h.refused hon

theorem Attended.setRuntime (h : Attended b) (change : Runtime → Runtime)
    (hactual : (change b.runtime).actualEnabled = b.runtime.actualEnabled) :
    Attended (b.setRuntime change) :=
  h.work (.single (.runtime change (congrArg (fun on => ({ actualEnabled := on } : Runtime)) hactual)))

theorem Attended.beside (h : Attended a) (w : Work beside a b) : Attended b :=
  h.work (w.mono beside_within_indifferent)

/-! ### Reconfigurations -/

theorem attended_stopAdaptive (b : Earbud) : b.stopAdaptive.attended = false := by
  have hunarmed := not_isArmed_cancel b .configSettle
  unfold stopAdaptive
  dsimp only
  split <;> rename_i hadaptive
  · exact attended_eq_false.mpr ⟨rfl, hunarmed⟩
  · exact attended_eq_false.mpr ⟨Bool.eq_false_iff.mpr hadaptive, hunarmed⟩

theorem hardwareOff_adaptive (h : b.config.adaptive = true) :
    b.hardwareOff = (b.cancel .pathGainSettle).attempt .hardwareOff := by
  have hcancelled : (b.cancel .pathGainSettle).config.adaptive = true := h
  unfold hardwareOff
  dsimp only
  rw [if_pos hcancelled]

/-- The hardware goes off, or its refusal is on record. -/
theorem hardwareOff_stopped (h : b.config.adaptive = true) (hidle : b.attended = false) :
    b.hardwareOff.1.attended = false ∧
      (b.hardwareOff.2 = false → b.hardwareOff.1.abandoned = true) := by
  have hcancelled : (b.cancel .pathGainSettle).attended = b.attended :=
    attended_indifferent (.single (.cancel _ rfl))
  rw [hardwareOff_adaptive h]
  rcases attempt_cases (b.cancel .pathGainSettle) .hardwareOff with he | he <;> rw [he]
  · exact ⟨hcancelled.trans hidle, fun _ => rfl⟩
  · exact ⟨hcancelled.trans hidle, fun hfailed => by cases hfailed⟩

theorem Fitted.inPower (h : Fitted b) : Stopped (b.inPower false).1 := by
  have hconfig : b.stopAdaptive.config.adaptive = true := by
    rw [(work_stopAdaptive (x := turning false) b rfl rfl).config, h.adaptive]
  obtain ⟨hidle, hrefused⟩ := hardwareOff_stopped hconfig (attended_stopAdaptive b)
  have hadaptive : b.stopAdaptive.hardwareOff.1.config.adaptive = true := by
    rw [(work_hardwareOff _ (levels_within_turning false) rfl rfl).config, hconfig]
  unfold Earbud.inPower
  split <;> rename_i hon
  · exact ⟨h.adaptive, h.off hon, fun hactual => nomatch hon.symm.trans hactual⟩
  · unfold Earbud.switchHardware
    dsimp only
    rw [if_neg (by decide)]
    generalize b.stopAdaptive.hardwareOff = turned at hidle hrefused hadaptive ⊢
    obtain ⟨turned, _ | _⟩ := turned
    · exact ⟨hadaptive, hidle, fun _ => hrefused rfl⟩
    · exact ⟨hadaptive, hidle, fun hactual => by cases hactual⟩

theorem hardwareOn_adaptive (h : b.config.adaptive = true) :
    b.hardwareOn = b.attempt .hardwareOn := by
  unfold hardwareOn
  rw [if_pos h]

theorem attended_settleAdaptive (h : b.config.adaptive = true) : b.settleAdaptive.attended = true := by
  unfold settleAdaptive
  rw [h, Bool.true_and]
  split <;> rename_i hidle
  · exact Bool.or_eq_true_iff.mpr (Or.inr (isArmed_arm b _ _))
  · have hruns : b.audio.adaptive = true := by simpa using hidle
    exact Bool.or_eq_true_iff.mpr (Or.inl hruns)

theorem abandoned_settleAdaptive (b : Earbud) : b.settleAdaptive.abandoned = b.abandoned := by
  unfold settleAdaptive
  split <;> rfl

theorem attended_switchedOn (h : b.config.adaptive = true) (hkept : b.abandoned = false) :
    Attended (b.setRuntime fun r => { r with actualEnabled := true }).settleAdaptive := by
  generalize hset : (b.setRuntime fun r => { r with actualEnabled := true }) = on
  have hconfig : on.config.adaptive = true := by
    rw [← hset]
    exact h
  have hactual : on.settleAdaptive.runtime.actualEnabled = true := by
    rw [runtime_settleAdaptive, ← hset]
    rfl
  have hstill : on.settleAdaptive.abandoned = false := by
    rw [abandoned_settleAdaptive, ← hset]
    exact hkept
  refine ⟨⟨?_, fun hoff => nomatch hoff.symm.trans hactual⟩, fun _ => ?_⟩
  · rw [(work_settleAdaptive on true).config, hconfig]
  · rw [attended_settleAdaptive hconfig, hstill]
    rfl

/-- The hardware comes on with the timer armed, or stays off. -/
theorem Attended.inPower (h : Attended b) : Attended (b.inPower true).1 := by
  unfold Earbud.inPower
  split <;> rename_i hon
  · exact h
  · unfold Earbud.switchHardware
    rw [if_pos rfl, hardwareOn_adaptive h.adaptive]
    rcases attempt_cases b .hardwareOn with he | he <;> rw [he]
    · exact ⟨⟨h.adaptive, h.off⟩, fun hactual => absurd hactual hon⟩
    · dsimp only
      rw [if_pos rfl]
      refine Attended.work ?_ (.single (.announce (.stateChanged true)))
      exact attended_switchedOn h.adaptive rfl

theorem work_raised (b : Earbud) (m : Mode) : Work indifferent b ((b.boost true).inMode m).1 :=
  (work_boost b true (fun _ => rfl) rfl).trans
    ((work_inMode _ (fun _ => true) rfl rfl).mono (loading_within_indifferent _))

theorem work_lowered (b : Earbud) (wasEnabled : Bool) (formerMode : Mode) :
    Work indifferent b ((b.tellAdaptive wasEnabled formerMode).boost false) :=
  ((work_tellAdaptive b _ _).mono gains_within_indifferent).trans
    (work_boost _ false (fun _ => rfl) rfl)

theorem Fitted.reconfigure (h : Fitted b) (m : Mode) : Stopped (b.reconfigure false m).1 := by
  have hmoded := h.work (work_raised b m)
  rw [reconfigure_stages]
  exact hmoded.inPower.work (work_lowered _ _ _)

theorem Attended.reconfigure (h : Attended b) (on : Bool) (m : Mode) :
    Attended (b.reconfigure on m).1 := by
  cases on with
  | false => exact (h.toFitted.reconfigure m).attended
  | true =>
    have hmoded := h.work (work_raised b m)
    rw [reconfigure_stages]
    exact hmoded.inPower.work (work_lowered _ _ _)

/-! ### Requests -/

/-- Whether the timer is stopped or not, adaptive processing is not taken up. -/
theorem Fitted.stopSettleTimers (h : Fitted b) : Fitted b.stopSettleTimers where
  adaptive := h.adaptive
  off hoff := by
    obtain ⟨hadaptive, hunarmed⟩ := attended_eq_false.mp (h.off hoff)
    refine attended_eq_false.mpr ⟨hadaptive, Bool.eq_false_iff.mpr fun harmed => ?_⟩
    rw [isArmed_of_stopSettleTimers b harmed] at hunarmed
    cases hunarmed

theorem Attended.enter (h : Attended b) (next : Lifecycle)
    (hoff : next = .powerOff → b.runtime.actualEnabled = false) : Attended (b.enter next) := by
  by_cases hn : next = .powerOff
  · have w := parts_enter b next
    have hstill : (b.enter next).runtime.actualEnabled = false := by
      rw [runtime_enter]
      exact hoff hn
    obtain ⟨hadaptive, hunarmed⟩ := attended_eq_false.mp (h.off (hoff hn))
    refine ⟨⟨(congrArg Config.adaptive w.config).trans h.adaptive, fun _ => ?_⟩, fun hon => ?_⟩
    · refine attended_eq_false.mpr ⟨w.idle (fun _ _ _ => rfl) hadaptive, ?_⟩
      exact Bool.eq_false_iff.mpr fun harmed => nomatch hunarmed.symm.trans (isArmed_of_enter b harmed)
    · cases hstill.symm.trans hon
  · rw [enter_of_ne b hn]
    exact h.setRuntime _ rfl

theorem Fitted.switchOff (h : Fitted b) (next : Lifecycle) : Attended (b.switchOff next).1 := by
  have hstopped := h.reconfigure b.runtime.requestedMode
  unfold Earbud.switchOff
  dsimp only
  refine Attended.setRuntime ?_ _ rfl
  split <;> rename_i hn
  · -- The power goes off all the same.
    refine Attended.enter (Stopped.attended ?_) next fun _ => rfl
    exact ⟨hstopped.adaptive, hstopped.idle, fun hon => by cases hon⟩
  · split
    · exact hstopped.attended.setRuntime _ rfl
    · exact hstopped.attended.enter next fun heq => absurd heq hn

theorem Attended.requestEnable (h : Attended b) : Attended b.requestEnable.1 := by
  unfold Earbud.requestEnable
  split
  · have hset := h.setRuntime (fun r => { r with requestedEnabled := true }) rfl
    have hon := hset.reconfigure true b.runtime.requestedMode
    dsimp only
    split
    · exact hon.enter .enabled fun heq => nomatch heq
    · exact hon
  · exact h

theorem Attended.requestDisable (h : Attended b) : Attended b.requestDisable.1 := by
  unfold Earbud.requestDisable
  split
  · have hset := h.setRuntime (fun r => { r with requestedEnabled := false }) rfl
    have hstopped := hset.toFitted.stopSettleTimers
    dsimp only
    split <;> rename_i hadaptive
    -- The timer is stopped beside adaptive processing, which goes on through the ramp.
    · have hruns : b.audio.adaptive = true := hadaptive
      have hramp : Attended
          (b.setRuntime fun r => { r with requestedEnabled := false }).stopSettleTimers := by
        refine ⟨hstopped, fun hon => ?_⟩
        have hbefore : b.attended = true := Bool.or_eq_true_iff.mpr (Or.inl hruns)
        refine Eq.trans ?_ (h.on hon)
        rw [hbefore]
        exact Bool.or_eq_true_iff.mpr (Or.inl hruns)
      exact hramp.work ((Relation.ReflTransGen.single (.command _ rfl)).tail (.arm _ _ rfl))
    · exact hstopped.switchOff .disabled
  · exact h

theorem Attended.requestMode (h : Attended b) (m : Mode) : Attended (b.requestMode m).1 := by
  have hset := h.setRuntime (fun r => { r with requestedMode := m }) rfl
  unfold Earbud.requestMode
  split
  · split
    · exact h
    · exact hset.work ((work_refreshLeakthrough _).mono gains_within_indifferent)
  · split
    · exact h
    · dsimp only
      split
      · exact hset
      · split
        · exact hset.work ((Relation.ReflTransGen.single (.command _ rfl)).tail (.arm _ _ rfl))
        · exact hset.reconfigure _ _
  · exact h

theorem Attended.switchPowerOn (h : Attended b) : Attended b.switchPowerOn := by
  have hset := h.setRuntime (fun r => { r with powerOn := true }) rfl
  obtain ⟨next, hnext, he⟩ := switchPowerOn_eq b
  rw [he]
  refine Attended.enter ?_ next fun heq => by simp [heq] at hnext
  split
  · exact hset.reconfigure true _
  · exact hset

theorem Attended.start (h : Attended b) (hoff : b.runtime.actualEnabled = false) :
    Attended b.start.1 := by
  have hprobed : ∀ microphones mode,
      Work indifferent b (b.loadSession.1.attempt (.start microphones mode)).1 := fun _ _ =>
    (Relation.ReflTransGen.single .load).tail (.attempt _ rfl)
  rcases start_fst b with ⟨he, -⟩ | ⟨microphones, mode, ⟨he, -⟩ | ⟨enabled, he, -⟩⟩ <;> rw [he]
  · exact h
  · exact h.work (hprobed _ _)
  · have hstill := (actualEnabled_indifferent (hprobed microphones mode)).trans hoff
    refine Attended.enter ?_ .powerOff fun _ => rfl
    refine Attended.work ?_ (.single (.negotiate _ rfl))
    exact (h.work (hprobed _ _)).setRuntime _ hstill.symm

theorem Demand.attended (d : Demand a b) (h : Attended a) : Attended b := by
  cases d with
  | beside t => exact h.beside (.single t)
  | enable => exact h.requestEnable
  | disable => exact h.requestDisable
  | mode m => exact h.requestMode m
  | remember => exact h.setRuntime _ rfl

theorem Demands.attended (ds : Demands a b) (h : Attended a) : Attended b := by
  induction ds with
  | refl => exact h
  | tail _ d ih => exact d.attended ih

theorem Attended.leaveTuning (h : Attended b) (hoff : b.runtime.actualEnabled = false)
    (kind : TuningKind) (next : Lifecycle) : Attended (b.leaveTuning kind next) := by
  obtain ⟨hadaptive, hunarmed⟩ := attended_eq_false.mp (h.off hoff)
  refine Attended.enter ?_ next fun _ => hoff
  refine ⟨⟨h.adaptive, fun _ => attended_eq_false.mpr ⟨?_, hunarmed⟩⟩, fun hon => ?_⟩
  · cases kind with
    | fixed => exact hadaptive
    | adaptive => rfl
  · cases hoff.symm.trans hon

/-! ### Events -/

theorem Course.attended {e : Event} {y : Earbud × Outcome} (course : Course b e y)
    (hc : b.runtime.Classified) (h : Attended b) (he : e ≠ .timerExpired .configSettle) :
    Attended y.1 := by
  have hoff : b.runtime.state ≠ .enabled → b.runtime.actualEnabled = false := fun hs => by
    rw [hc.hardware]
    exact beq_eq_false_iff_ne.mpr hs
  cases course with
  | demands ds => exact ds.attended h
  | start hs => exact h.start (hoff (by rw [hs]; decide))
  | powerOn => exact h.switchPowerOn
  | powerOffDisabled hs =>
    refine Attended.enter ?_ .powerOff fun _ => hoff (by rw [hs]; decide)
    exact h.setRuntime _ rfl
  | powerOffEnabled =>
    have hset := h.setRuntime (fun r => { r with powerOn := false, requestedEnabled := true }) rfl
    exact hset.toFitted.stopSettleTimers.switchOff .powerOff
  | tune kind =>
    refine enterTuning_induction b kind (fun _ => h.toFitted.stopSettleTimers.switchOff _)
      (fun _ => ?_) fun x hx => hx.work (.single (.command _ rfl))
    exact h.enter _ fun heq => by cases kind <;> cases heq
  | host kind rate =>
    exact h.work ((Relation.ReflTransGen.single (.runtime _ rfl)).tail (.command _ rfl))
  | leaveTuning kind next hs => exact h.leaveTuning (hoff (by rw [hs]; cases kind <;> decide)) kind next
  | startAdaptive => exact absurd rfl he
  | switchOff => exact h.toFitted.switchOff .disabled
  | applyPending => exact h.reconfigure _ _
  | applyGains => exact h.work (.single (.command _ rfl))

theorem Attended.dispatch (h : Attended b) (hc : b.runtime.Classified) (e : Event)
    (he : e ≠ .timerExpired .configSettle) : Attended (b.dispatch e).1 :=
  ((course_handle b e).attended hc h he).beside (work_finishFollowUps _)

/-- Once the timer has expired adaptive processing runs, or that it did not start is on record. -/
theorem attended_startAdaptive (hadaptive : b.config.adaptive = true)
    (hon : b.runtime.actualEnabled = true) (hs : b.runtime.state = .enabled)
    (hunarmed : b.timers.isArmed .configSettle = false) (hkept : b.abandoned = false) :
    Attended b.startAdaptive := by
  have hnever : b.runtime.actualEnabled ≠ false := by
    rw [hon]
    decide
  unfold Earbud.startAdaptive
  split <;> rename_i hstart
  · simp only [Bool.and_eq_true, Bool.not_eq_true'] at hstart
    generalize hcommand : AudioCommand.adaptiveOn _ _ _ = c
    rcases attempt_fst b c with he | he <;> rw [he]
    · subst hcommand
      have hidle := attended_eq_false.mpr ⟨hstart.2, hunarmed⟩
      exact ⟨⟨hadaptive, fun hoff => absurd hoff hnever⟩, fun _ => hidle⟩
    · subst hcommand
      refine ⟨⟨hadaptive, fun hoff => absurd hoff hnever⟩, fun _ => ?_⟩
      exact (congrArg not hkept).symm
  · have hruns : b.audio.adaptive = true := by
      simpa [hon, isEnabled, hs] using hstart
    refine ⟨⟨hadaptive, fun hoff => absurd hoff hnever⟩, fun _ => ?_⟩
    unfold Earbud.attended
    rw [hruns, hkept]
    rfl

/-! ### Runs -/

theorem Attended.expiry (h : Attended b) (hsound : Sound b) {k : TimerKind} {timers : TimerQueue}
    (hp : b.timers.popDue? = some (k, timers)) :
    Attended (({ b with timers := timers } : Earbud).dispatch (.timerExpired k)).1 := by
  obtain ⟨armed, hfind, -, rfl, -⟩ := hsound.order.popDue?_eq_some hp
  have harmed : b.timers.isArmed k = true := by simp [TimerQueue.isArmed, hfind]
  by_cases hk : k = .configSettle
  · subst hk
    have hbefore : b.attended = true := Bool.or_eq_true_iff.mpr (Or.inr harmed)
    have hon : b.runtime.actualEnabled = true := by
      cases hactual : b.runtime.actualEnabled with
      | true => rfl
      | false => exact absurd ((h.off hactual).symm.trans hbefore) Bool.false_ne_true
    have hs : b.runtime.state = .enabled := by
      have hclass := hsound.classified.hardware
      rw [hon] at hclass
      exact beq_iff_eq.mp hclass.symm
    have hkept : b.abandoned = false := by
      have hattended := h.on hon
      rw [hbefore] at hattended
      simpa using hattended.symm
    have hhandle : (b.cancel .configSettle).handle (.timerExpired .configSettle) =
        ((b.cancel .configSettle).startAdaptive, .ok ()) :=
      handleInState_enabled (b.cancel .configSettle) hs _
    have hstarted : Attended (b.cancel .configSettle).startAdaptive :=
      attended_startAdaptive h.adaptive hon hs (not_isArmed_cancel b _) hkept
    show Attended ((b.cancel .configSettle).handle (.timerExpired .configSettle)).1.finishFollowUps
    rw [hhandle]
    exact hstarted.beside (work_finishFollowUps _)
  · have hcancelled : Attended (b.cancel k) := by
      refine h.work (.single (.cancel k ?_))
      cases k <;> first | rfl | contradiction
    exact hcancelled.dispatch hsound.classified _ (by simpa using hk)

theorem attended_run {config : Config} (hadaptive : config.adaptive = true)
    (clockOrigin : Option WallClock) (store : SessionStore) (moves : List Move) :
    Attended ((Earbud.new config clockOrigin store).run moves) := by
  refine run_induction config clockOrigin store ?_ ?_ ?_ ?_ ?_ moves
  · exact ⟨⟨hadaptive, fun _ => rfl⟩, fun hon => by cases hon⟩
  · intro b e hsound hexternal h
    refine h.dispatch hsound.classified e ?_
    rintro rfl
    cases hexternal
  · exact fun b k timers hsound hp h => h.expiry hsound hp
  · exact fun b t h => ⟨⟨h.adaptive, h.off⟩, h.on⟩
  · exact fun b s h => ⟨⟨h.adaptive, h.off⟩, h.on⟩

/-- Whatever happens to an earbud with adaptive processing: while noise control is on, adaptive
processing runs or the timer that starts it is armed, unless the hardware refused to go off or
adaptive processing did not start since the hardware was last switched on. -/
theorem adaptive_processing_attended_iff {config : Config} (hadaptive : config.adaptive = true)
    (clockOrigin : Option WallClock) (store : SessionStore) (moves : List Move) :
    let b := (Earbud.new config clockOrigin store).run moves
    b.runtime.state = .enabled →
      (b.audio.adaptive = true ∨ b.timers.isArmed .configSettle = true ↔ b.abandoned = false) := by
  intro b hs
  have hclass := (sound_run config clockOrigin store moves).1.classified
  have hon : b.runtime.actualEnabled = true := by
    rw [hclass.hardware]
    exact beq_iff_eq.mpr hs
  have hattended := (attended_run hadaptive clockOrigin store moves).on hon
  rw [← Bool.or_eq_true_iff]
  show b.attended = true ↔ _
  rw [hattended]
  cases b.abandoned <;> decide

theorem adaptive_processing_attended_on :
    let b := (Earbud.new (.standard "") none {}).run
      [.event .initialise, .event .powerOn, .event .enable, .expiry]
    b.runtime.state = .enabled ∧
      (b.audio.adaptive = true ∨ b.timers.isArmed .configSettle = true ↔ b.abandoned = false) := by
  intro b
  have hs : b.runtime.state = .enabled := by decide
  exact ⟨hs, adaptive_processing_attended_iff (by decide) none {} _ hs⟩

/-- Noise control is left on without adaptive processing, though adaptive processing never failed to
start. -/
theorem adaptive_processing_left_stopped :
    ¬∀ (config : Config) (clockOrigin : Option WallClock) (store : SessionStore),
      config.adaptive = true → ∀ moves : List Move,
        let b := (Earbud.new config clockOrigin store).run moves
        (∀ inEar path m, .audio (.adaptiveOn inEar path m) false ∉ b.history) →
          b.runtime.state = .enabled →
            b.audio.adaptive = true ∨ b.timers.isArmed .configSettle = true := by
  intro h
  let moves : List Move := [.event .initialise, .event .powerOn, .event .enable, .expiry,
    .surround ⟨none, {}, fun _ call => call == .audio .hardwareOff, none, {}, {}⟩,
    .event .enterTuning]
  have hfailed : ∀ activity ∈ ((Earbud.new (.standard "") none {}).run moves).history,
      ∀ c ∈ activity.tells (fun c done => if done then none else some c), c = .hardwareOff := by
    decide
  have hstarted : ∀ inEar path m, .audio (.adaptiveOn inEar path m) false ∉
      ((Earbud.new (.standard "") none {}).run moves).history := by
    intro inEar path m hmem
    cases hfailed _ hmem _ rfl
  exact absurd (h (.standard "") none {} (by decide) moves hstarted (by decide)) (by decide)

end Earbud

end NoiseControl
