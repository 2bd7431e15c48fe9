import NoiseControl.Proofs.Earbud.GainPoll
import NoiseControl.Proofs.Earbud.Passage
import NoiseControl.Proofs.Earbud.Reticence

/-!
# What is scheduled without power

When the power goes off the timers of the hardware are cancelled, and none is armed until it is on
again.  The timers of agreed instants stay as they are, and records of the peer arm them even then.
The gain poll goes by the hardware: with adaptive filters it stops if the hardware goes off, which the
earbud does not wait for.
-/

namespace NoiseControl

open QuietMode (Direction Record Synchronizer Effect)

theorem forall_prefix_iff {α : Type} {P : List α → Prop} {l : List α} :
    (∀ p, p <+: l → P p) ↔ P [] ∧ ∀ p x rest, l = p ++ x :: rest → P p → P (p ++ [x]) := by
  constructor
  · intro h
    refine ⟨h [] List.nil_prefix, fun p x rest he _ => h _ ⟨rest, ?_⟩⟩
    simp [he]
  · rintro ⟨hnil, hstep⟩ p
    induction p using List.reverseRecOn with
    | nil => exact fun _ => hnil
    | append_singleton p x ih =>
      rintro ⟨rest, he⟩
      have hl : l = p ++ x :: rest := by simp [← he]
      exact hstep p x rest hl (ih ⟨x :: rest, hl.symm⟩)

namespace Earbud

variable {b : Earbud} {m : Move} {k : TimerKind}

/-! ### The power goes off -/

/-- Whether the gain poll goes on when the power goes off.  With adaptive filters in use it does where
adaptive noise control still runs once the hardware was to go off, else where it was under way. -/
def keepsPoll (b : Earbud) : Bool :=
  if b.config.adaptive && b.isEnabled then b.poweringOff.any fun r => r.after.runtime.runs
  else b.polls

theorem isArmed_enter_powerOff (hs : b.runtime.state ≠ .uninitialised) (hk : parting.timer k = true) :
    (b.enter .powerOff).timers.isArmed k = false := by
  unfold enter
  dsimp only
  rw [if_pos ⟨rfl, hs⟩]
  show (persistSession _).timers.isArmed k = false
  rw [timers_persistSession]
  cases k with
  | gainPoll => cases hk
  | quietMode d => cases hk
  | _ => simp [stopSettleTimers, cancel, TimerQueue.isArmed, TimerQueue.find?_cancel]

theorem polls_poweringOff (hon : b.runtime.actualEnabled = true)
    (hp : b.config.adaptive = true → Polled b) (hs : b.isEnabled = true) {r : Reconfiguration}
    (hr : r ∈ b.poweringOff) : r.after.polls = b.keepsPoll := by
  obtain rfl := List.mem_singleton.mp hr
  generalize hstopped : (b.setRuntime fun r =>
    { r with powerOn := false, requestedEnabled := true }).stopSettleTimers = stopped
  have w : Work unpolled b stopped := by
    rw [← hstopped]
    exact .trans (.single (.runtime _ rfl)) (unpolled_stopSettleTimers _)
  have hkeeps : b.keepsPoll = if b.config.adaptive then
      (Reconfiguration.mk stopped false).after.runtime.runs else b.polls := by
    unfold keepsPoll poweringOff
    rw [hs, Bool.and_true, hstopped]
    simp
  rw [hkeeps]
  split <;> rename_i hc
  · have hpolled := (hp hc).work w
    have hstill : stopped.runtime.actualEnabled = true :=
      (congrArg Runtime.actualEnabled w.keeps :).trans hon
    exact hpolled.polls_reconfigure_on hstill false stopped.runtime.requestedMode
  · have hfixed : stopped.config.adaptive = false := by
      rw [w.config]
      exact Bool.eq_false_iff.mpr hc
    exact (polls_reconfigure_fixed stopped false _ hfixed).trans (w.polls rfl)

/-- What is done of a power off before the state `powerOff` is entered. -/
def windDown (b : Earbud) : Earbud :=
  match b.runtime.state with
  | .enabled =>
    (((b.setRuntime fun r => { r with powerOn := false, requestedEnabled := true }).stopSettleTimers
      |>.reconfigure false b.runtime.requestedMode).1.setRuntime fun r =>
        { r with actualEnabled := false })
  | .tuning => quit .fixed
  | .adaptiveTuning => quit .adaptive
  | _ => b.setRuntime fun r => { r with powerOn := false }
where
  quit (kind : TuningKind) : Earbud :=
    ((b.command .detachTuningLink).command (.exitTuning kind)).setRuntime fun r =>
      { r with tuningSampleRate := none, powerOn := r.powerOn && false }

theorem work_windDown (b : Earbud) : Work apart b b.windDown := by
  have hquit : ∀ kind, Work apart b (windDown.quit b kind) := fun kind =>
    ((Relation.ReflTransGen.single (.command _ rfl)).tail (.command _ rfl)).tail (.runtime _ rfl)
  unfold windDown
  split
  · have hstopped : Work apart b (b.setRuntime fun r =>
        { r with powerOn := false, requestedEnabled := true }).stopSettleTimers :=
      .trans (.single (.runtime _ rfl)) (work_stopSettleTimers _)
    exact (hstopped.trans (reconfigure_apart _ false b.runtime.requestedMode)).tail
      (.runtime (fun r => { r with actualEnabled := false }) rfl)
  · exact hquit .fixed
  · exact hquit .adaptive
  · exact .single (.runtime _ rfl)

theorem state_windDown (b : Earbud) : b.windDown.runtime.state = b.runtime.state := by
  unfold windDown
  split
  · exact state_reconfigure _ _ _
  · rfl
  · rfl
  · rfl

theorem initialised_windDown (hs : b.runtime.state.isPowered = true) :
    b.windDown.runtime.state ≠ .uninitialised := by
  rw [state_windDown]
  intro he
  simp [he, Lifecycle.isPowered] at hs

theorem polls_windDown (hon : b.isEnabled = true → b.runtime.actualEnabled = true)
    (hp : b.config.adaptive = true → Polled b) : b.windDown.polls = b.keepsPoll := by
  have hkeeps : b.runtime.state ≠ .enabled → b.polls = b.keepsPoll := by
    intro hs
    simp [keepsPoll, isEnabled_eq_false hs]
  unfold windDown
  split
  · next hstate =>
    have henabled : b.isEnabled = true := b.isEnabled_iff.mpr hstate
    have hpolls := polls_poweringOff (hon henabled) hp henabled List.mem_cons_self
    exact hpolls
  · next hstate => exact hkeeps (by simp [hstate])
  · next hstate => exact hkeeps (by simp [hstate])
  · next hstate _ _ => exact hkeeps hstate

/-- The power goes off from a state with power: the state `powerOff` is entered, and after that only
marks of the user are cleared. -/
theorem dispatch_powerOff (hs : b.runtime.state.isPowered = true) (hdone : b.followUps = []) :
    ∃ change, (change = id ∨ change = Runtime.clearUserFlags) ∧
      (b.dispatch .powerOff).1 = (b.windDown.enter .powerOff).setRuntime change := by
  have hhandle : ∃ change, (change = id ∨ change = Runtime.clearUserFlags) ∧
      (b.handle .powerOff).1 = (b.windDown.enter .powerOff).setRuntime change := by
    show ∃ change, _ ∧ (b.handleInState .powerOff).1 = _
    unfold windDown
    cases hstate : b.runtime.state with
    | uninitialised => simp [hstate, Lifecycle.isPowered] at hs
    | powerOff => simp [hstate, Lifecycle.isPowered] at hs
    | enabled =>
      simp only [handleInState, hstate]
      exact ⟨_, Or.inr rfl, rfl⟩
    | _ =>
      simp only [handleInState, hstate]
      exact ⟨_, Or.inl rfl, rfl⟩
  obtain ⟨change, hchange, he⟩ := hhandle
  have w : Work apart b (b.handle .powerOff).1 := by
    rw [he]
    exact ((work_windDown b).trans (work_enter _ _)).tail (.runtime change rfl)
  refine ⟨change, hchange, ?_⟩
  rw [← he]
  exact finishFollowUps_eq_self _ ((w.silent rfl).2.1.trans hdone)

theorem runtime_powerOff (hs : b.runtime.state.isPowered = true) (hdone : b.followUps = []) :
    (b.dispatch .powerOff).1.runtime = { b.windDown.runtime with state := .powerOff } ∨
      (b.dispatch .powerOff).1.runtime =
        Runtime.clearUserFlags { b.windDown.runtime with state := .powerOff } := by
  obtain ⟨change, hchange, hoff⟩ := dispatch_powerOff hs hdone
  have hruntime : (b.dispatch .powerOff).1.runtime =
      change { b.windDown.runtime with state := .powerOff } := by
    rw [hoff, ← runtime_enter]
    rfl
  rcases hchange with rfl | rfl
  · exact Or.inl hruntime
  · exact Or.inr hruntime

theorem isArmed_powerOff (hs : b.runtime.state.isPowered = true) (hdone : b.followUps = [])
    (hk : parting.timer k = true) : (b.dispatch .powerOff).1.timers.isArmed k = false := by
  obtain ⟨change, -, hoff⟩ := dispatch_powerOff hs hdone
  rw [hoff]
  exact isArmed_enter_powerOff (initialised_windDown hs) hk

/-- What is armed once the power went off. -/
structure SwitchedOff (on off : Earbud) : Prop where
  hardware : ∀ k, parting.timer k = true → off.timers.isArmed k = false
  poll : off.polls = on.keepsPoll
  agreed : ∀ d, off.timers.isArmed (.quietMode d) = on.timers.isArmed (.quietMode d)

theorem switchedOff_dispatch (hs : b.runtime.state.isPowered = true) (hdone : b.followUps = [])
    (hon : b.isEnabled = true → b.runtime.actualEnabled = true)
    (hp : b.config.adaptive = true → Polled b) : SwitchedOff b (b.dispatch .powerOff).1 := by
  refine ⟨fun k hk => isArmed_powerOff hs hdone hk, ?_, fun d => ?_⟩ <;>
    obtain ⟨change, -, hoff⟩ := dispatch_powerOff hs hdone <;> rw [hoff]
  · exact ((unpolled_enter b.windDown .powerOff).polls rfl).trans (polls_windDown hon hp)
  · have hleft : Work apart b ((b.windDown.enter .powerOff).setRuntime change) :=
      ((work_windDown b).trans (work_enter _ _)).tail (.runtime change rfl)
    exact hleft.isArmed rfl

/-- Only switching the power off takes an earbud to the state `powerOff` from one with power. -/
theorem powerOff_of_perform (hs : b.runtime.state.isPowered = true) (ho : b.timers.InOrder)
    (hoff : (b.perform m).runtime.state = .powerOff) : m = .event .powerOff := by
  rcases perform_cases b m with ⟨x, e, hd, he⟩ | ⟨hsame, -⟩
  · have hstate : x.runtime.state = b.runtime.state := by
      rcases dispatched?_eq_some ho hd with ⟨-, -, rfl⟩ | ⟨k, -, -, -, rfl⟩ <;> rfl
    rw [he, state_dispatch] at hoff
    rcases (course_handle x e).state with hkept | hpowered | ⟨-, hfresh | rfl⟩
    · rw [← hstate, ← hkept, hoff] at hs
      cases hs
    · rw [hoff] at hpowered
      cases hpowered
    · rw [← hstate, hfresh] at hs
      cases hs
    · rcases dispatched?_eq_some ho hd with ⟨-, rfl, -⟩ | ⟨k, -, hk, -⟩
      · rfl
      · cases hk
  · rw [hsame] at hoff
    rw [hoff] at hs
    cases hs

theorem switchedOff_perform (h : Sound b) (hdone : b.followUps = [])
    (hp : b.config.adaptive = true → Polled b) (hs : b.runtime.state.isPowered = true)
    (hoff : (b.perform m).runtime.state = .powerOff) : SwitchedOff b (b.perform m) := by
  have hm := powerOff_of_perform hs h.order hoff
  subst hm
  apply switchedOff_dispatch hs hdone _ hp
  intro hon
  exact h.classified.hardware.trans hon

/-! ### The power is off -/

theorem handle_powerOn (hs : b.runtime.state = .powerOff) : (b.handle .powerOn).1 = b.switchPowerOn := by
  show (b.handleInState .powerOn).1 = _
  simp only [handleInState, hs]
  rfl

theorem powered_switchPowerOn (hs : b.runtime.state = .powerOff) :
    (b.dispatch .powerOn).1.runtime.state.isPowered = true := by
  obtain ⟨next, hnext, he⟩ := switchPowerOn_eq b
  rw [state_dispatch, handle_powerOn hs, he, runtime_enter]
  rcases hnext with rfl | rfl <;> rfl

theorem ne_powerOn_of_off (hs : b.runtime.state = .powerOff) {e : Event}
    (hstays : (b.dispatch e).1.runtime.state = .powerOff) : e ≠ .powerOn := by
  rintro rfl
  have hpowered := powered_switchPowerOn hs
  rw [hstays] at hpowered
  cases hpowered

theorem isArmed_dispatch_off (hs : b.runtime.state = .powerOff) (hactual : b.runtime.actualEnabled = false)
    {e : Event} (hstays : (b.dispatch e).1.runtime.state = .powerOff) (hk : ∀ d, k ≠ .quietMode d)
    (hpoll : e = .timerExpired .gainPoll → k ≠ .gainPoll) :
    (b.dispatch e).1.timers.isArmed k = b.timers.isArmed k := by
  have hpower := ne_powerOn_of_off hs hstays
  have hfollowed : (b.dispatch e).1.timers.isArmed k = (b.handle e).1.timers.isArmed k :=
    (aloof_finishFollowUps _).isArmed (by cases k <;> first | rfl | exact absurd rfl (hk _))
  rw [hfollowed]
  by_cases he : e = .timerExpired .gainPoll
  · subst he
    have hother := hpoll rfl
    exact (work_pollGain b).isArmed (by cases k <;> first | rfl | contradiction)
  · have w := aloof_handle (b := b) (by rw [hs]; rfl) hactual (by simp [hs]) (fun h => absurd h hpower) he
    exact w.isArmed (by cases k <;> first | rfl | exact absurd rfl (hk _))

theorem isArmed_perform_off (hs : b.runtime.state = .powerOff) (hactual : b.runtime.actualEnabled = false)
    (ho : b.timers.InOrder) (hstays : (b.perform m).runtime.state = .powerOff)
    (hk : ∀ d, k ≠ .quietMode d) (hidle : b.timers.isArmed k = false) :
    (b.perform m).timers.isArmed k = false := by
  rcases perform_cases b m with ⟨x, e, hd, hm⟩ | ⟨-, hsame⟩
  · rw [hm] at hstays ⊢
    rcases dispatched?_eq_some ho hd with ⟨he, -, rfl⟩ | ⟨k', -, rfl, harmed, rfl⟩
    · refine (isArmed_dispatch_off hs hactual hstays hk ?_).trans hidle
      rintro rfl
      cases he
    -- What is not armed does not expire, so the poll is not renewed.
    · have hpopped : (b.cancel k').timers.isArmed k = false :=
        Bool.eq_false_iff.mpr fun h => nomatch hidle.symm.trans (isArmed_of_cancel h)
      refine (isArmed_dispatch_off (b := b.cancel k') hs hactual hstays hk ?_).trans hpopped
      rintro he rfl
      cases he
      exact nomatch hidle.symm.trans harmed
  · exact (hsame k).trans hidle

/-! ### Agreed instants without power -/

theorem isArmed_peerRecord_off (hout : (b.isEnabled && b.audio.adaptive) = false)
    (hcase : b.runtime.peerInCase = false) (r : Record) (d : Direction) :
    (b.dispatch (.peerRecord r)).1.timers.isArmed (.quietMode d) = true ↔
      b.timers.isArmed (.quietMode d) = true ∨ b.quietMode.Arms r b.wallNow d := by
  have hcancel : .cancel d ∉ (b.quietMode.peerRecord r b.wallNow).2 :=
    b.quietMode.cancel_not_mem_operate (.peerRecord r b.wallNow) d
  have hhandle : (b.handle (.peerRecord r)).1 = b.adopt (b.quietMode.peerRecord r b.wallNow) := by
    show b.receiveRecord r = _
    unfold receiveRecord
    rw [if_neg (by simp [hcase])]
  have hdispatch : (b.dispatch (.peerRecord r)).1.timers =
      (b.adopt (b.quietMode.peerRecord r b.wallNow)).timers := by
    show (b.handle (.peerRecord r)).1.finishFollowUps.timers = _
    rw [hhandle, finishFollowUps_outside (outside_adopt _ hout)]
  rw [hdispatch, ← Synchronizer.arm_mem_peerRecord_iff]
  exact isArmed_carryOut hcancel { b with quietMode := (b.quietMode.peerRecord r b.wallNow).1 }

/-- Outside adaptive processing a move arms a timer of a transition exactly when it is a record of the
peer that makes this side arm it. -/
theorem quiet_perform_iff (hout : (b.isEnabled && b.audio.adaptive) = false) (hdone : b.followUps = [])
    (ho : b.timers.InOrder) (hidle : ∀ d, b.timers.isArmed (.quietMode d) = false) :
    (∀ d, (b.perform m).timers.isArmed (.quietMode d) = false) ↔
      ∀ r, m = .event (.peerRecord r) → b.runtime.peerInCase = false →
        ∀ d, ¬b.quietMode.Arms r b.wallNow d := by
  by_cases hrecord : (∃ r, m = .event (.peerRecord r)) ∧ b.runtime.peerInCase = false
  · obtain ⟨⟨r, rfl⟩, hcase⟩ := hrecord
    show (∀ d, (b.dispatch (.peerRecord r)).1.timers.isArmed (.quietMode d) = false) ↔ _
    have harmed := isArmed_peerRecord_off hout hcase r
    simp only [hidle, Bool.false_eq_true, false_or] at harmed
    constructor
    · intro h r' he _ d harms
      cases he
      exact nomatch (h d).symm.trans ((harmed d).mpr harms)
    · intro h d
      exact Bool.eq_false_iff.mpr fun hd => h r rfl hcase d ((harmed d).mp hd)
  · refine iff_of_true ?_ fun r hm hcase => absurd ⟨⟨r, hm⟩, hcase⟩ hrecord
    intro d
    rcases perform_cases b m with ⟨x, e, hd, hm⟩ | ⟨-, hsame⟩
    · rw [hm]
      rcases dispatched?_eq_some ho hd with ⟨he, rfl, rfl⟩ | ⟨k, -, rfl, -, rfl⟩
      · refine Reticent.unarmed ((reticent_dispatch_iff hdone ho hout e).mpr ?_) (hidle d)
        rintro ⟨r, rfl, hcase, -⟩
        exact hrecord ⟨⟨r, rfl⟩, hcase⟩
      · refine ((reticent_cancel b k).trans ?_).unarmed (hidle d)
        apply (reticent_dispatch_iff (b := b.cancel k) hdone (ho.cancel k) hout (.timerExpired k)).mpr
        rintro ⟨r, he, -⟩
        cases he
    · exact (hsame _).trans (hidle d)

/-! ### Runs without power -/

section Off

variable {on off : Earbud} {later : List Move}
  (hsound : ∀ mid, Sound (off.run mid) ∧ (off.run mid).followUps = [])
  (hoff : ∀ mid, mid <+: later → (off.run mid).runtime.state = .powerOff)

include hsound hoff

theorem idle_while_off (hk : ∀ d, k ≠ .quietMode d) (hidle : off.timers.isArmed k = false) :
    ∀ mid, mid <+: later → (off.run mid).timers.isArmed k = false := by
  rw [forall_prefix_iff]
  refine ⟨hidle, fun mid m rest hl hidle => ?_⟩
  have hs := hoff mid ⟨m :: rest, hl.symm⟩
  have hnext := hoff (mid ++ [m]) ⟨rest, by simp [hl]⟩
  have hactual := (hsound mid).1.off (by simp [hs])
  rw [run_snoc] at hnext ⊢
  exact isArmed_perform_off hs hactual (hsound mid).1.order hnext hk hidle

theorem quiet_while_off_iff :
    (∀ mid, mid <+: later → ∀ d, (off.run mid).timers.isArmed (.quietMode d) = false) ↔
      (∀ d, off.timers.isArmed (.quietMode d) = false) ∧
        ∀ mid r rest, later = mid ++ .event (.peerRecord r) :: rest →
          (off.run mid).runtime.peerInCase = false →
            ∀ d, ¬(off.run mid).quietMode.Arms r (off.run mid).wallNow d := by
  have hstep : ∀ mid m rest, later = mid ++ m :: rest →
      (∀ d, (off.run mid).timers.isArmed (.quietMode d) = false) →
      ((∀ d, (off.run (mid ++ [m])).timers.isArmed (.quietMode d) = false) ↔
        ∀ r, m = .event (.peerRecord r) → (off.run mid).runtime.peerInCase = false →
          ∀ d, ¬(off.run mid).quietMode.Arms r (off.run mid).wallNow d) := by
    intro mid m rest hl hidle
    have hs := hoff mid ⟨m :: rest, hl.symm⟩
    have hout : ((off.run mid).isEnabled && (off.run mid).audio.adaptive) = false := by
      simp [isEnabled, hs]
    rw [run_snoc]
    exact quiet_perform_iff hout (hsound mid).2 (hsound mid).1.order hidle
  constructor
  · intro h
    refine ⟨h [] List.nil_prefix, fun mid r rest hl hcase => ?_⟩
    have hidle := h mid ⟨_, hl.symm⟩
    have hnext := h (mid ++ [.event (.peerRecord r)]) ⟨rest, by simp [hl]⟩
    exact (hstep mid _ rest hl hidle).mp hnext r rfl hcase
  · rintro ⟨hfirst, hrecords⟩
    rw [forall_prefix_iff]
    refine ⟨hfirst, fun mid m rest hl hidle => (hstep mid m rest hl hidle).mpr ?_⟩
    rintro r rfl hcase
    exact hrecords mid r rest hl hcase

variable (h : SwitchedOff on off)

include h

theorem SwitchedOff.hardware_idle (hk : parting.timer k = true) :
    ∀ mid, mid <+: later → (off.run mid).timers.isArmed k = false := by
  apply idle_while_off hsound hoff _ (h.hardware k hk)
  rintro d rfl
  cases hk

theorem SwitchedOff.idle_iff :
    (∀ mid, mid <+: later → ∀ k, (off.run mid).timers.isArmed k = false) ↔
      on.keepsPoll = false ∧ (∀ d, on.timers.isArmed (.quietMode d) = false) ∧
        ∀ mid r rest, later = mid ++ .event (.peerRecord r) :: rest →
          (off.run mid).runtime.peerInCase = false →
            ∀ d, ¬(off.run mid).quietMode.Arms r (off.run mid).wallNow d := by
  have hquiet := quiet_while_off_iff hsound hoff
  simp only [h.agreed] at hquiet
  rw [← hquiet]
  constructor
  · intro hidle
    have hpoll : off.polls = false := hidle [] List.nil_prefix .gainPoll
    exact ⟨h.poll.symm.trans hpoll, fun mid hmid d => hidle mid hmid (.quietMode d)⟩
  · rintro ⟨hkeeps, hquiet⟩ mid hmid k
    have hpoll : off.polls = false := h.poll.trans hkeeps
    cases k with
    | gainPoll => exact idle_while_off (k := .gainPoll) hsound hoff (by simp) hpoll mid hmid
    | quietMode d => exact hquiet mid hmid d
    | _ => exact h.hardware_idle hsound hoff rfl mid hmid

end Off

section Run

variable (c : Config) (clockOrigin : Option WallClock) (store : SessionStore)

/-- From the move of a run that takes the earbud from a state with power to `powerOff`, and as long as
it stays there, no timer of the hardware is armed.  None at all is armed exactly when the gain poll does
not go on, no timer of a transition was armed before, and no record of the peer arms one. -/
theorem idle_powered_off_iff (earlier later : List Move) (m : Move)
    (hon : ((Earbud.new c clockOrigin store).run earlier).runtime.state.isPowered = true)
    (hoff : ∀ mid, mid <+: later →
      ((((Earbud.new c clockOrigin store).run earlier).perform m).run mid).runtime.state = .powerOff) :
    let on := (Earbud.new c clockOrigin store).run earlier
    let off := on.perform m
    (∀ mid, mid <+: later →
        ∀ k ∈ [.configSettle, .muteBeforeDisable, .muteBeforeMode, .pathGainSettle],
          (off.run mid).timers.isArmed k = false) ∧
      ((∀ mid, mid <+: later → ∀ k, (off.run mid).timers.isArmed k = false) ↔
        on.keepsPoll = false ∧ (∀ d, on.timers.isArmed (.quietMode d) = false) ∧
          ∀ mid r rest, later = mid ++ .event (.peerRecord r) :: rest →
            (off.run mid).runtime.peerInCase = false →
              ∀ d, ¬(off.run mid).quietMode.Arms r (off.run mid).wallNow d) := by
  intro on off
  obtain ⟨hsoundOn, hdone⟩ := sound_run c clockOrigin store earlier
  have hsound : ∀ mid, Sound (off.run mid) ∧ (off.run mid).followUps = [] := by
    intro mid
    have h := sound_run c clockOrigin store (earlier ++ m :: mid)
    rwa [run_append] at h
  have hswitched : SwitchedOff on off := switchedOff_perform hsoundOn hdone
    (polled_run c clockOrigin store earlier) hon (hoff [] List.nil_prefix)
  refine ⟨fun mid hmid k hk => ?_, hswitched.idle_iff hsound hoff⟩
  apply hswitched.hardware_idle hsound hoff _ mid hmid
  simp only [List.mem_cons, List.not_mem_nil, or_false] at hk
  rcases hk with rfl | rfl | rfl | rfl <;> rfl

/-- Adaptive noise control runs, the hardware confirms that it is off, and the link is lost then. -/
theorem idle_powered_off_iff_confirmed :
    let on := (Earbud.new (.standard "") none {}).run
      [.event .initialise, .event .powerOn, .event .enable, .expiry]
    on.polls = true ∧ ∀ mid, mid <+: [.event .peerLinkLost] → ∀ k,
      ((on.perform (.event .powerOff)).run mid).timers.isArmed k = false := by
  have hoff : ∀ mid, mid <+: [Move.event .peerLinkLost] →
      ((((Earbud.new (.standard "") none {}).run
        [.event .initialise, .event .powerOn, .event .enable, .expiry]).perform
          (.event .powerOff)).run mid).runtime.state = .powerOff := by
    intro mid hmid
    rcases List.prefix_cons_iff.mp hmid with rfl | ⟨rest, rfl, hrest⟩
    · decide
    · obtain rfl := List.prefix_nil.mp hrest
      decide
  have hnone : ∀ (mid : List Move) r rest,
      [.event .peerLinkLost] ≠ mid ++ .event (.peerRecord r) :: rest := by
    intro mid r rest he
    have hmem : Move.event (.peerRecord r) ∈ [Move.event .peerLinkLost] := by simp [he]
    cases List.mem_singleton.mp hmem
  refine ⟨by decide, (idle_powered_off_iff (.standard "") none {}
    [.event .initialise, .event .powerOn, .event .enable, .expiry] [.event .peerLinkLost]
    (.event .powerOff) (by decide) hoff).2.mpr ⟨by decide, ?_, ?_⟩⟩
  · intro d
    cases d <;> decide
  · exact fun mid r rest he => absurd he (hnone mid r rest)

end Run

/-- An agreed instant outlasts the power. -/
theorem armed_powered_off : ¬∀ (c : Config) (clockOrigin : Option WallClock) (store : SessionStore)
    (earlier later : List Move) (m : Move),
    ((Earbud.new c clockOrigin store).run earlier).runtime.state.isPowered = true →
    (∀ mid, mid <+: later →
      ((((Earbud.new c clockOrigin store).run earlier).perform m).run mid).runtime.state = .powerOff) →
    ∀ mid, mid <+: later → ∀ k,
      ((((Earbud.new c clockOrigin store).run earlier).perform m).run mid).timers.isArmed k = false := by
  intro h
  have hagreed := h (.standard "") none {} [.event .initialise, .event .powerOn, .event .enable, .expiry,
    .event .silenceDetected, .event (.peerRecord { detected := true })] [] (.event .powerOff) (by decide)
    (by
      intro mid hmid
      rw [List.prefix_nil.mp hmid]
      decide) [] List.nil_prefix (.quietMode .enable)
  exact absurd hagreed (by decide)

end Earbud

end NoiseControl
