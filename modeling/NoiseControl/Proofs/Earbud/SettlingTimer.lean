import NoiseControl.Proofs.Earbud.AdaptiveProcessing
import NoiseControl.Proofs.Earbud.Stroke

/-!
# The timer of fixed filters

The timer that applies the gains of fixed filters is armed when the hardware comes on muted.  Adaptive
filters come on unmuted, so with them it is never armed.
-/

namespace NoiseControl.Earbud

variable {x : Extent} {a b c : Earbud} {reads : Bool}

/-- The timer of fixed filters is not armed on the way from one earbud to another. -/
def Unsettling (a b : Earbud) : Prop :=
  b.timers.isArmed .pathGainSettle = true → a.timers.isArmed .pathGainSettle = true

theorem Unsettling.trans (h : Unsettling a b) (h' : Unsettling b c) : Unsettling a c :=
  fun harmed => h (h' harmed)

theorem Work.unsettling (w : Work x a b) (hx : x.timer .pathGainSettle = false) : Unsettling a b :=
  fun harmed => (w.isArmed hx).symm.trans harmed

theorem unsettling_cancel (b : Earbud) (k : TimerKind) : Unsettling b (b.cancel k) := isArmed_of_cancel

/-- Anything but that timer. -/
def unsettled : Extent where
  keeps _ := {}
  timer
    | .pathGainSettle => false
    | _ => true
  audio _ := true
  talks := true

theorem Unsettling.work (h : Unsettling a b) (w : Work unsettled b c) : Unsettling a c :=
  h.trans (w.unsettling rfl)

section Reconfiguration

variable (b : Earbud)

theorem unsettling_loadMode (m : Mode) : Unsettling b (b.loadMode m).1 := by
  have hattempt : ∀ x : Earbud, Work unsettled x (x.attempt (.setMode m)).1 := fun x =>
    .single (.attempt _ rfl)
  unfold loadMode
  split
  · exact (hattempt b).unsettling rfl
  · exact (unsettling_cancel b _).work (hattempt _)

theorem unsettling_applyMode (m : Mode) : Unsettling b (b.applyMode m).1 := by
  have hid : Unsettling b (b.identifyMode m b.audio.adaptive) :=
    Work.unsettling (x := unsettled) (work_identifyMode b b.audio.adaptive rfl) rfl
  have habandoned : ∀ x : Earbud, Work unsettled x (x.abandonMode b.audio.adaptive) := fun x =>
    work_abandonMode x b.audio.adaptive (fun _ _ => rfl) rfl
  unfold applyMode
  dsimp only
  split
  · exact hid.work (habandoned _)
  · have hload := hid.trans (unsettling_loadMode _ m)
    split <;> rename_i heq <;> rw [heq] at hload
    · exact hload.work (habandoned _)
    · have hmode := hload.work (.single (.runtime (fun r => { r with currentMode := m }) rfl))
      refine Unsettling.trans ?_ ((levels_announceLeakthrough _).unsettling rfl)
      refine Unsettling.trans ?_ ((levels_refreshLeakthrough _).unsettling rfl)
      refine Unsettling.work ?_ (.single (.announce _))
      split
      · exact hmode.work (.single (.command _ rfl))
      · exact hmode

variable (hc : b.config.adaptive = true)

include hc

theorem unsettled_hardwareOn : Work unsettled b b.hardwareOn.1 := by
  unfold hardwareOn
  rw [if_pos hc]
  exact .single (.attempt _ rfl)

theorem unsettling_inPower (on : Bool) : Unsettling b (b.inPower on).1 := by
  have hturned : Unsettling b (if on then b.hardwareOn else b.stopAdaptive.hardwareOff).1 := by
    cases on with
    | true => exact (unsettled_hardwareOn b hc).unsettling rfl
    | false =>
      have hstopped : Work unsettled b b.stopAdaptive := work_stopAdaptive b rfl rfl
      have hadaptive : b.stopAdaptive.config.adaptive = true := by rw [hstopped.config, hc]
      show Unsettling b b.stopAdaptive.hardwareOff.1
      rw [hardwareOff_adaptive hadaptive]
      exact ((hstopped.unsettling rfl).trans (unsettling_cancel _ _)).work (.single (.attempt _ rfl))
  unfold inPower
  split
  · exact id
  · unfold switchHardware
    split <;> rename_i turned heq <;> rw [heq] at hturned
    · have hset := hturned.work (.single (.runtime (fun r => { r with actualEnabled := on }) rfl))
      dsimp only
      refine Unsettling.work ?_ (.single (.announce _))
      split
      · unfold settleAdaptive
        split
        · exact hset.work (.single (.arm _ _ rfl))
        · exact hset
      · exact hset
    · exact hturned

theorem unsettling_reconfigure (on : Bool) (m : Mode) : Unsettling b (b.reconfigure on m).1 := by
  have hmoded : Unsettling b ((b.boost true).inMode m).1 := by
    have hboosted : Unsettling b (b.boost true) := id
    unfold inMode
    split
    · exact hboosted
    · exact hboosted.trans (unsettling_applyMode _ m)
  have hconfig : ((b.boost true).inMode m).1.config.adaptive = true := by
    rw [(work_inMode (b.boost true) (fun _ => true) (m := m) rfl rfl).config]
    exact hc
  rw [reconfigure_stages]
  refine Unsettling.trans ?_ (id : Unsettling _ (boost _ false))
  refine (hmoded.trans (unsettling_inPower _ hconfig on)).trans ?_
  exact (work_tellAdaptive _ _ _).unsettling rfl

end Reconfiguration

theorem Strokes.unsettling (s : Strokes a reads b) (hc : a.config.adaptive = true) :
    Unsettling a b := by
  induction s with
  | start => exact id
  | touch _ t ih => exact ih.trans (Work.unsettling (.single t) rfl)
  | settle _ ih => exact ih.trans (unsettling_cancel _ _)
  | write _ gain ih => exact ih.trans ((levels_setLeakthrough _ gain).unsettling rfl)
  | read _ ih => exact ih.trans ((levels_refreshLeakthrough _).unsettling rfl)
  | @reconfigure reads b s on m ih =>
    exact ih.trans (unsettling_reconfigure b (by rw [s.anything.config, hc]) on m)

theorem unsettling_start (b : Earbud) : Unsettling b b.start.1 := by
  have hprobe : ∀ c, Unsettling b (b.loadSession.1.attempt c).1 := fun c =>
    Work.unsettling (x := unsettled) ((Relation.ReflTransGen.single .load).tail (.attempt c rfl)) rfl
  rcases start_fst b with ⟨he, -⟩ | ⟨microphones, mode, ⟨he, -⟩ | ⟨enabled, he, -⟩⟩ <;> rw [he]
  · exact id
  · exact hprobe _
  · have hentered : ∀ set : Earbud, Unsettling set (set.enter .powerOff) := fun set =>
      isArmed_of_enter set
    exact (hprobe (.start microphones mode)).trans (hentered _)

theorem Account.unsettling {e : Event} (account : Account b e c) (hc : b.config.adaptive = true) :
    Unsettling b c := by
  cases account with
  | strokes s => exact s.unsettling hc
  | start => exact unsettling_start b
  | powerOff =>
    have hleft := (still_leave b).unsettling (rfl : still.timer .pathGainSettle = false)
    have hconfig : b.leave.config.adaptive = true := by rw [(still_leave b).config, hc]
    have htried : Unsettling b b.leaveHardware :=
      hleft.trans (unsettling_reconfigure b.leave hconfig _ _)
    have hend := strokes_powerOffEnabled b
    refine htried.trans (hend.unsettling ?_)
    show b.leaveHardware.config.adaptive = true
    rw [leaveHardware, (work_reconfigure b.leave _ _).config, hconfig]
  | applyGains => exact id
  | poll => exact (polling_pollGain b).unsettling rfl
  | peerPlaced p => exact (polling_peerPlaced b p).unsettling rfl

theorem unsettling_dispatch (b : Earbud) (hc : b.config.adaptive = true) (e : Event) :
    Unsettling b (b.dispatch e).1 :=
  ((account_handle b e).unsettling hc).trans ((still_finishFollowUps _).unsettling rfl)

/-- With adaptive filters the timer of fixed ones is never armed. -/
theorem unsettled_run (c : Config) (hc : c.adaptive = true) (clockOrigin : Option WallClock)
    (store : SessionStore) (moves : List Move) :
    ((Earbud.new c clockOrigin store).run moves).timers.isArmed .pathGainSettle = false := by
  have hstep : ∀ (b : Earbud) (e : Event),
      b.config.adaptive = true ∧ b.timers.isArmed .pathGainSettle = false →
      (b.dispatch e).1.config.adaptive = true ∧
        (b.dispatch e).1.timers.isArmed .pathGainSettle = false := by
    intro b e ⟨hadaptive, hidle⟩
    refine ⟨by rw [(work_dispatch b e).config, hadaptive], Bool.eq_false_iff.mpr fun harmed => ?_⟩
    exact nomatch hidle.symm.trans (unsettling_dispatch b hadaptive e harmed)
  refine (run_induction (P := fun b => b.config.adaptive = true ∧
    b.timers.isArmed .pathGainSettle = false) c clockOrigin store ⟨hc, rfl⟩ ?_ ?_ ?_ ?_ moves).2
  · exact fun b e _ _ h => hstep b e h
  · intro b k timers hsound hp h
    obtain ⟨armed, -, -, rfl, -⟩ := hsound.order.popDue?_eq_some hp
    refine hstep (b.cancel k) _ ⟨h.1, Bool.eq_false_iff.mpr fun harmed => ?_⟩
    exact nomatch h.2.symm.trans (unsettling_cancel b k harmed)
  · exact fun b t h => h
  · exact fun b s h => h

end NoiseControl.Earbud
