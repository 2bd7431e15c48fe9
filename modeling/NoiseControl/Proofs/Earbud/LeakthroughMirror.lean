import NoiseControl.Proofs.Earbud.Driving
import NoiseControl.Proofs.Earbud.Initialised
import NoiseControl.Proofs.Earbud.SettlingTimer
import NoiseControl.Proofs.Earbud.Unpowered

/-!
# The leakthrough gain that is tracked

In a mode with a leakthrough gain the earbud keeps track of the one that the hardware has.  It reads the
gain back whenever it loads a mode, or takes one that is to wait, and writes it whenever it is asked to.
Initialisation does neither: the mode that it starts in has a gain that the earbud does not know of.
-/

namespace NoiseControl

/-- A gain was written to where the leakthrough gain of hybrid filters is read back. -/
def levelling : Matter UInt8
  | .setGain .left .ffb gain, true => some gain
  | _, _ => none

theorem AudioChain.modeGain_ne_zero (m : Mode) : AudioChain.modeGain m ≠ 0 := by
  intro h
  have hzero := congrArg UInt8.toNat h
  have hlt : min 255 (64 + min 255 (16 * m.index.toNat)) < UInt8.size := by
    show _ < 256
    omega
  have hmin : (0 : UInt8).toNat = 0 := rfl
  unfold AudioChain.modeGain at hzero
  rw [UInt8.toNat_ofNat_of_lt' hlt] at hzero
  omega

def Activity.refusesGain : Activity → Bool
  | .audio (.setGain ..) false => true
  | _ => false

namespace Earbud

variable {x : Extent} {a b c : Earbud} {reads reads' : Bool} {m : Mode}

/-- In a mode with a leakthrough gain it is the one that the hardware has. -/
def Mirrored (b : Earbud) : Prop :=
  b.runtime.currentMode.isAdaptive = false →
    b.runtime.leakthroughGain = b.audio.readGain .left .ffb

/-- All that this goes by. -/
def gauge (b : Earbud) : Mode × UInt8 × Mode × Option UInt8 :=
  (b.runtime.currentMode, b.runtime.leakthroughGain, b.audio.mode, b.audio.left.ffb)

theorem Mirrored.of_gauge (h : Mirrored a) (hg : b.gauge = a.gauge) : Mirrored b := by
  simp only [gauge, Prod.mk.injEq] at hg
  obtain ⟨hcurrent, hgain, hmode, hwritten⟩ := hg
  have hread : b.audio.readGain .left .ffb = a.audio.readGain .left .ffb := by
    show b.audio.left.ffb.getD (AudioChain.modeGain b.audio.mode) =
      a.audio.left.ffb.getD (AudioChain.modeGain a.audio.mode)
    rw [hwritten, hmode]
  unfold Mirrored
  rw [hcurrent, hgain, hread]
  exact h

/-- Hybrid adaptive filters, all of whose gains could be written so far. -/
structure Tracking (b : Earbud) : Prop where
  adaptive : b.config.adaptive = true
  layout : b.config.layout = .hybrid
  taken : ∀ activity ∈ b.history, activity.refusesGain = false

theorem Tracking.before (h : Tracking b) (w : Work anything a b) : Tracking a where
  adaptive := w.config ▸ h.adaptive
  layout := w.config ▸ h.layout
  taken activity hmem := h.taken activity (w.history_suffix.subset hmem)

/-- The gauge is left alone and no gain or mode comes to the hardware; or the gain is that of the
hardware in the end.  Without a mode loaded or a gain read back, it was written because the mode has
one. -/
def Adjusts (reads : Bool) (a b : Earbud) : Prop :=
  (a.tally swaps ≤ b.tally swaps ∧ a.tally levelling ≤ b.tally levelling) ∧
    ((reads = false ∧ b.gauge = a.gauge ∧ b.tally swaps = a.tally swaps ∧
        b.tally levelling = a.tally levelling) ∨
      (Mirrored b ∧ (reads = true ∨ a.tally swaps < b.tally swaps ∨
        a.tally levelling < b.tally levelling ∧ a.runtime.currentMode.isAdaptive = false)))

theorem adjusts_refl (b : Earbud) : Adjusts false b b :=
  ⟨⟨Nat.le_refl _, Nat.le_refl _⟩, Or.inl ⟨rfl, rfl, rfl, rfl⟩⟩

theorem Adjusts.trans (h : Adjusts reads a b) (h' : Adjusts reads' b c) :
    Adjusts (reads || reads') a c := by
  obtain ⟨⟨hswaps, hlevels⟩, hcase⟩ := h
  obtain ⟨⟨hswaps', hlevels'⟩, hcase'⟩ := h'
  refine ⟨⟨Nat.le_trans hswaps hswaps', Nat.le_trans hlevels hlevels'⟩, ?_⟩
  rcases hcase with ⟨rfl, hgauge, hs, hl⟩ | ⟨hmirrored, hreason⟩
  · rw [Bool.false_or, ← hs, ← hl]
    rcases hcase' with ⟨rfl, hgauge', hs', hl'⟩ | ⟨hmirrored', hreason'⟩
    · exact Or.inl ⟨rfl, hgauge'.trans hgauge, hs', hl'⟩
    · rw [show a.runtime.currentMode = b.runtime.currentMode from (congrArg Prod.fst hgauge).symm]
      exact Or.inr ⟨hmirrored', hreason'⟩
  · have hend : Mirrored c := by
      rcases hcase' with ⟨-, hgauge', -⟩ | ⟨hmirrored', -⟩
      · exact hmirrored.of_gauge hgauge'
      · exact hmirrored'
    refine Or.inr ⟨hend, ?_⟩
    rcases hreason with rfl | hlt | ⟨hlt, hmode⟩
    · exact Or.inl rfl
    · exact Or.inr (Or.inl (Nat.lt_of_lt_of_le hlt hswaps'))
    · exact Or.inr (Or.inr ⟨Nat.lt_of_lt_of_le hlt hlevels', hmode⟩)

/-! ### What leaves the gauge alone -/

def ungauged : Extent where
  keeps r := { currentMode := r.currentMode, leakthroughGain := r.leakthroughGain }
  timer _ := true
  audio
    | .start .. | .setMode _ | .setGain .left .ffb _ | .applyPathGains => false
    | _ => true
  talks := true

theorem still_within_ungauged : still.Within ungauged where
  keeps _ _ h := (congrArg ungauged.keeps h :)
  timer _ _ := rfl
  audio c h := by cases c <;> first | rfl | cases h
  talks h := h
  tells _ _ := rfl
  saves h := h

theorem polling_within_ungauged : polling.Within ungauged where
  keeps _ _ h := (congrArg ungauged.keeps h :)
  timer _ _ := rfl
  audio c h := by cases c <;> first | rfl | cases h
  talks h := h
  tells _ _ := rfl
  saves h := h

theorem Work.gauge (w : Work ungauged a b) : b.gauge = a.gauge := by
  have hcurrent : b.runtime.currentMode = a.runtime.currentMode :=
    (congrArg Runtime.currentMode w.keeps :)
  have hgain : b.runtime.leakthroughGain = a.runtime.leakthroughGain :=
    (congrArg Runtime.leakthroughGain w.keeps :)
  have haudio : (b.audio.mode, b.audio.left.ffb) = (a.audio.mode, a.audio.left.ffb) := by
    refine w.audio (fun chain => (chain.mode, chain.left.ffb)) fun chain c hc => ?_
    cases c with
    | exitTuning kind => cases kind <;> rfl
    | setGain channel path gain => cases channel <;> cases path <;> first | rfl | cases hc
    | _ => first | rfl | cases hc
  simp only [Earbud.gauge, Prod.mk.injEq] at haudio ⊢
  exact ⟨hcurrent, hgain, haudio⟩

theorem adjusts_of_same (hgauge : b.gauge = a.gauge) (hswaps : b.tally swaps = a.tally swaps)
    (hlevels : b.tally levelling = a.tally levelling) : Adjusts false a b :=
  ⟨⟨Nat.le_of_eq hswaps.symm, Nat.le_of_eq hlevels.symm⟩, Or.inl ⟨rfl, hgauge, hswaps, hlevels⟩⟩

theorem Work.tallies (w : Work ungauged a b) :
    b.tally swaps = a.tally swaps ∧ b.tally levelling = a.tally levelling := by
  refine ⟨w.tally fun c done hc => ?_, w.tally fun c done hc => ?_⟩
  · cases c <;> first | rfl | cases hc
  · cases c with
    | setGain channel path gain => cases channel <;> cases path <;> first | rfl | cases hc
    | _ => rfl

theorem Work.adjusts (w : Work ungauged a b) : Adjusts false a b :=
  adjusts_of_same w.gauge w.tallies.1 w.tallies.2

theorem Adjusts.work (h : Adjusts reads a b) (w : Work ungauged b c) : Adjusts reads a c := by
  have hend := h.trans w.adjusts
  rwa [Bool.or_false] at hend

/-! ### The gain -/

theorem mirrored_refreshLeakthrough (hl : b.config.layout = .hybrid) :
    Mirrored b.refreshLeakthrough := by
  unfold refreshLeakthrough
  rw [hl]
  show Mirrored (b.storeLeakthrough (b.audio.readGain .left .ffb))
  unfold storeLeakthrough
  split <;> rename_i hmode
  · exact fun _ => rfl
  · intro hother
    simp [hasLeakthrough, hother] at hmode

theorem adjusts_refreshLeakthrough (hl : b.config.layout = .hybrid) :
    Adjusts true b b.refreshLeakthrough := by
  have hsuffix := (levels_refreshLeakthrough b).history_suffix
  exact ⟨⟨tally_le hsuffix _, tally_le hsuffix _⟩,
    Or.inr ⟨mirrored_refreshLeakthrough hl, Or.inl rfl⟩⟩

theorem setLeakthrough_adaptive (hmode : b.runtime.currentMode.isAdaptive = true) (gain : UInt8) :
    b.setLeakthrough gain = b := by
  have hnone : ¬b.hasLeakthrough = true := by simp [hasLeakthrough, hmode]
  unfold setLeakthrough
  rw [show b.storeLeakthrough gain = b from if_neg hnone,
    show b.writeLeakthrough = b from if_neg hnone]
  exact if_neg hnone

theorem adjusts_setLeakthrough (gain : UInt8) (h : Tracking (b.setLeakthrough gain)) :
    Adjusts false b (b.setLeakthrough gain) := by
  have hsuffix := (levels_setLeakthrough b gain).history_suffix
  cases hmode : b.runtime.currentMode.isAdaptive with
  | true =>
    rw [setLeakthrough_adaptive hmode]
    exact adjusts_refl b
  | false =>
    have hhas : b.hasLeakthrough = true := by simp [hasLeakthrough, hmode]
    have hlayout := (h.before (levels_setLeakthrough b gain).anything).layout
    generalize hstored : b.setRuntime (fun r => { r with leakthroughGain := gain }) = stored
    generalize hleft : (stored.attempt (.setGain .left .ffb gain)).1 = left
    have hset : b.setLeakthrough gain =
        (left.attempt (.setGain .right .ffb left.runtime.leakthroughGain)).1.announceLeakthrough := by
      unfold setLeakthrough
      rw [show b.storeLeakthrough gain = stored from hstored ▸ if_pos hhas]
      unfold writeLeakthrough
      rw [if_pos (by rw [← hstored]; exact hhas),
        show stored.config.layout = .hybrid by rw [← hstored]; exact hlayout]
      subst hleft hstored
      rfl
    have hrest : Work ungauged left (b.setLeakthrough gain) := by
      rw [hset]
      refine .trans (.single (.attempt (.setGain .right .ffb left.runtime.leakthroughGain) rfl)) ?_
      unfold announceLeakthrough
      split
      · exact .single (.announce _)
      · exact .refl
    refine Adjusts.work ?_ hrest
    have hfirst : Work levels b left := by
      subst hleft hstored
      exact (Relation.ReflTransGen.single (.runtime _ rfl)).tail (.attempt _ rfl)
    -- The gain is written to the left ear, or its failure would be on record.
    obtain ⟨htally, hwritten⟩ : left.tally levelling = b.tally levelling + 1 ∧
        left.audio.left.ffb = some gain := by
      subst hleft hstored
      rcases attempt_cases (b.setRuntime fun r => { r with leakthroughGain := gain })
        (.setGain .left .ffb gain) with he | he
      · have hfailed := hrest.history_suffix.subset (a := .audio (.setGain .left .ffb gain) false)
          (by rw [he]; exact List.mem_cons_self)
        exact nomatch h.taken _ hfailed
      · refine ⟨?_, by rw [he]; rfl⟩
        rw [tally_attempt, he]
        rfl
    have hkept : left.runtime.leakthroughGain = gain := by
      subst hleft hstored
      rw [runtime_attempt]
      rfl
    have hmirrored : Mirrored left := by
      intro _
      show left.runtime.leakthroughGain = left.audio.left.ffb.getD _
      rw [hwritten, hkept]
      rfl
    refine ⟨⟨tally_le hfirst.history_suffix _, tally_le hfirst.history_suffix _⟩,
      Or.inr ⟨hmirrored, Or.inr (Or.inr ⟨?_, hmode⟩)⟩⟩
    rw [htally]
    exact Nat.lt_succ_self _

/-! ### Reconfigurations -/

section Reconfiguration

variable (b : Earbud)

theorem mirrored_applyMode (hl : b.config.layout = .hybrid) {m : Mode}
    (h : (b.applyMode m).2 = .ok ()) : Mirrored (b.applyMode m).1 := by
  have hannounced : ∀ x : Earbud, x.config.layout = .hybrid →
      Mirrored x.refreshLeakthrough.announceLeakthrough := by
    intro x hx
    refine (mirrored_refreshLeakthrough hx).of_gauge ?_
    unfold announceLeakthrough
    split <;> rfl
  have hload : ((b.identifyMode m b.audio.adaptive).loadMode m).1.config.layout = .hybrid := by
    have hidentified : Work (loading fun _ => true) b (b.identifyMode m b.audio.adaptive) :=
      work_identifyMode b b.audio.adaptive rfl
    have hloaded : Work (loading fun _ => true) (b.identifyMode m b.audio.adaptive)
        ((b.identifyMode m b.audio.adaptive).loadMode m).1 := work_loadMode _ rfl rfl
    rw [hloaded.config, hidentified.config, hl]
  unfold applyMode at h ⊢
  dsimp only at h ⊢
  split at h
  · cases h
  · rename_i hrange
    rw [if_neg hrange]
    split at h <;> rename_i heq
    · cases h
    · rw [heq] at hload
      refine hannounced _ ?_
      split <;> exact hload

theorem adjusts_loadMode {m : Mode} (h : (b.loadMode m).2 = false) :
    Adjusts false b (b.loadMode m).1 := by
  unfold loadMode at h ⊢
  generalize hsettled : (if b.audio.adaptive then b else b.cancel .pathGainSettle) = settled at h ⊢
  have hstill : settled.gauge = b.gauge ∧ settled.tally swaps = b.tally swaps ∧
      settled.tally levelling = b.tally levelling := by
    rw [← hsettled]
    split <;> exact ⟨rfl, rfl, rfl⟩
  rcases attempt_cases settled (.setMode m) with he | he <;> rw [he] at h ⊢
  · exact adjusts_of_same hstill.1 hstill.2.1 hstill.2.2
  · cases h

theorem adjusts_applyMode_failed {m : Mode} (h : (b.applyMode m).2 ≠ .ok ()) :
    Adjusts false b (b.applyMode m).1 := by
  have hid : Adjusts false b (b.identifyMode m b.audio.adaptive) :=
    (work_identifyMode b b.audio.adaptive rfl).adjusts
  have habandoned : ∀ x : Earbud, Work ungauged x (x.abandonMode b.audio.adaptive) := fun x =>
    work_abandonMode x b.audio.adaptive (fun _ _ => rfl) rfl
  have hload := adjusts_loadMode (b.identifyMode m b.audio.adaptive) (m := m)
  unfold applyMode at h ⊢
  dsimp only at h ⊢
  split at h <;> rename_i hrange
  · rw [if_pos hrange]
    exact hid.work (habandoned _)
  · rw [if_neg hrange]
    split at h <;> rename_i heq
    · rw [heq] at hload
      exact (hid.trans (hload rfl)).work (habandoned _)
    · exact absurd rfl h

/-- The gain is read back from a mode that is loaded, and a mode that cannot be leaves it alone. -/
theorem adjusts_inMode (hl : b.config.layout = .hybrid) (m : Mode) :
    Adjusts false b (b.inMode m).1 := by
  unfold inMode
  split
  · exact adjusts_refl b
  · by_cases hok : (b.applyMode m).2 = .ok ()
    · have hsuffix := (work_applyMode b (fun _ => true) (m := m) rfl rfl).history_suffix
      have hswapped := swaps_applyMode b m
      rw [hok] at hswapped
      refine ⟨⟨tally_le hsuffix _, tally_le hsuffix _⟩,
        Or.inr ⟨mirrored_applyMode b hl hok, Or.inr (Or.inl ?_)⟩⟩
      rw [hswapped]
      exact Nat.lt_succ_self _
    · exact adjusts_applyMode_failed b hok

theorem ungauged_hardwareOn : Work ungauged b b.hardwareOn.1 := by
  unfold hardwareOn
  split
  · exact .single (.attempt _ rfl)
  · have h : Work ungauged b (b.attempt .hardwareOnMuted).1 := .single (.attempt _ rfl)
    split <;> rename_i heq <;> rw [heq] at h
    · exact h.tail (.arm _ _ rfl)
    · exact h

theorem ungauged_rampDown : Work ungauged b b.rampDown := by
  refine Work.foldl (fun b channel => Work.foldl (fun b step => ?_) _ b) _ b
  exact .single (.attempt _ (by cases channel <;> rfl))

theorem ungauged_hardwareOff : Work ungauged b b.hardwareOff.1 := by
  have h : Work ungauged b (b.cancel .pathGainSettle) := .single (.cancel _ rfl)
  unfold hardwareOff
  dsimp only
  split
  · exact h.tail (.attempt _ rfl)
  · exact (h.trans (ungauged_rampDown _)).tail (.attempt _ rfl)

theorem ungauged_inPower (on : Bool) : Work ungauged b (b.inPower on).1 := by
  have hturned : Work ungauged b (if on then b.hardwareOn else b.stopAdaptive.hardwareOff).1 := by
    cases on with
    | true => exact ungauged_hardwareOn b
    | false => exact (work_stopAdaptive b rfl rfl).trans (ungauged_hardwareOff _)
  have hsettled : ∀ x : Earbud, Work ungauged x x.settleAdaptive := by
    intro x
    unfold settleAdaptive
    split
    · exact .single (.arm _ _ rfl)
    · exact .refl
  unfold inPower
  split
  · exact .refl
  · unfold switchHardware
    split <;> rename_i turned heq <;> rw [heq] at hturned
    · have hset := hturned.tail (.runtime (fun r => { r with actualEnabled := on }) rfl)
      dsimp only
      split
      · exact (hset.trans (hsettled _)).tail (.announce _)
      · exact hset.tail (.announce _)
    · exact hturned

theorem ungauged_tellAdaptive (wasEnabled : Bool) (formerMode : Mode) :
    Work ungauged b (b.tellAdaptive wasEnabled formerMode) := by
  unfold tellAdaptive announceAdaptiveChange
  dsimp only
  split
  · split
    · split
      · exact (Relation.ReflTransGen.single (.announce _)).tail (.arm _ _ rfl)
      · exact (Relation.ReflTransGen.single (.announce _)).tail (.cancel _ rfl)
    · exact .refl
  · exact .refl

theorem adjusts_reconfigure (hl : b.config.layout = .hybrid) (on : Bool) (m : Mode) :
    Adjusts false b (b.reconfigure on m).1 := by
  have hboosted : Adjusts false b (b.boost true) :=
    (work_boost b true (fun _ => rfl) rfl).adjusts
  have hmoded := hboosted.trans (adjusts_inMode (b.boost true) hl m)
  rw [reconfigure_stages]
  refine Adjusts.work ?_ (work_boost _ false (fun _ => rfl) rfl)
  exact (hmoded.work (ungauged_inPower _ on)).work (ungauged_tellAdaptive _ _ _)

end Reconfiguration

/-! ### Events -/

theorem Strokes.adjusts (s : Strokes a reads b) (h : Tracking b) : Adjusts reads a b := by
  induction s with
  | start => exact adjusts_refl a
  | touch _ t ih =>
    exact (ih (h.before (Work.anything (.single t)))).work (.single (t.mono still_within_ungauged))
  | @settle _ b _ ih =>
    have w : Work ungauged b (b.cancel .pathGainSettle) := .single (.cancel _ rfl)
    exact (ih (h.before w.anything)).work w
  | write _ gain ih =>
    have hend := (ih (h.before (levels_setLeakthrough _ gain).anything)).trans
      (adjusts_setLeakthrough gain h)
    rwa [Bool.or_false] at hend
  | @read reads b _ ih =>
    have hbefore := h.before (levels_refreshLeakthrough b).anything
    have hend := (ih hbefore).trans (adjusts_refreshLeakthrough hbefore.layout)
    rwa [Bool.or_true] at hend
  | @reconfigure reads b _ on m ih =>
    have hbefore := h.before (work_reconfigure b on m).anything
    have hend := (ih hbefore).trans (adjusts_reconfigure b hbefore.layout on m)
    rwa [Bool.or_false] at hend

/-- Only initialisation and the gains of fixed filters come to the gauge otherwise. -/
theorem Account.adjusts {e : Event} (account : Account b e c) (h : Tracking c)
    (hstart : e = .initialise → b.runtime.state ≠ .uninitialised)
    (hsettle : e ≠ .timerExpired .pathGainSettle) : Adjusts (b.asksToWait e) b c := by
  cases account with
  | strokes s => exact s.adjusts h
  | start hs => exact absurd hs (hstart rfl)
  | powerOff hs =>
    have hend := strokes_powerOffEnabled b
    have hconfig : b.leaveHardware.config = b.leave.config := (work_reconfigure b.leave _ _).config
    have hlayout : b.leave.config.layout = .hybrid :=
      (congrArg Config.layout hconfig).symm.trans (h.before hend.anything).layout
    have hleft := ((still_leave b).mono still_within_ungauged).adjusts
    have hreconfigured : Adjusts false b b.leaveHardware :=
      hleft.trans (adjusts_reconfigure b.leave hlayout _ _)
    exact (hreconfigured.work (.single (.runtime _ rfl))).trans (hend.adjusts h)
  | applyGains => exact absurd rfl hsettle
  | poll => exact ((polling_pollGain b).mono polling_within_ungauged).adjusts
  | peerPlaced p => exact ((polling_peerPlaced b p).mono polling_within_ungauged).adjusts

theorem adjusts_dispatch {e : Event} (h : Tracking (b.dispatch e).1)
    (hstart : e = .initialise → b.runtime.state ≠ .uninitialised)
    (hsettle : e ≠ .timerExpired .pathGainSettle) : Adjusts (b.asksToWait e) b (b.dispatch e).1 := by
  have hend := still_finishFollowUps (b.handle e).1
  exact ((account_handle b e).adjusts (h.before hend.anything) hstart hsettle).work
    (hend.mono still_within_ungauged)

/-- Before initialisation no mode is asked for or loaded, and the one that is current has no gain. -/
theorem gauge_uninitialised {e : Event} (h : Tracking (b.dispatch e).1)
    (hs : b.runtime.state = .uninitialised) (hoff : b.runtime.actualEnabled = false)
    (hmode : b.runtime.currentMode.isAdaptive = true) (hstart : e ≠ .initialise)
    (hsettle : e ≠ .timerExpired .pathGainSettle) :
    (b.dispatch e).1.gauge = b.gauge ∧ (b.dispatch e).1.tally swaps = b.tally swaps ∧
      (b.dispatch e).1.tally levelling = b.tally levelling ∧ b.asksToWait e = false := by
  have hdisabled : b.runtime.state ≠ .disabled := by simp [hs]
  have henabled : b.runtime.state ≠ .enabled := by simp [hs]
  have hasks : b.asksToWait e = false := by
    by_cases hpeer : ∃ report, e = .peerState report
    · obtain ⟨report, rfl⟩ := hpeer
      unfold asksToWait modeAsked?
      dsimp only
      rw [followSwitch_refused hdisabled henabled]
      split <;> rename_i heq
      · split at heq <;> cases heq
        exact waits_of_ne hdisabled _
      · rfl
    · exact asksToWait_of_ne hdisabled fun report he => hpeer ⟨report, he⟩
  have hswaps : (b.dispatch e).1.tally swaps = b.tally swaps := by
    have hhandled : (b.handle e).1.tally swaps = b.tally swaps := by
      by_cases hpoll : e = .timerExpired .gainPoll
      · subst hpoll
        exact (polling_pollGain b).tally fun c done hc => by cases c <;> first | rfl | cases hc
      · exact (aloof_handle (by rw [hs]; rfl) hoff (fun he => absurd he hstart)
          (fun _ => by simp [hs]) hpoll).tally fun c done hc => by cases c <;> first | rfl | cases hc
    refine Eq.trans ?_ hhandled
    exact (still_finishFollowUps _).tally fun c done hc => by cases c <;> first | rfl | cases hc
  have hadjusts := adjusts_dispatch h (fun he => absurd he hstart) hsettle
  rw [hasks] at hadjusts
  rcases hadjusts.2 with ⟨-, hgauge, -, hlevels⟩ | ⟨-, hread | hlt | ⟨-, hother⟩⟩
  · exact ⟨hgauge, hswaps, hlevels, hasks⟩
  · cases hread
  · exact absurd hswaps (Nat.ne_of_gt hlt)
  · exact nomatch hmode.symm.trans hother

/-- Initialisation gives the earbud a mode but no gain. -/
theorem gauge_start (b : Earbud) :
    b.start.1.runtime.leakthroughGain = b.runtime.leakthroughGain ∧
      b.start.1.audio.left.ffb = b.audio.left.ffb ∧
        (b.start.1.runtime.state = .uninitialised →
          b.start.1.runtime.currentMode = b.runtime.currentMode) := by
  rcases start_fst b with ⟨he, -⟩ | ⟨microphones, mode, hprobed⟩
  · rw [he]
    exact ⟨rfl, rfl, fun _ => rfl⟩
  · generalize hp : (b.loadSession.1.attempt (.start microphones mode)).1 = probed at hprobed
    have hruntime : probed.runtime = b.runtime := by rw [← hp, runtime_attempt]; rfl
    have haudio : probed.audio.left.ffb = b.audio.left.ffb := by
      rw [← hp]
      rcases audio_attempt b.loadSession.1 (.start microphones mode) with he | he <;> rw [he] <;> rfl
    rcases hprobed with ⟨he, -⟩ | ⟨enabled, he, -⟩
    · rw [he]
      exact ⟨by rw [hruntime], haudio, fun _ => by rw [hruntime]⟩
    · obtain ⟨set, he, hgain, hsame⟩ : ∃ set : Earbud, b.start.1 = set.enter .powerOff ∧
          set.runtime.leakthroughGain = probed.runtime.leakthroughGain ∧
            set.audio = probed.audio := ⟨_, he, rfl, rfl⟩
      have hend := parts_enter set .powerOff
      rw [he]
      refine ⟨?_, ?_, fun hs => ?_⟩
      · rw [runtime_enter, ← hruntime]
        exact hgain
      · rw [hend.audio (·.left.ffb) (fun _ c hc => nomatch hc), hsame, haudio]
      · rw [runtime_enter] at hs
        cases hs

/-! ### Runs -/

/-- The earbud comes to know the leakthrough gain that the hardware has: it loads a mode, writes a gain,
or takes a mode that is to wait. -/
def Learns (b : Earbud) (m : Move) : Prop :=
  b.tally swaps < (b.perform m).tally swaps ∨ b.tally levelling < (b.perform m).tally levelling ∨
    ∃ x e, b.dispatched? m = some (x, e) ∧ x.asksToWait e = true

/-- No gain was written, and none is tracked. -/
def Untracked (b : Earbud) : Prop :=
  b.runtime.leakthroughGain = 0 ∧ b.audio.left.ffb = none

theorem Untracked.of_gauge (h : Untracked a) (hg : b.gauge = a.gauge) : Untracked b := by
  simp only [gauge, Prod.mk.injEq] at hg
  exact ⟨hg.2.1.trans h.1, hg.2.2.2.trans h.2⟩

theorem Untracked.ne_readGain (h : Untracked b) :
    b.runtime.leakthroughGain ≠ b.audio.readGain .left .ffb := by
  have hread : b.audio.readGain .left .ffb = AudioChain.modeGain b.audio.mode := by
    show b.audio.left.ffb.getD _ = _
    rw [h.2]
    rfl
  rw [h.1, hread]
  exact (AudioChain.modeGain_ne_zero _).symm

/-- The gain of the hardware is known once it was learned.  Before that none is tracked, and before
initialisation the current mode has none. -/
def Known (learned : Prop) (b : Earbud) : Prop :=
  (learned ∧ Mirrored b ∧ b.runtime.state ≠ .uninitialised) ∨
    (¬learned ∧ Untracked b ∧
      (b.runtime.state = .uninitialised → b.runtime.currentMode.isAdaptive = true))

theorem Known.dispatch {learned : Prop} {e : Event} (h : Known learned b)
    (hoff : b.runtime.state = .uninitialised → b.runtime.actualEnabled = false)
    (htracking : Tracking (b.dispatch e).1) (hsettle : e ≠ .timerExpired .pathGainSettle) :
    Known
      (learned ∨ b.tally swaps < (b.dispatch e).1.tally swaps ∨
        b.tally levelling < (b.dispatch e).1.tally levelling ∨ b.asksToWait e = true)
      (b.dispatch e).1 := by
  by_cases hs : b.runtime.state = .uninitialised
  · obtain ⟨hnot, huntracked, hmode⟩ : ¬learned ∧ Untracked b ∧
        (b.runtime.state = .uninitialised → b.runtime.currentMode.isAdaptive = true) := by
      rcases h with ⟨-, -, hne⟩ | h
      · exact absurd hs hne
      · exact h
    by_cases he : e = .initialise
    · subst he
      have hend := (still_finishFollowUps b.start.1).mono still_within_ungauged
      obtain ⟨hgain, hwritten, hcurrent⟩ := gauge_start b
      have hswaps : b.start.1.tally swaps = b.tally swaps := tally_start b fun _ _ _ => rfl
      have hlevels : b.start.1.tally levelling = b.tally levelling := tally_start b fun _ _ _ => rfl
      have hafter : (b.dispatch .initialise).1 = b.start.1.finishFollowUps :=
        congrArg finishFollowUps (handle_initialise b hs)
      rw [hafter]
      have hstarted : Untracked b.start.1 := ⟨hgain.trans huntracked.1, hwritten.trans huntracked.2⟩
      refine Or.inr ⟨?_, hstarted.of_gauge hend.gauge, fun hs' => ?_⟩
      · simp [hnot, hend.tallies, hswaps, hlevels, asksToWait, modeAsked?]
      · rw [runtime_finishFollowUps] at hs' ⊢
        rw [hcurrent hs', hmode hs]
    · obtain ⟨hgauge, hswaps, hlevels, hasks⟩ := gauge_uninitialised htracking hs
        (hoff hs) (hmode hs) he hsettle
      have hcurrent : (b.dispatch e).1.runtime.currentMode = b.runtime.currentMode :=
        congrArg Prod.fst hgauge
      refine Or.inr ⟨?_, huntracked.of_gauge hgauge, fun _ => by rw [hcurrent, hmode hs]⟩
      simp [hnot, hswaps, hlevels, hasks]
  · have hinitialised := initialised_dispatch hs e
    rcases (adjusts_dispatch htracking (fun _ => hs) hsettle).2 with
      ⟨hasks, hgauge, hswaps, hlevels⟩ | ⟨hmirrored, hreason⟩
    · have hlearned : (learned ∨ b.tally swaps < (b.dispatch e).1.tally swaps ∨
          b.tally levelling < (b.dispatch e).1.tally levelling ∨ b.asksToWait e = true) ↔ learned := by
        simp [hasks, hswaps, hlevels]
      rw [Known, hlearned]
      rcases h with ⟨hyes, hmirrored, -⟩ | ⟨hnot, huntracked, -⟩
      · exact Or.inl ⟨hyes, hmirrored.of_gauge hgauge, hinitialised⟩
      · exact Or.inr ⟨hnot, huntracked.of_gauge hgauge, fun hs' => absurd hs' hinitialised⟩
    · refine Or.inl ⟨Or.inr ?_, hmirrored, hinitialised⟩
      rcases hreason with hasks | hlt | ⟨hlt, -⟩
      · exact Or.inr (Or.inr hasks)
      · exact Or.inl hlt
      · exact Or.inr (Or.inl hlt)

theorem Known.perform {learned : Prop} (h : Known learned b) (hsound : Sound b)
    (hidle : b.timers.isArmed .pathGainSettle = false) (m : Move) (htracking : Tracking (b.perform m)) :
    Known (learned ∨ Learns b m) (b.perform m) := by
  have hafter := perform_eq b m
  unfold Learns
  cases hd : b.dispatched? m with
  | none =>
    rw [hd] at hafter
    have hstill : (b.perform m).runtime = b.runtime ∧ (b.perform m).gauge = b.gauge ∧
        (b.perform m).tally swaps = b.tally swaps ∧
          (b.perform m).tally levelling = b.tally levelling := by
      rw [hafter]
      cases m <;> exact ⟨rfl, rfl, rfl, rfl⟩
    obtain ⟨hruntime, hgauge, hswaps, hlevels⟩ := hstill
    have hnothing : (learned ∨ b.tally swaps < (b.perform m).tally swaps ∨
        b.tally levelling < (b.perform m).tally levelling ∨
          ∃ x e, (none : Option (Earbud × Event)) = some (x, e) ∧ x.asksToWait e = true) ↔ learned := by
      simp [hswaps, hlevels]
    rw [hnothing, Known, hruntime]
    exact h.imp (fun h => ⟨h.1, h.2.1.of_gauge hgauge, h.2.2⟩)
      fun h => ⟨h.1, h.2.1.of_gauge hgauge, h.2.2⟩
  | some p =>
    obtain ⟨x, e⟩ := p
    rw [hd] at hafter
    dsimp only at hafter
    rw [hafter] at htracking ⊢
    have hasks : (∃ x' e', some (x, e) = some (x', e') ∧ x'.asksToWait e' = true) ↔
        x.asksToWait e = true := by
      constructor
      · rintro ⟨x', e', heq, hasks⟩
        cases heq
        exact hasks
      · exact fun hasks => ⟨x, e, rfl, hasks⟩
    rw [hasks]
    have hoff : b.runtime.state = .uninitialised → b.runtime.actualEnabled = false := fun hs =>
      hsound.off (by simp [hs])
    rcases dispatched?_eq_some hsound.order hd with ⟨he, rfl, rfl⟩ | ⟨k, rfl, rfl, harmed, rfl⟩
    · refine h.dispatch hoff htracking ?_
      rintro rfl
      cases he
    · refine Known.dispatch (b := b.cancel k) h hoff htracking ?_
      intro hk
      cases hk
      exact nomatch hidle.symm.trans harmed

section Run

variable (c : Config) (clockOrigin : Option WallClock) (store : SessionStore)

theorem known_run (hc : c.adaptive = true) (hl : c.layout = .hybrid) (moves : List Move)
    (htaken : ∀ activity ∈ ((Earbud.new c clockOrigin store).run moves).history,
      activity.refusesGain = false) :
    Known
      (∃ earlier m later, moves = earlier ++ m :: later ∧
        Learns ((Earbud.new c clockOrigin store).run earlier) m)
      ((Earbud.new c clockOrigin store).run moves) := by
  induction moves using List.reverseRecOn with
  | nil => exact Or.inr ⟨by simp, ⟨rfl, rfl⟩, fun _ => rfl⟩
  | append_singleton moves m ih =>
    have hlearned : Since perform (fun _ => 0) Learns (Earbud.new c clockOrigin store) (moves ++ [m]) ↔ _ :=
      since_snoc (fun _ _ => Nat.le_refl 0) (Earbud.new c clockOrigin store) moves m
    simp only [Since, and_true, true_and] at hlearned
    have hconfig := config_run (Earbud.new c clockOrigin store) (moves ++ [m])
    have htracking : Tracking ((Earbud.new c clockOrigin store).run (moves ++ [m])) :=
      ⟨hconfig ▸ hc, hconfig ▸ hl, htaken⟩
    rw [run_snoc] at htaken htracking ⊢
    have hbefore := ih fun activity hmem => htaken activity ((history_perform _ m).subset hmem)
    have hafter := hbefore.perform (sound_run c clockOrigin store moves).1
      (unsettled_run c hc clockOrigin store moves) m htracking
    exact (congrArg (Known · _) (propext hlearned)).mpr hafter

/-- With hybrid adaptive filters, all of whose gains could be written, the leakthrough gain that is
tracked in a mode that has one is that of the hardware exactly if it was ever learned. -/
theorem leakthrough_mirrored_iff (hc : c.adaptive = true) (hl : c.layout = .hybrid)
    (moves : List Move)
    (htaken : ∀ activity ∈ ((Earbud.new c clockOrigin store).run moves).history,
      activity.refusesGain = false)
    (hmode : ((Earbud.new c clockOrigin store).run moves).runtime.currentMode.isAdaptive = false) :
    let new := Earbud.new c clockOrigin store
    (new.run moves).runtime.leakthroughGain = (new.run moves).audio.readGain .left .ffb ↔
      ∃ earlier m later, moves = earlier ++ m :: later ∧ (new.run earlier).Learns m := by
  intro new
  rcases known_run c clockOrigin store hc hl moves htaken with
    ⟨hlearned, hmirrored, -⟩ | ⟨hnot, huntracked, -⟩
  · exact iff_of_true (hmirrored hmode) hlearned
  · exact iff_of_false huntracked.ne_readGain hnot

/-- The mode that was saved is left for another, whose gain is read back. -/
theorem leakthrough_mirrored_iff_loaded :
    let b := (Earbud.new (.standard "") none { data := some { enabled := true, mode := ⟨2⟩ } }).run
      [.event .initialise, .event .powerOn, .event (.setMode ⟨3⟩)]
    b.runtime.state = .enabled ∧ b.runtime.currentMode.isAdaptive = false ∧
      b.runtime.leakthroughGain = b.audio.readGain .left .ffb := by
  have hmode : ((Earbud.new (.standard "") none { data := some { enabled := true, mode := ⟨2⟩ } }).run
      [.event .initialise, .event .powerOn, .event (.setMode ⟨3⟩)]).runtime.currentMode.isAdaptive =
        false := by decide
  have hlearned : ((Earbud.new (.standard "") none
      { data := some { enabled := true, mode := ⟨2⟩ } }).run [.event .initialise, .event .powerOn]).Learns
        (.event (.setMode ⟨3⟩)) := Or.inl (by decide)
  exact ⟨by decide, hmode, (leakthrough_mirrored_iff (.standard "") none
    { data := some { enabled := true, mode := ⟨2⟩ } } rfl rfl _ (by decide) hmode).mpr
      ⟨[.event .initialise, .event .powerOn], .event (.setMode ⟨3⟩), [], rfl, hlearned⟩⟩

end Run

/-- Noise control comes on in the mode that was saved, and nothing has the gain read back. -/
theorem leakthrough_unknown : ¬∀ (c : Config) (clockOrigin : Option WallClock) (store : SessionStore)
    (moves : List Move), c.adaptive = true → c.layout = .hybrid →
      (∀ activity ∈ ((Earbud.new c clockOrigin store).run moves).history,
        activity.refusesGain = false) →
      ((Earbud.new c clockOrigin store).run moves).runtime.state = .enabled →
      ((Earbud.new c clockOrigin store).run moves).runtime.currentMode.isAdaptive = false →
      ((Earbud.new c clockOrigin store).run moves).runtime.leakthroughGain =
        ((Earbud.new c clockOrigin store).run moves).audio.readGain .left .ffb := by
  intro h
  have hrestored := h (.standard "") none { data := some { enabled := true, mode := ⟨2⟩ } }
    [.event .initialise, .event .powerOn] rfl rfl (by decide) (by decide) (by decide)
  exact absurd hrestored (by decide)

end Earbud

end NoiseControl
