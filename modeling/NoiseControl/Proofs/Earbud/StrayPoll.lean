import NoiseControl.Proofs.Earbud.Driving
import NoiseControl.Proofs.Earbud.GainPoll
import NoiseControl.Proofs.Earbud.Stroke
import NoiseControl.Proofs.Trace

/-!
# The gain poll that nothing stops

With adaptive filters the gain poll goes on while adaptive noise control runs.  It stops when the
hardware is confirmed to go off or another mode is loaded, so it goes on, too, when the hardware refuses
to go off with the power and is taken to be off all the same.  With fixed filters no reconfiguration
starts or stops it.  There the peer starts it by entering its case, and it goes on until it expires
outside the adaptive mode.
-/

namespace NoiseControl.Earbud

variable {x : Extent} {a b c : Earbud} {reads : Bool}

theorem polls_peerPlaced (b : Earbud) (p : Placement) :
    (b.peerPlaced p).polls =
      (b.polls || (p == .inCase && !b.runtime.peerInCase && b.runtime.runs)) := by
  generalize hset : (b.setRuntime fun r => { r with peerInCase := p == .inCase }) = set
  have hpolls : set.polls = b.polls := by rw [← hset]; rfl
  have hruns : set.runtime.runs = b.runtime.runs := by rw [← hset]; rfl
  have hdropped : Work aloof set set.resetQuietMode :=
    work_adopt set _ rfl (fun _ => rfl) rfl rfl
  have hgoing : set.resetQuietMode.runtime.runs = b.runtime.runs :=
    ((hdropped.mono aloof_within_unpolled).runs).trans hruns
  unfold peerPlaced
  dsimp only
  rw [hset, show set.runtime.peerInCase = (p == .inCase) by rw [← hset]; rfl]
  split <;> rename_i henters
  · change (if set.resetQuietMode.runtime.runs = true then _ else _ : Earbud).polls = _
    rw [henters, hgoing, Bool.true_and]
    split <;> rename_i hr
    · rw [hr, Bool.or_true]
      exact isArmed_arm _ _ _
    · rw [Bool.eq_false_iff.mpr hr, Bool.or_false, ← hpolls]
      exact hdropped.polls rfl
  · rw [Bool.eq_false_iff.mpr henters, Bool.false_and, Bool.or_false, hpolls]

/-! ### Adaptive filters -/

/-- The poll goes on though noise control is taken to be off. -/
def strays (b : Earbud) : Bool := !b.runtime.actualEnabled && b.polls

/-- How often the hardware was switched or a mode was loaded. -/
def shifts (b : Earbud) : Nat := b.tally drives + b.tally swaps

/-- The poll does not stray where the hardware was switched or a mode loaded, and strays as it did
elsewhere. -/
def Guided (a b : Earbud) : Prop :=
  (b.shifts = a.shifts ∧ b.strays = a.strays) ∨ (a.shifts < b.shifts ∧ b.strays = false)

theorem guided_refl (b : Earbud) : Guided b b := Or.inl ⟨rfl, rfl⟩

theorem Guided.trans (h : Guided a b) (h' : Guided b c) : Guided a c := by
  rcases h with ⟨hn, hs⟩ | ⟨hn, hs⟩ <;> rcases h' with ⟨hn', hs'⟩ | ⟨hn', hs'⟩
  · exact Or.inl ⟨hn'.trans hn, hs'.trans hs⟩
  · exact Or.inr ⟨by omega, hs'⟩
  · exact Or.inr ⟨by omega, hs'.trans hs⟩
  · exact Or.inr ⟨by omega, hs'⟩

theorem strays_eq (hon : b.runtime.actualEnabled = a.runtime.actualEnabled) (hp : b.polls = a.polls) :
    b.strays = a.strays := by
  rw [strays, hon, hp, strays]

theorem shifts_eq (hdrives : b.tally drives = a.tally drives) (hswaps : b.tally swaps = a.tally swaps) :
    b.shifts = a.shifts := by
  rw [shifts, hdrives, hswaps, shifts]

/-- What neither bears on the poll nor switches the hardware nor loads a mode. -/
def unshifted : Extent where
  keeps := unpolled.keeps
  timer := unpolled.timer
  audio
    | .start .. | .hardwareOn | .hardwareOnMuted | .hardwareOff | .setMode _ => false
    | _ => true
  talks := true

theorem unshifted_within_unpolled : unshifted.Within unpolled where
  keeps _ _ h := h
  timer _ h := h
  audio _ _ := rfl
  talks h := h
  tells _ h := h
  saves h := h

theorem still_within_unshifted : still.Within unshifted where
  keeps _ _ h := (congrArg unshifted.keeps h :)
  timer k h := by cases k <;> first | rfl | cases h
  audio c h := by cases c <;> first | rfl | cases h
  talks h := h
  tells _ _ := rfl
  saves h := h

theorem levels_within_unshifted : levels.Within unshifted where
  keeps _ _ h := (congrArg unshifted.keeps h :)
  timer _ h := by cases h
  audio c h := by cases c <;> first | rfl | cases h
  talks h := by cases h
  tells _ _ := rfl
  saves h := by cases h

theorem parting_within_unshifted : parting.Within unshifted where
  keeps _ _ h := (congrArg unshifted.keeps h :)
  timer k h := by cases k <;> first | rfl | cases h
  audio _ h := by cases h
  talks h := by cases h
  tells _ _ := rfl
  saves h := h

theorem Work.shifts (w : Work unshifted a b) :
    b.tally drives = a.tally drives ∧ b.tally swaps = a.tally swaps := by
  refine ⟨w.tally fun c done hc => ?_, w.tally fun c done hc => ?_⟩ <;>
    cases c <;> first | rfl | cases hc

theorem guided_unshifted (w : Work unshifted a b) : Guided a b :=
  Or.inl ⟨shifts_eq w.shifts.1 w.shifts.2, strays_eq (congrArg Runtime.actualEnabled w.keeps :)
    (w.polls rfl)⟩

section Reconfiguration

variable (b : Earbud) (on : Bool) (m : Mode)

theorem polls_reconfigure_same
    (hon : (b.reconfigure on m).1.runtime.actualEnabled = b.runtime.actualEnabled)
    (hmode : (b.reconfigure on m).1.runtime.currentMode = b.runtime.currentMode) :
    (b.reconfigure on m).1.polls = b.polls := by
  obtain ⟨hpolls, -⟩ := polls_inPower b on m
  have hruntime := (reconfigure_eq b on m).1
  dsimp only at hpolls hruntime
  rw [hruntime] at hon hmode
  rw [reconfigure_stages, ← hpolls]
  generalize (((b.boost true).inMode m).1.inPower on).1 = switched at hon hmode ⊢
  change switched.runtime.actualEnabled = b.runtime.actualEnabled at hon
  change switched.runtime.currentMode = b.runtime.currentMode at hmode
  have htold : switched.tellAdaptive b.runtime.actualEnabled b.runtime.currentMode = switched := by
    rw [← hon, ← hmode]
    simp [tellAdaptive, announceAdaptiveChange]
  rw [htold]
  rfl

theorem reconfigure_shifts :
    let after := (b.reconfigure on m).1
    (after.shifts = b.shifts ∧ after.runtime.actualEnabled = b.runtime.actualEnabled ∧
        after.runtime.currentMode = b.runtime.currentMode) ∨
      (b.shifts < after.shifts ∧ (after.runtime.actualEnabled ≠ b.runtime.actualEnabled ∨
        after.runtime.currentMode ≠ b.runtime.currentMode)) := by
  have hdrives := reconfigure_drives b on m
  have hswaps := reconfigure_swaps b on m
  have hle := tally_le (work_reconfigure b on m).history_suffix swaps
  dsimp only at hdrives hswaps ⊢
  generalize (b.reconfigure on m).1 = after at hdrives hswaps hle ⊢
  unfold shifts
  rcases hdrives with ⟨hd, hon⟩ | ⟨hd, hon, hwas⟩
  · rcases hswaps with ⟨hs, hmode⟩ | ⟨hs, hmode, hwas⟩
    · exact Or.inl ⟨by rw [hd, hs], hon, hmode⟩
    · exact Or.inr ⟨by omega, Or.inr (hmode ▸ hwas.symm)⟩
  · exact Or.inr ⟨by omega, Or.inl (hon ▸ Ne.symm hwas)⟩

variable {b}

/-- A reconfiguration that changes anything and ends with the hardware off stops the poll. -/
theorem Polled.idle_reconfigure (h : Polled b)
    (hoff : (b.reconfigure on m).1.runtime.actualEnabled = false)
    (hmoved : (b.reconfigure on m).1.runtime.actualEnabled ≠ b.runtime.actualEnabled ∨
      (b.reconfigure on m).1.runtime.currentMode ≠ b.runtime.currentMode) :
    (b.reconfigure on m).1.polls = false := by
  have hidle : (b.reconfigure on m).1.runtime.runs = false := by
    rw [Runtime.runs, hoff, Bool.false_and]
  rcases polls_reconfigure b on m h.config with hpolls | ⟨hpolls, hadaptive, hruns⟩
  · exact hpolls.trans hidle
  · rw [hpolls]
    by_contra hpolling
    rw [Bool.not_eq_false] at hpolling
    -- The adaptive mode was current and still is, and the hardware was off.
    have hmode := h.mode hpolling
    have hwas : b.runtime.actualEnabled = false := by
      rw [hidle, Runtime.runs, hmode, Bool.and_true] at hruns
      exact hruns
    rcases hmoved with hne | hne
    · exact hne (hoff.trans hwas.symm)
    · have hstill := hadaptive.symm.trans hmode
      exact hne ((beq_iff_eq.mp hstill).trans (beq_iff_eq.mp hmode).symm)

theorem Polled.guided_reconfigure (h : Polled b) : Guided b (b.reconfigure on m).1 := by
  rcases reconfigure_shifts b on m with ⟨hn, hon, hmode⟩ | ⟨hn, hmoved⟩
  · exact Or.inl ⟨hn, strays_eq hon (polls_reconfigure_same b on m hon hmode)⟩
  · refine Or.inr ⟨hn, ?_⟩
    rw [strays]
    cases hoff : (b.reconfigure on m).1.runtime.actualEnabled with
    | true => rfl
    | false => exact h.idle_reconfigure on m hoff hmoved

end Reconfiguration

theorem Strokes.polled (s : Strokes a reads b) (h : Polled a) : Polled b := by
  induction s with
  | start => exact h
  | touch _ t ih =>
    exact ih.work ((Work.mono (.single t) still_within_unshifted).mono unshifted_within_unpolled)
  | settle _ ih => exact ih.work (.single (.cancel _ rfl))
  | write _ gain ih => exact ih.work ((levels_setLeakthrough _ gain).mono levels_within_unpolled)
  | read _ ih => exact ih.work ((levels_refreshLeakthrough _).mono levels_within_unpolled)
  | reconfigure _ on m ih => exact ih.reconfigure on m

theorem Strokes.guided (s : Strokes a reads b) (h : Polled a) : Guided a b := by
  induction s with
  | start => exact guided_refl a
  | touch _ t ih => exact ih.trans (guided_unshifted (Work.mono (.single t) still_within_unshifted))
  | settle _ ih => exact ih.trans (guided_unshifted (.single (.cancel _ rfl)))
  | write _ gain ih =>
    exact ih.trans (guided_unshifted ((levels_setLeakthrough _ gain).mono levels_within_unshifted))
  | read _ ih =>
    exact ih.trans (guided_unshifted ((levels_refreshLeakthrough _).mono levels_within_unshifted))
  | reconfigure s on m ih => exact ih.trans ((s.polled h).guided_reconfigure on m)

theorem guided_start (hoff : b.runtime.actualEnabled = false) : Guided b b.start.1 := by
  have hstill := actualEnabled_start hoff
  exact Or.inl ⟨shifts_eq (tally_start b fun _ _ _ => rfl) (tally_start b fun _ _ _ => rfl),
    strays_eq (hstill.trans hoff.symm) (polls_start b)⟩

theorem shifts_polling (w : Work polling a b) : b.shifts = a.shifts :=
  shifts_eq (w.tally fun c done hc => by cases c <;> first | rfl | cases hc)
    (w.tally fun c done hc => by cases c <;> first | rfl | cases hc)

theorem guided_peerPlaced (b : Earbud) (p : Placement) : Guided b (b.peerPlaced p) := by
  have w := polling_peerPlaced b p
  have hon : (b.peerPlaced p).runtime.actualEnabled = b.runtime.actualEnabled :=
    (congrArg Runtime.actualEnabled w.keeps :)
  refine Or.inl ⟨shifts_polling w, ?_⟩
  rw [strays, hon, polls_peerPlaced, strays, Runtime.runs]
  cases b.runtime.actualEnabled <;> simp

/-- The poll expires. -/
theorem Polled.guided_renewed (h : Polled b) (hpolls : b.polls = true) :
    Guided b (b.cancel .gainPoll).pollGain := by
  have w := polling_pollGain (b.cancel .gainPoll)
  have hon : (b.cancel .gainPoll).pollGain.runtime.actualEnabled = b.runtime.actualEnabled :=
    (congrArg Runtime.actualEnabled w.keeps :)
  refine Or.inl ⟨(shifts_polling w :), strays_eq hon ?_⟩
  rw [polls_pollGain, hpolls]
  exact Bool.or_eq_true_iff.mpr (Or.inl (h.mode hpolls))

theorem Account.guided {e : Event} (account : Account b e c) (h : Polled b)
    (hoff : b.runtime.state = .uninitialised → b.runtime.actualEnabled = false)
    (he : e = .powerOff → b.runtime.state ≠ .enabled) (hpoll : e ≠ .timerExpired .gainPoll) :
    Guided b c := by
  cases account with
  | strokes s => exact s.guided h
  | start hs => exact guided_start (hoff hs)
  | powerOff hs => exact absurd hs (he rfl)
  | applyGains => exact guided_unshifted (.single (.command _ rfl))
  | poll => exact absurd rfl hpoll
  | peerPlaced p => exact guided_peerPlaced b p

/-- The power goes off with noise control on.  The poll goes on just when the hardware was not switched
and the adaptive mode is current. -/
theorem strays_powerOff (h : Polled b) (hs : b.runtime.state = .enabled)
    (hon : b.runtime.actualEnabled = true) :
    let after := (b.dispatch .powerOff).1
    after.strays = true ↔
      after.tally drives = b.tally drives ∧ after.runtime.currentMode.isAdaptive = true := by
  intro after
  generalize hleft : (b.leaveHardware.setRuntime fun r => { r with actualEnabled := false }) = left
  have hafter : Work unshifted left after := by
    have hhandle : (b.handle .powerOff).1 = b.powerOffEnabled.1 :=
      congrArg Prod.fst (handleInState_enabled b hs .powerOff)
    have hentered : Work unshifted left b.powerOffEnabled.1 := by
      rw [← hleft]
      exact ((parts_enter _ .powerOff).mono parting_within_unshifted).tail (.runtime _ rfl)
    have hfollowed : after = b.powerOffEnabled.1.finishFollowUps := congrArg finishFollowUps hhandle
    rw [hfollowed]
    exact hentered.trans ((still_finishFollowUps _).mono still_within_unshifted)
  have hleave : Work unshifted b b.leave := (still_leave b).mono still_within_unshifted
  have hpolled : Polled b.leave := h.work (hleave.mono unshifted_within_unpolled)
  have hleaving : b.leave.runtime.actualEnabled = true :=
    (congrArg Runtime.actualEnabled hleave.keeps :).trans hon
  have hoff : after.runtime.actualEnabled = false := by
    rw [show after.runtime.actualEnabled = left.runtime.actualEnabled from
      (congrArg Runtime.actualEnabled hafter.keeps :), ← hleft]
    rfl
  have hmode : after.runtime.currentMode = b.leaveHardware.runtime.currentMode := by
    rw [show after.runtime.currentMode = left.runtime.currentMode from
      (congrArg Runtime.currentMode hafter.keeps :), ← hleft]
    rfl
  have hpolls : after.polls = b.leaveHardware.polls := by
    rw [hafter.polls rfl, ← hleft]
    rfl
  have hdrives : after.tally drives = b.leaveHardware.tally drives := by
    rw [hafter.shifts.1, ← hleft]
    rfl
  rw [strays, hoff, Bool.not_false, Bool.true_and, hpolls, hdrives, hmode, ← hleave.shifts.1]
  have hgoes : b.leaveHardware.polls = b.leaveHardware.runtime.runs :=
    hpolled.polls_reconfigure_on hleaving false b.runtime.requestedMode
  have hdriven := reconfigure_drives b.leave false b.runtime.requestedMode
  change (b.leaveHardware.tally drives = _ ∧ b.leaveHardware.runtime.actualEnabled = _) ∨
    (b.leaveHardware.tally drives = _ ∧ b.leaveHardware.runtime.actualEnabled = _ ∧ _) at hdriven
  rw [hgoes, Runtime.runs]
  rcases hdriven with ⟨hsame, hkept⟩ | ⟨hmore, hdown, -⟩
  · simp [hsame, hkept, hleaving]
  · simp [hmore, hdown]

/-- The hardware is not switched as the power goes off with noise control on, and the adaptive mode is
current then. -/
def LeftPolling (b : Earbud) (m : Move) : Prop :=
  PowersOff b m ∧ (b.perform m).tally drives = b.tally drives ∧
    (b.perform m).runtime.currentMode.isAdaptive = true

def Shifted (b : Earbud) (m : Move) : Prop := b.shifts < (b.perform m).shifts

theorem guided_perform (hsound : Sound b) (h : Polled b) {m : Move} (hm : ¬PowersOff b m) :
    Guided b (b.perform m) := by
  have hafter := perform_eq b m
  cases hd : b.dispatched? m with
  | none =>
    rw [hd] at hafter
    rw [hafter]
    cases m <;> exact Or.inl ⟨rfl, rfl⟩
  | some p =>
    obtain ⟨x, e⟩ := p
    rw [hd] at hafter
    rw [hafter]
    have hfollowed : Guided (x.handle e).1 (x.dispatch e).1 :=
      guided_unshifted ((still_finishFollowUps _).mono still_within_unshifted)
    refine Guided.trans ?_ hfollowed
    have hoff : b.runtime.state = .uninitialised → b.runtime.actualEnabled = false := fun hs =>
      hsound.off (by simp [hs])
    rcases dispatched?_eq_some hsound.order hd with ⟨he, rfl, rfl⟩ | ⟨k, rfl, rfl, harmed, rfl⟩
    · refine (account_handle x e).guided h hoff ?_ ?_
      · rintro rfl hs
        exact hm ⟨rfl, (isEnabled_iff x).mpr hs⟩
      · rintro rfl
        cases he
    · by_cases hk : k = .gainPoll
      · subst hk
        exact h.guided_renewed harmed
      · have hpopped : Work unshifted b (b.cancel k) :=
          .single (.cancel k (by cases k <;> first | rfl | exact absurd rfl hk))
        have hpolled := h.work (hpopped.mono unshifted_within_unpolled)
        exact (guided_unshifted hpopped).trans
          ((account_handle (b.cancel k) _).guided hpolled hoff nofun (by simpa using hk))

theorem strays_perform (hsound : Sound b) (h : Polled b) (m : Move) :
    (b.perform m).strays = true ↔ LeftPolling b m ∨ b.strays = true ∧ ¬Shifted b m := by
  by_cases hp : PowersOff b m
  · obtain ⟨rfl, henabled⟩ := id hp
    have hon : b.runtime.actualEnabled = true := hsound.classified.hardware.trans henabled
    have hnot : b.strays = false := by rw [strays, hon, Bool.not_true, Bool.false_and]
    have hleft := strays_powerOff h ((isEnabled_iff b).mp henabled) hon
    have hafter : b.perform (.event .powerOff) = (b.dispatch .powerOff).1 := rfl
    simpa [LeftPolling, hp, hnot, hafter] using hleft
  · rcases guided_perform hsound h hp with ⟨hn, hs⟩ | ⟨hn, hs⟩
    · simp [LeftPolling, hp, Shifted, hn, hs]
    · simp [LeftPolling, hp, Shifted, hn, hs]

/-! ### Fixed filters -/

/-- The peer enters its case while noise control is on in the adaptive mode. -/
def StartedByPeer (b : Earbud) (m : Move) : Prop :=
  m = .event (.placed .peer .inCase) ∧ b.runtime.peerInCase = false ∧ b.runtime.runs = true

/-- The poll expires outside the adaptive mode. -/
def RunsOut (b : Earbud) (m : Move) : Prop :=
  b.runtime.currentMode.isAdaptive = false ∧ ∃ x, b.dispatched? m = some (x, .timerExpired .gainPoll)

theorem Strokes.polls_fixed (s : Strokes a reads b) (hc : a.config.adaptive = false) :
    b.polls = a.polls := by
  induction s with
  | start => rfl
  | touch _ t ih => exact (Work.polls (.single t) rfl).trans ih
  | settle _ ih => exact (Work.polls (x := unpolled) (.single (.cancel _ rfl)) rfl).trans ih
  | write _ gain ih => exact ((levels_setLeakthrough _ gain).polls rfl).trans ih
  | read _ ih => exact ((levels_refreshLeakthrough _).polls rfl).trans ih
  | reconfigure s on m ih =>
    have hfixed := s.anything.config ▸ hc
    exact (polls_reconfigure_fixed _ on m hfixed).trans ih

theorem Account.polls_fixed {e : Event} (account : Account b e c) (hc : b.config.adaptive = false)
    (hpoll : e ≠ .timerExpired .gainPoll) (hplaced : ∀ p, e ≠ .placed .peer p) :
    c.polls = b.polls := by
  cases account with
  | strokes s => exact s.polls_fixed hc
  | start hs => exact polls_start b
  | powerOff hs =>
    have hleaving := (Strokes.start.work (still_leave b)).reconfigure false b.runtime.requestedMode
    have hleft : b.leaveHardware.polls = b.polls := hleaving.polls_fixed hc
    exact ((strokes_powerOffEnabled b).polls_fixed (hleaving.anything.config ▸ hc :)).trans hleft
  | applyGains => rfl
  | poll => exact absurd rfl hpoll
  | peerPlaced p => exact absurd rfl (hplaced p)

theorem polls_dispatch_fixed (hc : b.config.adaptive = false) {e : Event}
    (hpoll : e ≠ .timerExpired .gainPoll) :
    (b.dispatch e).1.polls = true ↔
      (e = .placed .peer .inCase ∧ b.runtime.peerInCase = false ∧ b.runtime.runs = true) ∨
        b.polls = true := by
  have hfollowed : (b.dispatch e).1.polls = (b.handle e).1.polls :=
    (still_finishFollowUps (b.handle e).1).polls rfl
  rw [hfollowed]
  by_cases hplaced : ∃ p, e = .placed .peer p
  · obtain ⟨p, rfl⟩ := hplaced
    have hpolls := polls_peerPlaced b p
    change (b.handle (.placed .peer p)).1.polls = _ at hpolls
    rw [hpolls, or_comm]
    simp [and_assoc]
  · rw [not_exists] at hplaced
    rw [(account_handle b e).polls_fixed hc hpoll hplaced]
    simp [hplaced]

theorem polls_perform_fixed (hsound : Sound b) (hc : b.config.adaptive = false) (m : Move) :
    (b.perform m).polls = true ↔ StartedByPeer b m ∨ b.polls = true ∧ ¬RunsOut b m := by
  have hafter := perform_eq b m
  unfold StartedByPeer RunsOut
  cases hd : b.dispatched? m with
  | none =>
    rw [hd] at hafter
    have hpolls : (b.perform m).polls = b.polls := by
      rw [hafter]
      cases m <;> rfl
    have hm : m ≠ .event (.placed .peer .inCase) := by
      rintro rfl
      cases hd
    simp [hpolls, hm]
  | some p =>
    obtain ⟨x, e⟩ := p
    rw [hd] at hafter
    rw [hafter]
    rcases dispatched?_eq_some hsound.order hd with ⟨he, rfl, rfl⟩ | ⟨k, rfl, rfl, harmed, rfl⟩
    · have hpoll : e ≠ .timerExpired .gainPoll := by
        rintro rfl
        cases he
      have hmove : Move.event e he = .event (.placed .peer .inCase) ↔ e = .placed .peer .inCase := by
        constructor
        · intro h
          cases h
          rfl
        · rintro rfl
          rfl
      have hpolls := polls_dispatch_fixed hc hpoll
      simpa [hpoll, hmove] using hpolls
    · by_cases hk : k = .gainPoll
      · subst hk
        have hpolls : b.polls = true := harmed
        have hrenewed : ((b.cancel .gainPoll).dispatch (.timerExpired .gainPoll)).1.polls =
            b.runtime.currentMode.isAdaptive := by
          refine ((still_finishFollowUps _).polls rfl).trans ((polls_pollGain _).trans ?_)
          rw [polls, not_isArmed_cancel, Bool.or_false]
          rfl
        simp [hpolls, hrenewed]
      · have hpopped : (b.cancel k).polls = b.polls :=
          Work.polls (x := unpolled)
            (.single (.cancel k (by cases k <;> first | rfl | exact absurd rfl hk))) rfl
        have hother : Event.timerExpired k ≠ .timerExpired .gainPoll := by simpa using hk
        have hpolls := polls_dispatch_fixed (b := b.cancel k) hc hother
        simpa [hk, hpopped] using hpolls

/-! ### Runs -/

section Run

variable (c : Config) (clockOrigin : Option WallClock) (store : SessionStore)

theorem strays_iff (hc : c.adaptive = true) (moves : List Move) :
    ((Earbud.new c clockOrigin store).run moves).strays = true ↔
      Lasts perform LeftPolling Shifted (Earbud.new c clockOrigin store) moves := by
  refine holds_foldl_iff_lasts (fun b : Earbud => b.strays = true) ?_ (fun moves m => ?_) moves
  · exact nofun
  · have hsound := (sound_run c clockOrigin store moves).1
    have hpolled := (regular_run c hc clockOrigin store moves).toPolled
    exact strays_perform hsound hpolled m

theorem polls_fixed_iff (hc : c.adaptive = false) (moves : List Move) :
    ((Earbud.new c clockOrigin store).run moves).polls = true ↔
      Lasts perform StartedByPeer RunsOut (Earbud.new c clockOrigin store) moves := by
  refine holds_foldl_iff_lasts (fun b : Earbud => b.polls = true) ?_ (fun moves m => ?_) moves
  · exact nofun
  · have hsound := (sound_run c clockOrigin store moves).1
    have hfixed : ((Earbud.new c clockOrigin store).run moves).config.adaptive = false := by
      rw [config_run]
      exact hc
    exact polls_perform_fixed hsound hfixed m

/-- The gain poll is under way only while adaptive noise control runs, exactly unless, with adaptive
filters, the hardware was not switched as the power went off in the adaptive mode and neither was it
switched since nor a mode loaded; or unless, with fixed filters, the peer started the poll and it has not
expired outside the adaptive mode since. -/
theorem polls_only_running_iff (moves : List Move) :
    let new := Earbud.new c clockOrigin store
    ((new.run moves).polls = true → (new.run moves).runtime.runs = true) ↔
      ¬((new.run moves).runtime.runs = false ∧
        if c.adaptive then Lasts perform LeftPolling Shifted new moves
        else Lasts perform StartedByPeer RunsOut new moves) := by
  intro new
  split <;> rename_i hc
  · have hpolled : Polled (new.run moves) := (regular_run c hc clockOrigin store moves).toPolled
    have hmode := hpolled.mode
    rw [← strays_iff c clockOrigin store hc moves]
    change _ ↔ ¬(_ ∧ (new.run moves).strays = true)
    rw [Runtime.runs, strays]
    cases hpolls : (new.run moves).polls with
    | false => simp
    | true => simp [hmode hpolls]
  · rw [← polls_fixed_iff c clockOrigin store (Bool.eq_false_iff.mpr hc) moves]
    change _ ↔ ¬(_ ∧ (new.run moves).polls = true)
    cases (new.run moves).polls <;> simp

/-- The hardware refuses to go off with the power. -/
theorem polls_left_running : ¬∀ (c : Config) (clockOrigin : Option WallClock) (store : SessionStore)
    (moves : List Move), ((Earbud.new c clockOrigin store).run moves).polls = true →
      ((Earbud.new c clockOrigin store).run moves).runtime.runs = true := by
  intro h
  have hrefused := h (.standard "") none {} [.event .initialise, .event .powerOn, .event .enable,
    .surround ⟨none, {}, fun _ call => call == .audio .hardwareOff, none, {}, {}⟩, .event .powerOff]
    (by decide)
  exact absurd hrefused (by decide)

/-- With adaptive filters the gain poll is under way whenever adaptive noise control runs. -/
theorem polled_while_running (hc : c.adaptive = true) (moves : List Move)
    (hruns : ((Earbud.new c clockOrigin store).run moves).runtime.runs = true) :
    ((Earbud.new c clockOrigin store).run moves).polls = true :=
  (regular_run c hc clockOrigin store moves).runs hruns

/-- The poll expires and is renewed. -/
theorem polled_while_running_renewed :
    let b := (Earbud.new (.standard "") none {}).run
      [.event .initialise, .event .powerOn, .event .enable, .expiry, .wait 250000, .expiry]
    b.runtime.runs = true ∧ b.polls = true := by
  have hruns : ((Earbud.new (.standard "") none {}).run [.event .initialise, .event .powerOn,
      .event .enable, .expiry, .wait 250000, .expiry]).runtime.runs = true := by decide
  exact ⟨hruns, polled_while_running (.standard "") none {} rfl _ hruns⟩

end Run

end NoiseControl.Earbud
