import NoiseControl.Proofs.Earbud.Classification

/-!
# The modes through a reconfiguration

Switching the hardware on or off leaves the modes alone.  Loading a mode makes it the current one,
or fails and gives up what was asked for, so that after a reconfiguration to the mode that is asked
for nothing is asked for that is not loaded.
-/

namespace NoiseControl.Earbud

variable (b : Earbud)

/-! ### The hardware -/

/-- The runtime state is left alone. -/
def wiring : Extent where
  keeps r := r
  timer _ := true
  audio _ := true
  talks := false

theorem runtime_rampDown : b.rampDown.runtime = b.runtime :=
  Work.keeps (x := wiring)
    (Work.foldl (fun b _ => Work.foldl (fun _ _ => .single (.attempt _ rfl)) _ b) _ b)

theorem runtime_hardwareOn : b.hardwareOn.1.runtime = b.runtime := by
  unfold hardwareOn
  split
  · exact runtime_attempt b _
  · have h := runtime_attempt b .hardwareOnMuted
    split <;> rename_i heq <;> rw [heq] at h <;> exact h

theorem runtime_hardwareOff : b.hardwareOff.1.runtime = b.runtime := by
  unfold hardwareOff
  dsimp only
  rw [runtime_attempt]
  split
  · rfl
  · exact runtime_rampDown _

theorem runtime_stopAdaptive : b.stopAdaptive.runtime = b.runtime := by
  unfold stopAdaptive
  dsimp only
  split <;> rfl

theorem runtime_settleAdaptive : b.settleAdaptive.runtime = b.runtime := by
  unfold settleAdaptive
  split <;> rfl

theorem runtime_announceAdaptiveChange (wasEnabled : Bool) (formerMode : Mode) :
    (b.announceAdaptiveChange wasEnabled formerMode).runtime = b.runtime := by
  unfold announceAdaptiveChange
  dsimp only
  split
  · split <;> rfl
  · rfl

/-- The hardware is switched and the runtime state says so, or nothing is said to have changed. -/
theorem switchHardware_cases (on : Bool) :
    ((b.switchHardware on).2 = .ok () ∧
        (b.switchHardware on).1.runtime = { b.runtime with actualEnabled := on }) ∨
      ((b.switchHardware on).2 = .error (.hardware (.switch on)) ∧
        (b.switchHardware on).1.runtime = b.runtime) := by
  have hturn : (if on then b.hardwareOn else b.stopAdaptive.hardwareOff).1.runtime = b.runtime := by
    cases on with
    | true => exact runtime_hardwareOn b
    | false => exact (runtime_hardwareOff _).trans (runtime_stopAdaptive b)
  unfold switchHardware
  split <;> rename_i turned heq <;> rw [heq] at hturn
  · refine Or.inl ⟨rfl, ?_⟩
    have hset : (turned.setRuntime fun r => { r with actualEnabled := on }).runtime =
        { b.runtime with actualEnabled := on } :=
      congrArg (fun r : Runtime => { r with actualEnabled := on }) hturn
    dsimp only
    split
    · exact (runtime_settleAdaptive _).trans hset
    · exact hset
  · exact Or.inr ⟨rfl, hturn⟩

/-! ### The modes -/

theorem runtime_abandonMode (running : Bool) :
    (b.abandonMode running).runtime = { b.runtime with requestedMode := b.runtime.currentMode } :=
  runtime_identifyMode _ _ _

theorem refreshLeakthrough_eq :
    ∃ gain, b.refreshLeakthrough = b.setRuntime fun r => { r with leakthroughGain := gain } := by
  unfold refreshLeakthrough
  split
  · unfold storeLeakthrough
    split
    · exact ⟨_, rfl⟩
    · exact ⟨b.runtime.leakthroughGain, rfl⟩
  · exact ⟨b.runtime.leakthroughGain, rfl⟩

/-- A mode is loaded, or what is asked for is given up for one of two reasons. -/
theorem applyMode_cases (m : Mode) :
    (m.index < b.runtime.numModes ∧ (b.applyMode m).2 = .ok () ∧
        (b.applyMode m).1.runtime.currentMode = m ∧
        (b.applyMode m).1.runtime.requestedMode = b.runtime.requestedMode) ∨
      ((b.applyMode m).1.runtime = { b.runtime with requestedMode := b.runtime.currentMode } ∧
        (m.index < b.runtime.numModes ∧ (b.applyMode m).2 = .error (.hardware (.load m)) ∨
          b.runtime.numModes ≤ m.index ∧
            (b.applyMode m).2 = .error (.modeOutOfRange m b.runtime.numModes))) := by
  have hid := runtime_identifyMode b m b.audio.adaptive
  unfold applyMode
  dsimp only
  split <;> rename_i hrange <;> rw [hid] at hrange
  · refine Or.inr ⟨?_, Or.inr ⟨hrange, by rw [hid]⟩⟩
    rw [runtime_abandonMode, hid]
  · have hload := (runtime_loadMode (b.identifyMode m b.audio.adaptive) m).trans hid
    split <;> rename_i heq <;> rw [heq] at hload
    · refine Or.inr ⟨?_, Or.inl ⟨UInt8.not_le.mp hrange, rfl⟩⟩
      rw [runtime_abandonMode, hload]
    · rename_i loaded
      refine Or.inl ⟨UInt8.not_le.mp hrange, rfl, ?_⟩
      have hgains : ∀ x : Earbud, x.runtime = { loaded.runtime with currentMode := m } →
          x.refreshLeakthrough.announceLeakthrough.runtime.currentMode = m ∧
            x.refreshLeakthrough.announceLeakthrough.runtime.requestedMode =
              b.runtime.requestedMode := by
        intro x hx
        have hkeeps := Work.keeps ((work_refreshLeakthrough x).trans (work_announceLeakthrough _))
        rw [hx, hload] at hkeeps
        exact ⟨(congrArg Runtime.currentMode hkeeps :), (congrArg Runtime.requestedMode hkeeps :)⟩
      refine hgains _ ?_
      split <;> rfl

/-! ### Reconfiguration -/

/-- Bring the earbud to a mode, if it is not in it. -/
def inMode (m : Mode) : Earbud × Outcome :=
  if m = b.runtime.currentMode then (b, .ok ()) else b.applyMode m

/-- Bring the hardware on or off, if it is not so. -/
def inPower (on : Bool) : Earbud × Outcome :=
  if b.runtime.actualEnabled = on then (b, .ok ()) else b.switchHardware on

def tellAdaptive (wasEnabled : Bool) (formerMode : Mode) : Earbud :=
  if b.config.adaptive then b.announceAdaptiveChange wasEnabled formerMode else b

theorem work_inMode (fits : Mode → Bool) {m : Mode} (hm : fits m = true)
    (hc : fits b.runtime.currentMode = true) : Work (loading fits) b (b.inMode m).1 := by
  unfold inMode
  split
  · exact .refl
  · exact work_applyMode b fits hm hc

theorem work_inPower (on : Bool) : Work (switching on) b (b.inPower on).1 := by
  unfold inPower
  split
  · exact .refl
  · exact work_switchHardware b on

theorem work_tellAdaptive (wasEnabled : Bool) (formerMode : Mode) :
    Work gains b (b.tellAdaptive wasEnabled formerMode) := by
  unfold tellAdaptive
  split
  · exact work_announceAdaptiveChange b _ _
  · exact .refl

/-- A reconfiguration brings the earbud to the mode and then on or off, and tells the clients. -/
theorem reconfigure_stages (on : Bool) (m : Mode) :
    (b.reconfigure on m).1 =
      (((((b.boost true).inMode m).1.inPower on).1).tellAdaptive b.runtime.actualEnabled
        b.runtime.currentMode).boost false := by
  rw [reconfigure_fst]
  simp only [inMode, inPower, tellAdaptive, apply_ite Prod.fst]

theorem reconfigure_eq (on : Bool) (m : Mode) :
    let moded := (b.boost true).inMode m
    (b.reconfigure on m).1.runtime = { (moded.1.inPower on).1.runtime with clockBoost := false } ∧
      (b.reconfigure on m).2 = moded.2.andThen (moded.1.inPower on).2 := by
  intro moded
  refine ⟨?_, rfl⟩
  have htold : ((moded.1.inPower on).1.tellAdaptive b.runtime.actualEnabled
      b.runtime.currentMode).runtime = (moded.1.inPower on).1.runtime := by
    unfold tellAdaptive
    split
    · exact runtime_announceAdaptiveChange _ _ _
    · rfl
  rw [reconfigure_stages]
  exact congrArg (fun r : Runtime => { r with clockBoost := false }) htold

theorem inPower_cases (on : Bool) :
    ((b.inPower on).1.runtime.currentMode = b.runtime.currentMode ∧
        (b.inPower on).1.runtime.requestedMode = b.runtime.requestedMode) ∧
      ((b.inPower on).2 = .ok () ∨ ∃ fault, (b.inPower on).2 = .error (.hardware fault)) := by
  unfold inPower
  split
  · exact ⟨⟨rfl, rfl⟩, Or.inl rfl⟩
  · rcases switchHardware_cases b on with ⟨hok, hr⟩ | ⟨herr, hr⟩ <;> rw [hr]
    · exact ⟨⟨rfl, rfl⟩, Or.inl hok⟩
    · exact ⟨⟨rfl, rfl⟩, Or.inr ⟨_, herr⟩⟩

/-- A reconfiguration brings the earbud to a mode, or gives up what was asked for. -/
theorem modes_reconfigure (on : Bool) (m : Mode) :
    let after := (b.reconfigure on m).1.runtime
    (after.currentMode = m ∧ after.requestedMode = b.runtime.requestedMode ∧
        (m = b.runtime.currentMode ∨ m.index < b.runtime.numModes)) ∨
      (after.currentMode = b.runtime.currentMode ∧ after.requestedMode = b.runtime.currentMode) := by
  obtain ⟨⟨hcurrent, hasked⟩, -⟩ := inPower_cases ((b.boost true).inMode m).1 on
  dsimp only
  rw [(reconfigure_eq b on m).1]
  dsimp only
  rw [hcurrent, hasked]
  unfold inMode
  split <;> rename_i hm
  · exact Or.inl ⟨hm.symm, rfl, Or.inl hm⟩
  · rcases applyMode_cases (b.boost true) m with ⟨hrange, -, hcurrent, hasked⟩ | ⟨hgiven, -⟩
    · exact Or.inl ⟨hcurrent, hasked, Or.inr hrange⟩
    · rw [hgiven]
      exact Or.inr ⟨rfl, rfl⟩

/-- What is asked for is given up only by a reconfiguration that fails. -/
theorem requestedMode_of_ok {on : Bool} {m : Mode} (h : (b.reconfigure on m).2 = .ok ()) :
    (b.reconfigure on m).1.runtime.requestedMode = b.runtime.requestedMode := by
  obtain ⟨hruntime, houtcome⟩ := reconfigure_eq b on m
  have hmoded : ((b.boost true).inMode m).2 = .ok () := by
    rw [houtcome] at h
    cases hm : ((b.boost true).inMode m).2 with
    | ok => rfl
    | error fault =>
      rw [hm] at h
      cases h
  rw [hruntime]
  refine (inPower_cases ((b.boost true).inMode m).1 on).1.2.trans ?_
  unfold inMode at hmoded ⊢
  split
  · rfl
  · rename_i hm
    rw [if_neg hm] at hmoded
    rcases applyMode_cases (b.boost true) m with ⟨-, -, -, hasked⟩ | ⟨-, ⟨-, hfailed⟩ | ⟨-, hfailed⟩⟩
    · exact hasked
    · exact nomatch hmoded.symm.trans hfailed
    · exact nomatch hmoded.symm.trans hfailed

/-- After a reconfiguration to the mode that is asked for, that mode is loaded or given up. -/
theorem requestedMode_reconfigure (on : Bool) :
    let after := (b.reconfigure on b.runtime.requestedMode).1.runtime
    after.requestedMode = after.currentMode := by
  dsimp only
  rcases modes_reconfigure b on b.runtime.requestedMode with
    ⟨hcurrent, hasked, -⟩ | ⟨hcurrent, hasked⟩ <;> rw [hasked, hcurrent]

/-- A reconfiguration fails for the hardware, or because there is no such mode. -/
theorem outcome_reconfigure (on : Bool) (m : Mode) :
    (b.reconfigure on m).2 = .ok () ∨ (∃ fault, (b.reconfigure on m).2 = .error (.hardware fault)) ∨
      m ≠ b.runtime.currentMode ∧ b.runtime.numModes ≤ m.index := by
  rw [(reconfigure_eq b on m).2]
  have hpower := (inPower_cases ((b.boost true).inMode m).1 on).2
  have hmode : ((b.boost true).inMode m).2 = .ok () ∨
      (∃ fault, ((b.boost true).inMode m).2 = .error (.hardware fault)) ∨
        m ≠ b.runtime.currentMode ∧ b.runtime.numModes ≤ m.index := by
    unfold inMode
    split <;> rename_i hm
    · exact Or.inl rfl
    · rcases applyMode_cases (b.boost true) m with ⟨-, hok, -⟩ | ⟨-, ⟨-, herr⟩ | ⟨hrange, -⟩⟩
      · exact Or.inl hok
      · exact Or.inr (Or.inl ⟨_, herr⟩)
      · exact Or.inr (Or.inr ⟨hm, hrange⟩)
  rcases hmode with hok | ⟨fault, herr⟩ | hrange
  · rw [hok]
    exact hpower.imp_right Or.inl
  · rw [herr]
    exact Or.inr (Or.inl ⟨fault, rfl⟩)
  · exact Or.inr (Or.inr hrange)

end NoiseControl.Earbud
