import NoiseControl.Proofs.Earbud.History
import NoiseControl.Proofs.Earbud.Modes

/-!
# What a reconfiguration carries out

A reconfiguration switches the hardware at most once and loads at most one mode.  The hardware is
switched exactly when the state that is confirmed changes, and a mode is loaded exactly when the
current one changes.
-/

namespace NoiseControl

/-- The hardware was switched on or off. -/
def drives : Matter Bool
  | .hardwareOn, true | .hardwareOnMuted, true => some true
  | .hardwareOff, true => some false
  | _, _ => none

/-- A matter of the attempts to load filters. -/
def Matter.Loads {α : Type} (matter : Matter α) : Prop :=
  ∀ c done, (∀ m, c ≠ .setMode m) → matter c done = none

/-- The filters of a mode were swapped in, apart from those that the probe starts with. -/
def swaps : Matter Mode
  | .setMode m, true => some m
  | _, _ => none

theorem loads_swaps : swaps.Loads := by
  intro c done hc
  cases c with
  | setMode m => exact absurd rfl (hc m)
  | _ => rfl

/-- The filters of a mode could not be loaded. -/
def refuses (m : Mode) : Matter Unit
  | .setMode m', false => if m' = m then some () else none
  | _, _ => none

theorem loads_refuses (m : Mode) : (refuses m).Loads := by
  intro c done hc
  cases c with
  | setMode m => exact absurd rfl (hc m)
  | _ => rfl

namespace Earbud

variable (b : Earbud) (on : Bool) (m : Mode)

/-! ### The hardware -/

theorem drives_hardwareOn :
    b.hardwareOn.1.tally drives = b.tally drives + if b.hardwareOn.2 then 1 else 0 := by
  unfold hardwareOn
  split
  · rw [tally_attempt]
    cases (b.attempt .hardwareOn).2 <;> rfl
  · have htally : (b.attempt .hardwareOnMuted).1.tally drives =
        b.tally drives + if (b.attempt .hardwareOnMuted).2 then 1 else 0 := by
      rw [tally_attempt]
      cases (b.attempt .hardwareOnMuted).2 <;> rfl
    split <;> rename_i heq <;> rw [heq] at htally <;> exact htally

theorem drives_hardwareOff :
    b.hardwareOff.1.tally drives = b.tally drives + if b.hardwareOff.2 then 1 else 0 := by
  have hcancelled : (b.cancel .pathGainSettle).tally drives = b.tally drives := rfl
  have hramped : (b.cancel .pathGainSettle).rampDown.tally drives = b.tally drives :=
    (levels_rampDown _).tally fun c done hc => by cases c <;> first | rfl | cases hc
  have hattempt : ∀ x : Earbud, x.tally drives = b.tally drives →
      (x.attempt .hardwareOff).1.tally drives =
        b.tally drives + if (x.attempt .hardwareOff).2 then 1 else 0 := by
    intro x hx
    rw [tally_attempt, hx]
    cases (x.attempt .hardwareOff).2 <;> rfl
  unfold hardwareOff
  dsimp only
  split
  · exact hattempt _ hcancelled
  · exact hattempt _ hramped

theorem drives_stopAdaptive : b.stopAdaptive.tally drives = b.tally drives := by
  unfold stopAdaptive
  dsimp only
  split <;> rfl

/-- The hardware confirms, or it was not switched. -/
theorem drives_switchHardware :
    (b.switchHardware on).1.tally drives =
      b.tally drives + if (b.switchHardware on).2.isOk then 1 else 0 := by
  have hturned : (if on then b.hardwareOn else b.stopAdaptive.hardwareOff).1.tally drives =
      b.tally drives + if (if on then b.hardwareOn else b.stopAdaptive.hardwareOff).2 then 1 else 0 := by
    cases on with
    | true => exact drives_hardwareOn b
    | false =>
      rw [← drives_stopAdaptive b]
      exact drives_hardwareOff b.stopAdaptive
  have hsettled : ∀ x : Earbud, x.settleAdaptive.tally drives = x.tally drives := by
    intro x
    unfold settleAdaptive
    split <;> rfl
  unfold switchHardware
  split <;> rename_i turned heq <;> rw [heq] at hturned
  · dsimp only
    split
    · exact (hsettled _).trans hturned
    · exact hturned
  · exact hturned

theorem drives_inPower :
    ((b.inPower on).1.tally drives = b.tally drives ∧
        (b.inPower on).1.runtime.actualEnabled = b.runtime.actualEnabled) ∨
      ((b.inPower on).1.tally drives = b.tally drives + 1 ∧
        (b.inPower on).1.runtime.actualEnabled = on ∧ b.runtime.actualEnabled ≠ on) := by
  have hdriven := drives_switchHardware b on
  unfold inPower
  split <;> rename_i hon
  · exact Or.inl ⟨rfl, rfl⟩
  · rcases switchHardware_cases b on with ⟨hok, hr⟩ | ⟨herror, hr⟩
    · rw [hok] at hdriven
      exact Or.inr ⟨hdriven, by rw [hr], hon⟩
    · rw [herror] at hdriven
      exact Or.inl ⟨hdriven, by rw [hr]⟩

/-! ### The mode -/

variable {α : Type} {matter : Matter α}

/-- A mode within range is tried to be loaded once, and a mode out of range is not. -/
theorem tally_applyMode (h : matter.Loads) :
    (b.applyMode m).1.tally matter =
      b.tally matter + if m.index < b.runtime.numModes ∧
        (matter (.setMode m) (b.applyMode m).2.isOk).isSome = true then 1 else 0 := by
  have hidentified : ∀ (x : Earbud) (m : Mode) (running : Bool),
      (x.identifyMode m running).tally matter = x.tally matter := by
    intro x m running
    have hnone : ∀ done, matter (.setModeIdentifier m) done = none := fun done =>
      h _ done fun m hm => by cases hm
    unfold identifyMode
    split
    · simp [Earbud.tally, command, Activity.tells, hnone]
    · rfl
  have habandoned : ∀ x : Earbud, (x.abandonMode b.audio.adaptive).tally matter = x.tally matter :=
    fun x => hidentified _ _ _
  have hloaded : ∀ x : Earbud, (x.loadMode m).1.tally matter =
      x.tally matter + if (matter (.setMode m) (x.loadMode m).2).isSome then 1 else 0 := by
    intro x
    unfold loadMode
    rw [tally_attempt]
    split <;> rfl
  have hid := runtime_identifyMode b m b.audio.adaptive
  unfold applyMode
  dsimp only
  split <;> rename_i hrange <;> rw [hid] at hrange
  · rw [if_neg fun hp => UInt8.not_lt.mpr hrange hp.1]
    exact (habandoned _).trans (hidentified _ _ _)
  · have hload := hloaded (b.identifyMode m b.audio.adaptive)
    rw [hidentified] at hload
    simp only [UInt8.not_le.mp hrange, true_and]
    split <;> rename_i heq <;> rw [heq] at hload
    · exact (habandoned _).trans hload
    · refine Eq.trans ?_ hload
      have hgains : ∀ x : Earbud,
          x.refreshLeakthrough.announceLeakthrough.tally matter = x.tally matter := fun x =>
        Work.tally ((levels_refreshLeakthrough x).trans (levels_announceLeakthrough _))
          fun c done hc => h c done fun m => by rintro rfl; cases hc
      refine (hgains _).trans ?_
      split
      · have hnone : ∀ done, matter (.swapModeLive m) done = none := fun done =>
          h _ done fun m hm => by cases hm
        simp [Earbud.tally, command, announce, setRuntime, Activity.tells, hnone]
      · rfl

theorem swaps_applyMode :
    (b.applyMode m).1.tally swaps =
      b.tally swaps + if (b.applyMode m).2.isOk then 1 else 0 := by
  rw [tally_applyMode b m loads_swaps]
  rcases applyMode_cases b m with ⟨hrange, hok, -⟩ | ⟨-, ⟨-, herror⟩ | ⟨-, herror⟩⟩
  · rw [hok]
    simp [hrange, swaps, Except.isOk, Except.toBool]
  · simp [herror, swaps, Except.isOk, Except.toBool]
  · simp [herror, swaps, Except.isOk, Except.toBool]

theorem swaps_inMode :
    ((b.inMode m).1.tally swaps = b.tally swaps ∧
        (b.inMode m).1.runtime.currentMode = b.runtime.currentMode) ∨
      ((b.inMode m).1.tally swaps = b.tally swaps + 1 ∧
        (b.inMode m).1.runtime.currentMode = m ∧ b.runtime.currentMode ≠ m) := by
  have hswapped := swaps_applyMode b m
  unfold inMode
  split <;> rename_i hm
  · exact Or.inl ⟨rfl, rfl⟩
  · rcases applyMode_cases b m with ⟨-, hok, hcurrent, -⟩ | ⟨hr, hfailed⟩
    · rw [hok] at hswapped
      exact Or.inr ⟨hswapped, hcurrent, Ne.symm hm⟩
    · refine Or.inl ⟨?_, by rw [hr]⟩
      rcases hfailed with ⟨-, herror⟩ | ⟨-, herror⟩ <;> rw [herror] at hswapped <;> exact hswapped

/-- Where a mode that was to be applied cannot be loaded, the current one is asked for again. -/
theorem refuses_inMode (hm : m.index < b.runtime.numModes) :
    ((b.inMode m).1.tally (refuses m) = b.tally (refuses m) ∧
        (b.inMode m).1.runtime.requestedMode = b.runtime.requestedMode) ∨
      ((b.inMode m).1.tally (refuses m) = b.tally (refuses m) + 1 ∧
        (b.inMode m).1.runtime.requestedMode = b.runtime.currentMode) := by
  have hrefused := tally_applyMode b m (loads_refuses m)
  unfold inMode
  split
  · exact Or.inl ⟨rfl, rfl⟩
  · rcases applyMode_cases b m with ⟨-, hok, -, hasked⟩ | ⟨hr, ⟨-, herror⟩ | ⟨hout, -⟩⟩
    · rw [hok] at hrefused
      exact Or.inl ⟨by simpa [refuses, Except.isOk, Except.toBool] using hrefused, hasked⟩
    · rw [herror] at hrefused
      refine Or.inr ⟨?_, by rw [hr]⟩
      simpa [hm, refuses, Except.isOk, Except.toBool] using hrefused
    · exact absurd hm (UInt8.not_lt.mpr hout)

/-- Among what was done is a failed attempt to load a mode exactly if the count of them grew. -/
theorem refused_mem_iff {a b : Earbud} (h : a.history <:+ b.history) (m : Mode) :
    .audio (.setMode m) false ∈ b.activitiesSince a ↔ a.tally (refuses m) < b.tally (refuses m) := by
  rw [tally_lt_iff h]
  constructor
  · intro hmem
    exact ⟨_, hmem, by simp [Activity.tells, refuses]⟩
  · rintro ⟨activity, hmem, htells⟩
    have he : activity = .audio (.setMode m) false := by
      unfold Activity.tells refuses at htells
      grind
    rwa [← he]

/-! ### Reconfiguration -/

theorem tally_tellAdaptive (matter : Matter α) (wasEnabled : Bool) (formerMode : Mode) :
    (b.tellAdaptive wasEnabled formerMode).tally matter = b.tally matter := by
  unfold tellAdaptive announceAdaptiveChange
  dsimp only
  split
  · split
    · split <;> rfl
    · rfl
  · rfl

theorem reconfigure_drives :
    let after := (b.reconfigure on m).1
    (after.tally drives = b.tally drives ∧
        after.runtime.actualEnabled = b.runtime.actualEnabled) ∨
      (after.tally drives = b.tally drives + 1 ∧ after.runtime.actualEnabled = on ∧
        b.runtime.actualEnabled ≠ on) := by
  have hmode := work_inMode (b.boost true) (fun _ => true) (m := m) rfl rfl
  have htally : ((b.boost true).inMode m).1.tally drives = b.tally drives :=
    hmode.tally fun c done hc => by cases c <;> first | rfl | cases hc
  have hactual : ((b.boost true).inMode m).1.runtime.actualEnabled = b.runtime.actualEnabled :=
    (congrArg Runtime.actualEnabled hmode.keeps :)
  have hafter : (b.reconfigure on m).1.tally drives =
      (((b.boost true).inMode m).1.inPower on).1.tally drives := by
    rw [reconfigure_stages]
    exact tally_tellAdaptive _ drives _ _
  have hruntime := (reconfigure_eq b on m).1
  dsimp only at hruntime ⊢
  rw [hruntime, hafter, ← htally, ← hactual]
  exact drives_inPower _ on

/-- Filters are loaded when the mode is applied, and at no other time of a reconfiguration. -/
theorem tally_reconfigure (h : matter.Loads) :
    (b.reconfigure on m).1.tally matter = ((b.boost true).inMode m).1.tally matter := by
  have hboosted : ∀ (x : Earbud) (on : Bool), (x.boost on).tally matter = x.tally matter := by
    intro x on
    have hnone : ∀ done, matter (.clockBoost on) done = none := fun done =>
      h _ done fun m hm => by cases hm
    simp [Earbud.tally, boost, command, setRuntime, Activity.tells, hnone]
  rw [reconfigure_stages, hboosted, tally_tellAdaptive]
  refine (work_inPower _ on).tally fun c done hc => h c done fun m => ?_
  rintro rfl
  cases hc

theorem reconfigure_swaps :
    let after := (b.reconfigure on m).1
    (after.tally swaps = b.tally swaps ∧ after.runtime.currentMode = b.runtime.currentMode) ∨
      (after.tally swaps = b.tally swaps + 1 ∧ after.runtime.currentMode = m ∧
        b.runtime.currentMode ≠ m) := by
  have hruntime := (reconfigure_eq b on m).1
  have hcurrent := (inPower_cases ((b.boost true).inMode m).1 on).1.1
  dsimp only at hruntime ⊢
  rw [hruntime, tally_reconfigure b on m loads_swaps]
  dsimp only
  rw [hcurrent]
  exact swaps_inMode (b.boost true) m

/-- What is asked for after a reconfiguration to a mode within range is the current mode from before
if loading failed, and is left alone otherwise. -/
theorem reconfigure_refuses (hm : m.index < b.runtime.numModes) :
    let after := (b.reconfigure on m).1
    (after.tally (refuses m) = b.tally (refuses m) ∧
        after.runtime.requestedMode = b.runtime.requestedMode) ∨
      (after.tally (refuses m) = b.tally (refuses m) + 1 ∧
        after.runtime.requestedMode = b.runtime.currentMode) := by
  have hruntime := (reconfigure_eq b on m).1
  have hasked := (inPower_cases ((b.boost true).inMode m).1 on).1.2
  dsimp only at hruntime ⊢
  rw [hruntime, tally_reconfigure b on m (loads_refuses m)]
  dsimp only
  rw [hasked]
  exact refuses_inMode (b.boost true) m hm

end Earbud

end NoiseControl
