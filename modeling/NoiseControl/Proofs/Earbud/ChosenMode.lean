import NoiseControl.Proofs.Earbud.CallMarks
import NoiseControl.Proofs.Earbud.CallTransparency
import NoiseControl.Proofs.Earbud.Unpowered

/-!
# The mode the user chose during a call

A call that found noise control on notes the mode before it, and its end asks for that mode again unless
the user took another meanwhile.  That the user did is forgotten when noise control is switched off, so
a mode chosen during a call outlasts the call exactly if noise control stays on until the end of it.
-/

namespace NoiseControl

/-- Noise control is switched on or off, an earbud is placed, or quiet mode is negotiated. -/
def Event.leavesMode : Event → Bool
  | .enable | .disable | .placed .. | .silenceDetected | .silenceCleared | .peerRecord _ => true
  | _ => false

/-- What may become of what is asked for where no mode is asked for: noise control is switched on, is to
be switched off after a ramp, or is switched off. -/
inductive Intent.Turns : Intent → Intent → Prop where
  | same (i : Intent) : Turns i i
  | on (i : Intent) (byUser : Bool) (h : i.state = .disabled) :
      Turns i { i with state := .enabled, requestedEnabled := true, userEnabled := byUser }
  | staged (i : Intent) : Turns i { i with requestedEnabled := false }
  | off (i : Intent) (asked : Bool) (h : i.state = .enabled) :
      Turns i { i.off with requestedEnabled := asked }

namespace Intent.Turns

variable {i i' : Intent}

theorem requestedMode (t : Turns i i') : i'.requestedMode = i.requestedMode := by
  cases t <;> rfl

theorem state (t : Turns i i') (h : i.state = .disabled ∨ i.state = .enabled) :
    i'.state = .disabled ∨ i'.state = .enabled := by
  cases t with
  | same => exact h
  | on => exact Or.inr rfl
  | staged => exact h
  | off => exact Or.inl rfl

/-- That the user took a mode is forgotten exactly when noise control is switched off. -/
theorem userSwitchedMode_iff (t : Turns i i') :
    i'.userSwitchedMode = true ↔
      i.userSwitchedMode = true ∧ (i.state = .enabled → i'.state = .enabled) := by
  cases t with
  | same => simp
  | on byUser h => simp
  | staged => simp
  | off asked h => simp [Intent.off, Intent.clearUserFlags, h]

end Intent.Turns

namespace Earbud

variable {c : Config} {a b : Earbud} {m : Mode} {e : Event}

/-! ### After the choice -/

inductive Move.LeavesMode : Move → Prop where
  | passes {m : Move} (h : m.Passes) : LeavesMode m
  | event (e : Event) (he : e.isExternal = true) (h : e.leavesMode = true) : LeavesMode (.event e he)

theorem Move.LeavesMode.not_call {m : Move} (h : m.LeavesMode) :
    m ≠ .event .callStarted ∧ m ≠ .event .callEnded := by
  cases h with
  | passes h => cases h <;> simp
  | event e he h =>
    constructor
    · rintro ⟨⟩
      cases h
    · rintro ⟨⟩
      cases h

theorem turns_of_eq (h : b.runtime.intent = a.runtime.intent) :
    Intent.Turns a.runtime.intent b.runtime.intent := by
  rw [h]
  exact .same _

theorem turns_requestDisable (h : HardwareWorks b) (hr : Ranged b) :
    Intent.Turns b.runtime.intent b.requestDisable.1.runtime.intent := by
  by_cases hs : b.runtime.state = .enabled
  · rcases (requestDisable_works h hr hs).2 with hstaged | hoff
    · rw [hstaged]
      exact .staged _
    · rw [hoff]
      exact .off _ false hs
  · rw [requestDisable_refused hs]
    exact .same _

theorem turns_chooseEnable (h : HardwareWorks b) (hr : Ranged b) :
    Intent.Turns b.runtime.intent b.chooseEnable.1.runtime.intent := by
  by_cases hs : b.runtime.state = .disabled
  · have henabled := (requestEnable_works h hr hs).2
    rcases chooseEnable_fst b with he | he <;> rw [he]
    · rw [henabled]
      exact .on _ b.runtime.userEnabled hs
    · rw [show (b.requestEnable.1.setRuntime fun r => { r with userEnabled := true }).runtime.intent =
        { b.requestEnable.1.runtime.intent with userEnabled := true } from rfl, henabled]
      exact .on _ true hs
  · rw [chooseEnable_refused hs]
    exact .same _

theorem turns_ownPlaced (h : HardwareWorks b) (hr : Ranged b) (p : Placement) :
    Intent.Turns b.runtime.intent (b.ownPlaced p).runtime.intent := by
  unfold ownPlaced
  dsimp only
  split
  · split
    · exact turns_requestDisable (b := b.setRuntime fun r => { r with placement := .inCase }) h
        (hr.same rfl rfl)
    · split <;> exact turns_of_eq rfl
  · exact turns_of_eq rfl

theorem intent_peerPlaced (b : Earbud) (p : Placement) :
    (b.peerPlaced p).runtime.intent = b.runtime.intent := by
  have hreset : (b.setRuntime fun r =>
      { r with peerInCase := p == .inCase }).resetQuietMode.runtime.intent = b.runtime.intent :=
    (congrArg Runtime.intent (runtime_adopt _ _) :)
  unfold peerPlaced
  dsimp only
  split
  · split <;> exact hreset
  · rfl

theorem handle_disable (b : Earbud) : (b.handle .disable).1 = b.requestDisable.1 := by
  by_cases hs : b.runtime.state = .enabled
  · exact congrArg Prod.fst (handleInState_enabled b hs .disable)
  · rw [requestDisable_refused hs]
    show (b.handleInState .disable).1 = b
    unfold handleInState
    split <;> first | rfl | contradiction

theorem intent_silence (hs : e = .silenceDetected ∨ e = .silenceCleared) :
    (b.handle e).1.runtime = b.runtime := by
  have hin : (b.handle e).1 = (b.handleInState e).1 := by rcases hs with rfl | rfl <;> rfl
  rw [hin]
  by_cases hon : b.runtime.state = .enabled
  · rw [handleInState_enabled b hon]
    rcases hs with rfl | rfl <;> exact runtime_whileAdaptive b _
  · unfold handleInState
    rcases hs with rfl | rfl <;> split <;> first | rfl | contradiction

theorem turns_dispatch (h : HardwareWorks b) (hr : Ranged b) (he : e.leavesMode = true) :
    Intent.Turns b.runtime.intent (b.dispatch e).1.runtime.intent := by
  rw [runtime_dispatch]
  cases e with
  | enable => exact turns_chooseEnable h hr
  | disable =>
    rw [handle_disable]
    exact turns_requestDisable h hr
  | placed whose p =>
    cases whose with
    | own => exact turns_ownPlaced h hr p
    | peer => exact turns_of_eq (intent_peerPlaced b p)
  | silenceDetected => exact turns_of_eq (congrArg Runtime.intent (intent_silence (Or.inl rfl)))
  | silenceCleared => exact turns_of_eq (congrArg Runtime.intent (intent_silence (Or.inr rfl)))
  | peerRecord r =>
    refine turns_of_eq ?_
    show (b.receiveRecord r).runtime.intent = _
    unfold receiveRecord
    split
    · rfl
    · rw [runtime_adopt]
  | _ => cases he

theorem Reached.turns_perform (hb : Reached c b) (hs : b.runtime.state ≠ .uninitialised)
    (h : HardwareWorks b) {m : Move} (hm : m.LeavesMode) :
    Intent.Turns b.runtime.intent (b.perform m).runtime.intent := by
  cases hm with
  | event e he hleaves => exact turns_dispatch h (hb.ranged hs) hleaves
  | passes hm =>
    rcases hb.intent_perform hs h hm with hkept | ⟨hstaged, hoff⟩
    · exact turns_of_eq hkept
    · rw [hoff]
      exact .off _ b.runtime.requestedEnabled hstaged.1

theorem HardwareWorks.leavesMode (h : HardwareWorks b) {m : Move} (hm : m.LeavesMode) :
    HardwareWorks (b.perform m) := by
  cases hm with
  | passes hm => exact h.passes hm
  | event e he hleaves => exact h.event e

/-- Noise control is not switched off by any of the moves. -/
def StaysOn (b : Earbud) (moves : List Move) : Prop :=
  ∀ earlier m, earlier ++ [m] <+: moves →
    (b.run earlier).isEnabled = true → (b.run (earlier ++ [m])).isEnabled = true

theorem staysOn_nil (b : Earbud) : b.StaysOn [] := by
  intro earlier m hinitial
  simp at hinitial

theorem staysOn_snoc (b : Earbud) (moves : List Move) (m : Move) :
    b.StaysOn (moves ++ [m]) ↔
      b.StaysOn moves ∧ ((b.run moves).isEnabled = true → (b.run (moves ++ [m])).isEnabled = true) := by
  constructor
  · intro h
    exact ⟨fun earlier m' hinitial => h earlier m' (hinitial.trans (List.prefix_append _ _)),
      h moves m List.prefix_rfl⟩
  · rintro ⟨hbefore, hlast⟩ earlier m' hinitial
    rcases List.prefix_concat_iff.mp hinitial with he | hinitial
    · obtain ⟨rfl, hlasts⟩ := List.append_inj' he rfl
      obtain rfl := List.singleton_inj.mp hlasts
      exact hlast
    · exact hbefore earlier m' hinitial

/-- While noise control is on or off on working hardware and no mode is asked for, the mode that was
asked for stays so, and that the user took it is known as long as noise control is not switched off. -/
theorem Reached.turns_run (hb : Reached c b) (h : HardwareWorks b)
    (hs : b.runtime.state = .disabled ∨ b.runtime.state = .enabled) {moves : List Move}
    (hm : ∀ m ∈ moves, m.LeavesMode) :
    HardwareWorks (b.run moves) ∧
      ((b.run moves).runtime.state = .disabled ∨ (b.run moves).runtime.state = .enabled) ∧
      (b.run moves).runtime.requestedMode = b.runtime.requestedMode ∧
      ((b.run moves).runtime.userSwitchedMode = true ↔
        b.runtime.userSwitchedMode = true ∧ b.StaysOn moves) := by
  induction moves using List.reverseRecOn with
  | nil => exact ⟨h, hs, rfl, by simp [staysOn_nil b, Earbud.run]⟩
  | append_singleton moves m ih =>
    obtain ⟨hworks, hstate, hmode, huser⟩ := ih fun m hmem => hm m (List.mem_append_left _ hmem)
    have hlast := hm m (List.mem_append_right _ List.mem_cons_self)
    have t := (hb.run moves).turns_perform (by rcases hstate with hs | hs <;> simp [hs]) hworks hlast
    rw [staysOn_snoc, run_snoc, isEnabled_iff, isEnabled_iff]
    refine ⟨hworks.leavesMode hlast, t.state hstate, t.requestedMode.trans hmode, ?_⟩
    calc ((b.run moves).perform m).runtime.userSwitchedMode = true
        ↔ (b.run moves).runtime.userSwitchedMode = true ∧
            ((b.run moves).runtime.state = .enabled →
              ((b.run moves).perform m).runtime.state = .enabled) := t.userSwitchedMode_iff
      _ ↔ _ := (and_congr_left' huser).trans and_assoc

/-! ### The choice -/

def picks? (b : Earbud) : Event → Option Mode
  | .setMode m => some m
  | .setNextMode => some (b.runtime.currentMode.next b.runtime.numModes)
  | _ => none

theorem handle_of_picks {pick : Event} (hpick : b.picks? pick = some m) :
    b.handle pick = b.chooseMode m ∧ pick ≠ .callStarted ∧ pick ≠ .callEnded := by
  cases pick with
  | setMode m' =>
    obtain rfl := Option.some.inj hpick
    exact ⟨rfl, nofun, nofun⟩
  | setNextMode =>
    obtain rfl := Option.some.inj hpick
    exact ⟨rfl, nofun, nofun⟩
  | _ => cases hpick

theorem requestMode_ok (hok : (b.requestMode m).2 = .ok ()) :
    (b.runtime.state = .disabled ∨ b.runtime.state = .enabled) ∧
      (b.requestMode m).1.runtime.requestedMode = m := by
  revert hok
  unfold requestMode
  split <;> rename_i hs
  · split
    · nofun
    · intro
      obtain ⟨gain, he⟩ := refreshLeakthrough_eq (b.setRuntime fun r => { r with requestedMode := m })
      exact ⟨Or.inl hs, by rw [he]; rfl⟩
  · split
    · nofun
    · dsimp only
      split
      · exact fun _ => ⟨Or.inr hs, rfl⟩
      · split
        · exact fun _ => ⟨Or.inr hs, rfl⟩
        · exact fun hok => ⟨Or.inr hs, requestedMode_of_ok _ hok⟩
  · nofun

theorem dispatch_picked {pick : Event} (hpick : b.picks? pick = some m)
    (hok : (b.dispatch pick).2 = .ok ()) :
    let after := (b.dispatch pick).1.runtime
    (after.state = .disabled ∨ after.state = .enabled) ∧ after.requestedMode = m ∧
      after.userSwitchedMode = true := by
  obtain ⟨hhandle, -⟩ := handle_of_picks hpick
  have hmoded : (b.requestMode m).2 = .ok () := by
    rw [← outcome_chooseMode, ← hhandle]
    exact hok
  obtain ⟨hs, hasked⟩ := requestMode_ok hmoded
  intro after
  have hafter : after = { (b.requestMode m).1.runtime with userSwitchedMode := true } := by
    have hchosen : after = (b.chooseMode m).1.runtime := by
      rw [← hhandle]
      exact runtime_dispatch b pick
    rw [hchosen, chooseMode_fst, if_pos (by rw [hmoded]; rfl)]
    exact congrArg (fun r : Runtime => { r with userSwitchedMode := true }) (runtime_adopt _ _)
  rw [hafter]
  dsimp only
  rw [state_requestMode]
  exact ⟨hs, hasked, rfl⟩

/-- The end of a call that had noise control take another mode asks for the mode before it, unless the
user is known to have picked one. -/
theorem Reached.requestedMode_callEnded (hb : Reached c b) (h : HardwareWorks b)
    (hcall : c.call.implicitEnable = true)
    (hs : b.runtime.state = .disabled ∨ b.runtime.state = .enabled) {previous : Mode}
    (hnoted : b.marks = ⟨previous, false, true⟩) :
    (b.dispatch .callEnded).1.runtime.requestedMode =
      if b.runtime.userSwitchedMode = true then b.runtime.requestedMode else previous := by
  have hforced : b.runtime.modeForCall = true := congrArg Marks.modeForCall hnoted
  have hprevious : b.runtime.previousMode = previous := congrArg Marks.previousMode hnoted
  have hranged := hb.ranged (by rcases hs with hs | hs <;> simp [hs])
  have hended := (intent_callEnded hs).trans (endCall_works_unforced h hranged (by rwa [hb.config]) hs
    (congrArg Marks.enabledForCall hnoted))
  rw [hforced, Bool.true_and] at hended
  cases huser : b.runtime.userSwitchedMode with
  | true =>
    rw [huser] at hended
    exact congrArg Intent.requestedMode hended
  | false =>
    rw [huser] at hended
    exact (congrArg Intent.requestedMode hended).trans hprevious

/-- A mode that the user picked during a call which had noise control take another mode is asked for
after the call exactly if noise control was not switched off since, or it is the mode from before the
call. -/
theorem chosen_mode_kept_iff {before : Earbud} (hb : Reached c before)
    (hcall : c.call.implicitEnable = true) (hon : before.isEnabled = true)
    (hforced : (before.dispatch .callStarted).1.runtime.modeForCall = true) {between : List Move}
    (hbetween : ∀ mv ∈ between, mv ≠ .event .callStarted ∧ mv ≠ .event .callEnded)
    (pick : Event) (hpicked : pick.isExternal = true) :
    let picking := (before.dispatch .callStarted).1.run between
    let chosen := (picking.dispatch pick).1
    HardwareWorks picking → picking.picks? pick = some m → (picking.dispatch pick).2 = .ok () →
      ∀ later : List Move, (∀ mv ∈ later, mv.LeavesMode) →
        (((chosen.run later).dispatch .callEnded).1.runtime.requestedMode = m ↔
          m = before.runtime.currentMode ∨ chosen.StaysOn later) := by
  intro picking chosen hworks hpick hok later hlater
  have hcalling : Reached c (before.dispatch .callStarted).1 := hb.event .callStarted
  have hpicking : Reached c picking := hcalling.run between
  have hchosen : Reached c chosen := hpicking.event pick hpicked
  have hended : Reached c (chosen.run later) := hchosen.run later
  -- The marks of the call last until it ends.
  have hnoted : (chosen.run later).marks = ⟨before.runtime.currentMode, false, true⟩ := by
    have hinitialised : before.runtime.state ≠ .uninitialised := by
      rw [eq_of_beq hon]
      nofun
    obtain ⟨hbetweens, hstill⟩ :=
      hcalling.marks_run (initialised_dispatch hinitialised .callStarted) hbetween
    obtain ⟨-, hstart, hend⟩ := handle_of_picks hpick
    have hpicks : chosen.marks = picking.marks := marks_dispatch hstill hstart hend
    have hlaters := (hchosen.marks_run (initialised_dispatch hstill pick) fun mv hmv =>
      (hlater mv hmv).not_call).1
    calc (chosen.run later).marks = picking.marks := hlaters.trans hpicks
      _ = (before.dispatch .callStarted).1.marks := hbetweens
      _ = _ := marks_callStarted (by rwa [hb.config]) hon hforced
  obtain ⟨hs, hasked, huser⟩ := dispatch_picked hpick hok
  obtain ⟨hstillWorks, hstate, hmode, hknown⟩ :=
    hchosen.turns_run (hworks.event pick) hs hlater
  have hpickKnown : (chosen.run later).runtime.userSwitchedMode = true ↔ chosen.StaysOn later :=
    hknown.trans (and_iff_right huser)
  rw [hended.requestedMode_callEnded hstillWorks hcall hstate hnoted]
  split <;> rename_i hstays
  · exact iff_of_true (hmode.trans hasked) (Or.inr (hpickKnown.mp hstays))
  · rw [or_iff_left fun hon => hstays (hpickKnown.mpr hon)]
    exact eq_comm

/-- Noise control is to be switched off after a ramp, and the call ends during it. -/
theorem chosen_mode_kept_iff_ramp :
    let before := (Earbud.new (.standard "") none {}).run
      [.event .initialise, .event .powerOn, .event .enable, .expiry]
    let chosen := (((before.dispatch .callStarted).1.run [.wait 60000]).dispatch (.setMode ⟨4⟩)).1
    before.isEnabled = true ∧ before.runtime.currentMode = ⟨0⟩ ∧
      ((chosen.run [.event .disable, .wait 60000]).dispatch .callEnded).1.runtime.requestedMode = ⟨4⟩ := by
  intro before
  dsimp only
  have hreached : Reached (.standard "") before := reached_run _ _ _ _
  have hon : before.isEnabled = true := by decide
  have hbetween : ∀ mv ∈ [Move.wait 60000], mv ≠ .event .callStarted ∧ mv ≠ .event .callEnded := by simp
  have hlater : ∀ mv ∈ [Move.event .disable, .wait 60000], mv.LeavesMode := by
    intro mv hmv
    simp only [List.mem_cons, List.not_mem_nil, or_false] at hmv
    rcases hmv with rfl | rfl
    · exact .event .disable rfl rfl
    · exact .passes (.wait 60000)
  refine ⟨hon, by decide, ?_⟩
  refine (chosen_mode_kept_iff hreached rfl hon (by decide) hbetween (.setMode ⟨4⟩) rfl
    (fun _ _ => rfl) rfl (by decide) _ hlater).mpr (Or.inr ?_)
  refine (staysOn_snoc _ [.event .disable] (.wait 60000)).mpr ⟨?_, by decide⟩
  exact (staysOn_snoc _ [] (.event .disable)).mpr ⟨staysOn_nil _, by decide⟩

/-- The user takes a mode during a call, switches noise control off and on again, and has the mode from
before the call after it. -/
theorem chosen_mode_forgotten : ¬∀ (c : Config) (before : Earbud), Reached c before →
    HardwareWorks before → c.call.implicitEnable = true → before.isEnabled = true →
    (before.dispatch .callStarted).1.runtime.modeForCall = true →
    ∀ between : List Move,
      (∀ mv ∈ between, mv ≠ .event .callStarted ∧ mv ≠ .event .callEnded) →
      (∀ earlier, earlier <+: between →
        HardwareWorks ((before.dispatch .callStarted).1.run earlier)) →
      ∀ (pick : Event) (m : Mode), pick.isExternal = true →
        let picking := (before.dispatch .callStarted).1.run between
        picking.picks? pick = some m → (picking.dispatch pick).2 = .ok () →
          ∀ later : List Move, (∀ mv ∈ later, mv.LeavesMode) →
            (((picking.dispatch pick).1.run later).dispatch .callEnded).1.runtime.requestedMode = m := by
  intro h
  have hlater : ∀ mv ∈ [Move.event .disable, .event .enable], mv.LeavesMode := by
    intro mv hmv
    simp only [List.mem_cons, List.not_mem_nil, or_false] at hmv
    rcases hmv with rfl | rfl <;> exact .event _ rfl rfl
  have hkept := h { Config.standard "" with adaptive := false } _
    (reached_run _ none {} [.event .initialise, .event .powerOn, .event .enable]) (fun _ _ => rfl) rfl
    (by decide) (by decide) [] (by simp)
    (fun earlier hinitial => by
      rw [List.prefix_nil.mp hinitial]
      exact fun _ _ => rfl)
    (.setMode ⟨4⟩) ⟨4⟩ rfl rfl (by decide) _ hlater
  exact absurd hkept (by decide +kernel)

end Earbud

end NoiseControl
