import NoiseControl.Proofs.Earbud.Reached
import NoiseControl.Proofs.Earbud.WorkingHardware

/-!
# What a call gives back

A call switches noise control on, or has it take another mode, and its end takes that back.  On working
hardware whether noise control is on comes back in any case, even where a ramp down is under way when
the call ends.  The mode that was asked for comes back only where noise control was on before: where the
call switched it on, the end switches it off and the mode for calls stays asked for.
-/

namespace NoiseControl

/-- A switch off is asked for and has not come about. -/
def Intent.Staged (i : Intent) : Prop := i.state = .enabled ∧ i.requestedEnabled = false

def Intent.off (i : Intent) : Intent := { i.clearUserFlags with state := .disabled }

namespace Earbud

variable {c : Config} {b : Earbud} {m : Move}

/-- Nothing happens but that time passes, timers expire, and the surroundings change, with hardware
that works. -/
inductive Move.Passes : Move → Prop where
  | expiry : Passes .expiry
  | wait (t : Nat) : Passes (.wait t)
  | surround (s : Surroundings) (h : ∀ n c, s.failures n (.audio c) = false) : Passes (.surround s)

/-! ### Time that passes -/

theorem HardwareWorks.passes (h : HardwareWorks b) (hm : m.Passes) : HardwareWorks (b.perform m) := by
  rw [perform_eq]
  cases hm with
  | expiry =>
    simp only [dispatched?]
    cases b.timers.popDue? with
    | none => exact h
    | some p => exact HardwareWorks.event (b := { b with timers := p.2 }) h _
  | wait t => exact h
  | surround s hs => exact hs

theorem HardwareWorks.run (h : HardwareWorks b) {moves : List Move} (hm : ∀ m ∈ moves, m.Passes) :
    HardwareWorks (b.run moves) := by
  induction moves generalizing b with
  | nil => exact h
  | cons m rest ih =>
    exact ih (h.passes (hm m List.mem_cons_self)) fun m' hm' => hm m' (List.mem_cons_of_mem _ hm')

/-- As time passes nothing bears on what is asked for, but a switch off that is staged may come
about. -/
theorem Reached.intent_perform (hb : Reached c b) (hs : b.runtime.state ≠ .uninitialised)
    (h : HardwareWorks b) (hm : m.Passes) :
    (b.perform m).runtime.intent = b.runtime.intent ∨
      b.runtime.intent.Staged ∧ (b.perform m).runtime.intent = b.runtime.intent.off := by
  rw [perform_eq]
  cases hm with
  | expiry =>
    simp only [dispatched?]
    cases hdue : b.timers.popDue? with
    | none => exact Or.inl rfl
    | some p =>
      obtain ⟨k, timers⟩ := p
      have hexpired :=
        expiry_works (b := { b with timers := timers }) h ((hb.ranged hs).same rfl rfl) k
      dsimp only [Option.map_some]
      rw [hexpired]
      split <;> rename_i hoff
      · obtain ⟨armed, hfind, -, -, -⟩ := hb.sound.order.popDue?_eq_some hdue
        have harmed : b.timers.isArmed .muteBeforeDisable = true := by
          rw [← hoff.1]
          simp [TimerQueue.isArmed, hfind]
        exact Or.inr ⟨hb.poised.ramp harmed, rfl⟩
      · exact Or.inl rfl
  | wait t => exact Or.inl rfl
  | surround s hs => exact Or.inl rfl

theorem Reached.intent_run (hb : Reached c b) (hs : b.runtime.state ≠ .uninitialised)
    (h : HardwareWorks b) {later : List Move} (hlater : ∀ m ∈ later, m.Passes) :
    (b.run later).runtime.intent = b.runtime.intent ∨
      b.runtime.intent.Staged ∧ (b.run later).runtime.intent = b.runtime.intent.off := by
  induction later using List.reverseRecOn with
  | nil => exact Or.inl rfl
  | append_singleton later m ih =>
    have hbefore : ∀ m ∈ later, m.Passes := fun m hm => hlater m (List.mem_append_left _ hm)
    have hlast := hlater m (List.mem_append_right _ List.mem_cons_self)
    have ih := ih hbefore
    have hstill : (b.run later).runtime.state ≠ .uninitialised := by
      rcases ih with he | ⟨-, he⟩
      · exact fun hu => hs ((congrArg Intent.state he).symm.trans hu)
      · have hoff : (b.run later).runtime.state = .disabled := congrArg Intent.state he
        simp [hoff]
    rw [run_snoc]
    rcases (hb.run later).intent_perform hstill (h.run hbefore) hlast with hkept | ⟨hstaged, hoff⟩
    · rw [hkept]
      exact ih
    · rcases ih with he | ⟨-, he⟩
      · rw [he] at hstaged hoff
        exact Or.inr ⟨hstaged, hoff⟩
      -- Once it has come about nothing is staged any more.
      · rw [he] at hstaged
        exact nomatch hstaged.1

/-! ### The call -/

/-- An earbud is reached, its hardware works, and this is what it is asked for. -/
structure Intends (c : Config) (i : Intent) (b : Earbud) : Prop where
  reached : Reached c b
  works : HardwareWorks b
  intent : b.runtime.intent = i

namespace Intends

variable {i : Intent} (h : Intends c i b)

include h

theorem state : b.runtime.state = i.state := congrArg Intent.state h.intent

theorem ranged (hs : i.state ≠ .uninitialised) : Ranged b := h.reached.ranged (h.state ▸ hs)

theorem event {e : Event} (he : e.isExternal = true) {i' : Intent}
    (hi : (b.dispatch e).1.runtime.intent = i') : Intends c i' (b.dispatch e).1 :=
  ⟨h.reached.event e he, h.works.work (work_dispatch b e), hi⟩

theorem run (hs : i.state ≠ .uninitialised) {moves : List Move} (hm : ∀ m ∈ moves, m.Passes) :
    Intends c i (b.run moves) ∨ i.Staged ∧ Intends c i.off (b.run moves) := by
  have hreached := h.reached.run moves
  have hworks := h.works.run hm
  rcases h.reached.intent_run (h.state ▸ hs) h.works hm with hkept | ⟨hstaged, hoff⟩
  · exact Or.inl ⟨hreached, hworks, hkept.trans h.intent⟩
  · rw [h.intent] at hstaged hoff
    exact Or.inr ⟨hstaged, hreached, hworks, hoff⟩

theorem run_unstaged (hs : i.state ≠ .uninitialised) (hi : ¬i.Staged) {moves : List Move}
    (hm : ∀ m ∈ moves, m.Passes) : Intends c i (b.run moves) :=
  (h.run hs hm).resolve_right fun hstaged => hi hstaged.1

/-- What is staged has a ramp, so without one it has come about. -/
theorem run_idle (hs : i.state ≠ .uninitialised) (hi : i.Staged) {moves : List Move}
    (hm : ∀ m ∈ moves, m.Passes) (hidle : (b.run moves).ramping = false) :
    Intends c i.off (b.run moves) := by
  rcases h.run hs hm with hkept | ⟨-, hoff⟩
  · have hramping := hkept.reached.ramping_of_staged (hkept.state.trans hi.1)
      ((congrArg Intent.requestedEnabled hkept.intent).trans hi.2)
    exact nomatch hidle.symm.trans hramping
  · exact hoff

theorem callStarted_disabled (hcall : c.call.implicitEnable = true) (hs : i.state = .disabled) :
    Intends c
      { i.clearCall with
        state := .enabled, requestedEnabled := true, requestedMode := c.call.mode,
        enabledForCall := true } (b.dispatch .callStarted).1 := by
  have hoff := h.state.trans hs
  have hstarted := startCall_works_disabled h.works (h.ranged (by simp [hs]))
    (by rwa [h.reached.config]) hoff
  rw [h.reached.config, h.intent] at hstarted
  exact h.event rfl ((intent_callStarted (Or.inl hoff)).trans hstarted)

theorem callStarted_enabled (hcall : c.call.implicitEnable = true) (hs : i.state = .enabled) :
    Intends c
      (if b.runtime.currentMode = c.call.mode then i.clearCall
      else
        { i.clearCall with
          requestedMode := c.call.mode, previousMode := b.runtime.currentMode, modeForCall := true })
      (b.dispatch .callStarted).1 := by
  have hon := h.state.trans hs
  have hstarted := startCall_works_enabled h.works (h.ranged (by simp [hs]))
    (by rwa [h.reached.config]) hon
  rw [h.reached.config, h.intent] at hstarted
  exact h.event rfl ((intent_callStarted (Or.inr hon)).trans hstarted)

theorem callEnded_forced (hcall : c.call.implicitEnable = true) (hs : i.state = .enabled)
    (hforced : i.enabledForCall = true) (huser : i.userEnabled = false) :
    Intends c { i.clearCall with requestedEnabled := false } (b.dispatch .callEnded).1 ∨
      Intends c { i.clearCall with state := .disabled, requestedEnabled := false }
        (b.dispatch .callEnded).1 := by
  have hon := h.state.trans hs
  have hend := endCall_works_forced h.works (h.ranged (by simp [hs])) (by rwa [h.reached.config]) hon
    ((congrArg Intent.enabledForCall h.intent).trans hforced)
    ((congrArg Intent.userEnabled h.intent).trans huser)
  have hsame := intent_callEnded (Or.inr hon)
  rw [h.intent] at hend
  exact hend.imp (fun hstaged => h.event rfl (hsame.trans hstaged)) fun hoff =>
    h.event rfl (hsame.trans hoff)

theorem callEnded_unforced (hcall : c.call.implicitEnable = true)
    (hs : i.state = .disabled ∨ i.state = .enabled) (hforced : i.enabledForCall = false) :
    Intends c
      (if i.modeForCall && !i.userSwitchedMode then
        { i.clearCall with requestedMode := i.previousMode }
      else i.clearCall) (b.dispatch .callEnded).1 := by
  have hb : b.runtime.state = .disabled ∨ b.runtime.state = .enabled := by rwa [h.state]
  have hend := endCall_works_unforced h.works
    (h.ranged (by rcases hs with hs | hs <;> simp [hs])) (by rwa [h.reached.config]) hb
    ((congrArg Intent.enabledForCall h.intent).trans hforced)
  refine h.event rfl ((intent_callEnded hb).trans ?_)
  rw [hend, ← h.intent]
  rfl

end Intends

theorem call_from_disabled {i : Intent} (h : Intends c i b) (hcall : c.call.implicitEnable = true)
    (hs : i.state = .disabled) {during later : List Move} (hduring : ∀ m ∈ during, m.Passes)
    (hlater : ∀ m ∈ later, m.Passes)
    (hidle : ((((b.dispatch .callStarted).1.run during).dispatch .callEnded).1.run later).ramping =
      false) :
    let ended := (((b.dispatch .callStarted).1.run during).dispatch .callEnded).1.run later
    ended.runtime.state = .disabled ∧ ended.runtime.requestedMode = c.call.mode := by
  have hheld := (h.callStarted_disabled hcall hs).run_unstaged (by simp) (by simp [Intent.Staged]) hduring
  intro ended
  rcases hheld.callEnded_forced hcall rfl rfl rfl with hstaged | hoff
  · have hended := hstaged.run_idle (by simp [Intent.clearCall, Intent.clearUserFlags]) ⟨rfl, rfl⟩ hlater
      hidle
    exact ⟨hended.state, congrArg Intent.requestedMode hended.intent⟩
  · have hended := hoff.run_unstaged (by simp) (by simp [Intent.Staged]) hlater
    exact ⟨hended.state, congrArg Intent.requestedMode hended.intent⟩

theorem call_ends_unforced {i : Intent} (h : Intends c i b) (hcall : c.call.implicitEnable = true)
    (hs : i.state = .enabled) (hasked : i.requestedEnabled = true) (hforced : i.enabledForCall = false)
    {during later : List Move} (hduring : ∀ m ∈ during, m.Passes) (hlater : ∀ m ∈ later, m.Passes) :
    let ended := ((b.run during).dispatch .callEnded).1.run later
    ended.runtime.state = .enabled ∧
      ended.runtime.requestedMode =
        if i.modeForCall && !i.userSwitchedMode then i.previousMode else i.requestedMode := by
  intro ended
  have hlasts : ∀ {i : Intent} {b : Earbud} {moves : List Move}, Intends c i b → i.state = .enabled →
      i.requestedEnabled = true → (∀ m ∈ moves, m.Passes) → Intends c i (b.run moves) := by
    intro i b moves h hs hasked hm
    exact h.run_unstaged (by simp [hs]) (fun hstaged => nomatch hasked.symm.trans hstaged.2) hm
  have hhung := (hlasts h hs hasked hduring).callEnded_unforced hcall (Or.inr hs) hforced
  split at hhung <;> rename_i hnoted
  · have hended := hlasts hhung hs hasked hlater
    rw [if_pos hnoted]
    exact ⟨hended.state.trans hs, congrArg Intent.requestedMode hended.intent⟩
  · have hended := hlasts hhung hs hasked hlater
    rw [if_neg hnoted]
    exact ⟨hended.state.trans hs, congrArg Intent.requestedMode hended.intent⟩

theorem call_from_enabled {i : Intent} (h : Intends c i b) (hcall : c.call.implicitEnable = true)
    (hs : i.state = .enabled) (hasked : i.requestedEnabled = true)
    (hmode : i.requestedMode = b.runtime.currentMode) {during later : List Move}
    (hduring : ∀ m ∈ during, m.Passes) (hlater : ∀ m ∈ later, m.Passes) :
    let ended := (((b.dispatch .callStarted).1.run during).dispatch .callEnded).1.run later
    ended.runtime.state = .enabled ∧ ended.runtime.requestedMode = i.requestedMode := by
  have hstarted := h.callStarted_enabled hcall hs
  split at hstarted
  · exact call_ends_unforced hstarted hcall hs hasked rfl hduring hlater
  · rw [hmode]
    exact call_ends_unforced hstarted hcall hs hasked rfl hduring hlater

/-- On working hardware noise control is as it was once a call and its ramps are over, whatever time
passes meanwhile.  The mode that is asked for is as it was exactly if noise control was on before, or
that for calls was asked for anyway. -/
theorem call_transparent_iff {before : Earbud} (hb : Reached c before) (h : HardwareWorks before)
    (hcall : c.call.implicitEnable = true)
    (hs : before.runtime.state = .disabled ∨
      before.runtime.state = .enabled ∧ before.ramping = false)
    {during later : List Move} (hduring : ∀ m ∈ during, m.Passes) (hlater : ∀ m ∈ later, m.Passes)
    (hidle : (before.run (.event .callStarted :: during ++ .event .callEnded :: later)).ramping =
      false) :
    let ended := before.run (.event .callStarted :: during ++ .event .callEnded :: later)
    ended.isEnabled = before.isEnabled ∧
      (ended.runtime.requestedMode = before.runtime.requestedMode ↔
        before.isEnabled = true ∨ before.runtime.requestedMode = c.call.mode) := by
  have hintends : Intends c before.runtime.intent before := ⟨hb, h, rfl⟩
  have hrun : before.run (.event .callStarted :: during ++ .event .callEnded :: later) =
      (((before.dispatch .callStarted).1.run during).dispatch .callEnded).1.run later :=
    run_append _ _ _
  rw [hrun] at hidle ⊢
  dsimp only
  rcases hs with hoff | ⟨hon, hsettled⟩
  · obtain ⟨hstate, hmode⟩ := call_from_disabled hintends hcall hoff hduring hlater hidle
    have hwas : before.isEnabled = false := isEnabled_eq_false (by simp [hoff])
    rw [isEnabled_eq_false (by simp [hstate]), hmode, hwas]
    exact ⟨rfl, by simp [eq_comm]⟩
  · obtain ⟨hasked, hloaded⟩ := hb.settled hon hsettled
    obtain ⟨hstate, hmode⟩ := call_from_enabled hintends hcall hon hasked hloaded hduring hlater
    have hwas := before.isEnabled_iff.mpr hon
    rw [(isEnabled_iff _).mpr hstate, hwas]
    exact ⟨rfl, iff_of_true hmode (Or.inl rfl)⟩

/-- A call comes and ends while adaptive processing runs in another mode, and the ramp of its mode is
not over when it ends. -/
theorem call_transparent_iff_overtaken :
    let before := (Earbud.new (.standard "") none {}).run
      [.event .initialise, .event .powerOn, .event .enable, .expiry]
    let ended := before.run
      (.event .callStarted :: [.wait 60000, .expiry] ++ .event .callEnded :: [.wait 200000, .expiry])
    before.isEnabled = true ∧ before.ramping = false ∧ ended.isEnabled = true ∧
      ended.runtime.requestedMode = before.runtime.requestedMode := by
  intro before
  dsimp only
  have hpasses : ∀ t, ∀ m ∈ [Move.wait t, .expiry], m.Passes := by
    intro t m hm
    simp only [List.mem_cons, List.not_mem_nil, or_false] at hm
    rcases hm with rfl | rfl
    · exact .wait t
    · exact .expiry
  have hreached : Reached (.standard "") before := reached_run _ _ _ _
  have hon : before.isEnabled = true := by decide
  have hsettled : before.ramping = false := by decide
  have htransparent := call_transparent_iff hreached (fun _ _ => rfl) rfl
    (Or.inr ⟨eq_of_beq hon, hsettled⟩) (hpasses 60000) (hpasses 200000) (by decide +kernel)
  exact ⟨hon, hsettled, htransparent.1.trans hon, htransparent.2.mpr (Or.inl hon)⟩

/-- A call switches noise control on, and its mode stays asked for when it has ended. -/
theorem call_mode_stays : ¬∀ (c : Config) (before : Earbud), Reached c before → HardwareWorks before →
    c.call.implicitEnable = true →
    (before.runtime.state = .disabled ∨
      before.runtime.state = .enabled ∧ before.ramping = false) →
    ∀ during later : List Move, (∀ m ∈ during, m.Passes) → (∀ m ∈ later, m.Passes) →
      let ended := before.run (.event .callStarted :: during ++ .event .callEnded :: later)
      ended.ramping = false →
        ended.isEnabled = before.isEnabled ∧
          ended.runtime.requestedMode = before.runtime.requestedMode := by
  intro h
  have hsame := h (.standard "") _
    (reached_run _ none {} [.event .initialise, .event .powerOn]) (fun _ _ => rfl) (by decide)
    (by decide) [] [] (by simp) (by simp) (by decide)
  exact absurd hsame.2 (by decide)

end Earbud

end NoiseControl
