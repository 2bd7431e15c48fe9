import NoiseControl.Proofs.Earbud.PowerOff
import NoiseControl.Proofs.Earbud.Reached
import NoiseControl.Proofs.Earbud.WorkingHardware

/-!
# Power cycles and restarts

When the power goes off the session is saved: whether noise control is asked for, and in which mode.
Switching the power on again goes by just that, so an earbud that is started anew over the saved session
comes to stand where the same earbud stands when its power is switched on again.
-/

namespace NoiseControl

/-- Where an earbud with power stands. -/
structure Resumption where
  state : Lifecycle
  powerOn : Bool
  actualEnabled : Bool
  requestedEnabled : Bool
  requestedMode : Mode
deriving DecidableEq

def Runtime.resumption (r : Runtime) : Resumption where
  state := r.state
  powerOn := r.powerOn
  actualEnabled := r.actualEnabled
  requestedEnabled := r.requestedEnabled
  requestedMode := r.requestedMode

def Runtime.session (r : Runtime) : Session where
  enabled := r.requestedEnabled
  mode := r.requestedMode

/-- Where a session leads to when the power is switched on. -/
def Session.resumption (s : Session) : Resumption where
  state := if s.enabled then .enabled else .disabled
  powerOn := true
  actualEnabled := s.enabled
  requestedEnabled := s.enabled
  requestedMode := s.mode

/-- A session that was to be saved, and whether it was. -/
def Activity.saved? : Activity → Option (Session × Bool)
  | .saved s done => some (s, done)
  | _ => none

namespace Earbud

variable {c : Config} {b on : Earbud}

/-! ### The session is saved -/

/-- The session that is saved over an earlier one, of which the parts stay that are not to be kept. -/
def sessionOver (b : Earbud) (saved : Session) : Session where
  enabled := if b.config.persist.enabled then b.runtime.requestedEnabled else saved.enabled
  mode := if b.config.persist.mode then b.runtime.requestedMode else saved.mode

theorem sessionOver_whole (henabled : b.config.persist.enabled = true)
    (hmode : b.config.persist.mode = true) (saved : Session) :
    b.sessionOver saved = b.runtime.session := by
  unfold sessionOver
  rw [henabled, hmode]
  rfl

theorem saves_saveSession (b : Earbud) (s : Session) :
    let done := !b.failures b.calls (.save s)
    (b.saveSession s).history = .saved s done :: b.history ∧
      (b.saveSession s).store = if done then b.store.save s else b.store := by
  unfold saveSession
  cases b.failures b.calls (.save s) with
  | true => exact ⟨rfl, rfl⟩
  | false => exact ⟨rfl, rfl⟩

/-- The last that is done when the power goes off is that the session is saved, or that this fails. -/
theorem saved_enter (hs : b.runtime.state ≠ .uninitialised)
    (hkeeps : (b.config.persist.enabled || b.config.persist.mode) = true) :
    let off := b.enter .powerOff
    let s := b.sessionOver (b.loadSession.2.getD {})
    let done := !b.failures (b.calls + 1) (.save s)
    off.history = .saved s done :: b.history ∧
      off.store = if done then b.store.save s else b.store := by
  intro off s done
  -- What was saved before is read even if all of it is to be replaced.
  have hoff : off = ((b.stopSettleTimers.cancel .pathGainSettle).loadSession.1.saveSession s).setRuntime
      fun r => { r with state := .powerOff } := by
    show b.enter .powerOff = _
    unfold enter persistSession
    dsimp only
    rw [if_pos ⟨rfl, hs⟩]
    exact congrArg (setRuntime · _) (if_pos hkeeps)
  rw [hoff]
  exact saves_saveSession (b.stopSettleTimers.cancel .pathGainSettle).loadSession.1 s

/-- Anything but saving the session. -/
def unsaving : Extent where
  keeps _ := {}
  timer _ := true
  audio _ := true
  talks := true
  saves := false

theorem hardware_within_unsaving (on : Bool) : (hardware on).Within unsaving where
  keeps _ _ _ := rfl
  timer _ _ := rfl
  audio _ _ := rfl
  talks _ := rfl
  tells _ _ := rfl
  saves h := h

theorem unsaving_windDown (b : Earbud) : Work unsaving b b.windDown := by
  have hquit : ∀ kind, Work unsaving b (windDown.quit b kind) := fun kind =>
    ((Relation.ReflTransGen.single (.command _ rfl)).tail (.command _ rfl)).tail (.runtime _ rfl)
  unfold windDown
  split
  · have hstopped : Work unsaving b (b.setRuntime fun r =>
        { r with powerOn := false, requestedEnabled := true }).stopSettleTimers :=
      (((Relation.ReflTransGen.single (.runtime _ rfl)).tail (.cancel _ rfl)).tail
        (.cancel _ rfl)).tail (.cancel _ rfl)
    exact (hstopped.trans ((work_reconfigure _ false _).mono (hardware_within_unsaving false))).tail
      (.runtime (fun r => { r with actualEnabled := false }) rfl)
  · exact hquit .fixed
  · exact hquit .adaptive
  · exact .single (.runtime _ rfl)

theorem filterMap_saved_of_not_mem {newer : List Activity} (hnone : ∀ s done, .saved s done ∉ newer) :
    newer.reverse.filterMap Activity.saved? = [] := by
  rw [List.filterMap_eq_nil_iff]
  intro activity hmem
  cases activity with
  | saved s done => exact absurd (List.mem_reverse.mp hmem) (hnone s done)
  | _ => rfl

/-- What is done when the power goes off: nothing is saved on the way down, and the session last. -/
theorem saves_powerOff (hs : b.runtime.state.isPowered = true) (hdone : b.followUps = [])
    (hkeeps : (b.config.persist.enabled || b.config.persist.mode) = true) :
    let off := (b.dispatch .powerOff).1
    let s := b.windDown.sessionOver (b.windDown.loadSession.2.getD {})
    let done := !b.windDown.failures (b.windDown.calls + 1) (.save s)
    off.history = .saved s done :: b.windDown.history ∧
      (off.store = if done then b.store.save s else b.store) ∧
      (off.activitiesSince b).filterMap Activity.saved? = [(s, done)] := by
  intro off s done
  obtain ⟨change, -, hoff⟩ := dispatch_powerOff hs hdone
  obtain ⟨hstore, newer, hnewer, hnone⟩ := (unsaving_windDown b).unsaved rfl
  obtain ⟨hhistory, hsaved⟩ :=
    saved_enter (b := b.windDown) (initialised_windDown hs) (by rwa [(work_windDown b).config])
  rw [hstore] at hsaved
  have hlast : off.history = .saved s done :: b.windDown.history := by
    show (b.dispatch .powerOff).1.history = _
    rw [hoff]
    exact hhistory
  refine ⟨hlast, ?_, ?_⟩
  · show (b.dispatch .powerOff).1.store = _
    rw [hoff]
    exact hsaved
  · have hsilent := filterMap_saved_of_not_mem hnone
    have hadded : off.history = (.saved s done :: newer) ++ b.history :=
      hlast.trans (congrArg _ hnewer)
    rw [activitiesSince_eq hadded, List.reverse_cons, List.filterMap_append, hsilent]
    rfl

/-- If a session is saved as the power goes off, it is what noise control is asked for then. -/
theorem Reached.saved_powerOff (h : Reached c on) (hs : on.runtime.state.isPowered = true)
    (henabled : c.persist.enabled = true) (hmode : c.persist.mode = true) {s : Session}
    (hsaved : .saved s true ∈ (on.dispatch .powerOff).1.activitiesSince on) :
    (on.dispatch .powerOff).1.store.data = some (on.dispatch .powerOff).1.runtime.session := by
  have hconfig : on.windDown.config = c := (work_windDown on).config.trans h.config
  have hsession : (on.dispatch .powerOff).1.runtime.session = on.windDown.runtime.session := by
    rcases runtime_powerOff hs h.done with hoff | hoff <;>
      exact (congrArg Runtime.session hoff :)
  obtain ⟨-, hstore, hsaves⟩ := saves_powerOff hs h.done (by rw [h.config, henabled, Bool.true_or])
  have hmem := List.mem_filterMap.mpr ⟨_, hsaved, show Activity.saved? (.saved s true) = _ from rfl⟩
  rw [hsaves, List.mem_singleton, Prod.mk.injEq] at hmem
  rw [hstore, if_pos hmem.2.symm, hsession,
    sessionOver_whole (by rwa [hconfig]) (by rwa [hconfig])]
  rfl

/-! ### The power is switched on again -/

theorem resumption_of_session {r : Runtime} (hpower : r.powerOn = true)
    (hactual : r.actualEnabled = r.requestedEnabled) :
    ({ r with state := if r.actualEnabled then .enabled else .disabled } : Runtime).resumption =
      r.session.resumption := by
  unfold Runtime.resumption Session.resumption Runtime.session
  rw [hpower, hactual]

/-- On working hardware an earbud that is switched on comes to stand as it was asked to, in the mode it
was asked for if noise control is on. -/
theorem powerOn_works (h : HardwareWorks b) (hs : b.runtime.state = .powerOff)
    (hoff : b.runtime.actualEnabled = false) (hm : b.runtime.requestedMode.index < b.runtime.numModes) :
    let after := (b.dispatch .powerOn).1.runtime
    after.resumption = b.runtime.session.resumption ∧
      (after.state = .enabled → after.currentMode = b.runtime.requestedMode) := by
  intro after
  have hafter : after = b.switchPowerOn.runtime := by
    rw [← handle_powerOn hs]
    exact runtime_dispatch b .powerOn
  generalize hpowered : (b.setRuntime fun r => { r with powerOn := true }) = powered
  have hworks : HardwareWorks powered := by rwa [← hpowered]
  have hsession : powered.runtime.session = b.runtime.session := by rw [← hpowered]; rfl
  have hon : powered.runtime.powerOn = true := by rw [← hpowered]; rfl
  have hswitched : b.switchPowerOn.runtime =
      let turned := if b.runtime.requestedEnabled = true then
        (powered.reconfigure true b.runtime.requestedMode).1 else powered
      { turned.runtime with
        state := if turned.runtime.actualEnabled then .enabled else .disabled } := by
    rw [← hpowered]
    exact runtime_enter _ _
  rw [hafter, hswitched, ← hsession]
  dsimp only
  split <;> rename_i hasked
  · obtain ⟨-, hcurrent, hactual, hintent⟩ :=
      reconfigure_works hworks true (m := b.runtime.requestedMode) (by rw [← hpowered]; exact hm)
    have hpower := (congrArg Runtime.powerOn
      (work_reconfigure powered true b.runtime.requestedMode).keeps :)
    generalize (powered.reconfigure true b.runtime.requestedMode).1.runtime = turned at *
    have hkept : turned.session = powered.runtime.session :=
      congrArg (fun i : Intent => Session.mk i.requestedEnabled i.requestedMode) hintent
    have hstill : turned.requestedEnabled = true :=
      (congrArg Session.enabled (hkept.trans hsession)).trans hasked
    rw [← hkept]
    exact ⟨resumption_of_session (hpower.trans hon) (hactual.trans hstill.symm), fun _ => hcurrent⟩
  · have hidle : powered.runtime.actualEnabled = false := by rw [← hpowered]; exact hoff
    have hunasked : powered.runtime.requestedEnabled = false :=
      (congrArg Session.enabled hsession).trans (Bool.eq_false_iff.mpr hasked)
    refine ⟨resumption_of_session hon (hidle.trans hunasked.symm), fun hstate => ?_⟩
    rw [hidle] at hstate
    cases hstate

/-! ### A new start -/

theorem start_unfitted (h : b.config.microphones.fitted = false) : b.start.1 = b := by
  unfold start
  split
  · rfl
  · rw [if_neg (by simp [h])]

theorem Reached.fitted (h : Reached c b) (hs : b.runtime.state ≠ .uninitialised) :
    c.microphones.fitted = true := by
  have hdispatch : ∀ (b : Earbud) e,
      (b.runtime.state ≠ .uninitialised → b.config.microphones.fitted = true) →
      (b.dispatch e).1.runtime.state ≠ .uninitialised →
        (b.dispatch e).1.config.microphones.fitted = true := by
    intro b e hfitted hs
    rw [(work_dispatch b e).config]
    by_cases hu : b.runtime.state = .uninitialised
    · rw [state_dispatch] at hs
      rcases (course_handle b e).uninitialised hu with w | he
      · exact absurd ((congrArg Runtime.state w.keeps :).trans hu) hs
      · by_contra hnone
        rw [he, start_unfitted (Bool.eq_false_iff.mpr hnone)] at hs
        exact hs hu
    · exact hfitted hu
  obtain ⟨clockOrigin, store, moves, rfl⟩ := h
  have hinvariant := run_invariant
    (P := fun b => b.runtime.state ≠ .uninitialised → b.config.microphones.fitted = true)
    (fun b e _ h => hdispatch b e h) (fun b k timers _ h => hdispatch { b with timers := timers } _ h)
    (fun b t h => h) (fun b s h => h) (fun hs => absurd rfl hs) moves hs
  rwa [config_run] at hinvariant

/-- A new earbud that finds a session is initialised to what the session asks for. -/
theorem initialise_saved (hnew : b.runtime = {}) (hworks : ∀ n call, b.failures n call = false)
    (hcheck : b.config.check = .ok ()) (hfitted : b.config.microphones.fitted = true) {s : Session}
    (hsaved : b.store.data = some s) (hm : s.mode.index < b.config.numModes) :
    (b.dispatch .initialise).1.runtime =
      { state := .powerOff, requestedEnabled := s.enabled, requestedMode := s.mode,
        currentMode := s.mode, previousMode := s.mode, numModes := b.config.numModes } := by
  have hstart : (b.handle .initialise).1 = b.start.1 := handle_initialise b (by simp [hnew])
  have hload : b.loadSession = ({ b with calls := b.calls + 1 }, some s) := by
    unfold loadSession
    rw [hworks, hsaved]
    rfl
  have hprobed := attempt_works (b := { b with calls := b.calls + 1 }) (fun n c => hworks n (.audio c))
    (.start b.config.microphones s.mode)
  rw [runtime_dispatch, hstart]
  unfold start
  rw [hcheck]
  dsimp only
  rw [if_pos hfitted, hload]
  dsimp only [Option.map_some, Option.getD_some]
  rw [if_pos hm, hprobed]
  dsimp only
  rw [runtime_enter]
  dsimp only [setRuntime, command]
  rw [hnew]

theorem state_powerOff (hs : b.runtime.state.isPowered = true) (hdone : b.followUps = []) :
    (b.dispatch .powerOff).1.runtime.state = .powerOff := by
  rcases runtime_powerOff hs hdone with hoff | hoff <;> exact (congrArg Runtime.state hoff :)

/-- The power of an earbud goes off, whatever fails meanwhile but the saving of its session.  Switched on
again it stands as a new earbud does that is started over the saved session and switched on. -/
theorem restart_eq_power_cycle (h : Reached c on) (hs : on.runtime.state.isPowered = true)
    (henabled : c.persist.enabled = true) (hmode : c.persist.mode = true) {s : Session}
    (hsaved : .saved s true ∈ (on.dispatch .powerOff).1.activitiesSince on)
    (clockOrigin : Option WallClock) (chain : AudioChain) :
    let off := (on.dispatch .powerOff).1
    let again := ({ off with failures := fun _ _ => false }.dispatch .powerOn).1.runtime
    let fresh := { Earbud.new c clockOrigin off.store with audio := chain }
    let restarted := ((fresh.dispatch .initialise).1.dispatch .powerOn).1.runtime
    restarted.resumption = again.resumption ∧
      (again.state = .enabled → restarted.currentMode = again.currentMode) := by
  intro off again fresh restarted
  have hoff : Reached c off := h.event .powerOff
  have hstate : off.runtime.state = .powerOff := state_powerOff hs h.done
  have hranged := hoff.ranged (by simp [hstate])
  have hcheck : c.check = .ok () := hoff.config ▸ hranged.checked
  have hnum : off.runtime.numModes = c.numModes := hoff.config ▸ hranged.numModes
  have hstored : off.store.data = some off.runtime.session := h.saved_powerOff hs henabled hmode hsaved
  obtain ⟨hagain, hagainMode⟩ := powerOn_works (b := { off with failures := fun _ _ => false })
    (fun _ _ => rfl) hstate (hoff.sound.off (by simp [hstate])) hranged.requested
  have hbegun : (fresh.dispatch .initialise).1.runtime = _ := initialise_saved (b := fresh) rfl
    (fun _ _ => rfl) hcheck (hoff.fitted (by simp [hstate])) hstored (hnum ▸ hranged.requested)
  have hworks : HardwareWorks (fresh.dispatch .initialise).1 :=
    HardwareWorks.work (fun _ _ => rfl) (work_dispatch fresh .initialise)
  obtain ⟨hrestarted, hrestartedMode⟩ := powerOn_works hworks (congrArg Runtime.state hbegun)
    (congrArg Runtime.actualEnabled hbegun) (by rw [hbegun]; exact hnum ▸ hranged.requested)
  rw [hbegun] at hrestarted hrestartedMode
  have hsame : restarted.resumption = again.resumption := hrestarted.trans hagain.symm
  refine ⟨hsame, fun henabled => ?_⟩
  exact (hrestartedMode ((congrArg Resumption.state hsame).trans henabled)).trans
    (hagainMode henabled).symm

/-- A ramp to another mode is under way, and neither is the mode loaded nor does the hardware confirm that
it is off. -/
theorem restart_eq_power_cycle_refused :
    let refused : FailurePattern := fun _ call =>
      call == .audio (.setMode ⟨3⟩) || call == .audio .hardwareOff
    let on := (Earbud.new (.standard "") none {}).run
      [.event .initialise, .event .powerOn, .event .enable, .expiry, .event (.setMode ⟨3⟩),
        .surround ⟨none, {}, refused, none, {}, {}⟩]
    let off := (on.dispatch .powerOff).1
    let again := ({ off with failures := fun _ _ => false }.dispatch .powerOn).1.runtime
    let fresh := { Earbud.new (.standard "") none off.store with audio := {} }
    let restarted := ((fresh.dispatch .initialise).1.dispatch .powerOn).1.runtime
    on.runtime.requestedMode = ⟨3⟩ ∧ again.state = .enabled ∧
      restarted.resumption = again.resumption ∧ restarted.currentMode = again.currentMode := by
  intro refused on
  have hreached : Reached (.standard "") on := reached_run _ _ _ _
  have hpowered : on.runtime.state.isPowered = true := by decide +kernel
  have hasked : on.runtime.requestedMode = ⟨3⟩ := by decide +kernel
  have hsaved : Activity.saved { enabled := true, mode := ⟨0⟩ } true ∈
      (on.dispatch .powerOff).1.activitiesSince on := by decide +kernel
  have henabled : ({ (on.dispatch .powerOff).1 with failures := fun _ _ => false }.dispatch
      .powerOn).1.runtime.state = .enabled := by decide +kernel
  clear_value on
  obtain ⟨hsame, hmode⟩ := restart_eq_power_cycle hreached hpowered rfl rfl hsaved none {}
  exact ⟨hasked, henabled, hsame, hmode henabled⟩

end Earbud

end NoiseControl
