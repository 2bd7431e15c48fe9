import NoiseControl.Proofs.Earbud.Expiry
import NoiseControl.Proofs.Pair.Stage

/-!
# Bringing an earbud of a pair up

Initialised, switched on and with noise control on, an earbud with microphones waits for adaptive
processing to start.  One without microphones refuses all of it and stays as it was made.
-/

namespace NoiseControl

namespace Earbud

variable {c : Config} {side : Side} {b : Earbud}

def ofPair (c : Config) (side : Side) : Earbud :=
  .new { c with side := side } (some Pair.clockOrigin) {}

def powered (c : Config) (side : Side) : Earbud :=
  { ofPair c side with
    runtime :=
      { state := .disabled, powerOn := true, requestedMode := c.defaultMode,
        currentMode := c.defaultMode, previousMode := c.defaultMode, numModes := c.numModes }
    audio := { mode := c.defaultMode }
    calls := 2
    history := [.audio (.start c.microphones c.defaultMode) true] }

theorem dispatch_powered (hc : c.check = .ok ()) (hf : c.microphones.fitted = true) :
    (((ofPair c side).dispatch .initialise).1.dispatch .powerOn).1 = powered c side := by
  have hstart : (ofPair c side).start =
      ({ powered c side with
        runtime := { (powered c side).runtime with state := .powerOff, powerOn := false } },
        .ok ()) := by
    have hcheck : (ofPair c side).config.check = .ok () := hc
    have hfitted : (ofPair c side).config.microphones.fitted = true := hf
    unfold start
    rw [hcheck]
    dsimp only
    rw [if_pos hfitted]
    rfl
  have hfirst : ((ofPair c side).dispatch .initialise).1 =
      { powered c side with
        runtime := { (powered c side).runtime with state := .powerOff, powerOn := false } } := by
    show ((ofPair c side).start).1.finishFollowUps = _
    rw [hstart]
    rfl
  rw [hfirst]
  rfl

theorem paired_ofPair (c : Config) (side : Side) : Paired c side 0 (ofPair c side) where
  config := rfl
  clock := rfl
  reliable := rfl
  done := rfl
  connected := rfl
  delay := rfl
  ties := rfl
  now := rfl
  order := TimerQueue.inOrder_empty

theorem paired_powered (c : Config) (side : Side) : Paired c side 0 (powered c side) where
  config := rfl
  clock := rfl
  reliable := rfl
  done := rfl
  connected := rfl
  delay := rfl
  ties := rfl
  now := rfl
  order := TimerQueue.inOrder_empty

theorem switchHardware_on (hreliable : b.failures = fun _ _ => false)
    (hadaptive : b.config.adaptive = true) (hoff : b.audio.adaptive = false) :
    (b.switchHardware true).1 =
      ((({ b.command .hardwareOn with calls := b.calls + 1 }.setRuntime fun r =>
        { r with actualEnabled := true }).arm .configSettle b.config.timing.configSettle).announce
          (.stateChanged true)) := by
  have hsettles : ∀ a : Earbud, a.config = b.config → a.audio.adaptive = false →
      a.settleAdaptive = a.arm .configSettle b.config.timing.configSettle := by
    intro a hconfig hidle
    unfold settleAdaptive
    rw [if_pos (by simp [hconfig, hadaptive, hidle]), hconfig]
  unfold switchHardware hardwareOn
  rw [if_pos rfl, if_pos hadaptive, attempt_reliable hreliable]
  dsimp only
  rw [if_pos rfl]
  exact congrArg (fun a : Earbud => a.announce (.stateChanged true)) (hsettles _ rfl hoff)

theorem reconfigure_on {m : Mode} (hmode : m = b.runtime.currentMode)
    (hoff : b.runtime.actualEnabled = false) (hadaptive : b.config.adaptive = true) :
    (b.reconfigure true m).1 = ((((b.boost true).switchHardware true).1).announceAdaptiveChange
      b.runtime.actualEnabled b.runtime.currentMode).boost false := by
  have hm : m = (b.boost true).runtime.currentMode := hmode
  have hswitch : ¬(b.boost true).runtime.actualEnabled = true := by
    rw [show (b.boost true).runtime.actualEnabled = false from hoff]
    decide
  have hconfig : (((b.boost true).switchHardware true).1).config = b.config :=
    (work_switchHardware (b.boost true) true).config
  rw [reconfigure_fst]
  dsimp only
  rw [if_pos hm, if_neg hswitch, if_pos (by rw [hconfig, hadaptive])]

theorem requestEnable_disabled (hs : b.runtime.state = .disabled) {a : Earbud}
    (ha : a = b.setRuntime fun r => { r with requestedEnabled := true })
    (hon : (a.reconfigure true b.runtime.requestedMode).1.runtime.actualEnabled = true) :
    b.requestEnable.1 = (a.reconfigure true b.runtime.requestedMode).1.enter .enabled := by
  subst ha
  unfold requestEnable
  rw [hs]
  exact if_pos hon

theorem operating_requestEnable (side : Side) (ha : c.adaptive = true) :
    (powered c side).requestEnable.1.Operating ∧
      (powered c side).requestEnable.1.audio.adaptive = false ∧
      (powered c side).requestEnable.1.timers.deadline? .configSettle = some c.timing.configSettle := by
  obtain ⟨a, hasked⟩ :
      ∃ a, (powered c side).setRuntime (fun r => { r with requestedEnabled := true }) = a := ⟨_, rfl⟩
  have hreconf := reconfigure_on (b := a) (m := c.defaultMode) (by rw [← hasked]; rfl)
    (by rw [← hasked]; rfl) (by rw [← hasked]; exact ha)
  have hswitch := switchHardware_on (b := a.boost true) (by rw [← hasked]; rfl)
    (by rw [← hasked]; exact ha) (by rw [← hasked]; rfl)
  generalize ((a.boost true).switchHardware true).1 = x at hreconf hswitch
  have w := work_announceAdaptiveChange x a.runtime.actualEnabled a.runtime.currentMode
  generalize x.announceAdaptiveChange a.runtime.actualEnabled a.runtime.currentMode = y at hreconf w
  have hkept : gains.keeps y.runtime = gains.keeps x.runtime := w.keeps
  have hon : (y.boost false).runtime.actualEnabled = true := by
    have hon : y.runtime.actualEnabled = x.runtime.actualEnabled := (congrArg Runtime.actualEnabled hkept :)
    rw [hswitch] at hon
    exact hon
  have hreconf : (a.reconfigure true (powered c side).runtime.requestedMode).1 = y.boost false := hreconf
  rw [requestEnable_disabled rfl hasked.symm (by rw [hreconf, hon]), hreconf]
  have hpeer : y.runtime.peerInCase = x.runtime.peerInCase := (congrArg Runtime.peerInCase hkept :)
  have hadaptive : y.audio.adaptive = x.audio.adaptive :=
    w.adaptive (fun _ _ _ => rfl) rfl fun _ => rfl
  have htimers : x.timers = ({} : TimerQueue).arm .configSettle c.timing.configSettle := by
    rw [hswitch, ← hasked]
    rfl
  have hfree : x.runtime.peerInCase = false ∧ x.audio.adaptive = false := by
    rw [hswitch, ← hasked]
    exact ⟨rfl, rfl⟩
  have hop : ((y.boost false).enter .enabled).Operating := by
    refine ⟨rfl, hon, hpeer.trans hfree.1, fun k hk => ?_⟩
    have hgain : gains.timer k = false := by cases k <;> first | rfl | cases hk
    have hsettle : k ≠ .configSettle := by
      rintro rfl
      cases hk
    show y.timers.find? k = none
    rw [w.find? hgain, htimers, TimerQueue.find?_arm, if_neg hsettle]
    rfl
  refine ⟨hop, hadaptive.trans hfree.2, ?_⟩
  show y.timers.deadline? .configSettle = _
  rw [w.deadline? rfl, htimers, TimerQueue.deadline?_arm, if_pos rfl]
  exact congrArg some (Nat.zero_add _)

theorem stands_enabled (ha : c.adaptive = true) :
    Paired c side 0 ((powered c side).dispatch .enable).1 ∧
      Stands (.settling c.timing.configSettle) ((powered c side).dispatch .enable).1 ∧
      ((powered c side).dispatch .enable).1.waiting? = none := by
  have w := work_chooseEnable (powered c side)
  have hpaired := (paired_powered c side).silent w rfl
  obtain ⟨hq, -, hlink⟩ := w.silent rfl
  have heq : ((powered c side).dispatch .enable).1 = (powered c side).chooseEnable.1 :=
    finishFollowUps_eq_self _ hpaired.done
  obtain ⟨hop, hoff, hsettle⟩ := operating_requestEnable side ha
  have hact : (Stance.settling c.timing.configSettle).Activity (powered c side).chooseEnable.1 := by
    rcases chooseEnable_fst (powered c side) with h | h <;> rw [h]
    · exact ⟨hop, hoff, hsettle⟩
    · exact ⟨hop.of_eq rfl rfl rfl fun _ _ => rfl, hoff, hsettle⟩
  have hfree : (powered c side).quietMode.Free false :=
    ⟨rfl, QuietMode.Record.plain_clear, QuietMode.Record.plain_clear⟩
  rw [heq]
  refine ⟨hpaired, ⟨hact, hq ▸ hfree, fun d => w.deadline? rfl⟩, ?_⟩
  rw [waiting?, hlink]
  rfl

/-- An earbud that cannot be initialised refuses to be brought up. -/
theorem dispatch_unstarted {reason : Error}
    (hstart : (ofPair c side).start = (ofPair c side, .error reason)) :
    ((((ofPair c side).dispatch .initialise).1.dispatch .powerOn).1.dispatch .enable).1 =
      ofPair c side := by
  have hfirst : ((ofPair c side).dispatch .initialise).1 = ofPair c side := by
    show ((ofPair c side).start).1.finishFollowUps = _
    rw [hstart]
    rfl
  rw [hfirst]
  rfl

theorem dispatch_absent (hc : c.check = .ok ()) (hf : c.microphones.fitted = false) :
    ((((ofPair c side).dispatch .initialise).1.dispatch .powerOn).1.dispatch .enable).1 =
      ofPair c side := by
  have hcheck : (ofPair c side).config.check = .ok () := hc
  have hfitted : ¬(ofPair c side).config.microphones.fitted = true := by
    rw [show (ofPair c side).config.microphones.fitted = false from hf]
    decide
  have hstart : (ofPair c side).start = (ofPair c side, .error (.start .noMicrophones)) := by
    unfold start
    rw [hcheck]
    dsimp only
    rw [if_neg hfitted]
  exact dispatch_unstarted hstart

theorem dispatch_rejected {fault : ConfigFault} (hc : c.check = .error fault) :
    ((((ofPair c side).dispatch .initialise).1.dispatch .powerOn).1.dispatch .enable).1 =
      ofPair c side := by
  have hcheck : (ofPair c side).config.check = .error fault := hc
  have hstart : (ofPair c side).start = (ofPair c side, .error (.config fault)) := by
    unfold start
    rw [hcheck]
  exact dispatch_unstarted hstart

theorem stands_ofPair (c : Config) (side : Side) : Stands .absent (ofPair c side) where
  activity := ⟨rfl, rfl⟩
  negotiation := ⟨rfl, QuietMode.Record.plain_clear, QuietMode.Record.plain_clear⟩
  timers _ := rfl

def broughtUp (c : Config) (side : Side) : Earbud :=
  ((((ofPair c side).dispatch .initialise).1.dispatch .powerOn).1.dispatch .enable).1

/-- Both earbuds of a pair are brought up alike. -/
theorem stands_broughtUp (hc : c.check = .ok ()) (ha : c.adaptive = true) :
    ∃ x : Stance, x.isEarly = true ∧ ∀ side, Paired c side 0 (broughtUp c side) ∧
      Stands x (broughtUp c side) ∧ (broughtUp c side).waiting? = none := by
  cases hf : c.microphones.fitted with
  | true =>
    refine ⟨.settling c.timing.configSettle, rfl, fun side => ?_⟩
    rw [broughtUp, dispatch_powered hc hf]
    exact stands_enabled ha
  | false =>
    refine ⟨.absent, rfl, fun side => ?_⟩
    rw [broughtUp, dispatch_absent hc hf]
    exact ⟨paired_ofPair c side, stands_ofPair c side, rfl⟩

/-- Bringing an earbud up is no occasion to negotiate. -/
theorem quietMode_broughtUp (c : Config) (side : Side) :
    (broughtUp c side).quietMode = (ofPair c side).quietMode := by
  cases hc : c.check with
  | error fault => rw [broughtUp, dispatch_rejected hc]
  | ok =>
    cases hf : c.microphones.fitted with
    | true =>
      rw [broughtUp, dispatch_powered hc hf]
      obtain ⟨hq, hdone, -⟩ := (work_chooseEnable (powered c side)).silent rfl
      have heq : ((powered c side).dispatch .enable).1 = (powered c side).chooseEnable.1 :=
        finishFollowUps_eq_self _ hdone
      rw [heq, hq]
      rfl
    | false => rw [broughtUp, dispatch_absent hc hf]

end Earbud

end NoiseControl
