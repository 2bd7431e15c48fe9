import NoiseControl.Proofs.Earbud.Route

/-!
# The reconfigurations of an event

Between the reconfigurations of an event a mode may be asked for or noted, and adaptive processing may
start in the current one; no mode is loaded, the hardware is not driven, and the clients are told of no
change of these.
-/

namespace NoiseControl

namespace Earbud

/-! ### What comes between them -/

def between : Extent where
  keeps r :=
    { currentMode := r.currentMode, requestedMode := r.requestedMode,
      previousMode := r.previousMode, numModes := r.numModes, clockBoost := r.clockBoost }
  timer _ := true
  audio
    | .setGain .. | .quietModeOn | .quietModeOff | .gentleMute | .updateInEar _ | .applyPathGains
    | .attachTuningLink _ | .detachTuningLink | .enterTuning .. | .exitTuning _ => true
    | _ => false
  talks := true
  tells := gains.tells

inductive Passage (a : Earbud) : List Reconfiguration → Earbud → Prop where
  | start : Passage a [] a
  | touch {l : List Reconfiguration} {b c : Earbud} (p : Passage a l b) (t : Touch between b c) :
      Passage a l c
  | ask {l : List Reconfiguration} {b : Earbud} (p : Passage a l b) (m : Mode)
      (hm : m.index < b.runtime.numModes) :
      Passage a l (b.setRuntime fun r => { r with requestedMode := m })
  /-- The mode to go back to after a call is noted. -/
  | remember {l : List Reconfiguration} {b : Earbud} (p : Passage a l b) :
      Passage a l (b.setRuntime fun r => { r with previousMode := r.currentMode, modeForCall := true })
  | adapt {l : List Reconfiguration} {b : Earbud} (p : Passage a l b) : Passage a l b.startAdaptive
  | reconfigure {l : List Reconfiguration} {b : Earbud} (p : Passage a l b) (on : Bool) :
      Passage a (l ++ [⟨b, on⟩]) (b.reconfigure on b.runtime.requestedMode).1

variable {a b c : Earbud} {l l' : List Reconfiguration}

theorem gains_within_between : gains.Within between where
  keeps _ _ h := (congrArg between.keeps h :)
  timer _ _ := rfl
  audio c h := by cases c <;> first | rfl | cases h
  talks _ := rfl
  tells _ h := h
  saves _ := rfl

theorem parting_within_between : parting.Within between where
  keeps _ _ h := (congrArg between.keeps h :)
  timer _ _ := rfl
  audio _ h := by cases h
  talks _ := rfl
  tells _ h := by cases h
  saves _ := rfl

theorem beside_within_between : beside.Within between where
  keeps _ _ h := (congrArg between.keeps h :)
  timer _ _ := rfl
  audio c h := by cases c <;> first | rfl | cases h
  talks _ := rfl
  tells _ h := h
  saves _ := rfl

theorem Passage.work (p : Passage a l b) (w : Work between b c) : Passage a l c := by
  induction w with
  | refl => exact p
  | tail _ t ih => exact ih.touch t

theorem meanwhile_within_between : meanwhile.Within between where
  keeps _ _ h := (congrArg between.keeps h :)
  timer _ _ := rfl
  audio c h := by cases c <;> first | rfl | cases h
  talks _ := rfl
  tells n h := by cases n <;> first | rfl | cases h
  saves _ := rfl

theorem Route.passage (p : Route a l b) : Passage a l b := by
  induction p with
  | start => exact .start
  | touch _ t ih => exact ih.touch (t.mono meanwhile_within_between)
  | ask _ m hm ih => exact ih.ask m hm
  | remember _ ih => exact ih.remember
  | adapt _ ih => exact ih.adapt
  | reconfigure _ on ih => exact ih.reconfigure on

/-- An event brings an initialised earbud through its reconfigurations. -/
theorem passage_dispatch (hs : b.runtime.state ≠ .uninitialised) (e : Event) :
    Passage b (b.reconfigurations e) (b.dispatch e).1 := by
  obtain ⟨-, hnew, -⟩ | ⟨y, ⟨x, hroute, hending⟩, wrest⟩ := dispatch_arrives b e
  · exact absurd hnew hs
  have hended : Passage b (b.reconfigurations e) y := by
    cases hending with
    | none => exact hroute.passage
    | level he gain => exact hroute.passage.work ((work_setLeakthrough x gain).mono gains_within_between)
    | part =>
      have hoff := hroute.passage.touch (.runtime (fun r => { r with actualEnabled := false }) rfl)
      exact (hoff.work ((parts_enter _ _).mono parting_within_between)).touch (.runtime _ rfl)
  exact hended.work (wrest.mono meanwhile_within_between)

end Earbud

end NoiseControl
