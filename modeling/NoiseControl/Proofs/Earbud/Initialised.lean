import NoiseControl.Proofs.Earbud.TuningLink

/-!
# Before and after initialisation

Until it is initialised an earbud takes no request, and its audio chain gets no command but the
probe.  Once it is initialised it never goes back.
-/

namespace NoiseControl

/-- What the runtime state says of modes: loaded, asked for, to go back to, and how many there
are. -/
def Runtime.modes (r : Runtime) : Mode × Mode × Mode × UInt8 :=
  (r.currentMode, r.requestedMode, r.previousMode, r.numModes)

theorem Config.defaultMode_lt {c : Config} (h : c.check = .ok ()) :
    c.defaultMode.index < c.numModes := by
  unfold check at h
  split at h
  · cases h
  · split at h <;> rename_i hdefault
    · cases h
    · exact UInt8.not_le.mp hdefault

namespace Earbud

variable {a b : Earbud}

/-! ### Before -/

/-- What is left to do where no request is taken. -/
def dormant : Extent where
  keeps r := { state := r.state }
  timer _ := true
  audio := beside.audio
  talks := true
  tells := beside.tells

theorem beside_within_dormant : beside.Within dormant where
  keeps _ _ h := (congrArg dormant.keeps h :)
  timer _ _ := rfl
  audio _ h := h
  talks _ := rfl
  tells _ h := h
  saves _ := rfl

theorem Demands.dormant (ds : Demands a b) (hs : a.runtime.state = .uninitialised) :
    Work dormant a b := by
  induction ds with
  | refl => exact .refl
  | @tail c d _ step ih =>
    have hstill : c.runtime.state = .uninitialised :=
      ((congrArg Runtime.state ih.keeps :) : c.runtime.state = a.runtime.state).trans hs
    cases step with
    | beside t => exact ih.tail (t.mono beside_within_dormant)
    | enable hin => simp [hstill] at hin
    | disable hin => simp [hstill] at hin
    | mode m hin => simp [hstill] at hin
    | remember => exact ih.tail (.runtime _ rfl)

theorem Course.uninitialised {e : Event} {y : Earbud × Outcome} (course : Course b e y)
    (hs : b.runtime.state = .uninitialised) : Work dormant b y.1 ∨ y.1 = b.start.1 := by
  cases course with
  | demands ds => exact Or.inl (ds.dormant hs)
  | start => exact Or.inr rfl
  | powerOn hin => simp [hs] at hin
  | powerOffDisabled hin => simp [hs] at hin
  | powerOffEnabled hin => simp [hs] at hin
  | tune kind hin => simp [hs] at hin
  | host kind rate hin => cases kind <;> simp [hs, tuningState] at hin
  | leaveTuning kind next hin => cases kind <;> simp [hs, tuningState] at hin
  | startAdaptive hin => simp [hs] at hin
  | switchOff hin => simp [hs] at hin
  | applyPending hin => simp [hs] at hin
  | applyGains hin => simp [hs] at hin

theorem idle_dispatch (hs : b.runtime.state = .uninitialised) (hidle : b.audio.adaptive = false)
    (e : Event) : (b.dispatch e).1.audio.adaptive = false := by
  have hhandled : (b.handle e).1.audio.adaptive = false := by
    rcases (course_handle b e).uninitialised hs with w | he
    · exact w.idle (fun _ _ _ => rfl) hidle
    · rw [he]
      exact (work_start b).idle (fun _ _ _ => rfl) hidle
  exact (work_finishFollowUps _).idle (fun _ _ _ => rfl) hhandled

/-! ### Initialisation -/

/-- Initialisation from the probe of the audio chain on. -/
def probe (b : Earbud) (enabled : Bool) (m : Mode) : Earbud × Outcome :=
  match b.attempt (.start b.config.microphones m) with
  | (b, false) => (b, .error (.start .probeRejected))
  | (b, true) =>
    ({ b.setRuntime fun r =>
        { r with
          requestedEnabled := enabled
          requestedMode := m
          currentMode := m
          previousMode := m
          actualEnabled := false
          numModes := b.config.numModes } with
        quietMode := newSynchronizer b.config }.enter .powerOff, .ok ())

theorem probe_cases (b : Earbud) (enabled : Bool) (m : Mode) :
    b.probe enabled m =
        ({ b with
            calls := b.calls + 1
            history := .audio (.start b.config.microphones m) false :: b.history },
          .error (.start .probeRejected)) ∨
      (b.probe enabled m).2 = .ok () := by
  unfold probe
  rcases attempt_cases b (.start b.config.microphones m) with he | he <;> rw [he]
  · exact Or.inl rfl
  · exact Or.inr rfl

/-- Initialisation is refused for the configuration, or the audio chain is probed with a mode of
the configuration. -/
theorem start_cases (b : Earbud) :
    (∃ fault, b.start = (b, .error (.config fault))) ∨ b.start = (b, .error (.start .noMicrophones)) ∨
      b.config.check = .ok () ∧ ∃ enabled m, m.index < b.config.numModes ∧
        b.start = b.loadSession.1.probe enabled m := by
  unfold start
  split <;> rename_i hcheck
  · exact Or.inl ⟨_, rfl⟩
  · refine Or.inr ?_
    split
    · refine Or.inr ⟨hcheck, _, _, ?_, rfl⟩
      split
      · split
        · assumption
        · exact Config.defaultMode_lt hcheck
      · exact Config.defaultMode_lt hcheck
    · exact Or.inl rfl

theorem initialise_ok (h : (b.dispatch .initialise).2 = .ok ()) :
    b.runtime.state = .uninitialised ∧ b.start.2 = .ok () ∧
      (b.dispatch .initialise).1 = b.start.1.finishFollowUps := by
  have hhandle : (b.handleInState .initialise).2 = .ok () := h
  have hend : (b.dispatch .initialise).1 = (b.handleInState .initialise).1.finishFollowUps := rfl
  unfold handleInState at hhandle hend
  cases hs : b.runtime.state with
  | uninitialised =>
    rw [hs] at hhandle hend
    exact ⟨rfl, hhandle, hend⟩
  | _ =>
    rw [hs] at hhandle
    cases hhandle

/-- An earbud that was just initialised: the audio chain was probed in the mode that is current. -/
structure Begun (a b : Earbud) : Prop where
  checked : a.config.check = .ok ()
  config : b.config = a.config
  state : b.runtime.state = .powerOff
  modes : ∃ m, m.index < a.config.numModes ∧ b.runtime.modes = (m, m, m, a.config.numModes)
  probed : b.history = .audio (.start a.config.microphones b.runtime.currentMode) true :: a.history
  adaptive : b.audio.adaptive = a.audio.adaptive

theorem begun_start (hs : b.runtime.state = .uninitialised) (h : b.start.2 = .ok ()) :
    Begun b b.start.1 := by
  rcases start_cases b with ⟨fault, he⟩ | he | ⟨hcheck, enabled, m, hm, he⟩ <;> rw [he] at h ⊢
  · cases h
  · cases h
  · unfold probe at h ⊢
    rcases attempt_cases b.loadSession.1 (.start b.loadSession.1.config.microphones m) with
      hfailed | hdone
    · rw [hfailed] at h
      cases h
    · rw [hdone]
      dsimp only
      -- There is no session to save yet.
      have hfirst : ¬(Lifecycle.powerOff = .powerOff ∧ b.runtime.state ≠ .uninitialised) :=
        fun hp => hp.2 hs
      unfold enter
      dsimp only
      rw [if_neg (by exact hfirst)]
      exact ⟨hcheck, rfl, rfl, ⟨m, hm, rfl⟩, rfl, rfl⟩

/-! ### After -/

theorem Demands.state (ds : Demands a b) :
    b.runtime.state = a.runtime.state ∨ b.runtime.state.isPowered = true := by
  induction ds with
  | refl => exact Or.inl rfl
  | @tail c d _ step ih =>
    have hset : d.runtime.state = c.runtime.state ∨ d.runtime.state.isPowered = true := by
      cases step with
      | beside t => exact Or.inl (state_beside (.single t))
      | enable => exact (state_requestEnable c).imp id fun he => by rw [he]; rfl
      | disable => exact (state_requestDisable c).imp id fun he => by rw [he]; rfl
      | mode m => exact Or.inl (state_requestMode c m)
      | remember => exact Or.inl rfl
    rcases hset with he | hpowered
    · rwa [he]
    · exact Or.inr hpowered

/-- An event leaves the state alone or leads to one with power, unless it initialises the earbud or
switches the power off. -/
theorem Course.state {e : Event} {y : Earbud × Outcome} (course : Course b e y) :
    y.1.runtime.state = b.runtime.state ∨ y.1.runtime.state.isPowered = true ∨
      y.1.runtime.state = .powerOff ∧ (b.runtime.state = .uninitialised ∨ e = .powerOff) := by
  have hleft : ∀ (x : Earbud) (next : Lifecycle), x.runtime.state = b.runtime.state →
      next.isPowered = true → (x.switchOff next).1.runtime.state = b.runtime.state ∨
        (x.switchOff next).1.runtime.state.isPowered = true := by
    intro x next hx hn
    rcases state_switchOff x next with he | he <;> rw [he]
    · exact Or.inr hn
    · exact Or.inl hx
  cases course with
  | demands ds => exact ds.state.imp id Or.inl
  | start hs =>
    rcases start_fst b with ⟨he, -⟩ | ⟨microphones, mode, ⟨he, -⟩ | ⟨enabled, he, -⟩⟩ <;> rw [he]
    · exact Or.inl rfl
    · exact Or.inl (congrArg Runtime.state (runtime_attempt _ _) :)
    · rw [runtime_enter]
      exact Or.inr (Or.inr ⟨rfl, Or.inl hs⟩)
  | powerOn =>
    obtain ⟨next, hnext, he⟩ := switchPowerOn_eq b
    rw [he, runtime_enter]
    rcases hnext with rfl | rfl <;> exact Or.inr (Or.inl rfl)
  | powerOffDisabled =>
    rw [runtime_enter]
    exact Or.inr (Or.inr ⟨rfl, Or.inr rfl⟩)
  | powerOffEnabled hs =>
    refine (state_switchOff _ .powerOff).elim (fun he => ?_) fun he => Or.inl he
    exact Or.inr (Or.inr ⟨he, Or.inr rfl⟩)
  | tune kind =>
    have hn : (tuningState kind).isPowered = true := by cases kind <;> rfl
    refine Or.imp_right Or.inl ?_
    refine enterTuning_induction (P := fun x => x.runtime.state = b.runtime.state ∨
      x.runtime.state.isPowered = true) b kind (fun _ => hleft _ _ rfl hn) (fun _ => ?_) fun _ h => h
    rw [runtime_enter]
    exact Or.inr hn
  | host => exact Or.inl rfl
  | leaveTuning kind next _ hn he =>
    unfold Earbud.leaveTuning
    rw [runtime_enter]
    rcases hn with rfl | rfl
    · exact Or.inr (Or.inr ⟨rfl, Or.inr (he rfl)⟩)
    · exact Or.inr (Or.inl rfl)
  | startAdaptive =>
    unfold Earbud.startAdaptive
    split
    · rw [runtime_attempt]
      exact Or.inl rfl
    · exact Or.inl rfl
  | switchOff => exact (hleft b .disabled rfl rfl).imp id Or.inl
  | applyPending =>
    unfold Earbud.applyPending
    rw [state_reconfigure]
    exact Or.inl rfl
  | applyGains => exact Or.inl rfl

theorem state_dispatch (b : Earbud) (e : Event) :
    (b.dispatch e).1.runtime.state = (b.handle e).1.runtime.state :=
  state_beside (work_finishFollowUps _)

theorem initialised_dispatch (hs : b.runtime.state ≠ .uninitialised) (e : Event) :
    (b.dispatch e).1.runtime.state ≠ .uninitialised := by
  rw [state_dispatch]
  rcases (course_handle b e).state with he | hpowered | ⟨he, -⟩
  · rwa [he]
  · intro he
    rw [he] at hpowered
    cases hpowered
  · rw [he]
    decide

theorem Begun.initialised (h : Begun a b) : b.finishFollowUps.runtime.state ≠ .uninitialised := by
  rw [state_beside (work_finishFollowUps b), h.state]
  decide

theorem after_induction {P : Earbud → Prop} (event : ∀ b e, P b → P (b.dispatch e).1)
    (timers : ∀ (b : Earbud) q, P b → P { b with timers := q })
    (surround : ∀ b s, P b → P (b.surround s)) (h : P b) (turns : List Turn) : P (b.after turns) := by
  induction turns generalizing b with
  | nil => exact h
  | cons turn rest ih =>
    refine ih (b := b.take turn) ?_
    cases turn with
    | event e => exact event b e h
    | timers q => exact timers b q h
    | surround s => exact surround b s h

theorem config_after (b : Earbud) (turns : List Turn) : (b.after turns).config = b.config :=
  after_induction (P := fun x => x.config = b.config)
    (fun x e h => (work_dispatch x e).config.trans h) (fun _ _ h => h) (fun _ _ h => h) rfl turns

theorem done_after (hdone : b.followUps = []) (turns : List Turn) : (b.after turns).followUps = [] :=
  after_induction (P := fun b => b.followUps = []) (fun _ _ _ => followUps_finishFollowUps _)
    (fun _ _ h => h) (fun _ _ h => h) hdone turns

theorem initialised_after (hs : b.runtime.state ≠ .uninitialised) (turns : List Turn) :
    (b.after turns).runtime.state ≠ .uninitialised :=
  after_induction (P := fun b => b.runtime.state ≠ .uninitialised)
    (fun _ e h => initialised_dispatch h e) (fun _ _ h => h) (fun _ _ h => h) hs turns

theorem initialised_of_ok (h : (b.dispatch .initialise).2 = .ok ()) (turns : List Turn) :
    (b.after (.event .initialise :: turns)).runtime.state ≠ .uninitialised := by
  obtain ⟨hs, hok, hend⟩ := initialise_ok h
  refine initialised_after (b := (b.dispatch .initialise).1) ?_ turns
  rw [hend]
  exact (begun_start hs hok).initialised

end Earbud

end NoiseControl
