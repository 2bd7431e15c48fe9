import NoiseControl.Proofs.Earbud.Initialised

/-!
# Where the hardware is on

Whatever events come and whatever fails, the hardware is confirmed to be on only in the state `enabled`.
The converse takes timers that expire only when they are due.
-/

namespace NoiseControl.Earbud

variable {a b : Earbud}

def Contained (b : Earbud) : Prop := b.runtime.actualEnabled = true → b.runtime.state = .enabled

theorem Contained.off (h : Contained b) (hs : b.runtime.state ≠ .enabled) :
    b.runtime.actualEnabled = false :=
  Bool.eq_false_iff.mpr fun hon => hs (h hon)

theorem contained_of_enabled (hs : b.runtime.state = .enabled) : Contained b := fun _ => hs

theorem contained_of_off (hoff : b.runtime.actualEnabled = false) : Contained b := fun hon =>
  nomatch hoff.symm.trans hon

theorem Contained.same (h : Contained a) (hstate : b.runtime.state = a.runtime.state)
    (hactual : b.runtime.actualEnabled = a.runtime.actualEnabled) : Contained b := fun hon =>
  hstate.trans (h (hactual.symm.trans hon))

theorem Contained.beside (h : Contained a) (w : Work beside a b) : Contained b :=
  h.same (congrArg Runtime.state w.keeps :) (congrArg Runtime.actualEnabled w.keeps :)

theorem contained_enter {next : Lifecycle} (h : b.runtime.actualEnabled = true → next = .enabled) :
    Contained (b.enter next) := by
  unfold Contained
  rw [runtime_enter]
  exact h

/-- A switch off that is not confirmed leaves the state alone, unless the power goes off. -/
theorem contained_switchOff (hs : b.runtime.state = .enabled) (next : Lifecycle) :
    Contained (b.switchOff next).1 := by
  unfold Contained
  rw [runtime_switchOff]
  dsimp only [Runtime.clearUserFlags]
  split
  · exact nofun
  · split
    · exact fun _ => (state_reconfigure b false _).trans hs
    · rename_i hoff
      exact fun hon => absurd hon hoff

/-! ### Demands -/

theorem Contained.requestEnable (h : Contained b) : Contained b.requestEnable.1 := by
  unfold Earbud.requestEnable
  split
  · dsimp only
    split <;> rename_i hon
    · exact contained_enter fun _ => rfl
    · exact contained_of_off (Bool.eq_false_iff.mpr hon)
  · exact h

theorem Contained.requestDisable (h : Contained b) : Contained b.requestDisable.1 := by
  unfold Earbud.requestDisable
  split <;> rename_i hs
  · dsimp only
    split
    · exact contained_of_enabled hs
    · exact contained_switchOff (b := (b.setRuntime fun r =>
        { r with requestedEnabled := false }).stopSettleTimers) hs .disabled
  · exact h

theorem Contained.requestMode (h : Contained b) (m : Mode) : Contained (b.requestMode m).1 := by
  by_cases hs : b.runtime.state = .enabled
  · exact contained_of_enabled ((state_requestMode b m).trans hs)
  · unfold Earbud.requestMode
    split
    · split
      · exact h
      · obtain ⟨gain, he⟩ := refreshLeakthrough_eq (b.setRuntime fun r => { r with requestedMode := m })
        rw [he]
        exact h
    · exact absurd (by assumption) hs
    · exact h

theorem Contained.demands (h : Contained a) (ds : Demands a b) : Contained b := by
  induction ds with
  | refl => exact h
  | tail _ d ih =>
    cases d with
    | beside t => exact ih.beside (.single t)
    | enable => exact ih.requestEnable
    | disable => exact ih.requestDisable
    | mode m => exact ih.requestMode m
    | remember => exact ih

/-! ### Events -/

theorem contained_enterTuning (h : Contained b) (kind : TuningKind) : Contained (b.enterTuning kind).1 :=
  enterTuning_induction b kind (fun hs => contained_switchOff (b := b.stopSettleTimers) hs _)
    (fun hs => contained_enter fun hon => absurd (h hon) hs) fun _ hx => hx

theorem contained_start (h : Contained b) : Contained b.start.1 := by
  rcases start_fst b with ⟨he, -⟩ | ⟨microphones, mode, ⟨he, -⟩ | ⟨enabled, he, -⟩⟩ <;> rw [he]
  · exact h
  · exact h.same (congrArg Runtime.state (runtime_attempt b.loadSession.1 _))
      (congrArg Runtime.actualEnabled (runtime_attempt b.loadSession.1 _))
  · exact contained_enter nofun

theorem Contained.course (h : Contained b) {e : Event} {y : Earbud × Outcome} (course : Course b e y) :
    Contained y.1 := by
  have hout : ∀ s, b.runtime.state = s → s ≠ .enabled → b.runtime.actualEnabled = false :=
    fun s hs hne => h.off (hs ▸ hne)
  cases course with
  | demands ds => exact h.demands ds
  | start => exact contained_start h
  | powerOn =>
    refine contained_enter fun hon => ?_
    rw [if_pos hon]
  | powerOffDisabled hs =>
    exact contained_enter fun hon => nomatch (hout _ hs (by decide)).symm.trans hon
  | powerOffEnabled hs =>
    exact contained_switchOff (b := (b.setRuntime fun r =>
      { r with powerOn := false, requestedEnabled := true }).stopSettleTimers) hs .powerOff
  | tune kind => exact contained_enterTuning h kind
  | host => exact h
  | leaveTuning kind next hs =>
    refine contained_enter fun hon => ?_
    exact nomatch (hout _ hs (by cases kind <;> decide)).symm.trans hon
  | startAdaptive =>
    exact h.same (congrArg Runtime.state (runtime_startAdaptive b))
      (congrArg Runtime.actualEnabled (runtime_startAdaptive b))
  | switchOff hs => exact contained_switchOff hs .disabled
  | applyPending hs => exact contained_of_enabled ((state_reconfigure b _ _).trans hs)
  | applyGains => exact h

theorem Contained.dispatch (h : Contained b) (e : Event) : Contained (b.dispatch e).1 :=
  (h.course (course_handle b e)).beside (work_finishFollowUps _)

theorem contained_after (c : Config) (clockOrigin : Option WallClock) (store : SessionStore)
    (turns : List Turn) : Contained ((Earbud.new c clockOrigin store).after turns) :=
  after_induction (fun _ e h => h.dispatch e) (fun _ _ h => h) (fun _ _ h => h)
    (contained_of_off rfl) turns

end NoiseControl.Earbud
