import NoiseControl.Proofs.Earbud.Initialised
import NoiseControl.Proofs.Earbud.Passage

/-!
# Modes stay in range

Once an earbud is initialised its configuration is known to be good, and the mode that is loaded,
the one that is asked for and the one to go back to after a call are modes of its configuration.
-/

namespace NoiseControl

theorem Config.callMode_lt {c : Config} (h : c.check = .ok ()) (hcall : c.call.implicitEnable = true) :
    c.call.mode.index < c.numModes := by
  unfold check at h
  split at h
  · cases h
  · split at h
    · cases h
    · split at h <;> rename_i hmode
      · cases h
      · simpa [hcall] using hmode

namespace Earbud

variable {a b : Earbud}

structure Ranged (b : Earbud) : Prop where
  checked : b.config.check = .ok ()
  numModes : b.runtime.numModes = b.config.numModes
  current : b.runtime.currentMode.index < b.runtime.numModes
  requested : b.runtime.requestedMode.index < b.runtime.numModes
  previous : b.runtime.previousMode.index < b.runtime.numModes

theorem Ranged.same (h : Ranged a) (hconfig : b.config = a.config)
    (hmodes : b.runtime.modes = a.runtime.modes) : Ranged b := by
  simp only [Runtime.modes, Prod.mk.injEq] at hmodes
  obtain ⟨hcurrent, hrequested, hprevious, hnum⟩ := hmodes
  refine ⟨by rw [hconfig, h.checked], by rw [hnum, hconfig, h.numModes], ?_, ?_, ?_⟩
  · rw [hcurrent, hnum]
    exact h.current
  · rw [hrequested, hnum]
    exact h.requested
  · rw [hprevious, hnum]
    exact h.previous

theorem Ranged.between (h : Ranged a) (w : Work between a b) : Ranged b :=
  h.same w.config (congrArg Runtime.modes w.keeps :)

theorem Ranged.reconfigure (h : Ranged b) (on : Bool) {m : Mode} (hm : m.index < b.runtime.numModes) :
    Ranged (b.reconfigure on m).1 := by
  have hwork := work_reconfigure b on m
  have hnum : (b.reconfigure on m).1.runtime.numModes = b.runtime.numModes :=
    (congrArg Runtime.numModes hwork.keeps :)
  have hprevious : (b.reconfigure on m).1.runtime.previousMode = b.runtime.previousMode :=
    (congrArg Runtime.previousMode hwork.keeps :)
  refine ⟨by rw [hwork.config, h.checked], by rw [hnum, hwork.config, h.numModes], ?_, ?_, ?_⟩ <;>
    rw [hnum]
  · rcases modes_reconfigure b on m with ⟨hcurrent, -, -⟩ | ⟨hcurrent, -⟩ <;> rw [hcurrent]
    · exact hm
    · exact h.current
  · rcases modes_reconfigure b on m with ⟨-, hasked, -⟩ | ⟨-, hasked⟩ <;> rw [hasked]
    · exact h.requested
    · exact h.current
  · rw [hprevious]
    exact h.previous

theorem Ranged.startAdaptive (h : Ranged b) : Ranged b.startAdaptive :=
  h.same (work_startAdaptive b).config <| by
    unfold Earbud.startAdaptive
    split
    · rw [runtime_attempt]
    · rfl

/-- Through an event the modes stay in range. -/
theorem Passage.ranged {l : List Reconfiguration} (p : Passage a l b) (h : Ranged a) :
    Ranged b ∧ ∀ r ∈ l, Ranged r.before := by
  induction p with
  | start => exact ⟨h, fun r hr => absurd hr List.not_mem_nil⟩
  | touch _ t ih => exact ⟨ih.1.between (.single t), ih.2⟩
  | ask _ m hm ih =>
    obtain ⟨hranged, hall⟩ := ih
    exact ⟨⟨hranged.checked, hranged.numModes, hranged.current, hm, hranged.previous⟩, hall⟩
  | remember _ ih =>
    obtain ⟨hranged, hall⟩ := ih
    exact ⟨⟨hranged.checked, hranged.numModes, hranged.current, hranged.requested, hranged.current⟩,
      hall⟩
  | adapt _ ih => exact ⟨ih.1.startAdaptive, ih.2⟩
  | reconfigure _ on ih =>
    obtain ⟨hranged, hall⟩ := ih
    refine ⟨hranged.reconfigure on hranged.requested, fun r hr => ?_⟩
    rcases List.mem_append.mp hr with hr | hr
    · exact hall r hr
    · rw [List.mem_singleton.mp hr]
      exact hranged

theorem Route.ranged {l : List Reconfiguration} (p : Route a l b) (h : Ranged a) : Ranged b :=
  (p.passage.ranged h).1

theorem Ranged.changeMode (h : Ranged b) (m : Mode) : Ranged (b.changeMode m).1 :=
  (route_changeMode b m).ranged h

/-! ### Runs -/

theorem Begun.ranged (h : Begun a b) : Ranged b := by
  obtain ⟨m, hm, hmodes⟩ := h.modes
  simp only [Runtime.modes, Prod.mk.injEq] at hmodes
  obtain ⟨hcurrent, hrequested, hprevious, hnum⟩ := hmodes
  exact ⟨by rw [h.config, h.checked], by rw [hnum, h.config], by rwa [hcurrent, hnum],
    by rwa [hrequested, hnum], by rwa [hprevious, hnum]⟩

theorem ranged_start (h : b.start.1.runtime.state ≠ .uninitialised)
    (hs : b.runtime.state = .uninitialised) : Ranged b.start.1 := by
  rcases start_cases b with ⟨fault, he⟩ | he | ⟨-, enabled, m, -, he⟩
  · exact absurd hs (by rwa [he] at h)
  · exact absurd hs (by rwa [he] at h)
  · rcases probe_cases b.loadSession.1 enabled m with hfailed | hok
    · rw [he, hfailed] at h
      exact absurd hs h
    · exact (begun_start hs (by rw [he, hok])).ranged

theorem ranged_dispatch (h : b.runtime.state ≠ .uninitialised → Ranged b) (e : Event)
    (hs : (b.dispatch e).1.runtime.state ≠ .uninitialised) : Ranged (b.dispatch e).1 := by
  by_cases hu : b.runtime.state = .uninitialised
  · have wend := work_finishFollowUps (b.handle e).1
    have hhandled : (b.handle e).1.runtime.state ≠ .uninitialised := state_beside wend ▸ hs
    refine Ranged.between ?_ (wend.mono beside_within_between)
    rcases (course_handle b e).uninitialised hu with w | he
    · exact absurd ((congrArg Runtime.state w.keeps :).trans hu) hhandled
    · rw [he] at hhandled ⊢
      exact ranged_start hhandled hu
  · exact ((passage_dispatch hu e).ranged (h hu)).1

theorem ranged_run (c : Config) (clockOrigin : Option WallClock) (store : SessionStore)
    (moves : List Move)
    (hs : ((Earbud.new c clockOrigin store).run moves).runtime.state ≠ .uninitialised) :
    Ranged ((Earbud.new c clockOrigin store).run moves) := by
  revert hs
  refine run_invariant (P := fun b => b.runtime.state ≠ .uninitialised → Ranged b)
    (fun b e _ h => ranged_dispatch h e) ?_ ?_ ?_ (fun hs => absurd rfl hs) moves
  · intro b k timers _ h
    exact ranged_dispatch (b := { b with timers := timers }) (fun hs => (h hs).same rfl rfl) _
  · exact fun b t h hs => (h hs).same rfl rfl
  · exact fun b s h hs => (h hs).same rfl rfl

end Earbud

end NoiseControl
