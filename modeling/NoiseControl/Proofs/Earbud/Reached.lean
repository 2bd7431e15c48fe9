import NoiseControl.Proofs.Earbud.GentleMute
import NoiseControl.Proofs.Earbud.ModeRange
import NoiseControl.Proofs.Earbud.StagedRequest

/-!
# Earbuds that are reached

An earbud is reached from a configuration if some run leads to it from a new one.  What holds along
every run is known of it, and whatever happens to it next it is reached again.
-/

namespace NoiseControl.Earbud

def Reached (c : Config) (b : Earbud) : Prop :=
  ∃ clockOrigin store moves, (Earbud.new c clockOrigin store).run moves = b

variable {c : Config} {b : Earbud}

theorem reached_run (c : Config) (clockOrigin : Option WallClock) (store : SessionStore)
    (moves : List Move) : Reached c ((Earbud.new c clockOrigin store).run moves) :=
  ⟨clockOrigin, store, moves, rfl⟩

namespace Reached

variable (h : Reached c b)

include h

theorem run (moves : List Move) : Reached c (b.run moves) := by
  obtain ⟨clockOrigin, store, earlier, rfl⟩ := h
  exact ⟨clockOrigin, store, earlier ++ moves, run_append _ _ _⟩

theorem perform (m : Move) : Reached c (b.perform m) := h.run [m]

theorem event (e : Event) (he : e.isExternal = true := by rfl) : Reached c (b.dispatch e).1 :=
  h.perform (.event e he)

theorem config : b.config = c := by
  obtain ⟨clockOrigin, store, moves, rfl⟩ := h
  exact config_run _ moves

theorem sound : Sound b := by
  obtain ⟨clockOrigin, store, moves, rfl⟩ := h
  exact (sound_run c clockOrigin store moves).1

theorem done : b.followUps = [] := by
  obtain ⟨clockOrigin, store, moves, rfl⟩ := h
  exact (sound_run c clockOrigin store moves).2

theorem ranged (hs : b.runtime.state ≠ .uninitialised) : Ranged b := by
  obtain ⟨clockOrigin, store, moves, rfl⟩ := h
  exact ranged_run c clockOrigin store moves hs

theorem poised : Poised b := by
  obtain ⟨clockOrigin, store, moves, rfl⟩ := h
  exact (lasting_run c clockOrigin store moves).1

theorem ramping_of_staged (hs : b.runtime.state = .enabled)
    (hr : b.runtime.requestedEnabled = false) : b.ramping = true := by
  obtain ⟨clockOrigin, store, moves, rfl⟩ := h
  exact Bool.or_eq_true_iff.mpr (Or.inl ((staged_run c clockOrigin store moves).1 hs hr))

theorem awaited : Awaited b := by
  obtain ⟨clockOrigin, store, moves, rfl⟩ := h
  exact awaited_run c clockOrigin store moves

/-- Without a ramp noise control is to stay on, in the mode that is loaded. -/
theorem settled (hs : b.runtime.state = .enabled) (hidle : b.ramping = false) :
    b.runtime.requestedEnabled = true ∧ b.runtime.requestedMode = b.runtime.currentMode := by
  constructor
  · cases hr : b.runtime.requestedEnabled with
    | true => rfl
    | false => exact nomatch hidle.symm.trans (h.ramping_of_staged hs hr)
  · by_contra hne
    have hramping := Bool.or_eq_true_iff.mpr (h.awaited hs hne).symm
    exact nomatch hidle.symm.trans hramping

end Reached

end NoiseControl.Earbud
