import NoiseControl.Proofs.Earbud.Ordinary
import NoiseControl.Proofs.Earbud.Reached
import NoiseControl.Proofs.Earbud.WorkingHardware

/-!
# The marks of a call

The start of a call notes whether it has switched noise control on or had it take another mode, and the
mode before.  Only the end of the call clears these marks, and only another start sets them anew.
-/

namespace NoiseControl.Earbud

variable {c : Config} {a b : Earbud} {m : Mode} {e : Event}

/-- Anything but what a call has forced and the mode before it. -/
def unmarked : Extent where
  keeps r :=
    { previousMode := r.previousMode, enabledForCall := r.enabledForCall, modeForCall := r.modeForCall }
  timer _ := true
  audio _ := true
  talks := true

theorem Work.unmarked_ordinary (w : Work ordinary a b) : Work unmarked a b :=
  w.mono
    { keeps := fun _ _ h => (congrArg unmarked.keeps h :)
      timer := fun _ _ => rfl
      audio := fun _ _ => rfl
      talks := fun _ => rfl
      tells := fun _ _ => rfl
      saves := fun _ => rfl }

theorem unmarked_peerPlaced (b : Earbud) (p : Placement) : Work unmarked b (b.peerPlaced p) := by
  have hset : Work unmarked b (b.setRuntime fun r => { r with peerInCase := p == .inCase }) :=
    .single (.runtime _ rfl)
  unfold peerPlaced
  dsimp only
  split
  · have hreset := hset.trans (ordinary_adopt _ (b.setRuntime fun r =>
      { r with peerInCase := p == .inCase }).quietMode.reset).unmarked_ordinary
    split
    · exact (hreset.tail (.announce _)).tail (.arm _ _ rfl)
    · exact hreset
  · exact hset

/-- Events between the start of a call and its end leave its marks alone. -/
theorem unmarked_handle (hs : b.runtime.state ≠ .uninitialised) (hstart : e ≠ .callStarted)
    (hend : e ≠ .callEnded) : Work unmarked b (b.handle e).1 := by
  by_cases hplaced : ∃ p, e = .placed .peer p
  · obtain ⟨p, rfl⟩ := hplaced
    exact unmarked_peerPlaced b p
  · exact (ordinary_handle (fun _ => hs) hstart hend fun p he => hplaced ⟨p, he⟩).unmarked_ordinary

/-- What the end of a call goes by, but for what the user did. -/
structure Marks where
  previousMode : Mode
  enabledForCall : Bool
  modeForCall : Bool

def marks (b : Earbud) : Marks where
  previousMode := b.runtime.previousMode
  enabledForCall := b.runtime.enabledForCall
  modeForCall := b.runtime.modeForCall

theorem Work.marks (w : Work unmarked a b) : b.marks = a.marks := by
  have hkept := w.keeps
  exact (congrArg (fun r : Runtime => Marks.mk r.previousMode r.enabledForCall r.modeForCall) hkept :)

theorem marks_dispatch (hs : b.runtime.state ≠ .uninitialised) (hstart : e ≠ .callStarted)
    (hend : e ≠ .callEnded) : (b.dispatch e).1.marks = b.marks := by
  have hhandled := (unmarked_handle hs hstart hend).marks
  have hruntime := runtime_dispatch b e
  exact (congrArg (fun r : Runtime => Marks.mk r.previousMode r.enabledForCall r.modeForCall)
    hruntime :).trans hhandled

/-- The marks of a call last until it ends or another starts. -/
theorem Reached.marks_run (hb : Reached c b) (hs : b.runtime.state ≠ .uninitialised) {moves : List Move}
    (hm : ∀ m ∈ moves, m ≠ .event .callStarted ∧ m ≠ .event .callEnded) :
    (b.run moves).marks = b.marks ∧ (b.run moves).runtime.state ≠ .uninitialised := by
  induction moves using List.reverseRecOn with
  | nil => exact ⟨rfl, hs⟩
  | append_singleton moves m ih =>
    obtain ⟨hmarks, hstill⟩ := ih fun m hmem => hm m (List.mem_append_left _ hmem)
    obtain ⟨hstart, hend⟩ := hm m (List.mem_append_right _ List.mem_cons_self)
    rw [run_snoc, ← hmarks]
    rcases perform_cases (b.run moves) m with ⟨x, e, hd, he⟩ | ⟨hsame, -⟩
    · rw [he]
      rcases dispatched?_eq_some (hb.run moves).sound.order hd with ⟨hx, rfl, rfl⟩ | ⟨k, -, rfl, -, rfl⟩
      · refine ⟨marks_dispatch hstill ?_ ?_, initialised_dispatch hstill e⟩
        · rintro rfl
          exact hstart rfl
        · rintro rfl
          exact hend rfl
      · exact ⟨marks_dispatch (b := (b.run moves).cancel k) hstill nofun nofun,
          initialised_dispatch (b := (b.run moves).cancel k) hstill _⟩
    · refine ⟨?_, by rwa [hsame]⟩
      unfold marks
      rw [hsame]

theorem marks_callStarted (hcall : b.config.call.implicitEnable = true) (hon : b.isEnabled = true)
    (hforced : (b.dispatch .callStarted).1.runtime.modeForCall = true) :
    (b.dispatch .callStarted).1.marks = ⟨b.runtime.currentMode, false, true⟩ := by
  have hruntime : (b.dispatch .callStarted).1.runtime = b.startCall.1.runtime := by
    rw [runtime_dispatch, handle_callStarted, if_pos (by rw [hon]; rfl)]
  have hmarks : (b.dispatch .callStarted).1.marks = b.startCall.1.marks :=
    congrArg (fun r : Runtime => Marks.mk r.previousMode r.enabledForCall r.modeForCall) hruntime
  rw [hruntime, startCall_enabled hcall hon] at hforced
  rw [hmarks, startCall_enabled hcall hon]
  split at hforced <;> rename_i hcurrent
  · cases hforced
  · rw [if_neg hcurrent]
    exact (ordinary_changeMode _ _).unmarked_ordinary.marks

end NoiseControl.Earbud
