import NoiseControl.Proofs.QuietMode.Calls
import NoiseControl.Proofs.QuietMode.Decision

/-!
# Consistent records

A consistent record asks for at most one transition, for the one that leaves its present state, and
names an instant only with a request.  A synchronizer keeps its own record so, whatever its peer
sends and whatever the clock shows.
-/

namespace NoiseControl.QuietMode

/-- No instant stands in the record without a request. -/
def Record.Dated (r : Record) : Prop := r.hasRequest = false → r.timestamp = .zero

namespace Synchronizer

variable {s : Synchronizer} {now : WallClock}

/-! ### Elections -/

theorem Elects.dated {y : Decision} (helect : s.Elects now y) (h : s.own.Dated) : y.1.own.Dated := by
  have hscheduled : ∀ d, (s.schedule d now).1.own.Dated := fun d hnone =>
    nomatch hnone.symm.trans (hasRequest_schedule s d now)
  cases helect with
  | nobody => exact h
  | on => exact hscheduled .enable
  | off => exact hscheduled .disable

theorem dated_of_decides {y : Decision} (hdecides : s.Elects now y ∨ s.Tells y) (h : s.own.Dated) :
    y.1.own.Dated := by
  rcases hdecides with helects | htells
  · exact helects.dated h
  · cases htells
    exact h

/-! ### Operations -/

theorem dated_peerRecord (h : s.own.Dated) (r : Record) (now : WallClock) :
    (s.peerRecord r now).1.own.Dated := by
  rcases hr : r.pending? with _ | d
  · have hheard : (s.hearing r).own.Dated := h
    exact dated_of_decides (s.peerRecord_decides (plain_of_pending? hr) now) hheard
  · rw [peerRecord_asking s hr]
    split
    · split
      · exact h
      -- A request that is given up takes its instant with it.
      · exact fun _ => rfl
    · exact h

theorem dated_fire (h : s.own.Dated) (d : Direction) : (s.fire d).1.own.Dated := by
  unfold fire
  split
  · exact h
  · cases d with
    | enable => exact fun _ => rfl
    | disable => exact fun _ => rfl

theorem dated_operate (h : s.own.Dated) (o : Operation) : (s.operate o).1.own.Dated := by
  cases o with
  | detected now =>
    have hnoted : (s.noting true).own.Dated := h
    exact dated_of_decides (s.report_decides true now) hnoted
  | cleared now =>
    have hnoted : (s.noting false).own.Dated := h
    exact dated_of_decides (s.report_decides false now) hnoted
  | peerRecord r now => exact dated_peerRecord h r now
  | fire d => exact dated_fire h d

theorem dated_afterCall (h : s.own.Dated) (c : Call) : (s.afterCall c).own.Dated := by
  cases c with
  | operation o => exact dated_operate h o
  | reset => exact fun _ => rfl

/-! ### Runs -/

/-- After any run the own record has at most one request, one to switch on only while quiet mode is
off and one to switch off only while it is on, and no instant without a request. -/
theorem consistent_run (delay : Nat) (winsTies : Bool) (calls : List Call) :
    let r := (afterCalls { delay, winsTies } calls).own
    ¬(r.enableRequested = true ∧ r.disableRequested = true) ∧
      (r.enableRequested = true → r.enabled = false) ∧
      (r.disableRequested = true → r.enabled = true) ∧
      (r.enableRequested = false → r.disableRequested = false → r.timestamp = .zero) := by
  intro r
  have hcoherent : r.Coherent := coherent_afterCalls delay winsTies calls
  have hdated : r.Dated := List.foldlRecOn (motive := fun s => s.own.Dated) calls afterCall
    (fun _ => rfl) fun _ h c _ => dated_afterCall h c
  have hoff : r.enableRequested = true → r.enabled = false := hcoherent .enable
  have hon : r.disableRequested = true → r.enabled = true := hcoherent .disable
  refine ⟨fun ⟨henable, hdisable⟩ => ?_, hoff, hon, fun henable hdisable => ?_⟩
  · exact Bool.false_ne_true ((hoff henable).symm.trans (hon hdisable))
  · exact hdated (Bool.or_eq_false_iff.mpr ⟨henable, hdisable⟩)

/-- Both sides observe silence and this side asks to switch on. -/
theorem consistent_run_elected :
    let r := (afterCalls { delay := 200000, winsTies := false }
      [.operation (.peerRecord { detected := true } ⟨5⟩), .operation (.detected ⟨5⟩)]).own
    r.enableRequested = true ∧ r.enabled = false ∧ r.disableRequested = false := by
  intro r
  have hasked : r.enableRequested = true := by decide
  have hrun := consistent_run 200000 false
    [.operation (.peerRecord { detected := true } ⟨5⟩), .operation (.detected ⟨5⟩)]
  exact ⟨hasked, hrun.2.1 hasked, Bool.eq_false_iff.mpr fun hoff => hrun.1 ⟨hasked, hoff⟩⟩

end Synchronizer

end NoiseControl.QuietMode
