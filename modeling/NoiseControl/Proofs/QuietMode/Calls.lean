import NoiseControl.Proofs.QuietMode.Operation

/-!
# Runs of a synchronizer

A synchronizer is made with its delay and its priority and called from then on, with any records of
the peer and any readings of the clock.
-/

namespace NoiseControl.QuietMode

theorem Record.Coherent.requested_eq_false {r : Record} {d : Direction} (h : r.Coherent)
    (hmade : r.enabled = decide (d = .enable)) : r.requested d = false := by
  rw [Bool.eq_false_iff]
  intro hasked
  have hopen := h d hasked
  cases d <;> exact nomatch hmade.symm.trans hopen

namespace Synchronizer

/-- A call of a synchronizer: one of its operations, or the drop of all. -/
inductive Call where
  | operation (o : Operation)
  | reset

def call (s : Synchronizer) : Call → Decision
  | .operation o => s.operate o
  | .reset => s.reset

def afterCall (s : Synchronizer) (c : Call) : Synchronizer := (s.call c).1

def afterCalls (s : Synchronizer) (calls : List Call) : Synchronizer := calls.foldl afterCall s

variable {s : Synchronizer}

theorem coherent_afterCall (h : s.own.Coherent) (c : Call) : (s.afterCall c).own.Coherent := by
  cases c with
  | operation o => exact coherent_operate h o
  | reset => exact coherent_clear

theorem coherent_afterCalls (delay : Nat) (winsTies : Bool) (calls : List Call) :
    (afterCalls { delay, winsTies } calls).own.Coherent :=
  List.foldlRecOn (motive := fun s => s.own.Coherent) calls afterCall coherent_clear
    fun _ h c _ => coherent_afterCall h c

end Synchronizer

end NoiseControl.QuietMode
