import NoiseControl.Proofs.Earbud.Expiry
import NoiseControl.Proofs.Earbud.History

/-!
# Timers that are not overdue

An earbud is timely if no timer of it should have expired before.  No event makes it overdue, for what
an event arms lies ahead or comes due at once, and the clock may move on as far as the next deadline.
-/

namespace NoiseControl

namespace TimerQueue

variable {q : TimerQueue}

/-- In good order, and with no deadline in the past. -/
structure Timely (q : TimerQueue) : Prop extends q.InOrder where
  ahead : ∀ timer ∈ q.pending, q.now ≤ timer.deadline

theorem timely_empty : Timely {} where
  toInOrder := inOrder_empty
  ahead := nofun

theorem Timely.cancel (h : q.Timely) (k : TimerKind) : (q.cancel k).Timely where
  toInOrder := h.toInOrder.cancel k
  ahead timer ht := h.ahead timer (List.mem_filter.mp ht).1

theorem Timely.arm (h : q.Timely) (k : TimerKind) (after : Nat) : (q.arm k after).Timely where
  toInOrder := h.toInOrder.arm k after
  ahead timer ht := by
    rcases List.mem_append.mp ht with ht | ht
    · exact (h.cancel k).ahead timer ht
    · rw [List.mem_singleton.mp ht]
      exact Nat.le_add_right _ _

theorem Timely.advanceTo (h : q.Timely) {t : Nat} (ht : ∀ timer ∈ q.pending, t ≤ timer.deadline) :
    (q.advanceTo t).Timely where
  toInOrder := h.toInOrder.advanceTo t
  ahead timer hmem := Nat.max_le.mpr ⟨h.ahead timer hmem, ht timer hmem⟩

/-- What is due is due now. -/
theorem Timely.due (h : q.Timely) {timer : ArmedTimer} (ht : timer ∈ q.due) :
    timer ∈ q.pending ∧ timer.deadline = q.now := by
  obtain ⟨hmem, hdue⟩ := List.mem_filter.mp ht
  exact ⟨hmem, Nat.le_antisymm (of_decide_eq_true hdue) (h.ahead timer hmem)⟩

end TimerQueue

namespace Earbud

variable {x : Extent} {a b : Earbud}

theorem Work.timely (w : Work x a b) (h : a.timers.Timely) : b.timers.Timely := by
  induction w with
  | refl => exact h
  | tail _ touch ih =>
    rcases touch.timers with ht | ⟨k, -, ht | ⟨after, ht⟩⟩ <;> rw [ht]
    · exact ih
    · exact ih.cancel k
    · exact ih.arm k after

theorem timely_dispatch (h : b.timers.Timely) (e : Event) : (b.dispatch e).1.timers.Timely :=
  (work_dispatch b e).timely h

theorem now_dispatch (b : Earbud) (e : Event) : (b.dispatch e).1.timers.now = b.timers.now :=
  (work_dispatch b e).now

/-! ### Expiries -/

/-- A timer of a kind expires. -/
def expire (b : Earbud) (k : TimerKind) : Earbud :=
  ((b.popped k).dispatch (.timerExpired k)).1

theorem deliverDue?_fst (b : Earbud) :
    b.deliverDue?.map Prod.fst = (ArmedTimer.first? b.timers.due).map fun timer => b.expire timer.kind := by
  simp only [deliverDue?, TimerQueue.popDue?, Option.map_map]
  rfl

theorem now_expire (b : Earbud) (k : TimerKind) : (b.expire k).timers.now = b.timers.now :=
  now_dispatch (b.popped k) (.timerExpired k)

theorem timely_expire (h : b.timers.Timely) (k : TimerKind) : (b.expire k).timers.Timely :=
  timely_dispatch (b := b.popped k) (h.cancel k) _

end Earbud

end NoiseControl
