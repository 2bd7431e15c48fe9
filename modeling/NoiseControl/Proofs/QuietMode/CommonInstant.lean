import Mathlib.Algebra.Group.Nat.Defs
import NoiseControl.Config.File
import NoiseControl.Proofs.QuietMode.Decision

/-!
# One instant for both sides

The side that elects itself counts down the whole delay.  The peer has only the instant, on a clock
that wraps, and gets the delay back from it as long as it is less than half a turn of the clock.  The
check of a configuration does not look at the delay.
-/

namespace NoiseControl.QuietMode.Synchronizer

variable {s : Synchronizer} {d : Direction} {r : Record} {now : WallClock}

/-- What a side does that hears, at the reading of an election, of the request made in it. -/
def echo (d : Direction) (delay : Nat) : Effect :=
  if 0 < delay % 2 ^ 32 ∧ delay % 2 ^ 32 < 2 ^ 31 then .arm d (delay % 2 ^ 32) else .fireNow d

theorem follow_schedule (s : Synchronizer) (d : Direction) (now : WallClock) :
    follow d (s.schedule d now).1.own now = echo d s.delay := by
  have huntil : (s.schedule d now).1.own.timestamp.until? now =
      if 0 < s.delay % 2 ^ 32 ∧ s.delay % 2 ^ 32 < 2 ^ 31 then some (s.delay % 2 ^ 32) else none :=
    now.until?_add s.delay
  simp only [follow, echo, huntil]
  by_cases hahead : 0 < s.delay % 2 ^ 32 ∧ s.delay % 2 ^ 32 < 2 ^ 31
  · rw [if_pos hahead, if_pos hahead]
  · rw [if_neg hahead, if_neg hahead]

theorem pending?_schedule (hs : s.own.Plain) (d : Direction) (now : WallClock) :
    (s.schedule d now).1.own.pending? = some d :=
  Record.pending?_eq_some (s.carries_schedule hs d now).requested

theorem peerRecord_schedule (hs : s.own.Plain) {peer : Synchronizer}
    (hfree : peer.own.requested d = false) (now : WallClock) :
    (peer.peerRecord (s.schedule d now).1.own now).2 = [echo d s.delay] := by
  have hnone : ¬(peer.hearing (s.schedule d now).1.own).own.requested d = true :=
    Bool.eq_false_iff.mp hfree
  rw [peerRecord_asking peer (pending?_schedule hs d now), if_neg hnone, follow_schedule]

/-- Half a turn of the clock and more is not read back. -/
theorem echo_eq_iff (d : Direction) (delay : Nat) :
    echo d delay = (if delay = 0 then .fireNow d else .arm d delay) ↔ delay < 2 ^ 31 := by
  unfold echo
  constructor
  · intro h
    refine Nat.lt_of_not_le fun hfar => ?_
    rw [if_neg (show ¬delay = 0 by omega)] at h
    split at h
    · rename_i hnear
      have hmod : delay % 2 ^ 32 = delay := by injection h
      omega
    · cases h
  · intro hnear
    have hmod : delay % 2 ^ 32 = delay := Nat.mod_eq_of_lt (by omega)
    rw [hmod]
    by_cases hzero : delay = 0
    · rw [if_pos hzero, if_neg (by omega)]
    · rw [if_neg hzero, if_pos (by omega)]

/-- A side that elects itself with a delay counts it down and tells of its request, and a new side
that hears of it at the same reading of the clock counts down as long.  Without a delay it acts at
once. -/
def MeetsAfter (delay : Nat) : Prop :=
  ∀ (s : Synchronizer) (o : Operation) (d : Direction) (now : WallClock) (r : Record) (other : Nat)
    (winsTies : Bool),
    s.delay = delay → o.reading? = some now → s.own.requested d = false →
    (s.operate o).1.own.requested d = true → .publish r ∈ (s.operate o).2 →
      (s.operate o).2 = [.arm d delay, .publish r] ∧
        (peerRecord { delay := other, winsTies } r now).2 =
          [if delay = 0 then .fireNow d else .arm d delay]

/-- Both sides come to one instant exactly when the delay is less than half a turn of the clock. -/
theorem meetsAfter_iff (delay : Nat) : MeetsAfter delay ↔ delay < 2 ^ 31 := by
  constructor
  · -- One election is enough, that of a side that hears silence at the reading zero.
    intro h
    let s : Synchronizer := { peer := { detected := true }, delay }
    have hmeets := h s (.detected .zero) .enable .zero
      { detected := true, enableRequested := true, timestamp := WallClock.zero.add delay } delay false
      rfl rfl rfl rfl (List.mem_cons_of_mem _ (List.mem_singleton.mpr rfl))
    have hplain : (s.noting true).own.Plain := Record.plain_clear.detected true
    have hhears : (peerRecord { delay } _ .zero).2 = _ :=
      peerRecord_schedule (d := .enable) hplain rfl .zero
    have hecho : echo .enable delay = if delay = 0 then .fireNow .enable else .arm .enable delay :=
      List.singleton_inj.mp (hhears.symm.trans hmeets.2)
    exact (echo_eq_iff .enable delay).mp hecho
  · intro hnear s o d now r other winsTies hdelay hnow hfree hasked hr
    obtain ⟨now', s', hnow', hdelay', hplain, heq⟩ := operate_schedules hfree hasked
    cases hnow.symm.trans hnow'
    rw [heq] at hr ⊢
    obtain rfl : r = (s'.schedule d now).1.own := by simpa [schedule] using hr
    have hlength : s'.delay = delay := hdelay'.trans hdelay
    constructor
    · rw [← hlength]
      rfl
    · rw [peerRecord_schedule hplain (Record.plain_clear d), hlength,
        (echo_eq_iff d delay).mpr hnear]

/-- A delay of 50 minutes passes the check, and the peer acts at once. -/
theorem missed_instant : ¬∀ file : ConfigFile,
    ((Config.standard "").overlay file).check = .ok () →
      MeetsAfter ((Config.standard "").overlay file).timing.quietModeDelay := by
  intro h
  have hmeets := h { timing := { quietModeDelay := some 3000000 } } rfl
    { peer := { detected := true }, delay := millis 3000000 } (.detected .zero) .enable .zero
    { detected := true, enableRequested := true, timestamp := ⟨3000000000⟩ } 0 false rfl rfl rfl rfl
    (by decide)
  exact absurd hmeets.2 (by decide)

end NoiseControl.QuietMode.Synchronizer
