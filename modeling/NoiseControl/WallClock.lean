/-!
# The shared wall clock

While two earbuds are linked they read one clock: microseconds on a 32-bit counter that
wraps.  Two instants are compared through the signed value of their difference, so instants
less than `2 ^ 31` microseconds apart keep their order across a wrap.
-/

namespace NoiseControl

/-- A length of time is a natural number of microseconds; this is the length of `n`
milliseconds. -/
def millis (n : Nat) : Nat := n * 1000

structure WallClock where
  micros : UInt32
deriving DecidableEq, Inhabited

namespace WallClock

/-- The instant that stands for "nothing scheduled". -/
def zero : WallClock := ⟨0⟩

/-- What the clock shows at a true time counted without wrapping. -/
def reading (time : Nat) : WallClock := ⟨UInt32.ofNat time⟩

def isZero (w : WallClock) : Bool := w.micros == 0

/-- The instant a length of time later, wrapping at 32 bits. -/
def add (w : WallClock) (d : Nat) : WallClock := ⟨w.micros + UInt32.ofNat d⟩

/-- The signed number of microseconds from `earlier` to `w`, read in two's complement. -/
def deltaSince (w earlier : WallClock) : Int := (w.micros - earlier.micros).toBitVec.toInt

/-- The time left until `w` as seen from `now`, none once `w` is due. -/
def until? (w now : WallClock) : Option Nat :=
  let delta := w.deltaSince now
  if 0 < delta then some delta.toNat else none

def display (w : WallClock) : String := s!"{w.micros.toNat}us"

/-! ### Differences of instants -/

/-- A length of time added to an instant is read back modulo the turn of the clock. -/
theorem deltaSince_add_eq_bmod (w : WallClock) (d : Nat) :
    (w.add d).deltaSince w = (d : Int).bmod 4294967296 := by
  obtain ⟨micros⟩ := w
  have hdelta : micros + UInt32.ofNat d - micros = UInt32.ofNat d := by
    rw [UInt32.add_comm, UInt32.add_sub_cancel]
  simp only [deltaSince, add, hdelta, BitVec.toInt_eq_toNat_bmod, UInt32.toNat_toBitVec,
    UInt32.toNat_ofNat']
  exact Int.emod_bmod d 4294967296

theorem deltaSince_add (w : WallClock) {d : Nat} (h : d < 2147483648) :
    (w.add d).deltaSince w = d := by
  rw [deltaSince_add_eq_bmod, Int.bmod_def]
  split <;> omega

/-- What is left of a length of time at the reading that it is added to: no more than half a turn of
the clock. -/
theorem until?_add (w : WallClock) (d : Nat) :
    (w.add d).until? w =
      if 0 < d % 4294967296 ∧ d % 4294967296 < 2147483648 then some (d % 4294967296) else none := by
  have hdelta : (w.add d).deltaSince w =
      if d % 4294967296 < 2147483648 then ((d % 4294967296 : Nat) : Int)
        else (d % 4294967296 : Nat) - 4294967296 := by
    rw [deltaSince_add_eq_bmod, Int.bmod_def]
    split <;> split <;> omega
  unfold until?
  dsimp only
  rw [hdelta]
  have hlt : d % 4294967296 < 4294967296 := Nat.mod_lt d (by decide)
  generalize d % 4294967296 = left at hlt ⊢
  by_cases hnear : left < 2147483648
  · rw [if_pos hnear, Int.toNat_natCast]
    by_cases hpos : 0 < left
    · rw [if_pos (Int.natCast_pos.mpr hpos), if_pos ⟨hpos, hnear⟩]
    · rw [if_neg (by omega), if_neg fun h => hpos h.1]
  · rw [if_neg hnear, if_neg (by omega), if_neg fun h => hnear h.2]

/-- As seen from zero, half of the instants are ahead. -/
theorem until?_zero (w : WallClock) :
    w.until? .zero =
      if 0 < w.micros.toNat ∧ w.micros.toNat < 2147483648 then some w.micros.toNat else none := by
  have hadd : zero.add w.micros.toNat = w := by simp [add, zero]
  have hmod : w.micros.toNat % 4294967296 = w.micros.toNat := Nat.mod_eq_of_lt w.micros.toNat_lt
  have huntil := zero.until?_add w.micros.toNat
  rwa [hadd, hmod] at huntil

theorem until?_eq_none_iff (w now : WallClock) : w.until? now = none ↔ w.deltaSince now ≤ 0 := by
  unfold until?
  dsimp only
  split <;> simp <;> omega

/-- An instant is what lies the signed number of microseconds after the earlier one. -/
theorem add_deltaSince {w now : WallClock} (h : 0 ≤ w.deltaSince now) :
    now.add (w.deltaSince now).toNat = w := by
  obtain ⟨later⟩ := w
  obtain ⟨earlier⟩ := now
  have hlt := (later - earlier).toNat_lt
  have hdelta : (deltaSince ⟨later⟩ ⟨earlier⟩).toNat = (later - earlier).toNat := by
    simp only [deltaSince, BitVec.toInt_eq_toNat_bmod, UInt32.toNat_toBitVec] at h ⊢
    rw [Int.bmod_def] at h ⊢
    simp only [Nat.reducePow] at *
    split at h <;> split <;> omega
  rw [hdelta, add, UInt32.ofNat_toNat, UInt32.add_comm, UInt32.sub_add_cancel]

theorem deltaSince_swap {w w' : WallClock} (h : w.deltaSince w' ≠ -2147483648) :
    w'.deltaSince w = -w.deltaSince w' := by
  obtain ⟨a⟩ := w
  obtain ⟨b⟩ := w'
  have ha := a.toNat_lt
  have hb := b.toNat_lt
  simp only [deltaSince, UInt32.toBitVec_sub, BitVec.toInt_eq_toNat_bmod, BitVec.toNat_sub,
    UInt32.toNat_toBitVec] at h ⊢
  rw [Int.bmod_def, Int.bmod_def] at *
  simp only [Nat.reducePow] at *
  repeat' split at h
  all_goals (repeat' split)
  all_goals omega

/-! ### Readings of true time -/

theorem reading_add (t d : Nat) : (reading t).add d = reading (t + d) := by
  simp [reading, add]

/-- Readings of times less than `2 ^ 31` apart differ by the difference of the times. -/
theorem deltaSince_reading (later now : Nat)
    (h : (later : Int) - now < 2147483648) (h' : -2147483648 ≤ (later : Int) - now) :
    (reading later).deltaSince (reading now) = (later : Int) - now := by
  simp only [deltaSince, reading, UInt32.toBitVec_sub, BitVec.toInt_eq_toNat_bmod,
    BitVec.toNat_sub, UInt32.toNat_toBitVec, UInt32.toNat_ofNat']
  rw [Int.bmod_def]
  simp only [Nat.reducePow] at *
  split <;> omega

/-- Seen from true time `now`, the instant of true time `later` is due exactly when it is not
ahead, and otherwise lies the difference away. -/
theorem until?_reading (later now : Nat)
    (h : (later : Int) - now < 2147483648) (h' : -2147483648 ≤ (later : Int) - now) :
    (reading later).until? (reading now) = if now < later then some (later - now) else none := by
  simp only [until?, deltaSince_reading later now h h']
  by_cases hlt : now < later
  · rw [if_pos (by omega), if_pos hlt]
    exact congrArg some (show ((later : Int) - now).toNat = later - now by omega)
  · rw [if_neg (by omega), if_neg hlt]

end WallClock

end NoiseControl
