/-!
# Noise control modes

A mode is the number of a filter configuration, counted from zero inside the earbud and from
one wherever a person reads or types it.
-/

namespace NoiseControl

/-- A zero-based mode index. -/
structure Mode where
  index : UInt8
deriving DecidableEq, Inhabited

namespace Mode

def limit : Nat := 10

/-- The mode in which adaptive noise control runs. -/
def adaptive : Mode := ⟨0⟩

def isAdaptive (m : Mode) : Bool := m == adaptive

/-- The mode a person means by a number: one to ten, counted from one. -/
def ofNumber? (number : Nat) : Option Mode :=
  if 1 ≤ number ∧ number ≤ limit then some ⟨UInt8.ofNat (number - 1)⟩ else none

def number (m : Mode) : Nat := m.index.toNat + 1

/-- The following mode of `count`, back to the first after the last. -/
def next (m : Mode) (count : UInt8) : Mode :=
  if m.index.toNat + 1 < count.toNat then ⟨m.index + 1⟩ else ⟨0⟩

def display (m : Mode) : String := s!"mode {m.number}"

theorem ofNumber?_number (m : Mode) (h : m.index.toNat < limit) : ofNumber? m.number = some m := by
  simp [ofNumber?, number, Nat.succ_le_of_lt h]

theorem next_lt (m : Mode) {count : UInt8} (h : m.index < count) : (m.next count).index < count := by
  rw [UInt8.lt_iff_toNat_lt] at h ⊢
  unfold next
  split
  · rw [UInt8.toNat_add]
    have hone : (1 : UInt8).toNat = 1 := rfl
    omega
  · exact Nat.zero_lt_of_lt h

end Mode

end NoiseControl
