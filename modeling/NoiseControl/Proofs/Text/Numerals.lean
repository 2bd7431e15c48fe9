import Mathlib.Data.List.Induction
import Mathlib.Data.Nat.Digits.Defs
import NoiseControl.Text.Decimal

/-!
# The numbers that numerals denote

A string of digits denotes the sum of its digits, each with the weight of its place.  What the
readers of numbers accept is exactly what denotes a number in this way, and of all strings of digits
for a number the written one is that without leading zeros.
-/

namespace NoiseControl.Text

/-- The number that a string of digits denotes by the places of the digits. -/
def placeValue (digits : List Char) : Nat :=
  Nat.ofDigits 10 (digits.reverse.map fun c => c.toNat - '0'.toNat)

/-- A nonempty string of ASCII digits. -/
def Digits (cs : List Char) : Prop := cs ≠ [] ∧ ∀ c ∈ cs, '0' ≤ c ∧ c ≤ '9'

/-- Digits after an optional plus sign, for a number. -/
def Denotes (cs : List Char) (n : Nat) : Prop :=
  ∃ digits, (cs = digits ∨ cs = '+' :: digits) ∧ Digits digits ∧ placeValue digits = n

theorem isDigit_iff (c : Char) : isDigit c = true ↔ '0' ≤ c ∧ c ≤ '9' := by
  unfold isDigit digitValue?
  split <;> simp_all

theorem digits_iff (cs : List Char) : Digits cs ↔ cs ≠ [] ∧ ∀ c ∈ cs, isDigit c = true := by
  simp only [Digits, isDigit_iff]

theorem digitValue?_of_isDigit {c : Char} (h : isDigit c = true) :
    digitValue? c = some (c.toNat - '0'.toNat) := if_pos ((isDigit_iff c).mp h)

theorem digitValue?_eq_none {c : Char} (h : ¬isDigit c = true) : digitValue? c = none := by
  simpa [isDigit] using h

theorem placeValue_cons (c : Char) (rest : List Char) :
    placeValue (c :: rest) = (c.toNat - '0'.toNat) * 10 ^ rest.length + placeValue rest := by
  simp only [placeValue, List.reverse_cons, List.map_append, Nat.ofDigits_append, List.map_cons,
    List.map_nil, Nat.ofDigits_singleton, List.length_map, List.length_reverse]
  rw [Nat.add_comm, Nat.mul_comm]

/-! ### Strings of digits -/

theorem digitsFrom?_eq_some_iff (start : Nat) (cs : List Char) (n : Nat) :
    digitsFrom? start cs = some n ↔
      (∀ c ∈ cs, isDigit c = true) ∧ start * 10 ^ cs.length + placeValue cs = n := by
  induction cs generalizing start with
  | nil => simp [digitsFrom?, placeValue]
  | cons c rest ih =>
    unfold digitsFrom?
    by_cases hc : isDigit c = true
    · rw [digitValue?_of_isDigit hc]
      dsimp only
      rw [ih, placeValue_cons, List.length_cons, Nat.pow_succ, List.forall_mem_cons,
        and_iff_right hc]
      refine and_congr_right fun _ => ?_
      rw [Nat.add_mul, Nat.mul_comm 10 start, Nat.mul_assoc, Nat.mul_comm 10, Nat.add_assoc]
    · rw [digitValue?_eq_none hc]
      refine iff_of_false (fun h => ?_) fun h => hc (h.1 c List.mem_cons_self)
      cases h

theorem digits?_eq_some_iff (cs : List Char) (n : Nat) :
    digits? cs = some n ↔ Digits cs ∧ placeValue cs = n := by
  rw [digits_iff]
  unfold digits?
  split
  · rename_i hempty
    exact iff_of_false nofun fun h => h.1.1 (List.isEmpty_iff.mp hempty)
  · rename_i hsome
    rw [digitsFrom?_eq_some_iff, Nat.zero_mul, Nat.zero_add, and_assoc]
    exact (and_iff_right fun h => hsome (List.isEmpty_iff.mpr h)).symm

/-- The reader of numbers takes what denotes one that is not too large. -/
theorem number?_eq_some_iff (max : Nat) (cs : List Char) (n : Nat) :
    number? max cs = some n ↔ Denotes cs n ∧ n ≤ max := by
  have hread : ∀ digits, (digits? digits).filter (fun n => decide (n ≤ max)) = some n ↔
      (Digits digits ∧ placeValue digits = n) ∧ n ≤ max := fun digits => by
    rw [Option.filter_eq_some_iff, digits?_eq_some_iff, decide_eq_true_eq]
  unfold number? Denotes
  split
  · rename_i rest
    dsimp only
    rw [hread]
    refine and_congr_left fun _ => ⟨fun h => ⟨rest, Or.inr rfl, h⟩, ?_⟩
    rintro ⟨digits, rfl | heq, h⟩
    -- A plus sign is no digit.
    · exact absurd (h.1.2 '+' List.mem_cons_self) (by decide)
    · cases heq
      exact h
  · rename_i hplus
    dsimp only
    rw [hread]
    refine and_congr_left fun _ => ⟨fun h => ⟨cs, Or.inl rfl, h⟩, ?_⟩
    rintro ⟨digits, rfl | rfl, h⟩
    · exact h
    · exact absurd rfl (hplus digits)

/-! ### Written numerals -/

theorem digits_numeral (n : Nat) : Digits (numeral n) ∧ placeValue (numeral n) = n :=
  (digits?_eq_some_iff _ n).mp (digits?_numeral n)

theorem digitChar_of_isDigit {c : Char} (h : isDigit c = true) :
    c.toNat - '0'.toNat < 10 ∧ digitChar (c.toNat - '0'.toNat) = c := by
  obtain ⟨hlow, hhigh⟩ := (isDigit_iff c).mp h
  have hlow' : 48 ≤ c.toNat := hlow
  have hhigh' : c.toNat ≤ 57 := hhigh
  have hzero : '0'.toNat = 48 := rfl
  refine ⟨by omega, ?_⟩
  unfold digitChar
  rw [show '0'.toNat + (c.toNat - '0'.toNat) = c.toNat by omega]
  exact Char.ofNat_toNat c

theorem placeValue_concat (cs : List Char) (c : Char) :
    placeValue (cs ++ [c]) = 10 * placeValue cs + (c.toNat - '0'.toNat) := by
  simp [placeValue, Nat.ofDigits_cons, Nat.add_comm]

theorem placeValue_pos {c : Char} {rest : List Char} (hdigits : Digits (c :: rest))
    (hc : c ≠ '0') : 0 < placeValue (c :: rest) := by
  obtain ⟨hdigit, hchar⟩ := digitChar_of_isDigit ((isDigit_iff c).mpr (hdigits.2 c List.mem_cons_self))
  have hpos : 0 < c.toNat - '0'.toNat := by
    refine Nat.pos_of_ne_zero fun hzero => hc ?_
    rw [← hchar, hzero]
    rfl
  rw [placeValue_cons]
  have := Nat.mul_pos hpos (Nat.pow_pos (a := 10) (n := rest.length) (by decide))
  omega

theorem head?_numeral {n : Nat} (h : n ≠ 0) : (numeral n).head? ≠ some '0' := by
  induction n using Nat.strongRecOn with
  | ind n ih =>
    rw [numeral]
    split
    · rename_i hlt
      have hfirst : ∀ d < 10, d ≠ 0 → digitChar d ≠ '0' := by decide
      simpa using hfirst n hlt h
    · have hlead := ih (n / 10) (by omega) (by omega)
      obtain ⟨c, rest, heq⟩ := List.exists_cons_of_ne_nil (numeral_ne_nil (n / 10))
      rw [heq] at hlead ⊢
      exact hlead

/-- A string of digits without leading zeros is the numeral of what it denotes. -/
theorem eq_numeral {cs : List Char} (hdigits : Digits cs) (hlead : cs = ['0'] ∨ cs.head? ≠ some '0') :
    cs = numeral (placeValue cs) := by
  induction cs using List.reverseRecOn with
  | nil => exact absurd rfl hdigits.1
  | append_singleton cs c ih =>
    obtain ⟨hlt, hchar⟩ := digitChar_of_isDigit ((isDigit_iff c).mpr (hdigits.2 c (by simp)))
    rw [placeValue_concat, numeral]
    cases cs with
    | nil =>
      have hvalue : placeValue [] = 0 := rfl
      rw [hvalue, Nat.mul_zero, Nat.zero_add, if_pos hlt, hchar, List.nil_append]
    | cons first rest =>
      have hfirst : first ≠ '0' := by
        rcases hlead with heq | hne
        · simp at heq
        · simpa using hne
      have hinit : Digits (first :: rest) :=
        ⟨by simp, fun c' hc' => hdigits.2 c' (List.mem_append_left _ hc')⟩
      have hpos := placeValue_pos hinit hfirst
      rw [if_neg (by omega), Nat.mul_add_div (by decide), Nat.div_eq_of_lt hlt, Nat.add_zero,
        Nat.mul_add_mod, Nat.mod_eq_of_lt hlt, hchar, ← ih hinit (Or.inr (by simpa using hfirst))]

end NoiseControl.Text
