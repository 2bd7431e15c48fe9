/-!
# Decimal numerals

Natural numbers written with the ten ASCII digits, and the numerals that requests and variables
may hold: digits after an optional plus sign, leading zeros allowed, up to a largest value.
-/

namespace NoiseControl.Text

def digitValue? (c : Char) : Option Nat :=
  if '0' ≤ c ∧ c ≤ '9' then some (c.toNat - '0'.toNat) else none

def isDigit (c : Char) : Bool := (digitValue? c).isSome

def digitChar (d : Nat) : Char := Char.ofNat ('0'.toNat + d)

/-- The value of a string of digits, taken over from `start` for the digits before it; none if
some character is no digit. -/
def digitsFrom? (start : Nat) : List Char → Option Nat
  | [] => some start
  | c :: rest =>
    match digitValue? c with
    | some d => digitsFrom? (10 * start + d) rest
    | none => none

def digits? (cs : List Char) : Option Nat := if cs.isEmpty then none else digitsFrom? 0 cs

/-- The numeral of a number, without leading zeros. -/
def numeral (n : Nat) : List Char :=
  if n < 10 then [digitChar n] else numeral (n / 10) ++ [digitChar (n % 10)]
termination_by n

/-- Read a numeral with an optional plus sign, of a value up to `max`. -/
def number? (max : Nat) (cs : List Char) : Option Nat :=
  let digits := match cs with
    | '+' :: rest => rest
    | cs => cs
  (digits? digits).filter fun n => decide (n ≤ max)

theorem digitValue?_digitChar {d : Nat} (h : d < 10) : digitValue? (digitChar d) = some d := by
  have : d = 0 ∨ d = 1 ∨ d = 2 ∨ d = 3 ∨ d = 4 ∨ d = 5 ∨ d = 6 ∨ d = 7 ∨ d = 8 ∨ d = 9 := by omega
  rcases this with h | h | h | h | h | h | h | h | h | h <;> subst h <;> decide

theorem digitsFrom?_append (start : Nat) (cs ds : List Char) :
    digitsFrom? start (cs ++ ds) = (digitsFrom? start cs).bind fun n => digitsFrom? n ds := by
  induction cs generalizing start with
  | nil => rfl
  | cons c rest ih =>
    simp only [List.cons_append, digitsFrom?]
    cases digitValue? c <;> simp [ih]

theorem digitsFrom?_numeral (n : Nat) : digitsFrom? 0 (numeral n) = some n := by
  induction n using Nat.strongRecOn with
  | ind n ih =>
    rw [numeral]
    split
    · next h => simp [digitsFrom?, digitValue?_digitChar h]
    · next h =>
      rw [digitsFrom?_append, ih (n / 10) (by omega)]
      simp only [Option.bind_some, digitsFrom?, digitValue?_digitChar (Nat.mod_lt n (by omega)),
        Option.some.injEq]
      omega

theorem numeral_ne_nil (n : Nat) : numeral n ≠ [] := by
  rw [numeral]
  split <;> simp

theorem digits?_numeral (n : Nat) : digits? (numeral n) = some n := by
  simp [digits?, numeral_ne_nil, digitsFrom?_numeral]

end NoiseControl.Text
