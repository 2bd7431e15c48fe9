import Mathlib.Data.List.TakeDrop
import Mathlib.Data.List.TakeWhile
import NoiseControl.Proofs.Json.Strings

/-!
# Reading the tokens of a text

What the lexer reads of a text are tokens that the text spells.  A text may spell several lists of
tokens, as digits may be cut into numbers anywhere, but only one in which no two numbers follow each
other, and that is the one read.
-/

namespace NoiseControl.Json

/-- The text is over or goes on with another kind of character. -/
def Stops (kind : Char → Bool) (cs : List Char) : Prop := ∀ c ∈ cs.head?, kind c = false

def continuesWhole (c : Char) : Bool := Text.isDigit c || c == '.'

def continuesNumber (c : Char) : Bool := continuesWhole c || c == 'e' || c == 'E'

theorem Stops.imp {kind kind' : Char → Bool} {cs : List Char} (h : Stops kind cs)
    (himp : ∀ c, kind' c = true → kind c = true) : Stops kind' cs := fun c hc =>
  Bool.eq_false_iff.mpr fun hkind => Bool.eq_false_iff.mp (h c hc) (himp c hkind)

theorem Stops.of_continuesNumber {cs : List Char} (h : Stops continuesNumber cs) :
    Stops continuesWhole cs := h.imp fun c hc => by simp [continuesNumber, hc]

theorem Stops.of_continuesWhole {cs : List Char} (h : Stops continuesWhole cs) :
    Stops Text.isDigit cs := h.imp fun c hc => by simp [continuesWhole, hc]

variable {cs rest digits sign whole fraction exponent numeral lexeme : List Char}
  {t : Token} {ts : List Token} {fuel : Nat}

/-! ### Numbers -/

theorem digitRun_append (h : Text.Digits digits) (hrest : Stops Text.isDigit rest) :
    digitRun (digits ++ rest) = (digits, rest) := by
  have hdigit := ((Text.digits_iff digits).mp h).2
  unfold digitRun
  rw [List.span_eq_takeWhile_dropWhile, List.takeWhile_append_of_pos hdigit,
    List.dropWhile_append_of_pos hdigit]
  cases rest with
  | nil => simp
  | cons c rest =>
    have hc : Text.isDigit c = false := hrest c rfl
    simp [hc]

theorem digitRun_ok (h : ¬(digitRun cs).1.isEmpty = true) :
    cs = (digitRun cs).1 ++ (digitRun cs).2 ∧ Text.Digits (digitRun cs).1 := by
  rw [List.isEmpty_iff] at h
  unfold digitRun at h ⊢
  rw [List.span_eq_takeWhile_dropWhile] at h ⊢
  exact ⟨List.takeWhile_append_dropWhile.symm,
    (Text.digits_iff _).mpr ⟨h, fun c hc => List.mem_takeWhile_imp hc⟩⟩

theorem append_ne_cons_of_digits (h : Text.Digits digits) (rest : List Char) {c : Char}
    (hc : Text.isDigit c = false) (tail : List Char) : digits ++ rest ≠ c :: tail := by
  cases digits with
  | nil => exact absurd rfl h.1
  | cons d digits =>
    intro heq
    cases heq
    have hdigit := ((Text.digits_iff _).mp h).2 c List.mem_cons_self
    rw [hc] at hdigit
    cases hdigit

theorem wholePart?_append (h : Whole whole) (hrest : Stops Text.isDigit rest) :
    wholePart? (whole ++ rest) = some (whole, rest) := by
  rcases h with rfl | ⟨hdigits, hzero⟩
  · rfl
  · have hrun := digitRun_append hdigits hrest
    cases whole with
    | nil => exact absurd rfl hdigits.1
    | cons c whole =>
      rw [List.cons_append] at hrun ⊢
      unfold wholePart?
      split
      · rename_i heq
        cases heq
        exact absurd rfl hzero
      · simp [hrun]

theorem wholePart?_ok (h : wholePart? cs = some (whole, rest)) :
    cs = whole ++ rest ∧ Whole whole := by
  unfold wholePart? at h
  split at h
  · cases h
    exact ⟨rfl, Or.inl rfl⟩
  · rename_i hzero
    dsimp only at h
    split at h
    · cases h
    · rename_i hdigits
      cases h
      obtain ⟨heq, hdigits⟩ := digitRun_ok hdigits
      refine ⟨heq, Or.inr ⟨hdigits, fun hhead => ?_⟩⟩
      obtain ⟨tail, htail⟩ := List.head?_eq_some_iff.mp hhead
      rw [htail] at heq
      exact hzero _ heq

theorem fraction?_append (h : Fraction fraction) (hrest : Stops continuesWhole rest) :
    fraction? (fraction ++ rest) = some (fraction, rest) := by
  rcases h with rfl | ⟨digits, rfl, hdigits⟩
  · rw [List.nil_append]
    unfold fraction?
    split
    · exact absurd (hrest '.' rfl) (by decide)
    · rfl
  · have hempty : digits.isEmpty = false := by simpa using hdigits.1
    simp [fraction?, digitRun_append hdigits hrest.of_continuesWhole, hempty]

theorem fraction?_ok (h : fraction? cs = some (fraction, rest)) :
    cs = fraction ++ rest ∧ Fraction fraction := by
  unfold fraction? at h
  split at h
  · dsimp only at h
    split at h
    · cases h
    · rename_i hdigits
      cases h
      obtain ⟨heq, hdigits⟩ := digitRun_ok hdigits
      exact ⟨congrArg _ heq, Or.inr ⟨_, rfl, hdigits⟩⟩
  · cases h
    exact ⟨rfl, Or.inl rfl⟩

theorem exponent?_append (h : Exponent exponent) (hrest : Stops continuesNumber rest) :
    exponent? (exponent ++ rest) = some (exponent, rest) := by
  rcases h with rfl | ⟨letter, sign, digits, rfl, hletter, hsign, hdigits⟩
  · cases rest with
    | nil => rfl
    | cons c rest =>
      have hc := hrest c rfl
      simp only [continuesNumber, Bool.or_eq_false_iff, beq_eq_false_iff_ne] at hc
      exact if_neg (not_or.mpr ⟨hc.1.2, hc.2⟩)
  · have hrun := digitRun_append hdigits hrest.of_continuesNumber.of_continuesWhole
    have hempty : digits.isEmpty = false := by simpa using hdigits.1
    rcases hsign with rfl | rfl | rfl
    -- Without a sign a digit comes next, which is told from a sign.
    · have hplus := append_ne_cons_of_digits hdigits rest (c := '+') rfl
      have hminus := append_ne_cons_of_digits hdigits rest (c := '-') rfl
      rw [List.cons_append, List.nil_append, exponent?, if_pos hletter]
      · simp [hrun, hempty]
      · exact hplus
      · exact hminus
    · simp [exponent?, hletter, hrun, hempty]
    · simp [exponent?, hletter, hrun, hempty]

/-- An exponent with its letter and its sign told. -/
theorem exponent_of_digitRun (sign : List Char) {letter : Char} {tail : List Char}
    (hletter : letter = 'e' ∨ letter = 'E') (hsign : sign = [] ∨ sign = ['+'] ∨ sign = ['-'])
    (h : (if (digitRun tail).1.isEmpty then none
      else some (letter :: sign ++ (digitRun tail).1, (digitRun tail).2)) = some (exponent, rest)) :
    letter :: (sign ++ tail) = exponent ++ rest ∧ Exponent exponent := by
  split at h
  · cases h
  · rename_i hdigits
    cases h
    obtain ⟨heq, hdigits⟩ := digitRun_ok hdigits
    refine ⟨?_, Or.inr ⟨letter, sign, _, rfl, hletter, hsign, hdigits⟩⟩
    rw [List.cons_append, List.cons_append, List.append_assoc, ← heq]

theorem exponent?_ok (h : exponent? cs = some (exponent, rest)) :
    cs = exponent ++ rest ∧ Exponent exponent := by
  unfold exponent? at h
  split at h
  · cases h
    exact ⟨rfl, Or.inl rfl⟩
  · split at h
    · rename_i hletter
      dsimp only at h
      split at h
      · exact exponent_of_digitRun ['+'] hletter (by simp) h
      · exact exponent_of_digitRun ['-'] hletter (by simp) h
      · exact exponent_of_digitRun [] hletter (by simp) h
    · cases h
      exact ⟨rfl, Or.inl rfl⟩

theorem stops_exponent_append (h : Exponent exponent) (hrest : Stops continuesNumber rest) :
    Stops continuesWhole (exponent ++ rest) := by
  rcases h with rfl | ⟨letter, sign, digits, rfl, hletter, -, -⟩
  · exact hrest.of_continuesNumber
  · intro c hc
    cases hc
    rcases hletter with rfl | rfl <;> rfl

theorem stops_fraction_append (h : Fraction fraction) (hrest : Stops continuesWhole rest) :
    Stops Text.isDigit (fraction ++ rest) := by
  rcases h with rfl | ⟨digits, rfl, -⟩
  · exact hrest.of_continuesWhole
  · intro c hc
    cases hc
    rfl

theorem digits_of_whole (h : Whole whole) : Text.Digits whole := by
  rcases h with rfl | h
  · exact ⟨by simp, by simp⟩
  · exact h.1

/-- What follows a numeral and does not continue it is left. -/
theorem number?_append (h : Numeral sign whole fraction exponent)
    (hrest : Stops continuesNumber rest) :
    number? (sign ++ (whole ++ (fraction ++ exponent)) ++ rest) =
      some (sign ++ (whole ++ (fraction ++ exponent)), rest) := by
  have hexponent := exponent?_append h.exponent hrest
  have hstops := stops_exponent_append h.exponent hrest
  have hfraction := fraction?_append h.fraction hstops
  have hwhole := wholePart?_append h.whole (stops_fraction_append h.fraction hstops)
  have hminus := append_ne_cons_of_digits (digits_of_whole h.whole)
    (fraction ++ (exponent ++ rest)) (c := '-') rfl
  simp only [List.append_assoc]
  rcases h.sign with rfl | rfl
  · rw [List.nil_append, number?]
    · simp [hwhole, hfraction, hexponent]
    · exact hminus
  · simp [number?, hwhole, hfraction, hexponent]

theorem number?_ok (h : number? cs = some (numeral, rest)) :
    cs = numeral ++ rest ∧ IsNumeral numeral := by
  unfold number? at h
  split at h
  rename_i sign tail heq
  have hsign : cs = sign ++ tail ∧ (sign = [] ∨ sign = ['-']) := by
    split at heq <;> cases heq <;> simp
  simp only [Option.bind_eq_bind, Option.bind_eq_some_iff, Prod.exists, Option.some.injEq,
    Prod.mk.injEq] at h
  obtain ⟨whole, tail, hwhole, fraction, tail, hfraction, exponent, rest, hexponent, rfl, rfl⟩ := h
  obtain ⟨rfl, whole_ok⟩ := wholePart?_ok hwhole
  obtain ⟨rfl, fraction_ok⟩ := fraction?_ok hfraction
  obtain ⟨rfl, exponent_ok⟩ := exponent?_ok hexponent
  refine ⟨?_, sign, whole, fraction, exponent, ⟨hsign.2, whole_ok, fraction_ok, exponent_ok⟩, ?_⟩
  · rw [hsign.1]
    simp only [List.append_assoc]
  · simp only [List.append_assoc]

/-! ### Tokens -/

theorem exists_cons_of_isNumeral (h : IsNumeral numeral) :
    ∃ c tail, numeral = c :: tail ∧ (c = '-' ∨ Text.isDigit c = true) := by
  obtain ⟨sign, whole, fraction, exponent, hnumeral, rfl⟩ := h
  rcases hnumeral.sign with rfl | rfl
  · have hdigits := (Text.digits_iff whole).mp (digits_of_whole hnumeral.whole)
    cases whole with
    | nil => exact absurd rfl hdigits.1
    | cons c whole => exact ⟨c, _, rfl, Or.inr (hdigits.2 c List.mem_cons_self)⟩
  · exact ⟨'-', _, rfl, Or.inl rfl⟩

/-- Only numbers start with a minus sign or a digit. -/
theorem token?_of_numeric {c : Char} (hc : c = '-' ∨ Text.isDigit c = true) :
    token? (c :: rest) = (number? (c :: rest)).bind fun r => some (.number r.1, r.2) := by
  unfold token?
  split
  case h_11 => rfl
  all_goals
    rename_i heq
    cases heq
    exact absurd hc (by decide)

theorem isSpace_iff (c : Char) : isSpace c = true ↔ c ∈ [' ', '\t', '\n', '\r'] := by
  simp only [isSpace, Bool.or_eq_true, beq_iff_eq, List.mem_cons, List.not_mem_nil, or_false]
  tauto

theorem isSpace_of_numeric {c : Char} (hc : c = '-' ∨ Text.isDigit c = true) : isSpace c = false := by
  refine Bool.eq_false_iff.mpr fun hspace => ?_
  simp only [isSpace, Bool.or_eq_true, beq_iff_eq] at hspace
  rcases hspace with ((rfl | rfl) | rfl) | rfl <;> exact absurd hc (by decide)

/-- The first character of a token is no white space, and it does not continue a number unless it
starts one. -/
theorem Lexeme.exists_cons (h : Lexeme t lexeme) :
    ∃ c tail, lexeme = c :: tail ∧ isSpace c = false ∧
      (t.isNumber = false → continuesNumber c = false) := by
  cases h with
  | number h =>
    obtain ⟨c, tail, rfl, hc⟩ := exists_cons_of_isNumeral h
    exact ⟨c, tail, rfl, isSpace_of_numeric hc, nofun⟩
  | _ => exact ⟨_, _, rfl, by decide, fun _ => by decide⟩

theorem token?_append (h : Lexeme t lexeme)
    (hrest : t.isNumber = true → Stops continuesNumber rest) :
    token? (lexeme ++ rest) = some (t, rest) := by
  cases h with
  | number h =>
    obtain ⟨c, tail, heq, hc⟩ := exists_cons_of_isNumeral h
    obtain ⟨sign, whole, fraction, exponent, hnumeral, rfl⟩ := h
    have hnumber := number?_append hnumeral (hrest rfl)
    rw [heq, List.cons_append] at hnumber ⊢
    rw [token?_of_numeric hc, hnumber, Option.bind_some]
  | string h hs =>
    obtain ⟨pieces, hbody, rfl, hvalid⟩ := stringBody?_append h rest
    rw [List.cons_append, List.append_assoc, hs.unique (denotes_joinPieces hvalid)]
    simp [token?, hbody]
  | _ => rfl

theorem token?_ok (h : token? cs = some (t, rest)) :
    ∃ lexeme, cs = lexeme ++ rest ∧ Lexeme t lexeme := by
  unfold token? at h
  split at h
  -- Strings and numbers are what is left after the tokens of one spelling.
  case h_10 =>
    simp only [Option.bind_eq_bind, Option.bind_eq_some_iff, Prod.exists, Option.some.injEq,
      Prod.mk.injEq] at h
    obtain ⟨pieces, rest, hbody, rfl, rfl⟩ := h
    obtain ⟨body, rfl, hspells, hvalid⟩ := stringBody?_ok hbody
    exact ⟨'"' :: (body ++ ['"']), by simp, .string hspells (denotes_joinPieces hvalid)⟩
  case h_11 =>
    simp only [Option.bind_eq_bind, Option.bind_eq_some_iff, Prod.exists, Option.some.injEq,
      Prod.mk.injEq] at h
    obtain ⟨numeral, rest, hnumber, rfl, rfl⟩ := h
    obtain ⟨rfl, hnumeral⟩ := number?_ok hnumber
    exact ⟨numeral, rfl, .number hnumeral⟩
  all_goals cases h
  · exact ⟨_, rfl, .leftBrace⟩
  · exact ⟨_, rfl, .rightBrace⟩
  · exact ⟨_, rfl, .leftBracket⟩
  · exact ⟨_, rfl, .rightBracket⟩
  · exact ⟨_, rfl, .comma⟩
  · exact ⟨_, rfl, .colon⟩
  · exact ⟨_, rfl, .null⟩
  · exact ⟨_, rfl, .boolTrue⟩
  · exact ⟨_, rfl, .boolFalse⟩

/-! ### Texts -/

theorem Tokenised.stops (h : Tokenised cs ts) (hts : ∀ u ∈ ts.head?, u.isNumber = false) :
    Stops continuesNumber cs := by
  cases h with
  | nil => exact nofun
  | space hspace _ =>
    intro c hc
    cases hc
    simp only [List.mem_cons, List.not_mem_nil, or_false] at hspace
    rcases hspace with rfl | rfl | rfl | rfl <;> rfl
  | token hlexeme _ =>
    obtain ⟨c, tail, rfl, -, hc⟩ := hlexeme.exists_cons
    intro c' hc'
    cases hc'
    exact hc (hts _ rfl)

theorem tokensUpTo?_of_tokenised (h : Tokenised cs ts) (hchain : ts.IsChain Apart)
    (hfuel : cs.length ≤ fuel) : tokensUpTo? fuel cs = some ts := by
  induction h generalizing fuel with
  | nil => cases fuel <;> rfl
  | space hspace _ ih =>
    cases fuel with
    | zero => cases hfuel
    | succ fuel =>
      rw [tokensUpTo?, if_pos ((isSpace_iff _).mpr hspace)]
      exact ih hchain (Nat.le_of_succ_le_succ hfuel)
  | @token t lexeme cs ts hlexeme h ih =>
    have hrest : t.isNumber = true → Stops continuesNumber cs := fun hnumber =>
      h.stops fun u hu => (List.isChain_cons.mp hchain).1 u hu hnumber
    have htoken := token?_append hlexeme hrest
    obtain ⟨c, tail, rfl, hspace, -⟩ := hlexeme.exists_cons
    cases fuel with
    | zero => cases hfuel
    | succ fuel =>
      have htail : cs.length ≤ fuel := by
        simp only [List.length_append, List.length_cons] at hfuel
        omega
      rw [List.cons_append] at htoken ⊢
      rw [tokensUpTo?, if_neg (Bool.eq_false_iff.mp hspace)]
      simp [htoken, ih hchain.tail htail]

theorem tokenised_of_tokensUpTo? (h : tokensUpTo? fuel cs = some ts) : Tokenised cs ts := by
  induction fuel generalizing cs ts with
  | zero =>
    cases cs with
    | nil =>
      cases h
      exact .nil
    | cons c rest => cases h
  | succ fuel ih =>
    cases cs with
    | nil =>
      cases h
      exact .nil
    | cons c rest =>
      rw [tokensUpTo?] at h
      split at h
      · rename_i hspace
        exact .space ((isSpace_iff c).mp hspace) (ih h)
      · simp only [Option.bind_eq_bind, Option.bind_eq_some_iff, Prod.exists,
          Option.some.injEq] at h
        obtain ⟨t, tail, htoken, ts, htail, rfl⟩ := h
        obtain ⟨lexeme, heq, hlexeme⟩ := token?_ok htoken
        rw [heq]
        exact .token hlexeme (ih htail)

/-- Where no numbers follow each other, the tokens read are those that the text spells. -/
theorem tokens?_eq_some_iff (hchain : ts.IsChain Apart) :
    tokens? cs = some ts ↔ Tokenised cs ts :=
  ⟨tokenised_of_tokensUpTo?, fun h => tokensUpTo?_of_tokenised h hchain (Nat.le_refl _)⟩

end NoiseControl.Json
