import NoiseControl.Json.Printer
import NoiseControl.Proofs.Json.Parsing

/-!
# Reading back what is written

The compact form of a value is one of its texts, so reading it gives the value back.
-/

namespace NoiseControl.Json

variable {cs : List Char} {us : List Nat}

/-! ### Scalars -/

theorem isNumeral_numeral (n : Nat) : IsNumeral (Text.numeral n) := by
  have hdigits := (Text.digits_numeral n).1
  have hwhole : Whole (Text.numeral n) := by
    by_cases hn : n = 0
    · subst hn
      exact Or.inl (by rw [Text.numeral]; rfl)
    · exact Or.inr ⟨hdigits, Text.head?_numeral hn⟩
  exact ⟨[], _, [], [], ⟨Or.inl rfl, hwhole, Or.inl rfl, Or.inl rfl⟩, by simp⟩

theorem hexDigit_hexDigit {d : Nat} (h : d < 16) : HexDigit (hexDigit d) d := by
  have hplace : ∀ d < 16, "0123456789abcdef".toList[d]? = some (hexDigit d) := by decide
  exact Or.inl (hplace d h)

theorem spells_control {c : Char} (hcontrol : c.toNat < 32) (h : Spells cs us) :
    Spells ('\\' :: 'u' :: '0' :: '0' :: hexDigit (c.toNat / 16) :: hexDigit (c.toNat % 16) :: cs)
      (units c ++ us) := by
  have hzero : HexDigit '0' 0 := Or.inl rfl
  have hunits : units c = [Nat.ofDigits 16 [c.toNat % 16, c.toNat / 16, 0, 0]] := by
    rw [ofDigits_four, units, if_pos (by omega)]
    exact congrArg (fun n => [n]) (by omega)
  rw [hunits]
  exact .unit hzero hzero (hexDigit_hexDigit (by omega)) (hexDigit_hexDigit (by omega)) h

theorem spells_escaped_append (c : Char) (h : Spells cs us) :
    Spells (escaped c ++ cs) (units c ++ us) := by
  unfold escaped
  split
  case h_8 hquote hslash _ _ _ _ _ =>
    split
    · rename_i hcontrol
      exact spells_control hcontrol h
    · rename_i hcontrol
      exact .char hquote hslash (Nat.not_lt.mp hcontrol) h
  all_goals exact .short (by decide) h

theorem spells_escaped (cs : List Char) : Spells (cs.flatMap escaped) (cs.flatMap units) := by
  induction cs with
  | nil => exact .nil
  | cons c rest ih => exact spells_escaped_append c ih

theorem lexeme_quoted (s : String) : Lexeme (.string (some s)) (quoted s) := by
  refine .string (spells_escaped s.toList) fun text => ?_
  constructor
  · intro h
    cases h
    rfl
  · intro h
    rw [String.toList_inj.mp (flatMap_units_inj h)]

/-! ### Values -/

/-- A token that can be written as it is: a number must be a numeral and a string a text. -/
def Token.Printable : Token → Prop
  | .number numeral => IsNumeral numeral
  | .string s => s.isSome = true
  | _ => True

theorem compactItems_eq_map (items : List Json) : compactItems items = items.map compactChars := by
  induction items with
  | nil => rfl
  | cons j rest ih => rw [compactItems, ih, List.map_cons]

theorem compactMembers_eq_map (members : List (Option String × Json)) :
    compactMembers members = members.map fun m => quotedText m.1 ++ ':' :: compactChars m.2 := by
  induction members with
  | nil => rfl
  | cons m rest ih => rw [compactMembers, ih, List.map_cons]

theorem tokenised_commaSeparated {α : Type} {f : α → List Char} {g : α → List Token} {l : List α}
    (h : ∀ a ∈ l, Tokenised (f a) (g a)) :
    Tokenised (commaSeparated (l.map f)) (separated (l.map g)) := by
  induction l with
  | nil => exact .nil
  | cons a rest ih =>
    rw [List.forall_mem_cons] at h
    cases rest with
    | nil => simpa [commaSeparated] using h.1
    | cons b rest =>
      have hrest := Lexeme.comma.tokenised.append (ih h.2)
      have hparts : separated ((a :: b :: rest).map g) =
          g a ++ .comma :: separated ((b :: rest).map g) := separated_cons _ (by simp)
      rw [hparts]
      simpa [commaSeparated] using h.1.append hrest

theorem tokenised_bracketed {t u : Token} {opening closing : List Char} {ts : List Token}
    (ht : Lexeme t opening) (h : Tokenised cs ts) (hu : Lexeme u closing) :
    Tokenised (opening ++ (cs ++ closing)) (t :: (ts ++ [u])) :=
  .token ht (h.append hu.tokenised)

theorem lexeme_quotedText {s : Option String} (h : s.isSome = true) :
    Lexeme (.string s) (quotedText s) := by
  obtain ⟨s, rfl⟩ := Option.isSome_iff_exists.mp h
  exact lexeme_quoted s

/-- The compact form of a value is a text of it. -/
theorem isText_compactChars {j : Json} (h : ∀ t ∈ j.tokens, t.Printable) :
    IsText j.compactChars j := by
  unfold IsText
  induction j using inductionOn with
  | null => exact Lexeme.null.tokenised
  | bool b =>
    cases b
    · exact Lexeme.boolFalse.tokenised
    · exact Lexeme.boolTrue.tokenised
  | number numeral => exact (Lexeme.number (h _ List.mem_cons_self)).tokenised
  | string s => exact (lexeme_quotedText (h _ List.mem_cons_self)).tokenised
  | array items ih =>
    have hitems : ∀ j ∈ items, Tokenised j.compactChars j.tokens := fun j hj =>
      ih j hj fun t ht => h t (mem_tokens_array hj ht)
    rw [tokens, compactChars, itemTokens_eq_map, compactItems_eq_map]
    exact tokenised_bracketed .leftBracket (tokenised_commaSeparated hitems) .rightBracket
  | object members ih =>
    have hmembers : ∀ m ∈ members, Tokenised (quotedText m.1 ++ ':' :: m.2.compactChars)
        (.string m.1 :: .colon :: m.2.tokens) := fun m hm => by
      have hm' : ∀ t ∈ Token.string m.1 :: .colon :: m.2.tokens, t.Printable := fun t ht =>
        h t (mem_tokens_object hm ht)
      simp only [List.forall_mem_cons] at hm'
      exact .token (lexeme_quotedText hm'.1) (.token .colon (ih m hm hm'.2.2))
    rw [tokens, compactChars, memberTokens_eq_map, compactMembers_eq_map]
    exact tokenised_bracketed .leftBrace (tokenised_commaSeparated hmembers) .rightBrace

theorem parse?_compact {j : Json} (h : ∀ t ∈ j.tokens, t.Printable) :
    parse? j.compact = some j := by
  rw [parse?_eq_some_iff, compact, String.toList_ofList]
  exact isText_compactChars h

end NoiseControl.Json
