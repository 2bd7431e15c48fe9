import Mathlib.Data.List.Chain
import NoiseControl.Json.Token
import NoiseControl.Proofs.Text.Numerals

/-!
# The texts of a JSON value

A value determines its tokens.  A text of the value spells them one after another, with any white
space before, between and after them.
-/

namespace NoiseControl.Json

/-! ### Numerals -/

/-- A zero alone, or digits that do not start with one. -/
def Whole (cs : List Char) : Prop := cs = ['0'] ∨ Text.Digits cs ∧ cs.head? ≠ some '0'

def Fraction (cs : List Char) : Prop := cs = [] ∨ ∃ digits, cs = '.' :: digits ∧ Text.Digits digits

def Exponent (cs : List Char) : Prop :=
  cs = [] ∨ ∃ letter sign digits, cs = letter :: (sign ++ digits) ∧ (letter = 'e' ∨ letter = 'E') ∧
    (sign = [] ∨ sign = ['+'] ∨ sign = ['-']) ∧ Text.Digits digits

/-- The four parts of a numeral, of which only the whole part must be there. -/
structure Numeral (sign whole fraction exponent : List Char) : Prop where
  sign : sign = [] ∨ sign = ['-']
  whole : Whole whole
  fraction : Fraction fraction
  exponent : Exponent exponent

def IsNumeral (numeral : List Char) : Prop :=
  ∃ sign whole fraction exponent, Numeral sign whole fraction exponent ∧
    numeral = sign ++ (whole ++ (fraction ++ exponent))

/-! ### Strings -/

/-- The UTF-16 code units of a character. -/
def units (c : Char) : List Nat :=
  if c.toNat < 0x10000 then [c.toNat]
  else [0xD800 + (c.toNat - 0x10000) / 0x400, 0xDC00 + (c.toNat - 0x10000) % 0x400]

/-- The letters of the short escapes, and the characters that they name. -/
def shortEscapes : List (Char × Char) :=
  [('"', '"'), ('\\', '\\'), ('/', '/'), ('b', '\x08'), ('f', '\x0c'), ('n', '\n'), ('r', '\r'),
    ('t', '\t')]

def HexDigit (c : Char) (value : Nat) : Prop :=
  "0123456789abcdef".toList[value]? = some c ∨ "0123456789ABCDEF".toList[value]? = some c

/-- What stands between the quotes of a string, and the code units that it names. -/
inductive Spells : List Char → List Nat → Prop
  | nil : Spells [] []
  | char {c : Char} {cs : List Char} {us : List Nat} (hquote : c ≠ '"') (hslash : c ≠ '\\')
      (hcontrol : 32 ≤ c.toNat) (h : Spells cs us) : Spells (c :: cs) (units c ++ us)
  | short {letter c : Char} {cs : List Char} {us : List Nat} (hletter : (letter, c) ∈ shortEscapes)
      (h : Spells cs us) : Spells ('\\' :: letter :: cs) (units c ++ us)
  | unit {w x y z : Char} {a b c d : Nat} {cs : List Char} {us : List Nat} (hw : HexDigit w a)
      (hx : HexDigit x b) (hy : HexDigit y c) (hz : HexDigit z d) (h : Spells cs us) :
      Spells ('\\' :: 'u' :: w :: x :: y :: z :: cs) (Nat.ofDigits 16 [d, c, b, a] :: us)

/-- A string denotes the text that has its code units, and nothing if no text has them. -/
def Denotes (us : List Nat) (s : Option String) : Prop :=
  ∀ text : String, s = some text ↔ us = text.toList.flatMap units

/-! ### Tokens -/

/-- A token and its spelling. -/
inductive Lexeme : Token → List Char → Prop
  | leftBrace : Lexeme .leftBrace ['\x7b']
  | rightBrace : Lexeme .rightBrace ['\x7d']
  | leftBracket : Lexeme .leftBracket ['[']
  | rightBracket : Lexeme .rightBracket [']']
  | comma : Lexeme .comma [',']
  | colon : Lexeme .colon [':']
  | null : Lexeme .null ['n', 'u', 'l', 'l']
  | boolTrue : Lexeme (.bool true) ['t', 'r', 'u', 'e']
  | boolFalse : Lexeme (.bool false) ['f', 'a', 'l', 's', 'e']
  | number {numeral : List Char} (h : IsNumeral numeral) : Lexeme (.number numeral) numeral
  | string {cs : List Char} {us : List Nat} {s : Option String} (h : Spells cs us)
      (hs : Denotes us s) : Lexeme (.string s) ('"' :: (cs ++ ['"']))

/-- A text and the tokens that it spells, white space put anywhere between them. -/
inductive Tokenised : List Char → List Token → Prop
  | nil : Tokenised [] []
  | space {c : Char} {cs : List Char} {tokens : List Token} (hspace : c ∈ [' ', '\t', '\n', '\r'])
      (h : Tokenised cs tokens) : Tokenised (c :: cs) tokens
  | token {t : Token} {lexeme cs : List Char} {tokens : List Token} (hlexeme : Lexeme t lexeme)
      (h : Tokenised cs tokens) : Tokenised (lexeme ++ cs) (t :: tokens)

/-! ### Values -/

/-- Parts with a comma between any two. -/
def separated (parts : List (List Token)) : List Token := (parts.intersperse [.comma]).flatten

mutual

def tokens : Json → List Token
  | .null => [.null]
  | .bool b => [.bool b]
  | .number numeral => [.number numeral]
  | .string s => [.string s]
  | .array items => .leftBracket :: (separated (itemTokens items) ++ [.rightBracket])
  | .object members => .leftBrace :: (separated (memberTokens members) ++ [.rightBrace])

def itemTokens : List Json → List (List Token)
  | [] => []
  | j :: rest => j.tokens :: itemTokens rest

def memberTokens : List (Option String × Json) → List (List Token)
  | [] => []
  | (name, j) :: rest => (.string name :: .colon :: j.tokens) :: memberTokens rest

end

/-- A text is one of a value if it spells the tokens of the value. -/
def IsText (cs : List Char) (j : Json) : Prop := Tokenised cs j.tokens

variable {cs cs' : List Char} {ts ts' p : List Token} {t : Token} {parts : List (List Token)}

theorem Tokenised.append (h : Tokenised cs ts) (h' : Tokenised cs' ts') :
    Tokenised (cs ++ cs') (ts ++ ts') := by
  induction h with
  | nil => exact h'
  | space hspace _ ih => exact .space hspace ih
  | token hlexeme _ ih =>
    rw [List.append_assoc]
    exact .token hlexeme ih

theorem Lexeme.tokenised (h : Lexeme t cs) : Tokenised cs [t] := by
  simpa using Tokenised.token h .nil

/-- A token that a text spells has a spelling. -/
theorem Tokenised.exists_lexeme (h : Tokenised cs ts) (ht : t ∈ ts) : ∃ lexeme, Lexeme t lexeme := by
  induction h with
  | nil => exact absurd ht List.not_mem_nil
  | space _ _ ih => exact ih ht
  | token hlexeme _ ih =>
    rcases List.mem_cons.mp ht with rfl | ht
    · exact ⟨_, hlexeme⟩
    · exact ih ht

theorem Lexeme.isNumeral {numeral : List Char} (h : Lexeme (.number numeral) cs) :
    IsNumeral numeral := by
  cases h with
  | number h => exact h

/-! ### Induction over values -/

/-- Induction over values: what holds of the items of an array and of the members of an object is at
hand for the array and the object. -/
@[elab_as_elim]
theorem inductionOn {motive : Json → Prop} (j : Json) (null : motive .null)
    (bool : ∀ b, motive (.bool b)) (number : ∀ numeral, motive (.number numeral))
    (string : ∀ s, motive (.string s))
    (array : ∀ items, (∀ j ∈ items, motive j) → motive (.array items))
    (object : ∀ members : List (Option String × Json), (∀ m ∈ members, motive m.2) →
      motive (.object members)) : motive j :=
  match j with
  | .null => null
  | .bool b => bool b
  | .number numeral => number numeral
  | .string s => string s
  | .array items => array items fun j _ => inductionOn j null bool number string array object
  | .object members =>
    object members fun m _ => inductionOn m.2 null bool number string array object
termination_by sizeOf j
decreasing_by
  · rename_i hj
    have := List.sizeOf_lt_of_mem hj
    simp only [Json.array.sizeOf_spec]
    omega
  · rename_i hm
    have := List.sizeOf_lt_of_mem hm
    have : sizeOf m.2 < sizeOf m := by
      obtain ⟨name, j⟩ := m
      simp only [Prod.mk.sizeOf_spec]
      omega
    simp only [Json.object.sizeOf_spec]
    omega

/-! ### Tokens of parts -/

theorem itemTokens_eq_map (items : List Json) : itemTokens items = items.map tokens := by
  induction items with
  | nil => rfl
  | cons j rest ih => rw [itemTokens, ih, List.map_cons]

theorem memberTokens_eq_map (members : List (Option String × Json)) :
    memberTokens members = members.map fun m => .string m.1 :: .colon :: m.2.tokens := by
  induction members with
  | nil => rfl
  | cons m rest ih => rw [memberTokens, ih, List.map_cons]

@[simp] theorem separated_singleton (p : List Token) : separated [p] = p := by
  simp [separated]

theorem separated_cons (p : List Token) (h : parts ≠ []) :
    separated (p :: parts) = p ++ .comma :: separated parts := by
  cases parts with
  | nil => exact absurd rfl h
  | cons q rest => simp [separated]

theorem separated_cons_append (p : List Token) (parts : List (List Token)) :
    ∃ tail, separated (p :: parts) = p ++ tail := by
  cases parts with
  | nil => exact ⟨[], by simp⟩
  | cons q rest => exact ⟨_, separated_cons p (List.cons_ne_nil q rest)⟩

theorem mem_separated (hp : p ∈ parts) (ht : t ∈ p) : t ∈ separated parts := by
  induction parts with
  | nil => exact absurd hp List.not_mem_nil
  | cons q rest ih =>
    cases rest with
    | nil =>
      rw [List.mem_singleton.mp hp] at ht
      rwa [separated_singleton]
    | cons r rest =>
      rw [separated_cons q (List.cons_ne_nil r rest), List.mem_append, List.mem_cons]
      rcases List.mem_cons.mp hp with rfl | hp
      · exact Or.inl ht
      · exact Or.inr (Or.inr (ih hp))

theorem mem_tokens_array {items : List Json} {j : Json} (hj : j ∈ items) (ht : t ∈ j.tokens) :
    t ∈ (array items).tokens := by
  rw [tokens, itemTokens_eq_map]
  refine List.mem_cons_of_mem _ (List.mem_append_left _ ?_)
  exact mem_separated (List.mem_map_of_mem hj) ht

theorem mem_tokens_object {members : List (Option String × Json)} {m : Option String × Json}
    (hm : m ∈ members) (ht : t ∈ Token.string m.1 :: .colon :: m.2.tokens) :
    t ∈ (object members).tokens := by
  rw [tokens, memberTokens_eq_map]
  refine List.mem_cons_of_mem _ (List.mem_append_left _ ?_)
  exact mem_separated (List.mem_map_of_mem hm) ht

/-! ### Numbers stand apart -/

def Token.isNumber : Token → Bool
  | .number _ => true
  | _ => false

/-- Not both are numbers. -/
def Apart (t u : Token) : Prop := t.isNumber = true → u.isNumber = false

theorem isChain_append_cons (hp : p.IsChain Apart) (ht : t.isNumber = false)
    (hts : ts.IsChain Apart) : (p ++ t :: ts).IsChain Apart := by
  rw [List.isChain_append, List.isChain_cons]
  refine ⟨hp, ⟨fun u _ hnumber => ?_, hts⟩, fun u _ v hv _ => ?_⟩
  · rw [ht] at hnumber
    cases hnumber
  · cases hv
    exact ht

theorem isChain_separated (h : ∀ p ∈ parts, p.IsChain Apart) : (separated parts).IsChain Apart := by
  induction parts with
  | nil => exact .nil
  | cons p rest ih =>
    rw [List.forall_mem_cons] at h
    cases rest with
    | nil =>
      rw [separated_singleton]
      exact h.1
    | cons q rest =>
      rw [separated_cons p (List.cons_ne_nil q rest)]
      exact isChain_append_cons h.1 rfl (ih h.2)

theorem isChain_bracketed {u : Token} (ht : t.isNumber = false) (h : ts.IsChain Apart)
    (hu : u.isNumber = false) : (t :: (ts ++ [u])).IsChain Apart :=
  isChain_append_cons .nil ht (isChain_append_cons h hu .nil)

/-- No two tokens of a value that follow each other are numbers. -/
theorem isChain_tokens (j : Json) : j.tokens.IsChain Apart := by
  induction j using inductionOn with
  | null => exact .singleton _
  | bool b => exact .singleton _
  | number numeral => exact .singleton _
  | string s => exact .singleton _
  | array items ih =>
    rw [tokens, itemTokens_eq_map]
    exact isChain_bracketed rfl (isChain_separated (List.forall_mem_map.mpr ih)) rfl
  | object members ih =>
    rw [tokens, memberTokens_eq_map]
    refine isChain_bracketed rfl (isChain_separated (List.forall_mem_map.mpr fun m hm => ?_)) rfl
    exact isChain_append_cons (.singleton _) rfl (ih m hm)

end NoiseControl.Json
