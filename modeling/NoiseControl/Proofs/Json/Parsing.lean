import NoiseControl.Json.Parser
import NoiseControl.Proofs.Json.Lexing

/-!
# Reading the value of a text

A text is read as a value exactly if it is one of the texts of the value.
-/

namespace NoiseControl.Json

variable {items : List Json} {members : List (Option String × Json)} {j : Json}

/-! ### What the tokens of a value are read as -/

/-- Before other tokens, the tokens of a value are read as the value. -/
def Reads (j : Json) : Prop :=
  ∀ fuel rest, 2 * j.tokens.length ≤ fuel + 1 → value? fuel (j.tokens ++ rest) = some (j, rest)

theorem items?_separated (fuel : Nat) (rest : List Token) {j : Json} (h : ∀ k ∈ j :: items, Reads k)
    (hfuel : 2 * (separated (itemTokens (j :: items))).length + 2 ≤ fuel) :
    items? fuel (separated (itemTokens (j :: items)) ++ .rightBracket :: rest) =
      some (j :: items, rest) := by
  induction items generalizing j fuel with
  | nil =>
    obtain ⟨fuel, rfl⟩ : ∃ n, fuel = n + 1 := ⟨fuel - 1, by omega⟩
    simp only [itemTokens, separated_singleton] at hfuel ⊢
    have hvalue := h j List.mem_cons_self fuel (.rightBracket :: rest) (by omega)
    simp [items?, hvalue]
  | cons k items ih =>
    obtain ⟨fuel, rfl⟩ : ∃ n, fuel = n + 1 := ⟨fuel - 1, by omega⟩
    rw [itemTokens, separated_cons _ (by simp [itemTokens])] at hfuel ⊢
    simp only [List.length_append, List.length_cons] at hfuel
    have hvalue := h j List.mem_cons_self fuel
      (.comma :: (separated (itemTokens (k :: items)) ++ .rightBracket :: rest)) (by omega)
    have hitems := ih fuel (fun k' hk' => h k' (List.mem_cons_of_mem _ hk')) (by omega)
    rw [List.append_assoc, List.cons_append]
    simp [items?, hvalue, hitems]

theorem members?_separated (fuel : Nat) (rest : List Token) {m : Option String × Json}
    (h : ∀ k ∈ m :: members, Reads k.2)
    (hfuel : 2 * (separated (memberTokens (m :: members))).length + 2 ≤ fuel) :
    members? fuel (separated (memberTokens (m :: members)) ++ .rightBrace :: rest) =
      some (m :: members, rest) := by
  induction members generalizing m fuel with
  | nil =>
    obtain ⟨fuel, rfl⟩ : ∃ n, fuel = n + 1 := ⟨fuel - 1, by omega⟩
    simp only [memberTokens, separated_singleton, List.length_cons] at hfuel ⊢
    have hvalue := h m List.mem_cons_self fuel (.rightBrace :: rest) (by omega)
    simp [members?, hvalue]
  | cons k members ih =>
    obtain ⟨fuel, rfl⟩ : ∃ n, fuel = n + 1 := ⟨fuel - 1, by omega⟩
    rw [memberTokens, separated_cons _ (by simp [memberTokens])] at hfuel ⊢
    simp only [List.length_append, List.length_cons] at hfuel
    have hvalue := h m List.mem_cons_self fuel
      (.comma :: (separated (memberTokens (k :: members)) ++ .rightBrace :: rest)) (by omega)
    have hmembers := ih fuel (fun k' hk' => h k' (List.mem_cons_of_mem _ hk')) (by omega)
    rw [List.append_assoc, List.cons_append]
    simp [members?, hvalue, hmembers]

theorem exists_tokens_eq_cons (j : Json) : ∃ t tail, j.tokens = t :: tail ∧ t ≠ .rightBracket := by
  cases j <;> exact ⟨_, _, rfl, nofun⟩

theorem reads_of_succ (h : ∀ fuel rest, 2 * j.tokens.length ≤ fuel + 2 →
    value? (fuel + 1) (j.tokens ++ rest) = some (j, rest)) : Reads j := by
  intro fuel rest hfuel
  cases fuel with
  | zero =>
    obtain ⟨t, tail, heq, -⟩ := exists_tokens_eq_cons j
    rw [heq, List.length_cons] at hfuel
    omega
  | succ fuel => exact h fuel rest hfuel

theorem reads (j : Json) : Reads j := by
  induction j using inductionOn with
  | null => exact reads_of_succ fun _ _ _ => rfl
  | bool b => exact reads_of_succ fun _ _ _ => rfl
  | number numeral => exact reads_of_succ fun _ _ _ => rfl
  | string s => exact reads_of_succ fun _ _ _ => rfl
  | array items ih =>
    refine reads_of_succ fun fuel rest hfuel => ?_
    cases items with
    | nil => rfl
    | cons j items =>
      simp only [tokens, List.length_cons, List.length_append, List.length_nil] at hfuel
      have hitems := items?_separated fuel rest ih (by omega)
      rw [tokens, List.cons_append, List.append_assoc, List.singleton_append, value?]
      · rw [hitems]
        rfl
      -- The first token is that of the first item, which does not end the array.
      · intro rest' heq
        obtain ⟨tail, htail⟩ := separated_cons_append j.tokens (itemTokens items)
        obtain ⟨t, ts, ht, hne⟩ := exists_tokens_eq_cons j
        rw [itemTokens, htail, ht] at heq
        cases heq
        exact hne rfl
  | object members ih =>
    refine reads_of_succ fun fuel rest hfuel => ?_
    cases members with
    | nil => rfl
    | cons m members =>
      simp only [tokens, List.length_cons, List.length_append, List.length_nil] at hfuel
      have hmembers := members?_separated fuel rest ih (by omega)
      rw [tokens, List.cons_append, List.append_assoc, List.singleton_append, value?]
      · rw [hmembers]
        rfl
      · intro rest' heq
        obtain ⟨tail, htail⟩ := separated_cons_append _ (memberTokens members)
        rw [memberTokens, htail] at heq
        cases heq

/-! ### What the tokens that are read are -/

mutual

theorem eq_of_value? : ∀ {fuel : Nat} {ts rest : List Token} {j : Json},
    value? fuel ts = some (j, rest) → ts = j.tokens ++ rest
  | 0, _, _, _, h => nomatch h
  | fuel + 1, ts, rest, j, h => by
    unfold value? at h
    split at h
    case h_6 =>
      simp only [Option.map_eq_some_iff, Prod.exists, Prod.mk.injEq] at h
      obtain ⟨items, rest, hitems, rfl, rfl⟩ := h
      rw [(eq_of_items? hitems).2]
      simp [tokens]
    case h_8 =>
      simp only [Option.map_eq_some_iff, Prod.exists, Prod.mk.injEq] at h
      obtain ⟨members, rest, hmembers, rfl, rfl⟩ := h
      rw [(eq_of_members? hmembers).2]
      simp [tokens]
    -- The other values are told by the tokens matched.
    all_goals
      cases h
    all_goals rfl

theorem eq_of_items? : ∀ {fuel : Nat} {ts rest : List Token} {items : List Json},
    items? fuel ts = some (items, rest) →
      items ≠ [] ∧ ts = separated (itemTokens items) ++ .rightBracket :: rest
  | 0, _, _, _, h => nomatch h
  | fuel + 1, ts, rest, items, h => by
    simp only [items?, Option.bind_eq_bind, Option.bind_eq_some_iff, Prod.exists] at h
    obtain ⟨j, tail, hvalue, h⟩ := h
    rw [eq_of_value? hvalue]
    split at h
    · cases h
      exact ⟨List.cons_ne_nil _ _, by simp [itemTokens]⟩
    · simp only [Option.bind_eq_some_iff, Prod.exists, Option.some.injEq, Prod.mk.injEq] at h
      obtain ⟨items, rest, hitems, rfl, rfl⟩ := h
      obtain ⟨hne, rfl⟩ := eq_of_items? hitems
      refine ⟨List.cons_ne_nil _ _, ?_⟩
      rw [itemTokens, separated_cons _ (by simpa [itemTokens_eq_map] using hne)]
      simp
    · cases h

theorem eq_of_members? : ∀ {fuel : Nat} {ts rest : List Token}
    {members : List (Option String × Json)}, members? fuel ts = some (members, rest) →
      members ≠ [] ∧ ts = separated (memberTokens members) ++ .rightBrace :: rest
  | 0, _, _, _, h => nomatch h
  | fuel + 1, ts, rest, members, h => by
    unfold members? at h
    split at h
    · simp only [Option.bind_eq_bind, Option.bind_eq_some_iff, Prod.exists] at h
      obtain ⟨j, tail, hvalue, h⟩ := h
      rw [eq_of_value? hvalue]
      split at h
      · cases h
        exact ⟨List.cons_ne_nil _ _, by simp [memberTokens]⟩
      · simp only [Option.bind_eq_some_iff, Prod.exists, Option.some.injEq, Prod.mk.injEq] at h
        obtain ⟨members, rest, hmembers, rfl, rfl⟩ := h
        obtain ⟨hne, rfl⟩ := eq_of_members? hmembers
        refine ⟨List.cons_ne_nil _ _, ?_⟩
        rw [memberTokens, separated_cons _ (by simpa [memberTokens_eq_map] using hne)]
        simp
      · cases h
    · cases h

end

/-! ### Texts -/

theorem ofTokens?_eq_some_iff (ts : List Token) (j : Json) :
    ofTokens? ts = some j ↔ ts = j.tokens := by
  unfold ofTokens?
  simp only [Option.bind_eq_bind, Option.bind_eq_some_iff, Prod.exists]
  constructor
  · rintro ⟨k, rest, hvalue, h⟩
    split at h
    · rename_i hrest
      cases h
      rw [eq_of_value? hvalue, List.isEmpty_iff.mp hrest, List.append_nil]
    · cases h
  · rintro rfl
    have hvalue := reads j (2 * j.tokens.length + 1) [] (by omega)
    rw [List.append_nil] at hvalue
    exact ⟨j, [], hvalue, rfl⟩

/-- A text is read as the value of which it is a text, and other texts are not read. -/
theorem parse?_eq_some_iff (text : String) (j : Json) :
    parse? text = some j ↔ IsText text.toList j := by
  unfold parse? IsText
  rw [← tokens?_eq_some_iff (isChain_tokens j), Option.bind_eq_some_iff]
  simp only [ofTokens?_eq_some_iff, exists_eq_right]

end NoiseControl.Json
