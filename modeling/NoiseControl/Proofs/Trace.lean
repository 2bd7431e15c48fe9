import Mathlib.Data.List.Induction

/-!
# What a run shows of its steps

A run folds a step over a list.  A count may have stood still since some step, what a step brings
may last until a later one ends it, and what the steps hand out is collected in their order.
-/

namespace NoiseControl

/-- A step of a run with one more is the last, or it is followed by that. -/
theorem snoc_eq_append_cons {μ : Type} {steps earlier later : List μ} {m last : μ}
    (h : steps ++ [last] = earlier ++ m :: later) :
    (earlier = steps ∧ m = last ∧ later = []) ∨
      ∃ rest, later = rest ++ [last] ∧ steps = earlier ++ m :: rest := by
  rcases List.eq_nil_or_concat later with rfl | ⟨rest, last', rfl⟩
  · obtain ⟨rfl, hm⟩ := List.append_inj' h rfl
    cases hm
    exact Or.inl ⟨rfl, rfl, rfl⟩
  · rw [List.concat_eq_append, ← List.cons_append, ← List.append_assoc] at h
    obtain ⟨rfl, hm⟩ := List.append_inj' h rfl
    cases hm
    exact Or.inr ⟨rest, List.concat_eq_append, rfl⟩

/-- A step of a run in two parts is in the first, or it is in the second. -/
theorem append_eq_append_cons {μ : Type} {former latter earlier later : List μ} {m : μ}
    (h : former ++ latter = earlier ++ m :: later) :
    (∃ rest, former = earlier ++ m :: rest) ∨
      ∃ start, earlier = former ++ start ∧ latter = start ++ m :: later := by
  rcases List.append_eq_append_iff.mp h with ⟨start, rfl, hlatter⟩ | ⟨rest, rfl, hcons⟩
  · exact Or.inr ⟨start, rfl, hlatter⟩
  · rcases List.cons_eq_append_iff.mp hcons with ⟨rfl, rfl⟩ | ⟨rest', rfl, -⟩
    · exact Or.inr ⟨[], by simp, rfl⟩
    · exact Or.inl ⟨rest', rfl⟩

/-! ### Since a step -/

section Since

variable {σ μ : Type}

/-- One of the steps was marked in the state it was taken in, and a count has not changed since
that state. -/
def Since (step : σ → μ → σ) (count : σ → Nat) (marked : σ → μ → Prop) (s : σ) (steps : List μ) :
    Prop :=
  ∃ earlier m later, steps = earlier ++ m :: later ∧ marked (earlier.foldl step s) m ∧
    count (steps.foldl step s) = count (earlier.foldl step s)

variable {step : σ → μ → σ} {count : σ → Nat} {marked : σ → μ → Prop}

theorem not_since_nil (s : σ) : ¬Since step count marked s [] := by
  rintro ⟨earlier, m, later, heq, -⟩
  simp at heq

theorem count_le_foldl (hle : ∀ s m, count s ≤ count (step s m)) (s : σ) (steps : List μ) :
    count s ≤ count (steps.foldl step s) := by
  induction steps generalizing s with
  | nil => exact Nat.le_refl _
  | cons m rest ih => exact Nat.le_trans (hle s m) (ih (step s m))

/-- A count that never falls has not changed over all steps exactly when it has not changed over any
of them, so the last step can be told apart. -/
theorem since_snoc (hle : ∀ s m, count s ≤ count (step s m)) (s : σ) (steps : List μ) (m : μ) :
    Since step count marked s (steps ++ [m]) ↔
      count (step (steps.foldl step s) m) = count (steps.foldl step s) ∧
        (Since step count marked s steps ∨ marked (steps.foldl step s) m) := by
  have hsnoc : (steps ++ [m]).foldl step s = step (steps.foldl step s) m := List.foldl_append
  unfold Since
  rw [hsnoc]
  constructor
  · rintro ⟨earlier, m', later, heq, hmarked, hn⟩
    rcases snoc_eq_append_cons heq with ⟨rfl, rfl, -⟩ | ⟨rest, -, rfl⟩
    · exact ⟨hn, Or.inr hmarked⟩
    · have hbefore := count_le_foldl hle (earlier.foldl step s) (m' :: rest)
      rw [← List.foldl_append] at hbefore
      have hlast := hle ((earlier ++ m' :: rest).foldl step s) m
      exact ⟨by omega, Or.inl ⟨earlier, m', rest, rfl, hmarked, by omega⟩⟩
  · rintro ⟨hn, ⟨earlier, m', later, rfl, hmarked, hn'⟩ | hmarked⟩
    · exact ⟨earlier, m', later ++ [m], by simp, hmarked, hn.trans hn'⟩
    · exact ⟨steps, m, [], rfl, hmarked, hn⟩

end Since

/-! ### What lasts from a step -/

section Lasts

variable {σ μ : Type}

/-- One of the steps was marked in the state it was taken in, and none of the later steps ended
what it brought. -/
def Lasts (step : σ → μ → σ) (marked ends : σ → μ → Prop) (s : σ) (steps : List μ) : Prop :=
  ∃ earlier m later, steps = earlier ++ m :: later ∧ marked (earlier.foldl step s) m ∧
    ∀ mid m' rest, later = mid ++ m' :: rest → ¬ends ((earlier ++ m :: mid).foldl step s) m'

variable {step : σ → μ → σ} {marked ends : σ → μ → Prop}

theorem not_lasts_nil (s : σ) : ¬Lasts step marked ends s [] := by
  rintro ⟨earlier, m, later, heq, -⟩
  simp at heq

theorem lasts_snoc (s : σ) (steps : List μ) (m : μ) :
    Lasts step marked ends s (steps ++ [m]) ↔
      marked (steps.foldl step s) m ∨ Lasts step marked ends s steps ∧ ¬ends (steps.foldl step s) m := by
  constructor
  · rintro ⟨earlier, m', later, heq, hmarked, hlater⟩
    rcases snoc_eq_append_cons heq with ⟨rfl, rfl, -⟩ | ⟨rest, rfl, rfl⟩
    · exact Or.inl hmarked
    · refine Or.inr ⟨⟨earlier, m', rest, rfl, hmarked, fun mid m'' rest' hmid => ?_⟩,
        hlater rest m [] rfl⟩
      exact hlater mid m'' (rest' ++ [m]) (by rw [hmid, List.append_assoc, List.cons_append])
  · rintro (hmarked | ⟨⟨earlier, m', later, rfl, hmarked, hlater⟩, hlast⟩)
    · exact ⟨steps, m, [], rfl, hmarked, fun mid m' rest h => by simp at h⟩
    · refine ⟨earlier, m', later ++ [m], by simp, hmarked, fun mid m'' rest hmid => ?_⟩
      rcases snoc_eq_append_cons hmid with ⟨rfl, rfl, -⟩ | ⟨rest', -, rfl⟩
      · exact hlast
      · exact hlater mid m'' rest' rfl

/-- What every step of a run starts, keeps or ends lasts exactly from a step that starts it. -/
theorem holds_foldl_iff_lasts (holds : σ → Prop) {s : σ} (hs : ¬holds s)
    (h : ∀ (steps : List μ) (m : μ), holds (step (steps.foldl step s) m) ↔
      marked (steps.foldl step s) m ∨ holds (steps.foldl step s) ∧ ¬ends (steps.foldl step s) m)
    (steps : List μ) : holds (steps.foldl step s) ↔ Lasts step marked ends s steps := by
  induction steps using List.reverseRecOn with
  | nil => exact iff_of_false hs (not_lasts_nil s)
  | append_singleton steps m ih =>
    have hbefore : holds (steps.foldl step s) ↔ Lasts step marked ends s steps := ih
    rw [lasts_snoc, ← hbefore, List.foldl_append]
    exact h steps m

/-- The same, where an invariant is what may be used of the states in between. -/
theorem holds_iff_lasts (invariant holds : σ → Prop) {s : σ} (hinv : invariant s)
    (hstep : ∀ s m, invariant s → invariant (step s m)) (hs : ¬holds s)
    (h : ∀ s m, invariant s → (holds (step s m) ↔ marked s m ∨ holds s ∧ ¬ends s m))
    (steps : List μ) : holds (steps.foldl step s) ↔ Lasts step marked ends s steps := by
  have hkept : ∀ steps : List μ, invariant (steps.foldl step s) := fun steps =>
    List.foldlRecOn steps step hinv fun s hs m _ => hstep s m hs
  exact holds_foldl_iff_lasts holds hs (fun steps m => h _ m (hkept steps)) steps

end Lasts

/-! ### What the steps hand out -/

section Handed

variable {σ μ ε : Type}

/-- What is handed out along a run, in order. -/
def handed (step : σ → μ → σ) (hands : σ → μ → Option ε) : σ → List μ → List ε
  | _, [] => []
  | s, m :: rest => (hands s m).toList ++ handed step hands (step s m) rest

/-- Nothing is handed out twice if it is spent once it has been handed out, and stays spent. -/
theorem nodup_handed (spent : ε → σ → Prop) {step : σ → μ → σ} {hands : σ → μ → Option ε}
    {invariant : σ → Prop} (hstep : ∀ s m, invariant s → invariant (step s m))
    (hspent : ∀ e s m, invariant s → spent e s → spent e (step s m))
    (hhands : ∀ s m e, invariant s → hands s m = some e → ¬spent e s ∧ spent e (step s m))
    {s : σ} (hs : invariant s) (steps : List μ) :
    (handed step hands s steps).Nodup ∧ ∀ e ∈ handed step hands s steps, ¬spent e s := by
  induction steps generalizing s with
  | nil => exact ⟨List.nodup_nil, nofun⟩
  | cons m rest ih =>
    obtain ⟨hnodup, hfresh⟩ := ih (hstep s m hs)
    have hlater : ∀ e ∈ handed step hands (step s m) rest, ¬spent e s := fun e he hspentBefore =>
      hfresh e he (hspent e s m hs hspentBefore)
    rw [handed]
    cases hm : hands s m with
    | none => exact ⟨hnodup, hlater⟩
    | some e =>
      obtain ⟨hbefore, hafter⟩ := hhands s m e hs hm
      have hnew : e ∉ handed step hands (step s m) rest := fun he => hfresh e he hafter
      refine ⟨List.nodup_cons.mpr ⟨hnew, hnodup⟩, fun e' he' => ?_⟩
      rcases List.mem_cons.mp he' with rfl | he'
      · exact hbefore
      · exact hlater e' he'

end Handed

end NoiseControl
