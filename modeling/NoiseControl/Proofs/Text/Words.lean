import Mathlib.Data.List.TakeWhile
import NoiseControl.Text.Blank

/-!
# The words of a text

A text is words with white space before, between and after them.  There is one way to read it so, and
that way does not depend on the white space around the text.
-/

namespace NoiseControl.Text

def Blank (cs : List Char) : Prop := ∀ c ∈ cs, isBlank c = true

/-- A word: some characters, none of which is white space. -/
def Word (cs : List Char) : Prop := cs ≠ [] ∧ ∀ c ∈ cs, isBlank c = false

/-- The text is the words in order, with white space between any two and perhaps around them. -/
inductive Spaced : List Char → List (List Char) → Prop where
  | blank {gap : List Char} (hgap : Blank gap) : Spaced gap []
  | word {gap word rest : List Char} {ws : List (List Char)} (hgap : Blank gap) (hword : Word word)
      (hends : ∀ c ∈ rest.head?, isBlank c = true) (hrest : Spaced rest ws) :
      Spaced (gap ++ (word ++ rest)) (word :: ws)

/-- No white space is at either end. -/
structure Bare (cs : List Char) : Prop where
  head : ∀ c ∈ cs.head?, isBlank c = false
  last : ∀ c ∈ cs.getLast?, isBlank c = false

/-- The text that stands between the white space at the ends of `cs`. -/
structure Trims (cs text : List Char) : Prop where
  around : ∃ before after, cs = before ++ (text ++ after) ∧ Blank before ∧ Blank after
  bare : Bare text

variable {cs gap text : List Char} {ws : List (List Char)}

theorem Blank.append {gap' : List Char} (h : Blank gap) (h' : Blank gap') : Blank (gap ++ gap') :=
  List.forall_mem_append.mpr ⟨h, h'⟩

theorem Blank.head (h : Blank gap) : ∀ c ∈ gap.head?, isBlank c = true := fun c hc =>
  h c (List.mem_of_mem_head? hc)

/-- A text that begins with a word. -/
theorem Spaced.lead {word rest : List Char} (hword : Word word)
    (hends : ∀ c ∈ rest.head?, isBlank c = true) (hrest : Spaced rest ws) :
    Spaced (word ++ rest) (word :: ws) :=
  @Spaced.word [] word rest ws nofun hword hends hrest

/-! ### Reading words -/

theorem wordsFrom_nil_cons {c : Char} (hc : isBlank c = true) (rest : List Char) :
    wordsFrom [] (c :: rest) = wordsFrom [] rest := by
  simp [wordsFrom, hc]

theorem wordsFrom_blank (h : Blank gap) (rest : List Char) :
    wordsFrom [] (gap ++ rest) = wordsFrom [] rest := by
  induction gap with
  | nil => rfl
  | cons c gap ih =>
    obtain ⟨hc, hgap⟩ := List.forall_mem_cons.mp h
    rw [List.cons_append, wordsFrom_nil_cons hc, ih hgap]

theorem wordsFrom_word (start : List Char) (h : ∀ c ∈ cs, isBlank c = false) (rest : List Char) :
    wordsFrom start (cs ++ rest) = wordsFrom (cs.reverse ++ start) rest := by
  induction cs generalizing start with
  | nil => rfl
  | cons c cs ih =>
    obtain ⟨hc, hcs⟩ := List.forall_mem_cons.mp h
    rw [List.cons_append, wordsFrom, if_neg (by simp [hc]), ih _ hcs]
    simp

/-- A word that was begun ends where white space follows, or nothing. -/
theorem wordsFrom_end {start : List Char} (hstart : start ≠ [])
    (hends : ∀ c ∈ cs.head?, isBlank c = true) :
    wordsFrom start cs = start.reverse :: wordsFrom [] cs := by
  have hbegun : ¬start.isEmpty = true := fun h => hstart (List.isEmpty_iff.mp h)
  cases cs with
  | nil =>
    rw [wordsFrom, if_neg hbegun]
    rfl
  | cons c rest =>
    have hc : isBlank c = true := hends c rfl
    rw [wordsFrom, if_pos hc, if_neg hbegun, wordsFrom_nil_cons hc]

theorem words_of_spaced (h : Spaced cs ws) : words cs = ws := by
  unfold words
  induction h with
  | @blank gap hgap =>
    rw [← List.append_nil gap, wordsFrom_blank hgap]
    rfl
  | word hgap hword hends hrest ih =>
    rw [wordsFrom_blank hgap, wordsFrom_word _ hword.2,
      wordsFrom_end (by simpa using hword.1) hends, ih, List.append_nil, List.reverse_reverse]

/-- Any text is words and white space. -/
theorem exists_spaced (cs : List Char) : ∃ ws, Spaced cs ws := by
  induction cs with
  | nil => exact ⟨[], .blank nofun⟩
  | cons c rest ih =>
    obtain ⟨ws, hrest⟩ := ih
    cases hc : isBlank c with
    | true =>
      have hone : Blank [c] := List.forall_mem_singleton.mpr hc
      cases hrest with
      | blank hgap => exact ⟨[], .blank (hone.append hgap)⟩
      | word hgap hword hends hrest => exact ⟨_, .word (hone.append hgap) hword hends hrest⟩
    | false =>
      have hone : Word [c] := ⟨by simp, List.forall_mem_singleton.mpr hc⟩
      cases hrest with
      | @blank gap hgap => exact ⟨[[c]], .lead hone hgap.head (.blank hgap)⟩
      | @word gap word rest ws hgap hword hends hrest =>
        -- The character begins a word of its own or lengthens the first one.
        cases gap with
        | nil =>
          have hlonger : Word (c :: word) := ⟨by simp, List.forall_mem_cons.mpr ⟨hc, hword.2⟩⟩
          exact ⟨(c :: word) :: ws, Spaced.lead hlonger hends hrest⟩
        | cons b gap =>
          have hb : isBlank b = true := hgap b List.mem_cons_self
          exact ⟨[c] :: word :: ws, .lead hone (by simpa using hb)
            (.word hgap hword hends hrest)⟩

/-- The words of a text are the only way to read it as words and white space. -/
theorem words_eq_iff : words cs = ws ↔ Spaced cs ws := by
  refine ⟨?_, words_of_spaced⟩
  rintro rfl
  obtain ⟨ws, h⟩ := exists_spaced cs
  rwa [words_of_spaced h]

/-! ### White space around a text -/

theorem Spaced.prepend (h : Spaced cs ws) (hgap : Blank gap) : Spaced (gap ++ cs) ws := by
  cases h with
  | blank hgap' => exact .blank (hgap.append hgap')
  | word hgap' hword hends hrest =>
    rw [← List.append_assoc]
    exact .word (hgap.append hgap') hword hends hrest

theorem Spaced.append (h : Spaced cs ws) (hgap : Blank gap) : Spaced (cs ++ gap) ws := by
  induction h with
  | blank hgap' => exact .blank (hgap'.append hgap)
  | @word gap' word rest ws hgap' hword hends hrest ih =>
    rw [List.append_assoc, List.append_assoc]
    refine .word hgap' hword ?_ ih
    cases rest with
    | nil => exact hgap.head
    | cons c rest => exact hends

theorem blank_takeWhile (cs : List Char) : Blank (cs.takeWhile isBlank) :=
  fun _ => List.mem_takeWhile_imp

theorem head_dropWhile (cs : List Char) : ∀ c ∈ (cs.dropWhile isBlank).head?, isBlank c = false := by
  intro c hc
  have hne := List.head?_dropWhile_not isBlank cs
  rw [hc] at hne
  simpa using hne

theorem trims_trim (cs : List Char) : Trims cs (trim cs) := by
  let inner := cs.dropWhile isBlank
  let after := (inner.reverse.takeWhile isBlank).reverse
  have hinner : inner = trim cs ++ after := by
    have hsplit := List.takeWhile_append_dropWhile (p := isBlank) (l := inner.reverse)
    rw [← List.reverse_reverse inner, ← hsplit, List.reverse_append]
    rfl
  refine ⟨⟨cs.takeWhile isBlank, after, ?_, blank_takeWhile cs, ?_⟩, ⟨fun c hc => ?_, fun c hc => ?_⟩⟩
  · rw [← hinner]
    exact List.takeWhile_append_dropWhile.symm
  · exact fun c hc => blank_takeWhile _ c (List.mem_reverse.mp hc)
  · refine head_dropWhile cs c ?_
    change c ∈ inner.head?
    rw [hinner, List.head?_append, Option.mem_def.mp hc]
    rfl
  · rw [trim, List.getLast?_reverse] at hc
    exact head_dropWhile _ c hc

/-- Where no white space is, none is dropped. -/
theorem dropWhile_append_eq (hgap : Blank gap) (hends : ∀ c ∈ cs.head?, isBlank c = false) :
    (gap ++ cs).dropWhile isBlank = cs := by
  rw [List.dropWhile_append_of_pos hgap]
  cases cs with
  | nil => rfl
  | cons c rest => rw [List.dropWhile_cons, if_neg (by simp [hends c rfl])]

/-- There is only one such text. -/
theorem Trims.trim_eq (h : Trims cs text) : trim cs = text := by
  obtain ⟨⟨before, after, rfl, hbefore, hafter⟩, hbare⟩ := h
  have hafter' : Blank after.reverse := fun c hc => hafter c (List.mem_reverse.mp hc)
  have hback : (after.reverse ++ text.reverse).dropWhile isBlank = text.reverse :=
    dropWhile_append_eq hafter' (by rw [List.head?_reverse]; exact hbare.last)
  cases text with
  | nil =>
    have hblank : Blank (before ++ ([] ++ after)) := hbefore.append hafter
    have hnone : (before ++ ([] ++ after) ++ []).dropWhile isBlank = [] :=
      dropWhile_append_eq hblank nofun
    rw [List.append_nil] at hnone
    rw [trim, hnone]
    rfl
  | cons c rest =>
    have hfront : (before ++ (c :: rest ++ after)).dropWhile isBlank = c :: rest ++ after :=
      dropWhile_append_eq hbefore hbare.head
    rw [trim, hfront, List.reverse_append, hback, List.reverse_reverse]

theorem words_trim (cs : List Char) : words (trim cs) = words cs := by
  obtain ⟨before, after, hcs, hbefore, hafter⟩ := (trims_trim cs).around
  have hspaced : Spaced (trim cs) (words (trim cs)) := words_eq_iff.mp rfl
  have hwhole := (hspaced.append hafter).prepend hbefore
  rw [← hcs] at hwhole
  exact (words_eq_iff.mpr hwhole).symm

theorem Bare.eq_nil_of_blank (h : Bare cs) (hblank : Blank cs) : cs = [] := by
  cases cs with
  | nil => rfl
  | cons c rest => exact nomatch (hblank c List.mem_cons_self).symm.trans (h.head c rfl)

/-- Without white space around it a text of no word is empty, and one of a single word is the word. -/
theorem Bare.eq_of_words (h : Bare cs) : cs = match words cs with
    | [] => []
    | [word] => word
    | _ => cs := by
  have hspaced : Spaced cs (words cs) := words_eq_iff.mp rfl
  generalize words cs = ws at hspaced
  cases hspaced with
  | blank hgap => exact h.eq_nil_of_blank hgap
  | @word gap word rest ws hgap hword hends hrest =>
    cases hrest with
    | word => rfl
    | blank hrest =>
      have hgap' : gap = [] := by
        cases gap with
        | nil => rfl
        | cons c gap => exact nomatch (hgap c List.mem_cons_self).symm.trans (h.head c rfl)
      have hrest' : rest = [] := by
        rcases hlast : rest.getLast? with _ | c
        · exact List.getLast?_eq_none_iff.mp hlast
        · refine nomatch (hrest c (List.mem_of_getLast? hlast)).symm.trans (h.last c ?_)
          simp [List.getLast?_append, hlast]
      subst hgap' hrest'
      simp

theorem trim_trim (cs : List Char) : trim (trim cs) = trim cs :=
  Trims.trim_eq ⟨⟨[], [], by simp, nofun, nofun⟩, (trims_trim cs).bare⟩

end NoiseControl.Text
