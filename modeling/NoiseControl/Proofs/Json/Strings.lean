import NoiseControl.Proofs.Json.Grammar

/-!
# Reading strings

The body of a string is read as pieces, which name the code units that it spells.  The characters
that the pieces are put together to are those with these units.
-/

namespace NoiseControl.Json

variable {c d : Char} {cs rest : List Char} {us vs : List Nat} {n u : Nat} {pieces : List Piece}

/-! ### Code units -/

theorem toNat_lt_or (c : Char) : c.toNat < 0xD800 ∨ 0xDFFF < c.toNat ∧ c.toNat < 0x110000 := c.valid

/-- Units can be cut into characters in one way only. -/
theorem units_append_inj : units c ++ us = units d ++ vs ↔ c = d ∧ us = vs := by
  refine ⟨fun h => ?_, fun h => by rw [h.1, h.2]⟩
  have hc := toNat_lt_or c
  have hd := toNat_lt_or d
  rw [← Char.toNat_inj]
  unfold units at h
  split at h <;> split at h <;>
    simp only [List.cons_append, List.nil_append, List.cons.injEq] at h
  · exact h
  · omega
  · omega
  · exact ⟨by omega, h.2.2⟩

theorem append_eq_flatMap_units_iff : units c ++ us = cs.flatMap units ↔
    ∃ rest, cs = c :: rest ∧ us = rest.flatMap units := by
  cases cs with
  | nil =>
    refine iff_of_false (fun h => ?_) (by simp)
    have hnil := (List.append_eq_nil_iff.mp h).1
    unfold units at hnil
    split at hnil <;> cases hnil
  | cons d cs =>
    rw [List.flatMap_cons, units_append_inj]
    constructor
    · rintro ⟨rfl, h⟩
      exact ⟨cs, rfl, h⟩
    · rintro ⟨rest, h, hrest⟩
      cases h
      exact ⟨rfl, hrest⟩

theorem flatMap_units_inj (h : cs.flatMap units = rest.flatMap units) : cs = rest := by
  induction cs generalizing rest with
  | nil =>
    cases rest with
    | nil => rfl
    | cons d rest =>
      obtain ⟨_, heq, -⟩ := append_eq_flatMap_units_iff.mp h.symm
      cases heq
  | cons c cs ih =>
    obtain ⟨tail, rfl, htail⟩ := append_eq_flatMap_units_iff.mp h
    rw [ih htail]

/-- A character starts with half of a pair only if another half follows. -/
theorem eq_pair_of_units (h : units c = u :: us) (hu : 0xD800 ≤ u ∧ u ≤ 0xDFFF) :
    u < 0xDC00 ∧ ∃ low, us = [low] ∧ 0xDC00 ≤ low ∧ low ≤ 0xDFFF := by
  have hc := toNat_lt_or c
  unfold units at h
  split at h <;> cases h
  · omega
  · exact ⟨by omega, _, rfl, by omega, by omega⟩

theorem units_eq_pair {high low : Nat} (hhigh : 0xD800 ≤ high ∧ high < 0xDC00)
    (hlow : 0xDC00 ≤ low ∧ low ≤ 0xDFFF) :
    units (Char.ofNat (0x10000 + (high - 0xD800) * 0x400 + (low - 0xDC00))) = [high, low] := by
  have hvalid : (0x10000 + (high - 0xD800) * 0x400 + (low - 0xDC00)).isValidChar :=
    Or.inr ⟨by omega, by omega⟩
  have htoNat : (Char.ofNat (0x10000 + (high - 0xD800) * 0x400 + (low - 0xDC00))).toNat =
      0x10000 + (high - 0xD800) * 0x400 + (low - 0xDC00) := by
    rw [Char.ofNat, dif_pos hvalid]
    rfl
  have hfirst : 0xD800 + (0x10000 + (high - 0xD800) * 0x400 + (low - 0xDC00) - 0x10000) / 0x400 =
      high := by omega
  have hsecond : 0xDC00 + (0x10000 + (high - 0xD800) * 0x400 + (low - 0xDC00) - 0x10000) % 0x400 =
      low := by omega
  rw [units, htoNat, if_neg (by omega), hfirst, hsecond]

/-! ### Pieces -/

def Piece.units : Piece → List Nat
  | .char c => Json.units c
  | .half u => [u]

/-- Halves are those of surrogate pairs. -/
def Piece.Valid : Piece → Prop
  | .char _ => True
  | .half u => 0xD800 ≤ u ∧ u ≤ 0xDFFF

/-- Characters from the first on are those with the units exactly if the others are. -/
theorem map_cons_eq_some_iff {o : Option (List Char)}
    (h : ∀ ds, o = some ds ↔ us = ds.flatMap units) :
    o.map (c :: ·) = some cs ↔ Json.units c ++ us = cs.flatMap units := by
  rw [append_eq_flatMap_units_iff, Option.map_eq_some_iff]
  refine exists_congr fun rest => ?_
  rw [h, and_comm, eq_comm]

theorem exists_cons_units (c : Char) : ∃ u us, Json.units c = u :: us := by
  unfold Json.units
  split <;> exact ⟨_, _, rfl⟩

/-- If a text starts with half of a pair, the other half follows. -/
theorem exists_low_of_half (hu : 0xD800 ≤ u ∧ u ≤ 0xDFFF) (h : u :: us = cs.flatMap Json.units) :
    u < 0xDC00 ∧ ∃ low rest, us = low :: rest ∧ 0xDC00 ≤ low ∧ low ≤ 0xDFFF := by
  cases cs with
  | nil => cases h
  | cons c cs =>
    obtain ⟨u', us', hc⟩ := exists_cons_units c
    rw [List.flatMap_cons, hc] at h
    cases h
    obtain ⟨hlt, low, rfl, hlow⟩ := eq_pair_of_units hc hu
    exact ⟨hlt, low, _, rfl, hlow⟩

/-- The pieces make up the characters that have their units. -/
theorem joinPieces_eq_some_iff (hvalid : ∀ p ∈ pieces, p.Valid) :
    joinPieces pieces = some cs ↔ pieces.flatMap Piece.units = cs.flatMap Json.units := by
  fun_induction joinPieces pieces generalizing cs with
  | case1 =>
    constructor
    · intro h
      cases h
      rfl
    · intro h
      have hnil : [] = cs := flatMap_units_inj h
      rw [hnil]
  | case2 c rest ih =>
    rw [List.forall_mem_cons] at hvalid
    exact map_cons_eq_some_iff fun ds => ih hvalid.2
  | case3 high low rest h ih =>
    simp only [List.forall_mem_cons] at hvalid
    obtain ⟨hhigh, hlow, hrest⟩ := hvalid
    have hpair := units_eq_pair ⟨hhigh.1, h.1⟩ ⟨h.2, hlow.2⟩
    rw [map_cons_eq_some_iff fun ds => ih hrest, hpair]
    rfl
  | case4 high low rest h =>
    simp only [List.forall_mem_cons] at hvalid
    refine iff_of_false nofun fun heq => h ?_
    obtain ⟨hlt, low', rest', hus, hlow, -⟩ := exists_low_of_half hvalid.1 heq
    cases hus
    exact ⟨hlt, hlow⟩
  | case5 half rest hnext =>
    rw [List.forall_mem_cons] at hvalid
    refine iff_of_false nofun fun heq => ?_
    have heq : half :: rest.flatMap Piece.units = cs.flatMap Json.units := heq
    obtain ⟨-, low, us, hus, hlow⟩ := exists_low_of_half hvalid.1 heq
    match rest, hnext with
    | [], _ => cases hus
    | .half low :: rest, hnext => exact hnext low rest rfl
    | .char c :: rest, _ =>
      obtain ⟨u, us', hc⟩ := exists_cons_units c
      rw [List.flatMap_cons, Piece.units, hc] at hus
      cases hus
      have hhigh := (eq_pair_of_units hc ⟨by omega, hlow.2⟩).1
      omega

theorem denotes_joinPieces (hvalid : ∀ p ∈ pieces, p.Valid) :
    Denotes (pieces.flatMap Piece.units) ((joinPieces pieces).map String.ofList) := by
  intro text
  rw [← joinPieces_eq_some_iff hvalid, Option.map_eq_some_iff]
  constructor
  · rintro ⟨cs, hcs, rfl⟩
    rwa [String.toList_ofList]
  · exact fun h => ⟨text.toList, h, String.ofList_toList⟩

theorem Denotes.unique {s s' : Option String} (h : Denotes us s) (h' : Denotes us s') : s = s' :=
  Option.ext fun text => (h text).trans (h' text).symm

/-! ### Escapes -/

theorem shortEscape?_eq_some_iff (letter c : Char) :
    shortEscape? letter = some c ↔ (letter, c) ∈ shortEscapes := by
  unfold shortEscape? shortEscapes
  split <;> simp_all [eq_comm]

/-- A character of a run of characters stands in its place. -/
theorem getElem?_of_run {run : List Char} {start base count : Nat}
    (hrun : ∀ d < count, run[base + d]? = some (Char.ofNat (start + d))) (hlow : start ≤ c.toNat)
    (hhigh : c.toNat < start + count) : run[base + (c.toNat - start)]? = some c := by
  rw [hrun (c.toNat - start) (by omega), Nat.add_sub_cancel' hlow, Char.ofNat_toNat]

theorem hexDigit_of_hexValue? (h : hexValue? c = some n) : HexDigit c n := by
  have hdigits : ∀ d < 10, "0123456789abcdef".toList[0 + d]? = some (Char.ofNat (48 + d)) := by
    decide
  have hlower : ∀ d < 6, "0123456789abcdef".toList[10 + d]? = some (Char.ofNat (97 + d)) := by
    decide
  have hupper : ∀ d < 6, "0123456789ABCDEF".toList[10 + d]? = some (Char.ofNat (65 + d)) := by
    decide
  unfold hexValue? at h
  split at h
  · rename_i hc
    have hlow : 48 ≤ c.toNat := hc.1
    have hhigh : c.toNat ≤ 57 := hc.2
    have hplace := getElem?_of_run hdigits hlow (by omega)
    cases h
    rw [Nat.zero_add] at hplace
    exact Or.inl hplace
  split at h
  · rename_i hc
    have hlow : 97 ≤ c.toNat := hc.1
    have hhigh : c.toNat ≤ 102 := hc.2
    have hplace := getElem?_of_run hlower hlow (by omega)
    cases h
    rw [show 10 + (c.toNat - 97) = c.toNat - 87 by omega] at hplace
    exact Or.inl hplace
  split at h
  · rename_i hc
    have hlow : 65 ≤ c.toNat := hc.1
    have hhigh : c.toNat ≤ 70 := hc.2
    have hplace := getElem?_of_run hupper hlow (by omega)
    cases h
    rw [show 10 + (c.toNat - 65) = c.toNat - 55 by omega] at hplace
    exact Or.inr hplace
  · cases h

theorem hexValue?_of_hexDigit (h : HexDigit c n) : n < 16 ∧ hexValue? c = some n := by
  have hlower : ∀ n < 16, "0123456789abcdef".toList[n]?.bind hexValue? = some n := by decide
  have hupper : ∀ n < 16, "0123456789ABCDEF".toList[n]?.bind hexValue? = some n := by decide
  rcases h with h | h
  · have hlt : n < 16 := (List.getElem?_eq_some_iff.mp h).1
    have hvalue := hlower n hlt
    rw [h] at hvalue
    exact ⟨hlt, hvalue⟩
  · have hlt : n < 16 := (List.getElem?_eq_some_iff.mp h).1
    have hvalue := hupper n hlt
    rw [h] at hvalue
    exact ⟨hlt, hvalue⟩

theorem ofDigits_four (a b c d : Nat) :
    Nat.ofDigits 16 [d, c, b, a] = ((a * 16 + b) * 16 + c) * 16 + d := by
  simp only [Nat.ofDigits_cons, Nat.ofDigits_nil]
  omega

theorem hex4?_of_hexDigit {w x y z : Char} {a b c d : Nat} (hw : HexDigit w a) (hx : HexDigit x b)
    (hy : HexDigit y c) (hz : HexDigit z d) :
    hex4? w x y z = some (Nat.ofDigits 16 [d, c, b, a]) ∧
      Nat.ofDigits 16 [d, c, b, a] < 0x10000 := by
  obtain ⟨ha, hw⟩ := hexValue?_of_hexDigit hw
  obtain ⟨hb, hx⟩ := hexValue?_of_hexDigit hx
  obtain ⟨hc, hy⟩ := hexValue?_of_hexDigit hy
  obtain ⟨hd, hz⟩ := hexValue?_of_hexDigit hz
  rw [ofDigits_four]
  exact ⟨by simp [hex4?, hw, hx, hy, hz], by omega⟩

theorem hexDigit_of_hex4? {w x y z : Char} (h : hex4? w x y z = some n) :
    ∃ a b c d, HexDigit w a ∧ HexDigit x b ∧ HexDigit y c ∧ HexDigit z d ∧
      Nat.ofDigits 16 [d, c, b, a] = n := by
  simp only [hex4?, Option.bind_eq_bind, Option.bind_eq_some_iff, Option.some.injEq] at h
  obtain ⟨a, hw, b, hx, c, hy, d, hz, rfl⟩ := h
  exact ⟨a, b, c, d, hexDigit_of_hexValue? hw, hexDigit_of_hexValue? hx, hexDigit_of_hexValue? hy,
    hexDigit_of_hexValue? hz, ofDigits_four a b c d⟩

/-- An escape of a unit names the unit, be it a character of its own or half of a pair. -/
theorem units_ofUnit (h : n < 0x10000) :
    (Piece.ofUnit n).units = [n] ∧ (Piece.ofUnit n).Valid := by
  unfold Piece.ofUnit
  split
  · rename_i hhalf
    exact ⟨rfl, hhalf⟩
  · have hvalid : n.isValidChar := by
      unfold Nat.isValidChar
      omega
    have htoNat : (Char.ofNat n).toNat = n := by
      rw [Char.ofNat, dif_pos hvalid]
      rfl
    refine ⟨?_, trivial⟩
    rw [Piece.units, Json.units, htoNat, if_pos h]

/-! ### Bodies -/

theorem stringBody?_append (h : Spells cs us) (rest : List Char) : ∃ pieces,
    stringBody? (cs ++ '"' :: rest) = some (pieces, rest) ∧ pieces.flatMap Piece.units = us ∧
      ∀ p ∈ pieces, p.Valid := by
  induction h with
  | nil => exact ⟨[], rfl, rfl, nofun⟩
  | @char c _ _ hquote hslash hcontrol _ ih =>
    obtain ⟨pieces, hbody, rfl, hvalid⟩ := ih
    refine ⟨.char c :: pieces, ?_, rfl, List.forall_mem_cons.mpr ⟨trivial, hvalid⟩⟩
    rw [List.cons_append, stringBody?]
    · simp [hslash, Nat.not_lt.mpr hcontrol, hbody]
    · exact hquote
    · exact fun _ _ _ _ _ h => absurd h hslash
    · exact fun _ _ h => absurd h hslash
  | @short letter c _ _ hletter _ ih =>
    obtain ⟨pieces, hbody, rfl, hvalid⟩ := ih
    have hescape := (shortEscape?_eq_some_iff letter c).mpr hletter
    refine ⟨.char c :: pieces, ?_, rfl, List.forall_mem_cons.mpr ⟨trivial, hvalid⟩⟩
    rw [List.cons_append, List.cons_append, stringBody?]
    · simp [hescape, hbody]
    -- No short escape has the letter of the units.
    · rintro _ _ _ _ _ rfl
      cases hescape
  | unit hw hx hy hz _ ih =>
    obtain ⟨pieces, hbody, rfl, hvalid⟩ := ih
    obtain ⟨hunit, hlt⟩ := hex4?_of_hexDigit hw hx hy hz
    obtain ⟨hunits, hpiece⟩ := units_ofUnit hlt
    refine ⟨_ :: pieces, ?_, ?_, List.forall_mem_cons.mpr ⟨hpiece, hvalid⟩⟩
    · simp [stringBody?, hunit, hbody]
    · rw [List.flatMap_cons, hunits, List.singleton_append]

theorem stringBody?_ok (h : stringBody? cs = some (pieces, rest)) : ∃ body,
    cs = body ++ '"' :: rest ∧ Spells body (pieces.flatMap Piece.units) ∧
      ∀ p ∈ pieces, p.Valid := by
  fun_induction stringBody? cs generalizing pieces with
  | case1 => cases h
  | case2 =>
    cases h
    exact ⟨[], rfl, .nil, nofun⟩
  | case3 w x y z tail ih =>
    simp only [Option.bind_eq_bind, Option.bind_eq_some_iff, Prod.exists, Option.some.injEq,
      Prod.mk.injEq] at h
    obtain ⟨unit, hunit, pieces, rest, htail, rfl, rfl⟩ := h
    obtain ⟨body, rfl, hbody, hvalid⟩ := ih htail
    obtain ⟨a, b, c, d, hw, hx, hy, hz, rfl⟩ := hexDigit_of_hex4? hunit
    obtain ⟨hunits, hpiece⟩ := units_ofUnit (hex4?_of_hexDigit hw hx hy hz).2
    refine ⟨'\\' :: 'u' :: w :: x :: y :: z :: body, rfl, ?_,
      List.forall_mem_cons.mpr ⟨hpiece, hvalid⟩⟩
    rw [List.flatMap_cons, hunits, List.singleton_append]
    exact .unit hw hx hy hz hbody
  | case4 letter tail _ ih =>
    simp only [Option.bind_eq_bind, Option.bind_eq_some_iff, Prod.exists, Option.some.injEq,
      Prod.mk.injEq] at h
    obtain ⟨c, hletter, pieces, rest, htail, rfl, rfl⟩ := h
    obtain ⟨body, rfl, hbody, hvalid⟩ := ih htail
    exact ⟨_, rfl, .short ((shortEscape?_eq_some_iff letter c).mp hletter) hbody,
      List.forall_mem_cons.mpr ⟨trivial, hvalid⟩⟩
  | case5 => cases h
  | case6 c tail hquote _ _ hc ih =>
    simp only [Option.bind_eq_bind, Option.bind_eq_some_iff, Prod.exists, Option.some.injEq,
      Prod.mk.injEq] at h
    obtain ⟨pieces, rest, htail, rfl, rfl⟩ := h
    obtain ⟨body, rfl, hbody, hvalid⟩ := ih htail
    rw [not_or, Nat.not_lt] at hc
    exact ⟨_, rfl, .char hquote hc.1 hc.2 hbody, List.forall_mem_cons.mpr ⟨trivial, hvalid⟩⟩

end NoiseControl.Json
