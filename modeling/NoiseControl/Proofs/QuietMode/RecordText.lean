import NoiseControl.Proofs.Json.Fields
import NoiseControl.Proofs.Json.Printing
import NoiseControl.QuietMode.Codec

/-!
# The texts of a quiet-mode record

The texts that are read as a record are those of the objects that carry its five fields, in any
order and with others beside them, and of the array of the five values.  The written form of the
record is one of them, and in none is the instant a number that the clock does not show.
-/

namespace NoiseControl.QuietMode.Record

/-- A number that the clock never shows: one below zero, with a fraction or an exponent, or with
more than 32 bits. -/
def NoReading (numeral : List Char) : Prop :=
  ∃ sign whole fraction exponent, Json.Numeral sign whole fraction exponent ∧
    numeral = sign ++ (whole ++ (fraction ++ exponent)) ∧
    (sign ≠ [] ∨ fraction ≠ [] ∨ exponent ≠ [] ∨ 2 ^ 32 ≤ Text.placeValue whole)

/-- A value gives the instant of a record, by name or by place. -/
def GivesInstant (j value : Json) : Prop :=
  (∃ members, j = .object members ∧ (some "timestamp", value) ∈ members) ∨
  ∃ items, j = .array items ∧ items[4]? = some value

variable {r : Record} {j value : Json} {values : List Json} {numeral : List Char} {n max : Nat}

/-! ### Numerals of instants -/

/-- Of all numerals only those without sign, fraction and exponent are digits alone. -/
theorem eq_whole_of_digits {sign whole fraction exponent : List Char}
    (h : Json.Numeral sign whole fraction exponent)
    (hdigits : Text.Digits (sign ++ (whole ++ (fraction ++ exponent)))) :
    sign = [] ∧ fraction = [] ∧ exponent = [] := by
  have hdigit := ((Text.digits_iff _).mp hdigits).2
  refine ⟨?_, ?_, ?_⟩
  · rcases h.sign with rfl | rfl
    · rfl
    · exact absurd (hdigit '-' (by simp)) (by decide)
  · rcases h.fraction with rfl | ⟨digits, rfl, -⟩
    · rfl
    · exact absurd (hdigit '.' (by simp)) (by decide)
  · rcases h.exponent with rfl | ⟨letter, sign, digits, rfl, hletter, -, -⟩
    · rfl
    · rcases hletter with rfl | rfl
      · exact absurd (hdigit 'e' (by simp)) (by decide)
      · exact absurd (hdigit 'E' (by simp)) (by decide)

/-- A numeral that is read as a natural number is the written form of the number. -/
theorem eq_numeral_of_digits? (h : Json.IsNumeral numeral) (hread : Text.digits? numeral = some n) :
    numeral = Text.numeral n := by
  obtain ⟨hdigits, rfl⟩ := (Text.digits?_eq_some_iff _ _).mp hread
  obtain ⟨sign, whole, fraction, exponent, h, rfl⟩ := h
  obtain ⟨rfl, rfl, rfl⟩ := eq_whole_of_digits h hdigits
  simp only [List.append_nil, List.nil_append] at hdigits ⊢
  refine Text.eq_numeral hdigits ?_
  rcases h.whole with hzero | ⟨-, hlead⟩
  · exact Or.inl hzero
  · exact Or.inr hlead

theorem not_noReading_numeral (micros : UInt32) : ¬NoReading (Text.numeral micros.toNat) := by
  rintro ⟨sign, whole, fraction, exponent, h, heq, hoff⟩
  obtain ⟨hdigits, hvalue⟩ := Text.digits_numeral micros.toNat
  rw [heq] at hdigits hvalue
  obtain ⟨rfl, rfl, rfl⟩ := eq_whole_of_digits h hdigits
  simp only [List.append_nil, List.nil_append] at hvalue
  have hlt := micros.toNat_lt
  simp only [ne_eq, not_true_eq_false, false_or, hvalue] at hoff
  omega

/-! ### Fields -/

theorem bool?_ok {b : Bool} (h : j.bool? = some b) : j = .bool b := by
  cases j <;> cases h
  rfl

theorem nat?_ok (h : j.nat? max = some n) :
    ∃ numeral, j = .number numeral ∧ Text.digits? numeral = some n ∧ n ≤ max := by
  cases j with
  | number numeral =>
    obtain ⟨hread, hmax⟩ := Option.filter_eq_some_iff.mp h
    exact ⟨numeral, rfl, hread, of_decide_eq_true hmax⟩
  | _ => cases h

theorem ofFields?_ok (h : ofFields? values = some r) :
    ∃ numeral, Text.digits? numeral = some r.timestamp.micros.toNat ∧
      values = [.bool r.detected, .bool r.enabled, .bool r.enableRequested,
        .bool r.disableRequested, .number numeral] := by
  unfold ofFields? at h
  split at h
  · simp only [Option.bind_eq_bind, Option.bind_eq_some_iff, Option.some.injEq] at h
    obtain ⟨detected, hdetected, enabled, henabled, enableRequested, henable, disableRequested,
      hdisable, micros, hmicros, rfl⟩ := h
    obtain ⟨numeral, rfl, hread, hmax⟩ := nat?_ok hmicros
    rw [bool?_ok hdetected, bool?_ok henabled, bool?_ok henable, bool?_ok hdisable]
    refine ⟨numeral, ?_, rfl⟩
    rw [hread, UInt32.toNat_ofNat_of_lt' (Nat.lt_succ_of_le hmax)]
  · cases h

theorem mem_tokens_of_carries {fields : List (String × Json)} {m : String × Json} {t : Json.Token}
    (h : Json.Carries fields j) (hm : m ∈ fields) (ht : t ∈ m.2.tokens) : t ∈ j.tokens := by
  rcases h with ⟨members, rfl, hperm⟩ | rfl
  · have hmem := (List.mem_filter.mp (hperm.mem_iff.mpr hm)).1
    have hnamed : (some m.1, m.2) ∈ Json.named members := List.mem_map_of_mem hmem
    exact Json.mem_tokens_object hnamed (List.mem_cons_of_mem _ (List.mem_cons_of_mem _ ht))
  · exact Json.mem_tokens_array (List.mem_map_of_mem hm) ht

theorem ofJson?_iff (hj : ∀ numeral, .number numeral ∈ j.tokens → Json.IsNumeral numeral) :
    ofJson? j = some r ↔ Json.Carries r.members j := by
  have hnames : fieldNames.Nodup := by decide
  unfold ofJson?
  rw [Option.bind_eq_some_iff]
  constructor
  · rintro ⟨values, hfields, hvalues⟩
    obtain ⟨numeral, hread, rfl⟩ := ofFields?_ok hvalues
    have hcarries := (Json.fields?_eq_some_iff hnames (by rfl) j).mp hfields
    have hmem := mem_tokens_of_carries (m := ("timestamp", .number numeral)) hcarries
      (by simp [fieldNames]) List.mem_cons_self
    rwa [eq_numeral_of_digits? (hj numeral hmem) hread] at hcarries
  · intro hcarries
    have hfields : j.fields? fieldNames = some r.fieldValues :=
      (Json.fields?_eq_some_iff hnames rfl j).mpr hcarries
    exact ⟨r.fieldValues, hfields, ofFields?_fieldValues r⟩

/-! ### Texts -/

/-- A text is read as a record if it is one of a value that carries the fields of the record. -/
theorem parse?_eq_some_iff (text : String) (r : Record) :
    parse? text = some r ↔ ∃ j, Json.IsText text.toList j ∧ Json.Carries r.members j := by
  unfold parse?
  rw [Option.bind_eq_some_iff]
  refine exists_congr fun j => ?_
  rw [Json.parse?_eq_some_iff]
  exact and_congr_right fun htext => ofJson?_iff fun numeral hnumeral =>
    (htext.exists_lexeme hnumeral).elim fun _ hlexeme => hlexeme.isNumeral

theorem isText_render (r : Record) : Json.IsText r.render.toList r.toJson := by
  rw [render, Json.compact, String.toList_ofList]
  refine Json.isText_compactChars ?_
  simp [toJson, members, fieldNames, fieldValues, Json.record, Json.nat, Json.tokens,
    Json.memberTokens, Json.separated, Json.Token.Printable, Json.isNumeral_numeral]

theorem parse?_render (r : Record) : parse? r.render = some r :=
  (parse?_eq_some_iff r.render r).mpr ⟨r.toJson, isText_render r, Json.carries_record r.members⟩

theorem eq_nat_of_givesInstant (h : Json.Carries r.members j) (hgives : GivesInstant j value) :
    value = .nat r.timestamp.micros.toNat := by
  rcases h with ⟨members, rfl, hperm⟩ | rfl
  · rcases hgives with ⟨_, heq, hmem⟩ | ⟨_, heq, -⟩
    · cases heq
      obtain ⟨⟨name, value⟩, hvalue, heq⟩ := List.mem_map.mp hmem
      cases heq
      have hfield : ("timestamp", value) ∈ r.members :=
        hperm.mem_iff.mp (List.mem_filter.mpr ⟨hvalue, by rfl⟩)
      simpa [Record.members, fieldNames, fieldValues] using hfield
    · cases heq
  · rcases hgives with ⟨_, heq, -⟩ | ⟨_, heq, hitem⟩
    · cases heq
    · cases heq
      cases hitem
      rfl

theorem parse?_eq_none_of_noReading {text : String} (htext : Json.IsText text.toList j)
    (hgives : GivesInstant j (.number numeral)) (hoff : NoReading numeral) : parse? text = none := by
  refine Option.eq_none_iff_forall_ne_some.mpr fun r hparse => ?_
  obtain ⟨k, hk, hcarries⟩ := (parse?_eq_some_iff text r).mp hparse
  have hsame : k = j := by
    rw [← Json.parse?_eq_some_iff] at htext hk
    exact Option.some.inj (hk.symm.trans htext)
  rw [hsame] at hcarries
  have hnumeral : numeral = Text.numeral r.timestamp.micros.toNat :=
    Json.number.inj (eq_nat_of_givesInstant hcarries hgives)
  rw [hnumeral] at hoff
  exact not_noReading_numeral _ hoff

/-- Every record is read back from its written form.  A text is read as a record exactly if it is
one of an object with the five fields once each, in any order and with others beside them, or of
the array of the five values, and none whose instant no clock shows is read. -/
theorem text_roundTrip :
    (∀ r : Record, parse? r.render = some r) ∧
    (∀ (text : String) (r : Record),
      parse? text = some r ↔ ∃ j, Json.IsText text.toList j ∧ Json.Carries r.members j) ∧
    ∀ (text : String) (j : Json) (numeral : List Char), Json.IsText text.toList j →
      GivesInstant j (.number numeral) → NoReading numeral → parse? text = none :=
  ⟨parse?_render, parse?_eq_some_iff, fun _ _ _ => parse?_eq_none_of_noReading⟩

/-- The instant first, a field that is unknown, and white space; and an instant with a fraction. -/
theorem text_roundTrip_reordered :
    parse? ("\x7b\"timestamp\": 7, \"x\": \x7b\"y\": [-1e5, null]\x7d,\n\"detected\": true," ++
      " \"enabled\": false, \"enable_requested\": false, \"disable_requested\": true \x7d") =
      some { detected := true, disableRequested := true, timestamp := ⟨7⟩ } ∧
    parse? "[true, false, false, true, 7.0]" = none := by
  constructor
  · refine (text_roundTrip.2.1 _ _).mpr ⟨.record [("timestamp", .nat 7),
      ("x", .record [("y", .array [.number "-1e5".toList, .null])]), ("detected", .bool true),
      ("enabled", .bool false), ("enable_requested", .bool false),
      ("disable_requested", .bool true)], ?_, Or.inl ⟨_, rfl, ?_⟩⟩
    · exact (Json.tokens?_eq_some_iff (Json.isChain_tokens _)).mp (by decide +kernel)
    · exact (List.perm_append_singleton _ [_, _, _, _]).symm
  · have hnumeral : Json.Numeral [] ['7'] ['.', '0'] [] := {
      sign := Or.inl rfl
      whole := Or.inr ⟨⟨by simp, by simp⟩, by decide⟩
      fraction := Or.inr ⟨['0'], rfl, by simp, by simp⟩
      exponent := Or.inl rfl }
    refine text_roundTrip.2.2 _ (.array [.bool true, .bool false, .bool false, .bool true,
      .number ['7', '.', '0']]) _ ?_ (Or.inr ⟨_, rfl, rfl⟩)
        ⟨_, _, _, _, hnumeral, rfl, Or.inr (Or.inl (by decide))⟩
    exact (Json.tokens?_eq_some_iff (Json.isChain_tokens _)).mp (by decide +kernel)

end NoiseControl.QuietMode.Record
