import Mathlib.Data.Set.List
import NoiseControl.Json.Value

/-!
# The fields of a record

A record is read from an object that has each of its fields once, in any order and with others
beside them, or from an array of the values in the order of the fields.
-/

namespace NoiseControl.Json

/-- A value has these fields, each with its value.  It has each once by name, whatever other names
there are, as long as all of them are texts; or it has all by place and nothing else. -/
def Carries (fields : List (String × Json)) (j : Json) : Prop :=
  (∃ members, j = .record members ∧
    (members.filter fun m => decide (m.1 ∈ fields.map Prod.fst)).Perm fields) ∨
  j = .array (fields.map Prod.snd)

/-- The members of an object all of whose names are texts. -/
def named (members : List (String × Json)) : List (Option String × Json) :=
  members.map fun m => (some m.1, m.2)

variable {fields members : List (String × Json)} {name : String} {value : Json}

theorem exists_named {l : List (Option String × Json)} (h : ∀ m ∈ l, m.1.isSome = true) :
    ∃ members, l = named members := by
  have hrange : l ∈ Set.range (List.map fun m : String × Json => (some m.1, m.2)) := by
    rw [Set.range_list_map]
    rintro ⟨name, value⟩ hm
    obtain ⟨name, rfl⟩ := Option.isSome_iff_exists.mp (h _ hm)
    exact ⟨(name, value), rfl⟩
  obtain ⟨members, rfl⟩ := hrange
  exact ⟨members, rfl⟩

theorem record_inj {members members' : List (String × Json)}
    (h : record members = record members') : members = members' := by
  refine (List.map_inj_right fun m m' hm => ?_).mp (Json.object.inj h)
  obtain ⟨name, value⟩ := m
  obtain ⟨name', value'⟩ := m'
  cases hm
  rfl

theorem all_isSome_named (members : List (String × Json)) :
    (named members).all (fun m => m.1.isSome) = true := by
  simp [named]

theorem carries_record (fields : List (String × Json)) : Carries fields (.record fields) := by
  refine Or.inl ⟨fields, rfl, ?_⟩
  rw [List.filter_eq_self.mpr fun m hm => by simpa using ⟨m.2, hm⟩]

/-! ### Members by name -/

theorem filter_named (members : List (String × Json)) (name : String) :
    (named members).filter (fun m => m.1 == some name) =
      named (members.filter fun m => decide (m.1 = name)) := by
  unfold named
  rw [List.filter_map]
  refine congrArg _ (List.filter_congr fun m _ => ?_)
  simp [Bool.beq_eq_decide_eq]

theorem member?_named_iff : member? (named members) name = some value ↔
    (members.filter fun m => decide (m.1 = name)) = [(name, value)] := by
  unfold member?
  rw [filter_named]
  have hname : ∀ m ∈ members.filter fun m => decide (m.1 = name), m.1 = name := fun m hm => by
    simpa using (List.mem_filter.mp hm).2
  generalize members.filter (fun m => decide (m.1 = name)) = found at hname ⊢
  match found with
  | [] => exact iff_of_false nofun nofun
  | [m] =>
    obtain ⟨name', value'⟩ := m
    have hname : name' = name := hname _ List.mem_cons_self
    subst hname
    simp [named]
  | _ :: _ :: _ => exact iff_of_false nofun nofun

/-! ### Lists up to order -/

/-- Two lists agree up to order if they do so on both sides of a test. -/
theorem perm_iff_filter {α : Type} (p : α → Bool) (l l' : List α) :
    l.Perm l' ↔ (l.filter p).Perm (l'.filter p) ∧
      (l.filter fun a => !p a).Perm (l'.filter fun a => !p a) := by
  refine ⟨fun h => ⟨h.filter p, h.filter _⟩, fun h => ?_⟩
  have hsplit := (List.filter_append_perm p l).symm.trans (h.1.append h.2)
  exact hsplit.trans (List.filter_append_perm p l')

/-- Members are a field and others up to order if the first name has the field alone and the other
names have the others. -/
theorem perm_cons_iff (hname : name ∉ fields.map Prod.fst) :
    (members.filter fun m => decide (m.1 ∈ name :: fields.map Prod.fst)).Perm
        ((name, value) :: fields) ↔
      (members.filter fun m => decide (m.1 = name)) = [(name, value)] ∧
        (members.filter fun m => decide (m.1 ∈ fields.map Prod.fst)).Perm fields := by
  have hne : ∀ m ∈ fields, m.1 ≠ name := fun m hm heq =>
    hname (heq ▸ List.mem_map_of_mem hm)
  have hfields : ((name, value) :: fields).filter (fun m => decide (m.1 = name)) =
      [(name, value)] := by
    simpa using hne
  have hfields' : ((name, value) :: fields).filter (fun m => !decide (m.1 = name)) = fields := by
    simpa using hne
  have hmembers : (members.filter fun m => decide (m.1 ∈ name :: fields.map Prod.fst)).filter
      (fun m => decide (m.1 = name)) = members.filter fun m => decide (m.1 = name) := by
    rw [List.filter_filter]
    refine List.filter_congr fun m _ => ?_
    by_cases heq : m.1 = name <;> simp [heq]
  have hmembers' : (members.filter fun m => decide (m.1 ∈ name :: fields.map Prod.fst)).filter
      (fun m => !decide (m.1 = name)) =
        members.filter fun m => decide (m.1 ∈ fields.map Prod.fst) := by
    rw [List.filter_filter]
    refine List.filter_congr fun m _ => ?_
    by_cases heq : m.1 = name
    · rw [heq]
      simp [hname]
    · simp [heq]
  rw [perm_iff_filter fun m => decide (m.1 = name), hfields, hfields', hmembers, hmembers',
    List.perm_singleton]

/-! ### Fields -/

theorem mapM_member?_iff (hnames : (fields.map Prod.fst).Nodup) :
    (fields.map Prod.fst).mapM (member? (named members)) = some (fields.map Prod.snd) ↔
      (members.filter fun m => decide (m.1 ∈ fields.map Prod.fst)).Perm fields := by
  induction fields with
  | nil => simp
  | cons field fields ih =>
    obtain ⟨name, value⟩ := field
    rw [List.map_cons, List.nodup_cons] at hnames
    rw [List.map_cons, List.map_cons, perm_cons_iff hnames.1, ← member?_named_iff, ← ih hnames.2]
    simp [List.mapM_cons, Option.bind_eq_some_iff]

/-- The fields are read from what has each of them once by name, or all by place. -/
theorem fields?_eq_some_iff {names : List String} {values : List Json} (hnames : names.Nodup)
    (hlength : values.length = names.length) (j : Json) :
    j.fields? names = some values ↔ Carries (names.zip values) j := by
  obtain ⟨fields, rfl, rfl⟩ : ∃ fields : List (String × Json),
      fields.map Prod.fst = names ∧ fields.map Prod.snd = values :=
    ⟨names.zip values, List.map_fst_zip (by omega), List.map_snd_zip (by omega)⟩
  rw [← List.zip_of_prod rfl rfl]
  unfold fields? Carries
  split
  · rename_i l
    split
    · rename_i hall
      obtain ⟨members, rfl⟩ := exists_named (by simpa using hall)
      rw [mapM_member?_iff hnames]
      constructor
      · exact fun h => Or.inl ⟨members, rfl, h⟩
      · rintro (⟨members', heq, h⟩ | heq)
        · rwa [record_inj heq]
        · cases heq
    · rename_i hall
      refine iff_of_false nofun ?_
      rintro (⟨members, heq, -⟩ | heq)
      · cases heq
        exact hall (all_isSome_named members)
      · cases heq
  · rename_i items
    constructor
    · intro h
      split at h
      · cases h
        exact Or.inr rfl
      · cases h
    · rintro (⟨members, heq, -⟩ | heq)
      · cases heq
      · cases heq
        rw [if_pos (by simp)]
  · rename_i hobject harray
    refine iff_of_false nofun ?_
    rintro (⟨members, heq, -⟩ | heq)
    · exact hobject _ heq
    · exact harray _ heq

end NoiseControl.Json
