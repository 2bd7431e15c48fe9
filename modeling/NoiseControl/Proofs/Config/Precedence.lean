import NoiseControl.Config.Load
import NoiseControl.Proofs.Text.Numerals

/-!
# Where a setting comes from

A setting has the value of its variable if the variable is set, else the one that the file gives, and
else the standard one.  The exception are modes: a number in the file that no mode has is passed
over, and the standard mode holds although the file gave another.
-/

namespace NoiseControl.Config

/-- What the file gives decides, and without it the standard value. -/
def Given {α β : Type} (given : Option β) (means : β → α → Prop) (standard value : α) : Prop :=
  match given with
  | some b => means b value
  | none => value = standard

/-- What the variable says decides if it is set, and else something else does. -/
def Overridden {α : Type} (set : Option String) (spells : String → α → Prop) (otherwise : Prop)
    (value : α) : Prop :=
  match set with
  | some text => spells text value
  | none => otherwise

def SpellsSide (text : String) (side : Side) : Prop :=
  plainWord text ∈ match side with
    | .left => ["left", "l"]
    | .right => ["right", "r"]

def SpellsSwitch (text : String) (on : Bool) : Prop :=
  plainWord text ∈ if on then ["1", "true", "yes", "on"] else ["0", "false", "no", "off"]

def SpellsCount (text : String) (n : UInt8) : Prop := Text.Denotes (Text.trim text.toList) n.toNat

/-- A person counts modes from one. -/
def MeansMode (number : UInt8) (m : Mode) : Prop := m.number = number.toNat

def MeansMillis (length duration : Nat) : Prop := duration = millis length

/-- Every setting but the microphones comes from its variable, else from the file, else from the
configuration that was there before. -/
structure Precedence (base : Config) (file : ConfigFile) (env : Environment) (c : Config) : Prop where
  numModes : Overridden (env "ANCD_NUM_MODES") SpellsCount
    (Given file.general.numModes Eq base.numModes c.numModes) c.numModes
  defaultMode : Given file.general.defaultMode MeansMode base.defaultMode c.defaultMode
  layout : Given file.general.layout Eq base.layout c.layout
  adaptive : Overridden (env "ANCD_ADAPTIVE") SpellsSwitch
    (Given file.general.adaptive Eq base.adaptive c.adaptive) c.adaptive
  side : Overridden (env "ANCD_SIDE") SpellsSide (Given file.general.side Eq base.side c.side) c.side
  implicitEnable : Given file.call.implicitEnable Eq base.call.implicitEnable c.call.implicitEnable
  callMode : Given file.call.mode MeansMode base.call.mode c.call.mode
  quietModeDelay : Given file.timing.quietModeDelay MeansMillis base.timing.quietModeDelay
    c.timing.quietModeDelay
  gentleMute : Given file.timing.gentleMute MeansMillis base.timing.gentleMute c.timing.gentleMute
  configSettle : Given file.timing.configSettle MeansMillis base.timing.configSettle
    c.timing.configSettle
  gainPoll : Given file.timing.gainPoll MeansMillis base.timing.gainPoll c.timing.gainPoll
  pathGainSettle : Given file.timing.pathGainSettle MeansMillis base.timing.pathGainSettle
    c.timing.pathGainSettle
  persistEnabled : Given file.persist.enabled Eq base.persist.enabled c.persist.enabled
  persistMode : Given file.persist.mode Eq base.persist.mode c.persist.mode
  path : Given file.persist.path Eq base.persist.path c.persist.path

/-- Every mode that the file gives is one of the ten. -/
def NumbersModes (file : ConfigFile) : Prop :=
  ∀ n, file.general.defaultMode = some n ∨ file.call.mode = some n → 1 ≤ n.toNat ∧ n.toNat ≤ 10

variable {base c c' : Config} {file : ConfigFile} {env : Environment}

/-! ### Files -/

theorem given_getD {α : Type} (given : Option α) (standard : α) :
    Given given Eq standard (given.getD standard) := by
  cases given <;> rfl

theorem given_millis (given : Option Nat) (standard : Nat) :
    Given given MeansMillis standard ((given.map millis).getD standard) := by
  cases given <;> rfl

theorem ofNumber?_toNat (n : UInt8) :
    (∃ m, Mode.ofNumber? n.toNat = some m ∧ MeansMode n m) ∧ 1 ≤ n.toNat ∧ n.toNat ≤ 10 ∨
      Mode.ofNumber? n.toNat = none ∧ ¬(1 ≤ n.toNat ∧ n.toNat ≤ 10) := by
  unfold Mode.ofNumber?
  have hlimit : Mode.limit = 10 := rfl
  split
  · rename_i hrange
    refine Or.inl ⟨⟨_, rfl, ?_⟩, hrange⟩
    simp only [MeansMode, Mode.number, UInt8.toNat_ofNat']
    omega
  · rename_i hrange
    exact Or.inr ⟨rfl, hrange⟩

/-- A mode in the file holds when its number is that of a mode, and only then: else the standard mode
does, which is one of the ten. -/
theorem given_modeOf?_iff (given : Option UInt8) {standard : Mode} (h : standard.number ≤ 10) :
    Given given MeansMode standard ((modeOf? given).getD standard) ↔
      ∀ n, given = some n → 1 ≤ n.toNat ∧ n.toNat ≤ 10 := by
  cases given with
  | none => exact iff_of_true rfl nofun
  | some n =>
    have hread : modeOf? (some n) = Mode.ofNumber? n.toNat := rfl
    simp only [Given, hread, Option.some.injEq, forall_eq']
    rcases ofNumber?_toNat n with ⟨⟨m, hm, hmeans⟩, hrange⟩ | ⟨hm, hrange⟩
    · rw [hm]
      exact iff_of_true hmeans hrange
    · rw [hm]
      refine iff_of_false (fun hmeans => hrange ?_) hrange
      have hnumber : standard.number = n.toNat := hmeans
      exact ⟨hnumber ▸ Nat.succ_pos _, hnumber ▸ h⟩

/-! ### Variables -/

theorem Overridden.imp {α : Type} {set : Option String} {spells : String → α → Prop} {p q : Prop}
    {value : α} (h : Overridden set spells p value) (hpq : p → q) :
    Overridden set spells q value := by
  cases set with
  | none => exact hpq h
  | some text => exact h

theorem spellsSide_of_parse {text : String} {side : Side} (h : Side.parse text = .ok side) :
    SpellsSide text side := by
  unfold Side.parse at h
  unfold SpellsSide
  split at h <;> cases h <;> simp [*]

theorem spellsSwitch_of_read {text : String} {on : Bool} (h : readAdaptive text = .ok on) :
    SpellsSwitch text on := by
  have hread : switch? text = some on := by
    unfold readAdaptive at h
    split at h <;> cases h
    assumption
  unfold switch? at hread
  unfold SpellsSwitch
  split at hread <;> cases hread <;> simp [*]

theorem spellsCount_of_read {text : String} {n : UInt8} (h : readModeCount text = .ok n) :
    SpellsCount text n := by
  unfold readModeCount at h
  split at h
  · rename_i k hk
    cases h
    obtain ⟨hdenotes, hmax⟩ := (Text.number?_eq_some_iff _ _ _).mp hk
    unfold SpellsCount
    rwa [UInt8.toNat_ofNat_of_lt' (Nat.lt_succ_of_le hmax)]
  · cases h

/-- A variable that is set is adopted as it reads. -/
theorem override_ok {α : Type} {set : Option String} {read : String → Except ConfigFault α}
    {adopt : Config → α → Config} {spells : String → α → Prop}
    (hspells : ∀ text a, read text = .ok a → spells text a)
    (h : c.override set read adopt = (c', .ok ())) (current : α) (hcurrent : adopt c current = c) :
    ∃ a, c' = adopt c a ∧ Overridden set spells (a = current) a := by
  unfold override at h
  cases set with
  | none =>
    cases h
    exact ⟨current, hcurrent.symm, rfl⟩
  | some text =>
    dsimp only at h
    split at h
    · rename_i a ha
      cases h
      exact ⟨a, rfl, hspells text a ha⟩
    · cases h

/-- The environment changes three settings at most. -/
theorem applyEnvironment_ok (h : c.applyEnvironment env = (c', .ok ())) :
    ∃ side adaptive numModes, c' = { c with side, adaptive, numModes } ∧
      Overridden (env "ANCD_SIDE") SpellsSide (side = c.side) side ∧
      Overridden (env "ANCD_ADAPTIVE") SpellsSwitch (adaptive = c.adaptive) adaptive ∧
      Overridden (env "ANCD_NUM_MODES") SpellsCount (numModes = c.numModes) numModes := by
  unfold applyEnvironment at h
  split at h
  · cases h
  · rename_i hreadSide
    split at h
    · cases h
    · rename_i hreadAdaptive
      obtain ⟨side, rfl, hside⟩ := override_ok (fun _ _ => spellsSide_of_parse) hreadSide c.side rfl
      obtain ⟨adaptive, rfl, hadaptive⟩ :=
        override_ok (fun _ _ => spellsSwitch_of_read) hreadAdaptive c.adaptive rfl
      obtain ⟨numModes, rfl, hnumModes⟩ :=
        override_ok (fun _ _ => spellsCount_of_read) h c.numModes rfl
      exact ⟨side, adaptive, numModes, rfl, hside, hadaptive, hnumModes⟩

theorem ofSources_ok (h : ofSources base file env = .ok c) :
    (base.overlay file).applyEnvironment env = (c, .ok ()) ∧ c.check = .ok () := by
  unfold ofSources at h
  split at h
  · cases h
  · rename_i hread
    split at h
    · cases h
    · rename_i hcheck
      cases h
      exact ⟨hread, hcheck⟩

/-! ### Settings -/

theorem precedence_of_bounded (hdefault : base.defaultMode.number ≤ 10)
    (hcall : base.call.mode.number ≤ 10) (h : ofSources base file env = .ok c) :
    Precedence base file env c ↔ NumbersModes file := by
  obtain ⟨hread, -⟩ := ofSources_ok h
  obtain ⟨side, adaptive, numModes, rfl, hside, hadaptive, hnumModes⟩ := applyEnvironment_ok hread
  have hdefault' := given_modeOf?_iff file.general.defaultMode hdefault
  have hcall' := given_modeOf?_iff file.call.mode hcall
  constructor
  · intro hprecedence n hn
    rcases hn with hn | hn
    · exact hdefault'.mp hprecedence.defaultMode n hn
    · exact hcall'.mp hprecedence.callMode n hn
  · intro hmodes
    exact {
      numModes := hnumModes.imp fun h => h ▸ given_getD _ _
      defaultMode := hdefault'.mpr fun n hn => hmodes n (Or.inl hn)
      layout := given_getD _ _
      adaptive := hadaptive.imp fun h => h ▸ given_getD _ _
      side := hside.imp fun h => h ▸ given_getD _ _
      implicitEnable := given_getD _ _
      callMode := hcall'.mpr fun n hn => hmodes n (Or.inr hn)
      quietModeDelay := given_millis _ _
      gentleMute := given_millis _ _
      configSettle := given_millis _ _
      gainPoll := given_millis _ _
      pathGainSettle := given_millis _ _
      persistEnabled := given_getD _ _
      persistMode := given_getD _ _
      path := given_getD _ _ }

/-- When a configuration is loaded, every setting comes from its variable, else from the file, else
from the standard configuration, exactly if every mode that the file gives is one of the ten. -/
theorem precedence_iff (sessionPath : String) (file : ConfigFile) (env : Environment) (c : Config)
    (h : ofSources (standard sessionPath) file env = .ok c) :
    Precedence (standard sessionPath) file env c ↔ NumbersModes file :=
  precedence_of_bounded (show 1 ≤ 10 by decide) (show 2 ≤ 10 by decide) h

/-- A file with settings of all kinds, in an environment that goes against two of them. -/
theorem precedence_iff_layered :
    let file : ConfigFile := {
      general := { numModes := some 5, defaultMode := some 3, side := some .right }
      call := { mode := some 4 }
      timing := { gentleMute := some 40, configSettle := some 0 }
      persist := { mode := some false } }
    let env : Environment := fun name =>
      if name = "ANCD_SIDE" then some " L\n"
      else if name = "ANCD_NUM_MODES" then some "+04" else none
    ∃ c, ofSources (standard "session.json") file env = .ok c ∧
      Precedence (standard "session.json") file env c ∧ c.numModes = 4 ∧ c.side = .left ∧
      c.defaultMode = ⟨2⟩ := by
  intro file env
  have hload : ofSources (standard "session.json") file env = .ok {
      standard "session.json" with
      numModes := 4
      defaultMode := ⟨2⟩
      call := { mode := ⟨3⟩ }
      timing := { gentleMute := millis 40 }
      persist := { mode := false, path := "session.json" } } := by decide +kernel
  refine ⟨_, hload, (precedence_iff _ _ _ _ hload).mpr fun n hn => ?_, rfl, rfl, rfl⟩
  rcases hn with hn | hn <;> cases hn <;> decide

/-- The file asks for the eleventh mode and gets the first. -/
theorem mode_passed_over : ¬∀ (text sessionPath : String) (file : ConfigFile) (env : Environment)
    (c : Config), ConfigFile.parse text = .ok file →
      ofSources (standard sessionPath) file env = .ok c →
        Precedence (standard sessionPath) file env c := by
  intro h
  have hparse : ConfigFile.parse "[anc]\ndefault_mode = 11\n" =
      .ok { general := { defaultMode := some 11 } } := by decide
  have hprecedence := h _ "session.json" _ (fun _ => none) (standard "session.json") hparse rfl
  have hnumber : Mode.adaptive.number = 11 := hprecedence.defaultMode
  exact absurd hnumber (by decide)

end NoiseControl.Config
