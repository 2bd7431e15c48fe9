import Mathlib.Data.List.Basic
import NoiseControl.Proofs.Earbud.AudioWithoutPower
import NoiseControl.Proofs.Earbud.Modes
import NoiseControl.Proofs.Trace

/-!
# The clock is raised for a reconfiguration

Loading a mode and switching the hardware take a raised clock.  In whatever order events come, and
whatever fails on the way, the clock is raised before the commands of a reconfiguration and lowered after
them, and none of these commands is given otherwise.  While it is raised at most one mode is loaded, then
the hardware is switched at most once, fixed filters after they were ramped down.
-/

namespace NoiseControl

namespace AudioCommand

def boost? : AudioCommand → Option Bool
  | .clockBoost on => some on
  | _ => none

def loadsMode : AudioCommand → Bool
  | .setMode _ => true
  | _ => false

def switchesHardware : AudioCommand → Bool
  | .hardwareOn | .hardwareOnMuted | .hardwareOff => true
  | _ => false

def setsGain : AudioCommand → Bool
  | .setGain .. => true
  | _ => false

/-- A mode is loaded, or adaptive processing is told of it. -/
def ofMode : AudioCommand → Bool
  | .setMode _ | .setModeIdentifier _ | .swapModeLive _ => true
  | _ => false

/-- The commands that belong to a reconfiguration, but for gains. -/
def reconfigures : AudioCommand → Bool
  | .adaptiveOff => true
  | c => c.ofMode || c.switchesHardware

/-- The commands that have nothing to do with a reconfiguration. -/
def isAside (c : AudioCommand) : Bool := !c.reconfigures && !c.setsGain && c.boost?.isNone

end AudioCommand

/-- The gains that are written to ramp fixed filters down, by the gain that each channel starts from. -/
def FilterLayout.ramp (l : FilterLayout) (from? : Channel → UInt8) : List AudioCommand :=
  l.channels.flatMap fun c => (rampSteps (from? c)).map (.setGain c .ffa)

/-- What may be commanded while the clock is raised. -/
structure Bracket (c : Config) (inner : List AudioCommand) : Prop where
  raised : ∀ x ∈ inner, x.boost? = none
  load : inner.countP AudioCommand.loadsMode ≤ 1
  switch : inner.countP AudioCommand.switchesHardware ≤ 1
  order : inner.Pairwise fun former later => former.switchesHardware = true → later.loadsMode = false
  ramped : c.adaptive = false → .hardwareOff ∈ inner →
    ∃ gain, c.layout.ramp gain ++ [.hardwareOff] <:+ inner
  gains : .hardwareOff ∉ inner → ∀ x ∈ inner, x.setsGain = false

/-- Commands of which those of reconfigurations are in brackets.  Outside them a leakthrough gain is
written a number of times, each time to all that take one. -/
inductive Bracketed (c : Config) : Nat → List AudioCommand → Prop where
  | nil : Bracketed c 0 []
  | aside {n : Nat} {cs : List AudioCommand} (h : Bracketed c n cs) {x : AudioCommand}
      (hx : x.isAside = true) : Bracketed c n (cs ++ [x])
  | write {n : Nat} {cs : List AudioCommand} (h : Bracketed c n cs) (gain : UInt8) :
      Bracketed c (n + 1) (cs ++ c.layout.leakthroughTargets.map fun t => .setGain t.1 t.2 gain)
  | bracket {n : Nat} {cs : List AudioCommand} (h : Bracketed c n cs) {inner : List AudioCommand}
      (hb : Bracket c inner) :
      Bracketed c n (cs ++ (.clockBoost true :: inner ++ [.clockBoost false]))

section Lists

variable {c : Config} {n n' : Nat} {cs ds inner : List AudioCommand} {x : AudioCommand}

theorem AudioCommand.boost?_of_isAside (hx : x.isAside = true) : x.boost? = none := by
  cases x <;> first | rfl | cases hx

theorem AudioCommand.of_ofMode (hx : x.ofMode = true) :
    x.boost? = none ∧ x.switchesHardware = false ∧ x.setsGain = false := by
  cases x <;> first | exact ⟨rfl, rfl, rfl⟩ | cases hx

theorem Bracketed.append (h : Bracketed c n cs) (h' : Bracketed c n' ds) :
    Bracketed c (n + n') (cs ++ ds) := by
  induction h' with
  | nil => rwa [List.append_nil]
  | aside _ hx ih =>
    rw [← List.append_assoc]
    exact ih.aside hx
  | write _ gain ih =>
    rw [← List.append_assoc]
    exact ih.write gain
  | bracket _ hb ih =>
    rw [← List.append_assoc]
    exact ih.bracket hb

theorem bracketed_of_aside (h : ∀ x ∈ cs, x.isAside = true) : Bracketed c 0 cs := by
  induction cs using List.reverseRecOn with
  | nil => exact .nil
  | append_singleton cs x ih =>
    exact (ih fun y hy => h y (List.mem_append_left _ hy)).aside (h x (by simp))

theorem boosts_eq_nil (h : ∀ x ∈ cs, x.boost? = none) : cs.filterMap AudioCommand.boost? = [] :=
  List.filterMap_eq_nil_iff.mpr h

theorem Bracket.boosts (hb : Bracket c inner) :
    List.filterMap AudioCommand.boost? (.clockBoost true :: inner ++ [.clockBoost false]) =
      [true, false] := by
  rw [List.cons_append, List.filterMap_cons, List.filterMap_append, boosts_eq_nil hb.raised]
  rfl

/-- The clock is raised and lowered in turn, and raised first. -/
theorem Bracketed.boosts (h : Bracketed c n cs) :
    ∃ k, cs.filterMap AudioCommand.boost? = (List.replicate k [true, false]).flatten := by
  induction h with
  | nil => exact ⟨0, rfl⟩
  | aside _ hx ih =>
    obtain ⟨k, hk⟩ := ih
    refine ⟨k, ?_⟩
    rw [List.filterMap_append, hk, boosts_eq_nil, List.append_nil]
    simpa using AudioCommand.boost?_of_isAside hx
  | write _ gain ih =>
    obtain ⟨k, hk⟩ := ih
    refine ⟨k, ?_⟩
    rw [List.filterMap_append, hk, boosts_eq_nil, List.append_nil]
    intro x hx
    obtain ⟨t, -, rfl⟩ := List.mem_map.mp hx
    rfl
  | bracket _ hb ih =>
    obtain ⟨k, hk⟩ := ih
    refine ⟨k + 1, ?_⟩
    rw [List.filterMap_append, hk, hb.boosts, List.replicate_succ', List.flatten_append,
      List.flatten_singleton]

/-- A command of a reconfiguration is given while the clock is raised. -/
theorem Bracketed.raised (h : Bracketed c n cs) (hx : x.reconfigures = true)
    {earlier later : List AudioCommand} (he : cs = earlier ++ x :: later) :
    (earlier.filterMap AudioCommand.boost?).getLast? = some true := by
  induction h generalizing later with
  | nil => simp at he
  | aside _ hy ih =>
    rcases snoc_eq_append_cons he with ⟨rfl, rfl, -⟩ | ⟨rest, -, rfl⟩
    · simp [AudioCommand.isAside, hx] at hy
    · exact ih rfl
  | write _ gain ih =>
    rcases append_eq_append_cons he with ⟨rest, rfl⟩ | ⟨former, rfl, hin⟩
    · exact ih rfl
    · obtain ⟨t, -, rfl⟩ := List.mem_map.mp (hin ▸ List.mem_append_right former List.mem_cons_self)
      cases hx
  | @bracket n cs _ inner hb ih =>
    rcases append_eq_append_cons he with ⟨rest, rfl⟩ | ⟨former, rfl, hin⟩
    · exact ih rfl
    · cases former with
      | nil =>
        obtain ⟨rfl, -⟩ := List.cons.inj hin
        cases hx
      | cons y former =>
        obtain ⟨rfl, hrest⟩ := List.cons.inj hin
        rcases snoc_eq_append_cons hrest with ⟨rfl, rfl, -⟩ | ⟨rest, -, rfl⟩
        · cases hx
        · have hnone : former.filterMap AudioCommand.boost? = [] :=
            boosts_eq_nil fun z hz => hb.raised z (List.mem_append_left _ hz)
          rw [List.filterMap_append, List.filterMap_cons, hnone]
          simp [AudioCommand.boost?]

end Lists

namespace Earbud

variable {x : Extent} {a b d : Earbud} {c : Config} {n n' : Nat} {e : Event}

/-! ### The mode -/

theorem gives_command (b : Earbud) (c : AudioCommand) : Gives b [c] (b.command c) :=
  ⟨[.audio c true], rfl, rfl⟩

/-- From `a` to `b` only commands for modes were given, and at most `n` of them load one. -/
def Loads (n : Nat) (a b : Earbud) : Prop :=
  ∃ cs, Gives a cs b ∧ (∀ x ∈ cs, x.ofMode = true) ∧ cs.countP AudioCommand.loadsMode ≤ n

theorem Loads.trans (h : Loads n a b) (h' : Loads n' b d) : Loads (n + n') a d := by
  obtain ⟨cs, hgives, hmode, hn⟩ := h
  obtain ⟨cs', hgives', hmode', hn'⟩ := h'
  refine ⟨cs ++ cs', hgives.trans hgives', fun x hx => ?_, ?_⟩
  · rcases List.mem_append.mp hx with hx | hx
    · exact hmode x hx
    · exact hmode' x hx
  · rw [List.countP_append]
    omega

theorem loads_nothing (h : b.history = a.history) : Loads 0 a b :=
  ⟨[], gives_nothing h, by simp, Nat.le_refl 0⟩

theorem loads_identifyMode (b : Earbud) (m : Mode) (running : Bool) :
    Loads 0 b (b.identifyMode m running) := by
  unfold identifyMode
  split
  · exact ⟨_, gives_command b _, fun x hx => List.mem_singleton.mp hx ▸ rfl, Nat.le_refl 0⟩
  · exact loads_nothing rfl

theorem loads_loadMode (b : Earbud) (m : Mode) : Loads 1 b (b.loadMode m).1 := by
  have hgives : Gives b [.setMode m] (b.loadMode m).1 := by
    unfold loadMode
    split
    · exact gives_attempt b _
    · exact gives_attempt (b.cancel .pathGainSettle) _
  exact ⟨_, hgives, fun x hx => List.mem_singleton.mp hx ▸ rfl, Nat.le_refl 1⟩

theorem loads_abandonMode (b : Earbud) (running : Bool) : Loads 0 b (b.abandonMode running) :=
  loads_identifyMode (b.setRuntime fun r => { r with requestedMode := r.currentMode }) _ running

theorem history_readLeakthrough (b : Earbud) :
    b.refreshLeakthrough.announceLeakthrough.history = b.history := by
  obtain ⟨gain, he⟩ := refreshLeakthrough_eq b
  rw [he]
  unfold announceLeakthrough
  split <;> rfl

theorem loads_swapModeLive (b : Earbud) (m : Mode) (running : Bool) :
    Loads 0 b (if running then b.command (.swapModeLive m) else b) := by
  split
  · exact ⟨_, gives_command b _, fun x hx => List.mem_singleton.mp hx ▸ rfl, Nat.le_refl 0⟩
  · exact loads_nothing rfl

theorem loads_applyMode (b : Earbud) (m : Mode) : Loads 1 b (b.applyMode m).1 := by
  have hnamed := loads_identifyMode b m b.audio.adaptive
  unfold applyMode
  dsimp only
  split
  · obtain ⟨cs, hgives, hmode, hn⟩ := hnamed.trans (loads_abandonMode _ b.audio.adaptive)
    exact ⟨cs, hgives, hmode, by omega⟩
  · have hloaded := hnamed.trans (loads_loadMode (b.identifyMode m b.audio.adaptive) m)
    split <;> rename_i loaded heq <;> rw [heq] at hloaded
    · exact hloaded.trans (loads_abandonMode loaded b.audio.adaptive)
    · have hcurrent := hloaded.trans (loads_nothing (b := loaded.setRuntime fun r =>
        { r with currentMode := m }) rfl)
      have hswapped := hcurrent.trans (loads_swapModeLive _ m
        (loaded.runtime.actualEnabled && loaded.config.adaptive))
      have htold := hswapped.trans (loads_nothing (b := Earbud.announce _ (.modeChanged m)) rfl)
      exact htold.trans (loads_nothing (history_readLeakthrough _))

theorem loads_inMode (b : Earbud) (m : Mode) : Loads 1 b (b.inMode m).1 := by
  unfold inMode
  split
  · exact ⟨[], gives_nothing rfl, by simp, Nat.zero_le 1⟩
  · exact loads_applyMode b m

/-! ### The hardware -/

/-- What may be commanded to switch the hardware. -/
structure Switching (c : Config) (cs : List AudioCommand) : Prop where
  raised : ∀ x ∈ cs, x.boost? = none
  loads : ∀ x ∈ cs, x.loadsMode = false
  once : cs.countP AudioCommand.switchesHardware ≤ 1
  ramped : c.adaptive = false → .hardwareOff ∈ cs →
    ∃ gain, c.layout.ramp gain ++ [.hardwareOff] <:+ cs
  gains : .hardwareOff ∉ cs → ∀ x ∈ cs, x.setsGain = false

/-- A mode and then the hardware make a bracket. -/
theorem Switching.bracket {cs cs' : List AudioCommand} (hmode : ∀ x ∈ cs, x.ofMode = true)
    (hload : cs.countP AudioCommand.loadsMode ≤ 1) (h : Switching c cs') : Bracket c (cs ++ cs') := by
  have hstill : ∀ x ∈ cs, x.switchesHardware = false := fun x hx =>
    (AudioCommand.of_ofMode (hmode x hx)).2.1
  have hoff : .hardwareOff ∈ cs ++ cs' ↔ .hardwareOff ∈ cs' := by
    rw [List.mem_append, or_iff_right fun hmem => Bool.false_ne_true (hstill _ hmem : true = false).symm]
  refine ⟨fun x hx => ?_, ?_, ?_, ?_, fun hc hmem => ?_, fun hmem x hx => ?_⟩
  · rcases List.mem_append.mp hx with hx | hx
    · exact (AudioCommand.of_ofMode (hmode x hx)).1
    · exact h.raised x hx
  · have hnone : cs'.countP AudioCommand.loadsMode = 0 :=
      List.countP_eq_zero.mpr fun x hx => by simp [h.loads x hx]
    rwa [List.countP_append, hnone]
  · have hnone : cs.countP AudioCommand.switchesHardware = 0 :=
      List.countP_eq_zero.mpr fun x hx => by simp [hstill x hx]
    rw [List.countP_append, hnone, Nat.zero_add]
    exact h.once
  · rw [List.pairwise_append]
    refine ⟨?_, ?_, fun _ _ y hy _ => h.loads y hy⟩
    · exact List.pairwise_of_forall_mem_list fun x hx _ _ hswitch =>
        nomatch (hstill x hx).symm.trans hswitch
    · exact List.pairwise_of_forall_mem_list fun _ _ y hy _ => h.loads y hy
  · obtain ⟨gain, hramp⟩ := h.ramped hc (hoff.mp hmem)
    exact ⟨gain, hramp.trans (List.suffix_append _ _)⟩
  · rcases List.mem_append.mp hx with hx | hx
    · exact (AudioCommand.of_ofMode (hmode x hx)).2.2
    · exact h.gains (fun hmem' => hmem (hoff.mpr hmem')) x hx

theorem gives_attempts {α : Type} (f : α → AudioCommand) (l : List α) (b : Earbud) :
    Gives b (l.map f) (l.foldl (fun b x => (b.attempt (f x)).1) b) := by
  induction l generalizing b with
  | nil => exact gives_nothing rfl
  | cons x rest ih => exact (gives_attempt b (f x)).trans (ih _)

theorem nodup_channels (l : FilterLayout) : l.channels.Nodup := by
  cases l <;> decide

/-- Each channel is ramped down from the gain that is read when its turn comes. -/
theorem gives_rampDown (b : Earbud) : ∃ gain, Gives b (b.config.layout.ramp gain) b.rampDown := by
  have hramp : ∀ (channels : List Channel) (b : Earbud), channels.Nodup →
      ∃ gain : Channel → UInt8,
        Gives b (channels.flatMap fun ch => (rampSteps (gain ch)).map (.setGain ch .ffa))
          (channels.foldl rampDownChannel b) := by
    intro channels
    induction channels with
    | nil => exact fun b _ => ⟨fun _ => 0, gives_nothing rfl⟩
    | cons ch rest ih =>
      intro b hnodup
      obtain ⟨hnot, hrest⟩ := List.nodup_cons.mp hnodup
      obtain ⟨gain, hgives⟩ := ih (b.rampDownChannel ch) hrest
      refine ⟨Function.update gain ch (b.audio.readGain ch .ffa), ?_⟩
      have hsame : rest.flatMap (fun ch' => (rampSteps (gain ch')).map (AudioCommand.setGain ch' .ffa)) =
          rest.flatMap fun ch' =>
            (rampSteps (Function.update gain ch (b.audio.readGain ch .ffa) ch')).map
              (.setGain ch' .ffa) := by
        refine List.flatMap_congr fun ch' hmem => ?_
        rw [Function.update_of_ne]
        rintro rfl
        exact hnot hmem
      rw [List.flatMap_cons, Function.update_self, ← hsame]
      exact (gives_attempts (.setGain ch .ffa) _ b).trans hgives
  exact hramp _ b (nodup_channels _)

theorem gives_stopAdaptive (b : Earbud) :
    Gives b (if b.audio.adaptive then [.adaptiveOff] else []) b.stopAdaptive := by
  have hsame : (b.cancel .configSettle).audio = b.audio := rfl
  unfold stopAdaptive
  dsimp only
  rw [hsame]
  split
  · exact gives_command (b.cancel .configSettle) _
  · exact gives_nothing rfl

theorem gives_hardwareOn (b : Earbud) : Gives b [.hardwareOn] b.hardwareOn.1 ∨
    Gives b [.hardwareOnMuted] b.hardwareOn.1 := by
  unfold hardwareOn
  split
  · exact Or.inl (gives_attempt b _)
  · have hgives := gives_attempt b .hardwareOnMuted
    split <;> rename_i heq <;> rw [heq] at hgives
    · exact Or.inr (hgives.trans (gives_nothing rfl))
    · exact Or.inr hgives

theorem gives_hardwareOff (b : Earbud) : ∃ gain,
    Gives b ((if b.config.adaptive then [] else b.config.layout.ramp gain) ++ [.hardwareOff])
      b.hardwareOff.1 := by
  obtain ⟨gain, hgives⟩ := gives_rampDown (b.cancel .pathGainSettle)
  have hsame : (b.cancel .pathGainSettle).config = b.config := rfl
  rw [hsame] at hgives
  refine ⟨gain, ?_⟩
  unfold hardwareOff
  dsimp only
  rw [hsame]
  split
  · exact gives_attempt (b.cancel .pathGainSettle) _
  · exact Gives.trans (a := b) hgives (gives_attempt _ _)

theorem mem_ramp {l : FilterLayout} {gain : Channel → UInt8} {x : AudioCommand}
    (hx : x ∈ l.ramp gain) : ∃ ch g, x = .setGain ch .ffa g := by
  obtain ⟨ch, -, hx⟩ := List.mem_flatMap.mp hx
  obtain ⟨g, -, rfl⟩ := List.mem_map.mp hx
  exact ⟨ch, g, rfl⟩

/-- Only the last of the commands that switch off drives the hardware. -/
theorem switching_off {former : List AudioCommand} (gain : Channel → UInt8)
    (h : ∀ x ∈ former, x = .adaptiveOff) :
    Switching c (former ++ ((if c.adaptive then [] else c.layout.ramp gain) ++ [.hardwareOff])) := by
  have hbefore : ∀ x ∈ former ++ (if c.adaptive then [] else c.layout.ramp gain),
      x = .adaptiveOff ∨ ∃ ch g, x = .setGain ch .ffa g := by
    intro x hx
    rcases List.mem_append.mp hx with hx | hx
    · exact Or.inl (h x hx)
    · split at hx
      · cases hx
      · exact Or.inr (mem_ramp hx)
  have hnone : (former ++ (if c.adaptive then [] else c.layout.ramp gain)).countP
      AudioCommand.switchesHardware = 0 := by
    refine List.countP_eq_zero.mpr fun x hx => ?_
    rcases hbefore x hx with rfl | ⟨ch, g, rfl⟩ <;> exact Bool.false_ne_true
  rw [← List.append_assoc]
  refine ⟨fun x hx => ?_, fun x hx => ?_, ?_, fun hc _ => ⟨gain, ?_⟩, fun hmem => ?_⟩
  · rcases List.mem_append.mp hx with hx | hx
    · rcases hbefore x hx with rfl | ⟨ch, g, rfl⟩ <;> rfl
    · rw [List.mem_singleton.mp hx]
      rfl
  · rcases List.mem_append.mp hx with hx | hx
    · rcases hbefore x hx with rfl | ⟨ch, g, rfl⟩ <;> rfl
    · rw [List.mem_singleton.mp hx]
      rfl
  · rw [List.countP_append, hnone]
    exact Nat.le_refl 1
  · rw [if_neg (by simp [hc]), List.append_assoc]
    exact List.suffix_append _ _
  · exact absurd (List.mem_append_right _ List.mem_cons_self) hmem

theorem switching_on {x : AudioCommand} (hx : x = .hardwareOn ∨ x = .hardwareOnMuted) :
    Switching c [x] := by
  rcases hx with rfl | rfl <;>
    exact ⟨by simp [AudioCommand.boost?], by simp [AudioCommand.loadsMode], by decide, by simp,
      by simp [AudioCommand.setsGain]⟩

theorem history_settleAdaptive (b : Earbud) : b.settleAdaptive.history = b.history := by
  unfold settleAdaptive
  split <;> rfl

theorem gives_switchHardware (b : Earbud) (on : Bool) :
    ∃ cs, Gives b cs (b.switchHardware on).1 ∧ Switching b.config cs := by
  have hturned : ∃ cs, Gives b cs (if on then b.hardwareOn else b.stopAdaptive.hardwareOff).1 ∧
      Switching b.config cs := by
    cases on with
    | true =>
      rcases gives_hardwareOn b with hgives | hgives
      · exact ⟨_, hgives, switching_on (Or.inl rfl)⟩
      · exact ⟨_, hgives, switching_on (Or.inr rfl)⟩
    | false =>
      obtain ⟨gain, hgives⟩ := gives_hardwareOff b.stopAdaptive
      rw [(work_stopAdaptive (x := turning false) b rfl rfl).config] at hgives
      refine ⟨_, (gives_stopAdaptive b).trans hgives, switching_off gain fun x hx => ?_⟩
      split at hx
      · exact List.mem_singleton.mp hx
      · cases hx
  obtain ⟨cs, hgives, hswitching⟩ := hturned
  refine ⟨cs, ?_, hswitching⟩
  unfold switchHardware
  split <;> rename_i turned heq <;> rw [heq] at hgives
  · have hset := hgives.trans (gives_nothing (b := turned.setRuntime fun r =>
      { r with actualEnabled := on }) rfl)
    have hsettled : Gives b cs (if on then (turned.setRuntime fun r =>
        { r with actualEnabled := on }).settleAdaptive
          else turned.setRuntime fun r => { r with actualEnabled := on }) := by
      rw [List.append_nil] at hset
      split
      · have hrest := hset.trans (gives_nothing (history_settleAdaptive _))
        rwa [List.append_nil] at hrest
      · exact hset
    exact hsettled
  · exact hgives

theorem gives_inPower (b : Earbud) (on : Bool) :
    ∃ cs, Gives b cs (b.inPower on).1 ∧ Switching b.config cs := by
  unfold inPower
  split
  · exact ⟨[], gives_nothing rfl, by simp, by simp, by simp, by simp, by simp⟩
  · exact gives_switchHardware b on

theorem history_tellAdaptive (b : Earbud) (wasEnabled : Bool) (formerMode : Mode) :
    (b.tellAdaptive wasEnabled formerMode).history = b.history := by
  unfold tellAdaptive announceAdaptiveChange
  dsimp only
  split
  · split
    · split <;> rfl
    · rfl
  · rfl

theorem gives_boost (b : Earbud) (raised : Bool) : Gives b [.clockBoost raised] (b.boost raised) :=
  gives_command (b.setRuntime fun r => { r with clockBoost := raised }) _

/-- A reconfiguration commands one bracket and nothing else. -/
theorem gives_reconfigure (b : Earbud) (on : Bool) (m : Mode) :
    ∃ inner, Bracket b.config inner ∧
      Gives b (.clockBoost true :: inner ++ [.clockBoost false]) (b.reconfigure on m).1 := by
  obtain ⟨cs, hmode, hofMode, hload⟩ := loads_inMode (b.boost true) m
  obtain ⟨cs', hpower, hswitching⟩ := gives_inPower ((b.boost true).inMode m).1 on
  have hconfig : ((b.boost true).inMode m).1.config = b.config :=
    (work_inMode (b.boost true) (fun _ => true) rfl rfl).config
  rw [hconfig] at hswitching
  refine ⟨cs ++ cs', hswitching.bracket hofMode hload, ?_⟩
  have hdriven := (((gives_boost b true).trans hmode).trans hpower).trans
    (gives_nothing (history_tellAdaptive _ b.runtime.actualEnabled b.runtime.currentMode))
  have hlowered := hdriven.trans (gives_boost _ false)
  rw [reconfigure_stages]
  simpa using hlowered

/-! ### Events -/

/-- From `a` to `b` the commands of reconfigurations were given in brackets, and outside them a
leakthrough gain was written `n` times. -/
def Framed (c : Config) (n : Nat) (a b : Earbud) : Prop := ∃ cs, Gives a cs b ∧ Bracketed c n cs

theorem Framed.trans (h : Framed c n a b) (h' : Framed c n' b d) : Framed c (n + n') a d := by
  obtain ⟨cs, hgives, hbracketed⟩ := h
  obtain ⟨cs', hgives', hbracketed'⟩ := h'
  exact ⟨cs ++ cs', hgives.trans hgives', hbracketed.append hbracketed'⟩

theorem framed_nothing (h : b.history = a.history) : Framed c 0 a b := ⟨[], gives_nothing h, .nil⟩

theorem Work.framed (w : Work x a b) (hx : ∀ command, x.audio command = true → command.isAside = true) :
    Framed c 0 a b := by
  obtain ⟨newer, he, hin⟩ := w.history
  refine ⟨_, ⟨newer, he, rfl⟩, bracketed_of_aside fun command hmem => ?_⟩
  obtain ⟨activity, hactivity, hcommand⟩ := List.mem_filterMap.mp (List.mem_reverse.mp hmem)
  cases activity with
  | audio given done =>
    obtain rfl := Option.some.inj hcommand
    exact hx _ (hin _ done hactivity)
  | sent r => cases hcommand
  | saved s done => cases hcommand

theorem aside_of_meanwhile (command : AudioCommand) (h : meanwhile.audio command = true) :
    command.isAside = true := by
  cases command <;> first | rfl | cases h

theorem framed_reconfigure (hc : b.config = c) (on : Bool) (m : Mode) :
    Framed c 0 b (b.reconfigure on m).1 := by
  obtain ⟨inner, hbracket, hgives⟩ := gives_reconfigure b on m
  rw [hc] at hbracket
  exact ⟨_, hgives, .bracket .nil hbracket⟩

theorem framed_startAdaptive (b : Earbud) : Framed c 0 b b.startAdaptive := by
  unfold startAdaptive
  split
  · exact ⟨_, gives_attempt b _, .aside .nil rfl⟩
  · exact framed_nothing rfl

theorem framed_setLeakthrough (hc : b.config = c) (gain : UInt8) :
    ∃ n ≤ 1, Framed c n b (b.setLeakthrough gain) := by
  have hgives := gives_setLeakthrough b gain
  rw [hc] at hgives
  split at hgives
  · exact ⟨1, Nat.le_refl 1, _, hgives, .write .nil gain⟩
  · exact ⟨0, Nat.zero_le 1, _, hgives, .nil⟩

theorem Route.framed {l : List Reconfiguration} (p : Route a l b) (hc : a.config = c) :
    Framed c 0 a b := by
  induction p with
  | start => exact framed_nothing rfl
  | touch _ t ih => exact ih.trans (Work.framed (.single t) aside_of_meanwhile)
  | ask _ m hm ih => exact ih.trans (framed_nothing rfl)
  | remember _ ih => exact ih.trans (framed_nothing rfl)
  | adapt _ ih => exact ih.trans (framed_startAdaptive _)
  | reconfigure p on ih => exact ih.trans (framed_reconfigure (p.config.trans hc) on _)

theorem framed_enter (b : Earbud) (next : Lifecycle) : Framed c 0 b (b.enter next) :=
  (parts_enter b next).framed fun _ h => nomatch (h : false = true)

theorem framed_start (b : Earbud) : Framed c 0 b b.start.1 := by
  have hprobed : ∀ microphones m,
      Framed c 0 b (b.loadSession.1.attempt (.start microphones m)).1 := fun microphones m =>
    ⟨_, gives_attempt b.loadSession.1 (.start microphones m), .aside .nil rfl⟩
  rcases start_fst b with ⟨he, -⟩ | ⟨microphones, mode, ⟨he, -⟩ | ⟨enabled, he, -⟩⟩ <;> rw [he]
  · exact framed_nothing rfl
  · exact hprobed microphones mode
  · exact ((hprobed microphones mode).trans (framed_nothing (by rfl))).trans (framed_enter _ .powerOff)

theorem framed_dispatch (hc : b.config = c) (e : Event) :
    ∃ n, Framed c n b (b.dispatch e).1 ∧ (n = 0 ∨ n = 1 ∧ e.setsGain = true) := by
  obtain ⟨-, -, wrest⟩ | ⟨y, ⟨x, hroute, hending⟩, wrest⟩ := dispatch_arrives b e
  · exact ⟨0, (framed_start b).trans (wrest.framed aside_of_meanwhile), Or.inl rfl⟩
  · have hgone := hroute.framed hc
    have hrest : Framed c 0 y (b.dispatch e).1 := wrest.framed aside_of_meanwhile
    cases hending with
    | none => exact ⟨0, hgone.trans hrest, Or.inl rfl⟩
    | level he gain =>
      obtain ⟨n, hn, hset⟩ := framed_setLeakthrough (hroute.config.trans hc) gain
      refine ⟨n, by simpa using (hgone.trans hset).trans hrest, ?_⟩
      have hn : n = 0 ∨ n = 1 := by omega
      exact hn.imp_right fun hone => ⟨hone, he⟩
    | part =>
      have hleft : Framed c 0 b _ := hgone.trans
        ((framed_nothing rfl).trans (framed_enter (x.setRuntime fun r =>
          { r with actualEnabled := false }) .powerOff))
      exact ⟨0, (hleft.trans (framed_nothing rfl)).trans hrest, Or.inl rfl⟩

/-! ### Runs -/

theorem framed_after (hc : b.config = c) (turns : List Turn) : ∃ n, Framed c n b (b.after turns) := by
  induction turns using List.reverseRecOn with
  | nil => exact ⟨0, framed_nothing rfl⟩
  | append_singleton turns t ih =>
    obtain ⟨n, hbefore⟩ := ih
    rw [after_append]
    cases t with
    | event e =>
      obtain ⟨n', hdispatched, -⟩ := framed_dispatch ((config_after b turns).trans hc) e
      exact ⟨n + n', hbefore.trans hdispatched⟩
    | timers q => exact ⟨n, hbefore.trans (framed_nothing rfl)⟩
    | surround s => exact ⟨n, hbefore.trans (framed_nothing rfl)⟩

/-- In every run the clock is raised and lowered in turn, beginning low and ending low after each event;
the commands of reconfigurations are given while it is raised, in brackets; and outside the brackets a
gain is written only by an event that sets the leakthrough gain, once and to all that take one. -/
theorem reconfigurations_bracketed (c : Config) (clockOrigin : Option WallClock) (store : SessionStore)
    (turns : List Turn) :
    let new := Earbud.new c clockOrigin store
    let b := new.after turns
    let commands := b.commandsSince new
    (∃ n, Bracketed c n commands) ∧
      (∃ k, commands.filterMap AudioCommand.boost? = (List.replicate k [true, false]).flatten) ∧
      (∀ earlier x later, commands = earlier ++ x :: later → x.reconfigures = true →
        (earlier.filterMap AudioCommand.boost?).getLast? = some true) ∧
      ∀ e, ∃ n, Bracketed c n ((b.dispatch e).1.commandsSince b) ∧
        (n = 0 ∨ n = 1 ∧ e.setsGain = true) := by
  intro new b commands
  obtain ⟨n, cs, hgives, hbracketed⟩ := framed_after (b := new) rfl turns
  have hcommands : commands = cs := hgives.commandsSince
  rw [hcommands]
  refine ⟨⟨n, hbracketed⟩, hbracketed.boosts, fun earlier x later he hx => hbracketed.raised hx he,
    fun e => ?_⟩
  obtain ⟨n', ⟨cs', hgives', hbracketed'⟩, hn'⟩ := framed_dispatch (config_after new turns) e
  rw [hgives'.commandsSince]
  exact ⟨n', hbracketed', hn'⟩

end Earbud

end NoiseControl
