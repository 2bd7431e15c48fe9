import Mathlib.Data.List.Chain
import NoiseControl.Proofs.Earbud.GainPoll
import NoiseControl.Proofs.Earbud.Route
import NoiseControl.Proofs.Earbud.SwitchNotice

/-!
# What clients hear of adaptive noise control

With adaptive filters a reconfiguration has clients told whether adaptive noise control runs, if that
changed, and also if the mode changed between the adaptive one and another.  So they may be told that it
does not run when it did not before.  And when the power goes off although the hardware refused to, they
are told nothing.  What they hear over a run alternates if each makes up for the other.
-/

namespace NoiseControl

/-- What a notification says of whether adaptive noise control runs. -/
def Notification.adaptive? : Notification → Option Bool
  | .adaptiveStateChanged running => some running
  | _ => none

/-- A reconfiguration in a run.  If the power goes off with it, the hardware is taken to be off after it,
whatever it did. -/
structure Turning where
  step : Reconfiguration
  parting : Bool

namespace Turning

/-- Adaptive noise control ran before. -/
def ran (t : Turning) : Bool := t.step.before.runtime.runs

/-- The hardware was left running adaptive noise control. -/
def runs (t : Turning) : Bool := t.step.after.runtime.runs

def changes (t : Turning) : Bool := t.ran != t.runs

/-- The mode changed between the adaptive one and another. -/
def crosses (t : Turning) : Bool :=
  t.step.before.runtime.currentMode.isAdaptive != t.step.after.runtime.currentMode.isAdaptive

def tells (t : Turning) : Bool := t.changes || t.crosses

/-- What clients are told, oldest first. -/
def told (l : List Turning) : List Bool := (l.filter tells).map runs

/-- The power went off with adaptive noise control left running, and clients were told nothing since. -/
def LeftRunning (l : List Turning) : Prop :=
  ∃ earlier t later, l = earlier ++ t :: later ∧ t.parting = true ∧ t.runs = true ∧
    ∀ u ∈ later, u.tells = false

/-- Each turning starts from where the one before it ended. -/
inductive Linked (first : Bool) : List Turning → Bool → Prop where
  | nil : Linked first [] first
  | snoc {l : List Turning} {t : Turning} (h : Linked first l t.ran) :
      Linked first (l ++ [t]) (t.runs && !t.parting)

variable {l l' : List Turning} {t : Turning} {v w u : Bool}

theorem told_append : told (l ++ l') = told l ++ told l' := by
  unfold told
  rw [List.filter_append, List.map_append]

theorem told_snoc : told (l ++ [t]) = if t.tells then told l ++ [t.runs] else told l := by
  rw [told_append]
  unfold told
  cases h : t.tells <;> simp [h]

theorem told_parting (l : List Reconfiguration) (parting : Bool) :
    told (l.map fun r => ⟨r, parting⟩) = told (l.map fun r => ⟨r, false⟩) := by
  unfold told
  rw [List.filter_map, List.filter_map, List.map_map, List.map_map]
  rfl

theorem ran_eq_runs (h : t.tells = false) : t.ran = t.runs := by
  have hsame : t.changes = false := (Bool.or_eq_false_iff.mp h).1
  exact bne_eq_false_iff_eq.mp hsame

theorem leftRunning_snoc :
    LeftRunning (l ++ [t]) ↔
      (t.parting = true ∧ t.runs = true) ∨ (t.tells = false ∧ LeftRunning l) := by
  constructor
  · rintro ⟨earlier, t', later, he, hparting, hruns, hlater⟩
    rcases snoc_eq_append_cons he with ⟨-, rfl, -⟩ | ⟨rest, rfl, rfl⟩
    · exact Or.inl ⟨hparting, hruns⟩
    · refine Or.inr ⟨hlater t (by simp), earlier, t', rest, rfl, hparting, hruns, fun u hu => ?_⟩
      exact hlater u (List.mem_append_left _ hu)
  · rintro (⟨hparting, hruns⟩ | ⟨hsilent, earlier, t', later, rfl, hparting, hruns, hlater⟩)
    · exact ⟨l, t, [], rfl, hparting, hruns, by simp⟩
    · refine ⟨earlier, t', later ++ [t], by simp, hparting, hruns, fun u hu => ?_⟩
      rcases List.mem_append.mp hu with hu | hu
      · exact hlater u hu
      · rw [List.mem_singleton.mp hu]
        exact hsilent

theorem Linked.trans (h : Linked v l w) (h' : Linked w l' u) : Linked v (l ++ l') u := by
  induction h' with
  | nil => rwa [List.append_nil]
  | snoc _ ih =>
    rw [← List.append_assoc]
    exact ih.snoc

/-- What clients were told last is how it is, unless adaptive noise control was left running when the
power went off and they were told nothing since. -/
theorem Linked.last_told (h : Linked false l w) :
    (LeftRunning l ∧ (told l).getLast?.getD false = true ∧ w = false) ∨
      (¬LeftRunning l ∧ (told l).getLast?.getD false = w) := by
  induction h with
  | nil =>
    refine Or.inr ⟨?_, rfl⟩
    rintro ⟨earlier, t, later, he, -⟩
    simp at he
  | @snoc l t _ ih =>
    rw [leftRunning_snoc, told_snoc]
    cases htells : t.tells with
    | true =>
      cases hparting : t.parting <;> cases hruns : t.runs <;> simp
    | false =>
      have hsame := ran_eq_runs htells
      rw [if_neg Bool.false_ne_true]
      rcases ih with ⟨hleft, hlast, hw⟩ | ⟨hleft, hlast⟩
      · rw [hw] at hsame
        exact Or.inl ⟨Or.inr ⟨rfl, hleft⟩, hlast, by simp [← hsame]⟩
      · rw [hlast, hsame]
        cases hparting : t.parting <;> cases hruns : t.runs <;> simp [hleft]

/-- What clients are told alternates exactly if they are told that nothing changed when, and only when,
adaptive noise control was left running before. -/
theorem Linked.alternates_iff (h : Linked false l w) :
    (false :: told l).IsChain (· ≠ ·) ↔
      ∀ earlier t later, l = earlier ++ t :: later → t.tells = true →
        (t.changes = false ↔ LeftRunning earlier) := by
  induction h with
  | nil => simp [told]
  | @snoc l t hbefore ih =>
    have hlast := hbefore.last_told
    have hsplit : (∀ earlier t' later, l ++ [t] = earlier ++ t' :: later → t'.tells = true →
        (t'.changes = false ↔ LeftRunning earlier)) ↔
          (∀ earlier t' later, l = earlier ++ t' :: later → t'.tells = true →
            (t'.changes = false ↔ LeftRunning earlier)) ∧
          (t.tells = true → (t.changes = false ↔ LeftRunning l)) := by
      constructor
      · intro h
        refine ⟨fun earlier t' later he => ?_, h l t [] rfl⟩
        exact h earlier t' (later ++ [t]) (by simp [he])
      · rintro ⟨hearlier, hnew⟩ earlier t' later he
        rcases snoc_eq_append_cons he with ⟨rfl, rfl, -⟩ | ⟨rest, -, rfl⟩
        · exact hnew
        · exact hearlier earlier t' rest rfl
    rw [hsplit, ← ih, told_snoc]
    cases htells : t.tells with
    | false => simp
    | true =>
      have hnew : (false :: (told l ++ [t.runs])).IsChain (· ≠ ·) ↔
          (false :: told l).IsChain (· ≠ ·) ∧ (told l).getLast?.getD false ≠ t.runs := by
        rw [← List.cons_append, List.isChain_append, List.getLast?_cons]
        simp
      rw [if_pos rfl, hnew]
      refine and_congr_right fun _ => ?_
      unfold changes
      rcases hlast with ⟨hleft, htold, hran⟩ | ⟨hleft, htold⟩ <;> rw [htold]
      · simp [hleft, hran]
      · simp [hleft]

end Turning

namespace Earbud

open Turning

variable {x : Extent} {a b c : Earbud} {vs ws : List Bool} {l : List Reconfiguration} {e : Event}

/-! ### What clients are told -/

/-- What clients were told of adaptive noise control since `former`, oldest first. -/
def adaptiveTold (b former : Earbud) : List Bool :=
  ((b.clients.sent.take (b.clients.sent.length - former.clients.sent.length)).filterMap
    Notification.adaptive?).reverse

/-- From `a` to `b` clients are told exactly this of adaptive noise control. -/
def Informs (a : Earbud) (vs : List Bool) (b : Earbud) : Prop :=
  ∃ newer, b.clients.sent = newer ++ a.clients.sent ∧
    (newer.filterMap Notification.adaptive?).reverse = vs

theorem Informs.adaptiveTold (h : Informs a vs b) : b.adaptiveTold a = vs := by
  obtain ⟨newer, he, rfl⟩ := h
  unfold Earbud.adaptiveTold
  rw [he, List.length_append, Nat.add_sub_cancel, List.take_left]

theorem Informs.trans (h : Informs a vs b) (h' : Informs b ws c) : Informs a (vs ++ ws) c := by
  obtain ⟨newer, he, rfl⟩ := h
  obtain ⟨newest, he', rfl⟩ := h'
  refine ⟨newest ++ newer, by rw [he', he, List.append_assoc], ?_⟩
  rw [List.filterMap_append, List.reverse_append]

theorem informs_nothing (h : b.clients = a.clients) : Informs a [] b := ⟨[], by rw [h]; rfl, rfl⟩

theorem Work.informs_nothing (w : Work x a b)
    (hx : ∀ running, x.tells (.adaptiveStateChanged running) = false) : Informs a [] b := by
  obtain ⟨newer, he, hin⟩ := w.sent
  refine ⟨newer, he, ?_⟩
  rw [List.reverse_eq_nil_iff, List.filterMap_eq_nil_iff]
  intro n hn
  cases n with
  | adaptiveStateChanged running => exact nomatch (hx running).symm.trans (hin _ hn)
  | _ => rfl

theorem Informs.then_nothing (h : Informs a vs b) (h' : Informs b [] c) : Informs a vs c := by
  have hboth := h.trans h'
  rwa [List.append_nil] at hboth

/-- Clients are told whether adaptive noise control runs if that changed, or if the mode changed between
the adaptive one and another. -/
theorem informs_announceAdaptiveChange (b : Earbud) (wasEnabled : Bool) (formerMode : Mode) :
    Informs b
      (if (wasEnabled && formerMode.isAdaptive) != b.runtime.runs ||
          formerMode.isAdaptive != b.runtime.currentMode.isAdaptive then [b.runtime.runs] else [])
      (b.announceAdaptiveChange wasEnabled formerMode) := by
  rw [announceAdaptiveChange_eq]
  split
  · dsimp only
    split <;> exact ⟨[_], rfl, rfl⟩
  · exact informs_nothing rfl

/-! ### Reconfigurations -/

/-- The mode changed between the adaptive one and another, and adaptive noise control runs neither before
nor after. -/
def crossesIdle (a b : Earbud) : Bool :=
  a.runtime.currentMode.isAdaptive != b.runtime.currentMode.isAdaptive &&
    a.runtime.runs == b.runtime.runs

theorem informs_reconfigure (hc : b.config.adaptive = true) (on : Bool) (m : Mode) :
    let after := (b.reconfigure on m).1
    Informs b
      (if b.runtime.runs != after.runtime.runs ||
          b.runtime.currentMode.isAdaptive != after.runtime.currentMode.isAdaptive
        then [after.runtime.runs] else []) after := by
  intro after
  have hmode := work_inMode (b.boost true) (fun _ => true) (m := m) rfl rfl
  have hpower := work_inPower ((b.boost true).inMode m).1 on
  have hraised : Informs b [] (b.boost true) := informs_nothing rfl
  have hdriven := (hraised.trans (hmode.informs_nothing fun _ => rfl)).trans
    (hpower.informs_nothing fun _ => rfl)
  have hruntime := (reconfigure_eq b on m).1
  have hconfig := hpower.config.trans hmode.config
  have hafter := reconfigure_stages b on m
  dsimp only at hruntime
  generalize (((b.boost true).inMode m).1.inPower on).1 = switched at *
  rw [tellAdaptive, if_pos (hconfig ▸ hc)] at hafter
  have htold := informs_announceAdaptiveChange switched b.runtime.actualEnabled b.runtime.currentMode
  have hlowered := (hdriven.trans htold).trans (informs_nothing (b := Earbud.boost _ false) rfl)
  rw [← hafter, List.append_nil] at hlowered
  have hruns : after.runtime.runs = switched.runtime.runs := (congrArg Runtime.runs hruntime :)
  have hcurrent : after.runtime.currentMode = switched.runtime.currentMode :=
    (congrArg Runtime.currentMode hruntime :)
  rw [hruns, hcurrent]
  exact hlowered

theorem informs_turning (r : Reconfiguration) (hc : r.before.config.adaptive = true) (parting : Bool) :
    Informs r.before (told [⟨r, parting⟩]) r.after := by
  have hinformed := informs_reconfigure hc r.on r.mode
  have htold : told [⟨r, parting⟩] = _ := told_snoc (l := []) (t := ⟨r, parting⟩)
  rw [htold]
  exact hinformed

/-! ### Events -/

theorem Route.informs (p : Route a l b) (hc : a.config.adaptive = true) :
    Informs a (told (l.map fun r => ⟨r, false⟩)) b ∧
      Linked a.runtime.runs (l.map fun r => ⟨r, false⟩) b.runtime.runs := by
  induction p with
  | start => exact ⟨informs_nothing rfl, .nil⟩
  | @touch _ b d _ t ih =>
    have w : Work meanwhile b d := .single t
    have hruns : d.runtime.runs = b.runtime.runs := (congrArg Runtime.runs w.keeps :)
    exact ⟨ih.1.then_nothing (w.informs_nothing fun _ => rfl), hruns ▸ ih.2⟩
  | ask _ m hm ih => exact ih
  | remember _ ih => exact ih
  | @adapt _ b _ ih =>
    have w : Work { meanwhile with audio := fun _ => true } b b.startAdaptive :=
      attempts_startAdaptive b rfl
    exact ⟨ih.1.then_nothing (w.informs_nothing fun _ => rfl), by rw [runtime_startAdaptive]; exact ih.2⟩
  | @reconfigure l b p on ih =>
    rw [List.map_append, told_append]
    refine ⟨ih.1.trans (informs_turning ⟨b, on⟩ (p.config ▸ hc) false), ?_⟩
    have hnext : Linked _ _ (Turning.runs ⟨⟨b, on⟩, false⟩ && true) := .snoc ih.2
    rw [Bool.and_true] at hnext
    exact hnext

/-- The turnings of an event. -/
def turningsOf (b : Earbud) (e : Event) : List Turning :=
  (b.reconfigurations e).map fun r => ⟨r, e == .powerOff⟩

theorem turningsOf_staying (h : e = .powerOff → b.runtime.state ≠ .enabled) :
    b.turningsOf e = (b.reconfigurations e).map fun r => ⟨r, false⟩ := by
  unfold turningsOf
  by_cases he : e = .powerOff
  · subst he
    rw [show b.reconfigurations .powerOff = [] from
      if_neg fun hon => h rfl (b.isEnabled_iff.mp hon)]
    rfl
  · rw [beq_false_of_ne he]

theorem informs_start (b : Earbud) : Informs b [] b.start.1 := by
  have hprobed : ∀ c, Informs b [] (b.loadSession.1.attempt c).1 := fun c =>
    Work.informs_nothing (x := { anything with tells := fun _ => false })
      ((Relation.ReflTransGen.single .load).tail (.attempt c rfl)) fun _ => rfl
  rcases start_fst b with ⟨he, -⟩ | ⟨microphones, mode, ⟨he, -⟩ | ⟨enabled, he, -⟩⟩ <;> rw [he]
  · exact informs_nothing rfl
  · exact hprobed _
  · refine ((hprobed (.start microphones mode)).trans (informs_nothing rfl)).then_nothing ?_
    exact (parts_enter _ .powerOff).informs_nothing fun _ => rfl

theorem informs_dispatch (hoff : b.runtime.state = .uninitialised → b.runtime.actualEnabled = false)
    (hc : b.config.adaptive = true) (e : Event) :
    Informs b (told (b.turningsOf e)) (b.dispatch e).1 ∧
      Linked b.runtime.runs (b.turningsOf e) (b.dispatch e).1.runtime.runs := by
  obtain ⟨rfl, hs, wrest⟩ | ⟨y, ⟨x, hroute, hending⟩, wrest⟩ := dispatch_arrives b e
  · have hruns : (b.dispatch .initialise).1.runtime.runs = b.runtime.runs := by
      have hstarted : (b.dispatch .initialise).1.runtime.runs = b.start.1.runtime.runs :=
        (congrArg Runtime.runs wrest.keeps :)
      rw [hstarted]
      unfold Runtime.runs
      rw [actualEnabled_start (hoff hs), hoff hs]
      rfl
    rw [hruns]
    exact ⟨(informs_start b).then_nothing (wrest.informs_nothing fun _ => rfl), .nil⟩
  · obtain ⟨hinformed, hlinked⟩ := hroute.informs hc
    have hruns : (b.dispatch e).1.runtime.runs = y.runtime.runs := (congrArg Runtime.runs wrest.keeps :)
    suffices hended : Informs b (told (b.turningsOf e)) y ∧
        Linked b.runtime.runs (b.turningsOf e) y.runtime.runs by
      rw [hruns]
      exact ⟨hended.1.then_nothing (wrest.informs_nothing fun _ => rfl), hended.2⟩
    cases hending with
    | none hstays =>
      rw [turningsOf_staying hstays]
      exact ⟨hinformed, hlinked⟩
    | level he gain =>
      have w := levels_setLeakthrough x gain
      have hlevel : (x.setLeakthrough gain).runtime.runs = x.runtime.runs :=
        (w.mono levels_within_unpolled).runs
      have hleveled : Informs x [] (x.setLeakthrough gain) := w.informs_nothing fun _ => rfl
      have hstays : e ≠ .powerOff := by
        rintro rfl
        cases he
      rw [turningsOf_staying fun hp => absurd hp hstays, hlevel]
      exact ⟨hinformed.then_nothing hleveled, hlinked⟩
    | part hs =>
      have hlist : b.reconfigurations .powerOff = b.poweringOff := if_pos (b.isEnabled_iff.mpr hs)
      have hoffed : Informs x [] (x.setRuntime fun r => { r with actualEnabled := false }) :=
        informs_nothing rfl
      have hentered := (parts_enter (x.setRuntime fun r => { r with actualEnabled := false })
        .powerOff).informs_nothing fun _ => rfl
      have hcleared := informs_nothing (b := Earbud.setRuntime
        ((x.setRuntime fun r => { r with actualEnabled := false }).enter .powerOff)
        .clearUserFlags) rfl
      rw [hlist] at hinformed
      unfold turningsOf
      rw [hlist]
      have hparted := ((hinformed.then_nothing hoffed).then_nothing hentered).then_nothing hcleared
      refine ⟨by rw [told_parting]; exact hparted, ?_⟩
      have hfirst : Linked b.runtime.runs ([] ++ b.poweringOff.map fun r => ⟨r, true⟩) _ :=
        Linked.snoc (t := ⟨⟨_, false⟩, true⟩) .nil
      rw [Bool.not_true, Bool.and_false] at hfirst
      have hoff : Earbud.runtime (((x.setRuntime fun r => { r with actualEnabled := false }).enter
          .powerOff).setRuntime .clearUserFlags) = _ :=
        congrArg Runtime.clearUserFlags (runtime_enter _ _)
      rw [hoff]
      exact hfirst

/-! ### Runs -/

/-- The turnings of a move. -/
def turningsIn (b : Earbud) (m : Move) : List Turning :=
  match b.dispatched? m with
  | some (x, e) => x.turningsOf e
  | none => []

/-- The turnings of a run, oldest first. -/
def turnings (b : Earbud) : List Move → List Turning
  | [] => []
  | m :: rest => b.turningsIn m ++ (b.perform m).turnings rest

theorem turnings_snoc (b : Earbud) (moves : List Move) (m : Move) :
    b.turnings (moves ++ [m]) = b.turnings moves ++ (b.run moves).turningsIn m := by
  induction moves generalizing b with
  | nil => simp [turnings, run]
  | cons first rest ih =>
    rw [List.cons_append, turnings, ih, turnings, List.append_assoc]
    rfl

theorem informs_perform (h : Sound b) (hc : b.config.adaptive = true) (m : Move) :
    ((b.announced m).filterMap Notification.adaptive?).reverse = told (b.turningsIn m) ∧
      Linked b.runtime.runs (b.turningsIn m) (b.perform m).runtime.runs := by
  have hafter := perform_eq b m
  cases hd : b.dispatched? m with
  | none =>
    rw [hd] at hafter
    have hstill : (b.perform m).runtime = b.runtime := by
      rw [hafter]
      cases m <;> rfl
    have hnone : b.turningsIn m = [] := by
      unfold turningsIn
      rw [hd]
    rw [announced_none hd, hnone, hstill]
    exact ⟨rfl, .nil⟩
  | some p =>
    obtain ⟨x, e⟩ := p
    rw [hd] at hafter
    have hx : x.runtime = b.runtime ∧ x.config = b.config := by
      rcases dispatched?_eq_some h.order hd with ⟨-, -, rfl⟩ | ⟨k, -, -, -, rfl⟩ <;> exact ⟨rfl, rfl⟩
    obtain ⟨hruntime, hconfig⟩ := hx
    have hoff : x.runtime.state = .uninitialised → x.runtime.actualEnabled = false := by
      intro hs
      rw [hruntime] at hs ⊢
      exact h.off (by simp [hs])
    obtain ⟨hinformed, hlinked⟩ := informs_dispatch hoff (hconfig ▸ hc) e
    have htold : ((b.announced m).filterMap Notification.adaptive?).reverse =
        (x.dispatch e).1.adaptiveTold x := by
      unfold announced
      rw [hd]
      rfl
    have hturned : b.turningsIn m = x.turningsOf e := by
      unfold turningsIn
      rw [hd]
    rw [htold, hturned, hafter, ← hruntime]
    exact ⟨hinformed.adaptiveTold, hlinked⟩

theorem informs_run (c : Config) (hc : c.adaptive = true) (clockOrigin : Option WallClock)
    (store : SessionStore) (moves : List Move) :
    let new := Earbud.new c clockOrigin store
    ((new.heard moves).filterMap Notification.adaptive?).reverse = told (new.turnings moves) ∧
      Linked false (new.turnings moves) (new.run moves).runtime.runs := by
  intro new
  induction moves using List.reverseRecOn with
  | nil => exact ⟨rfl, .nil⟩
  | append_singleton moves m ih =>
    have hsound := (sound_run c clockOrigin store moves).1
    have hconfig : (new.run moves).config.adaptive = true :=
      (congrArg Config.adaptive (config_run new moves)).trans hc
    obtain ⟨hinformed, hlinked⟩ := informs_perform hsound hconfig m
    rw [run_snoc, heard_snoc, turnings_snoc, List.filterMap_append, List.reverse_append, ih.1,
      hinformed, told_append]
    exact ⟨rfl, ih.2.trans hlinked⟩

/-- A reconfiguration has clients told whether adaptive noise control runs then, once at most; it does so
exactly if that changed, unless the mode crosses idly between the adaptive one and another.  What clients
are told over a run alternates, beginning with that it runs, exactly unless they are told that nothing
changed without it being left running when the power went off, or the other way round. -/
theorem adaptive_notices_iff (c : Config) (hc : c.adaptive = true) :
    (∀ b : Earbud, b.config = c → ∀ on m,
      let after := (b.reconfigure on m).1
      let changed := b.runtime.runs != after.runtime.runs
      after.adaptiveTold b = (if changed || crossesIdle b after then [after.runtime.runs] else []) ∧
        (after.adaptiveTold b = (if changed then [after.runtime.runs] else []) ↔
          crossesIdle b after = false)) ∧
      ∀ clockOrigin store moves,
        let new := Earbud.new c clockOrigin store
        let values := ((new.heard moves).filterMap Notification.adaptive?).reverse
        (false :: values).IsChain (· ≠ ·) ↔
          ∀ earlier t later, new.turnings moves = earlier ++ t :: later → t.tells = true →
            (t.changes = false ↔ LeftRunning earlier) := by
  refine ⟨fun b hb on m => ?_, fun clockOrigin store moves => ?_⟩
  · intro after changed
    have hidle : crossesIdle b after =
        (b.runtime.currentMode.isAdaptive != after.runtime.currentMode.isAdaptive && !changed) := by
      show (_ && _) = (_ && !!_)
      rw [Bool.not_not]
    have htold : after.adaptiveTold b = _ := (informs_reconfigure (hb ▸ hc) on m).adaptiveTold
    change _ = if changed || _ != after.runtime.currentMode.isAdaptive then [after.runtime.runs]
      else [] at htold
    rw [htold, hidle]
    cases changed <;>
      cases b.runtime.currentMode.isAdaptive != after.runtime.currentMode.isAdaptive <;> simp
  · intro new values
    obtain ⟨hvalues, hlinked⟩ := informs_run c hc clockOrigin store moves
    rw [show values = told (new.turnings moves) from hvalues]
    exact hlinked.alternates_iff

/-- Noise control is switched on in another mode than the adaptive one, then off and on in the adaptive
one. -/
theorem adaptive_notices_iff_idle :
    let c := Config.standard ""
    let new := Earbud.new c none {}
    let b := new.run [.event .initialise, .event .powerOn, .event (.setMode ⟨1⟩)]
    let moves : List Move := [.event .initialise, .event .powerOn, .event .enable, .event .powerOff]
    c.adaptive = true ∧ (b.reconfigure true ⟨1⟩).1.adaptiveTold b = [false] ∧
      b.runtime.runs = false ∧
      ∀ earlier t later, new.turnings moves = earlier ++ t :: later → t.tells = true →
        (t.changes = false ↔ LeftRunning earlier) := by
  intro c new b moves
  obtain ⟨hreconfigure, hrun⟩ := adaptive_notices_iff c rfl
  have hconfig : b.config = c := config_run new _
  refine ⟨rfl, ?_, by decide +kernel, ?_⟩
  · exact (hreconfigure b hconfig true ⟨1⟩).1.trans (by decide +kernel)
  · exact (hrun none {} moves).mp (by decide +kernel)

/-- The mode that is asked for while noise control is off is not the adaptive one. -/
theorem idle_mode_told : ¬∀ (c : Config) (clockOrigin : Option WallClock) (store : SessionStore)
    (moves : List Move), c.adaptive = true →
      let new := Earbud.new c clockOrigin store
      let b := new.run moves
      (∀ on m,
        let after := (b.reconfigure on m).1
        after.adaptiveTold b =
          if b.runtime.runs != after.runtime.runs then [after.runtime.runs] else []) ∧
        (false :: ((new.heard moves).filterMap Notification.adaptive?).reverse).IsChain (· ≠ ·) := by
  intro h
  have hidle := (h (.standard "") none {}
    [.event .initialise, .event .powerOn, .event (.setMode ⟨1⟩)] rfl).1 true ⟨1⟩
  exact absurd hidle (by decide +kernel)

end Earbud

end NoiseControl
