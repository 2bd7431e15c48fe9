import NoiseControl.Proofs.Earbud.ModeRange
import NoiseControl.Proofs.Earbud.TuningLink

/-!
# What a command that failed leaves

A reconfiguration loads the mode and switches the hardware in two steps that fail apart from each
other, and what one of them has done stays done when the other fails.  So a command that failed can
leave a mode loaded that the hardware was not switched in, or noise control on in a mode other than
the one that was asked for.  The clients were told of it, and nothing else is left.
-/

namespace NoiseControl

/-- The commands that switch noise control on or off or change its mode. -/
def Event.commandsNoiseControl : Event → Bool
  | .enable | .setMode _ | .setNextMode | .enterTuning | .enterAdaptiveTuning => true
  | _ => false

/-- Clients are told that noise control goes on or off, or that the mode changes. -/
def Notification.tellsChange : Notification → Bool
  | .stateChanged _ | .modeChanged _ => true
  | _ => false

/-- How noise control stands, and which changes of it the clients were told, newest first. -/
structure Standing where
  state : Lifecycle
  actualEnabled : Bool
  currentMode : Mode
  told : List Notification
deriving DecidableEq

namespace Earbud

def standing (b : Earbud) : Standing :=
  { state := b.runtime.state
    actualEnabled := b.runtime.actualEnabled
    currentMode := b.runtime.currentMode
    told := b.clients.sent.filter Notification.tellsChange }

section Steps

variable (b : Earbud)

/-! ### What changes nothing -/

theorem standing_attempt (c : AudioCommand) : (b.attempt c).1.standing = b.standing := by
  rcases attempt_fst b c with h | h <;> rw [h] <;> rfl

theorem standing_foldl {α : Type} {f : Earbud → α → Earbud}
    (hf : ∀ b x, (f b x).standing = b.standing) (l : List α) : (l.foldl f b).standing = b.standing := by
  induction l generalizing b with
  | nil => rfl
  | cons x rest ih => exact (ih (f b x)).trans (hf b x)

theorem standing_rampDown : b.rampDown.standing = b.standing :=
  standing_foldl b (fun b _ => standing_foldl b (fun b _ => standing_attempt b _) _) _

theorem standing_identifyMode (m : Mode) (running : Bool) :
    (b.identifyMode m running).standing = b.standing := by
  unfold identifyMode
  split <;> rfl

theorem standing_loadMode (m : Mode) : (b.loadMode m).1.standing = b.standing := by
  unfold loadMode
  rw [standing_attempt]
  split <;> rfl

theorem standing_abandonMode (running : Bool) : (b.abandonMode running).standing = b.standing :=
  standing_identifyMode _ _ _

theorem standing_refreshLeakthrough : b.refreshLeakthrough.standing = b.standing := by
  obtain ⟨gain, he⟩ := refreshLeakthrough_eq b
  rw [he]
  rfl

theorem standing_announceLeakthrough : b.announceLeakthrough.standing = b.standing := by
  unfold announceLeakthrough
  split <;> rfl

theorem standing_stopAdaptive : b.stopAdaptive.standing = b.standing := by
  unfold stopAdaptive
  dsimp only
  split <;> rfl

theorem standing_settleAdaptive : b.settleAdaptive.standing = b.standing := by
  unfold settleAdaptive
  split <;> rfl

theorem standing_hardwareOn : b.hardwareOn.1.standing = b.standing := by
  unfold hardwareOn
  split
  · exact standing_attempt b _
  · have h := standing_attempt b .hardwareOnMuted
    split <;> rename_i heq <;> rw [heq] at h <;> exact h

theorem standing_hardwareOff : b.hardwareOff.1.standing = b.standing := by
  unfold hardwareOff
  rw [standing_attempt]
  split
  · rfl
  · exact standing_rampDown _

theorem standing_tellAdaptive (wasEnabled : Bool) (formerMode : Mode) :
    (b.tellAdaptive wasEnabled formerMode).standing = b.standing := by
  unfold tellAdaptive announceAdaptiveChange
  dsimp only
  split
  · split
    · split <;> rfl
    · rfl
  · rfl

theorem standing_enter {next : Lifecycle} (h : next ≠ .powerOff) :
    (b.enter next).standing = { b.standing with state := next } := by
  rw [enter_of_ne b h]
  rfl

/-! ### The two steps of a reconfiguration -/

/-- A mode is loaded and the clients are told, or nothing is changed. -/
theorem standing_applyMode {m : Mode} (hm : m.index < b.runtime.numModes) :
    ((b.applyMode m).2 = .ok () ∧
        (b.applyMode m).1.standing =
          { b.standing with currentMode := m, told := .modeChanged m :: b.standing.told }) ∨
      ((b.applyMode m).2 = .error (.hardware (.load m)) ∧
        (b.applyMode m).1.standing = b.standing) := by
  have hid := standing_identifyMode b m b.audio.adaptive
  have hin : ¬(b.identifyMode m b.audio.adaptive).runtime.numModes ≤ m.index := by
    rw [runtime_identifyMode]
    exact UInt8.not_le.mpr hm
  have hload := (standing_loadMode (b.identifyMode m b.audio.adaptive) m).trans hid
  unfold applyMode
  dsimp only
  rw [if_neg hin]
  split <;> rename_i heq <;> rw [heq] at hload
  · exact Or.inr ⟨rfl, (standing_abandonMode _ _).trans hload⟩
  · refine Or.inl ⟨rfl, ?_⟩
    rw [standing_announceLeakthrough, standing_refreshLeakthrough, ← hload]
    split <;> rfl

theorem standing_switchHardware (on : Bool) :
    ((b.switchHardware on).2 = .ok () ∧
        (b.switchHardware on).1.standing =
          { b.standing with actualEnabled := on, told := .stateChanged on :: b.standing.told }) ∨
      ((b.switchHardware on).2 = .error (.hardware (.switch on)) ∧
        (b.switchHardware on).1.standing = b.standing) := by
  have hturn : (if on then b.hardwareOn else b.stopAdaptive.hardwareOff).1.standing = b.standing := by
    cases on with
    | true => exact standing_hardwareOn b
    | false => exact (standing_hardwareOff _).trans (standing_stopAdaptive b)
  unfold switchHardware
  split <;> rename_i turned heq <;> rw [heq] at hturn
  · refine Or.inl ⟨rfl, ?_⟩
    rw [← hturn]
    dsimp only
    split
    · have hsettled := standing_settleAdaptive (turned.setRuntime fun r => { r with actualEnabled := on })
      exact congrArg (fun s : Standing => { s with told := .stateChanged on :: s.told }) hsettled
    · rfl
  · exact Or.inr ⟨rfl, hturn⟩

end Steps

/-! ### Reconfigurations that fail -/

/-- What is left of a reconfiguration from `a` that failed: nothing, the mode that was loaded before
the hardware could not be switched, or the hardware that was switched though the mode could not be
loaded. -/
inductive Leaves (on : Bool) (m : Mode) (fault : Error) (a b : Earbud) : Prop where
  | nothing (same : b.standing = a.standing)
  | mode (other : m ≠ a.runtime.currentMode) (off : a.runtime.actualEnabled ≠ on)
      (refused : fault = .hardware (.switch on))
      (loaded : b.standing =
        { a.standing with currentMode := m, told := .modeChanged m :: a.standing.told })
  | power (other : m ≠ a.runtime.currentMode) (off : a.runtime.actualEnabled ≠ on)
      (refused : fault = .hardware (.load m))
      (switched : b.standing =
        { a.standing with actualEnabled := on, told := .stateChanged on :: a.standing.told })

variable {a b : Earbud} {on : Bool} {m : Mode} {fault : Error}

theorem Leaves.of_standing_eq {x y : Earbud} (h : Leaves on m fault x y) (hx : x.standing = a.standing)
    (hy : y.standing = b.standing) : Leaves on m fault a b := by
  have hcurrent : x.runtime.currentMode = a.runtime.currentMode := congrArg Standing.currentMode hx
  have hactual : x.runtime.actualEnabled = a.runtime.actualEnabled :=
    congrArg Standing.actualEnabled hx
  cases h with
  | nothing same => exact .nothing (hy.symm.trans (same.trans hx))
  | mode other off refused loaded =>
    refine .mode (hcurrent ▸ other) (hactual ▸ off) refused ?_
    rw [← hy, loaded, hx]
  | power other off refused switched =>
    refine .power (hcurrent ▸ other) (hactual ▸ off) refused ?_
    rw [← hy, switched, hx]

theorem leaves_stages (hm : m.index < b.runtime.numModes)
    (h : (b.inMode m).2.andThen ((b.inMode m).1.inPower on).2 = .error fault) :
    Leaves on m fault b ((b.inMode m).1.inPower on).1 := by
  unfold inMode at h ⊢
  by_cases hcurrent : m = b.runtime.currentMode
  · rw [if_pos hcurrent] at h ⊢
    unfold inPower at h ⊢
    split at h <;> rename_i hon
    · cases h
    · rw [if_neg hon]
      rcases standing_switchHardware b on with ⟨hok, -⟩ | ⟨-, hs⟩
      · rw [hok] at h
        cases h
      · exact .nothing hs
  · rw [if_neg hcurrent] at h ⊢
    rcases standing_applyMode b hm with ⟨hok, hs⟩ | ⟨herr, hs⟩
    · rw [hok] at h
      have hactual : (b.applyMode m).1.runtime.actualEnabled = b.runtime.actualEnabled :=
        congrArg Standing.actualEnabled hs
      unfold inPower at h ⊢
      split at h <;> rename_i hon
      · cases h
      · rw [if_neg hon]
        rcases standing_switchHardware (b.applyMode m).1 on with ⟨hok, -⟩ | ⟨herr, hs'⟩
        · rw [hok] at h
          cases h
        · rw [herr] at h
          cases h
          exact .mode hcurrent (hactual ▸ hon) rfl (hs'.trans hs)
    -- The mode could not be loaded, and the hardware is switched all the same.
    · rw [herr] at h
      cases h
      have hactual : (b.applyMode m).1.runtime.actualEnabled = b.runtime.actualEnabled :=
        congrArg Standing.actualEnabled hs
      unfold inPower
      split <;> rename_i hon
      · exact .nothing hs
      · rcases standing_switchHardware (b.applyMode m).1 on with ⟨-, hs'⟩ | ⟨-, hs'⟩
        · rw [hs] at hs'
          exact .power hcurrent (hactual ▸ hon) rfl hs'
        · exact .nothing (hs'.trans hs)

theorem leaves_reconfigure (hm : m.index < b.runtime.numModes)
    (h : (b.reconfigure on m).2 = .error fault) : Leaves on m fault b (b.reconfigure on m).1 := by
  rw [(reconfigure_eq b on m).2] at h
  refine (leaves_stages (b := b.boost true) hm h).of_standing_eq rfl ?_
  rw [reconfigure_stages]
  exact (standing_tellAdaptive _ _ _).symm

/-! ### Commands that fail -/

/-- What is left of a command that failed: nothing; or the mode that was asked for before, which could
be loaded when the hardware could not be switched; or noise control switched on in the mode it was
in, when the mode that was asked for could not be loaded. -/
def CommandLeaves (e : Event) (fault : Error) (b after : Earbud) : Prop :=
  let wanted := b.runtime.requestedMode
  after.standing = b.standing ∨
    ((e = .enable ∨ e = .enterTuning ∨ e = .enterAdaptiveTuning) ∧ wanted ≠ b.runtime.currentMode ∧
      fault = .hardware (.switch (e == .enable)) ∧
      after.standing =
        { b.standing with currentMode := wanted, told := .modeChanged wanted :: b.standing.told }) ∨
    (e = .enable ∧ wanted ≠ b.runtime.currentMode ∧ fault = .hardware (.load wanted) ∧
      after.standing =
        { b.standing with
          state := .enabled
          actualEnabled := true
          told := .stateChanged true :: b.standing.told })

theorem leaves_requestEnable (hc : b.runtime.Classified)
    (hr : b.runtime.state ≠ .uninitialised → Ranged b)
    (h : b.requestEnable.2 = .error fault) : CommandLeaves .enable fault b b.requestEnable.1 := by
  unfold requestEnable at h ⊢
  split <;> rename_i hs
  · rw [hs] at h
    have hoff : b.runtime.actualEnabled = false := by rw [hc.hardware, hs]; rfl
    let asked := b.setRuntime fun r => { r with requestedEnabled := true }
    have hleft : Leaves true asked.runtime.requestedMode fault asked
        (asked.reconfigure true asked.runtime.requestedMode).1 := leaves_reconfigure (hr (by rw [hs]; decide)).requested h
    -- The state follows the hardware, whatever the outcome is.
    dsimp only
    generalize (reconfigure _ _ _).1 = after at hleft ⊢
    cases hleft with
    | nothing same =>
      have hstill : after.runtime.actualEnabled = false :=
        (congrArg Standing.actualEnabled same).trans hoff
      rw [hstill]
      exact Or.inl same
    | mode other _ refused loaded =>
      have hstill : after.runtime.actualEnabled = false :=
        (congrArg Standing.actualEnabled loaded).trans hoff
      rw [hstill]
      exact Or.inr (Or.inl ⟨Or.inl rfl, other, refused, loaded⟩)
    | power other _ refused switched =>
      have hon : after.runtime.actualEnabled = true := congrArg Standing.actualEnabled switched
      rw [hon]
      refine Or.inr (Or.inr ⟨rfl, other, refused, ?_⟩)
      exact (standing_enter after (by decide)).trans (by rw [switched]; rfl)
  · exact Or.inl rfl

theorem leaves_requestMode (hsound : Sound b) (m : Mode) (h : (b.requestMode m).2 = .error fault) :
    (b.requestMode m).1.standing = b.standing := by
  unfold requestMode at h ⊢
  split at h <;> rename_i hs
  · split at h <;> rename_i hrange
    · rw [if_pos hrange]
    · cases h
  · split at h <;> rename_i hrange
    · rw [if_pos hrange]
    · rw [if_neg hrange]
      dsimp only at h ⊢
      split at h <;> rename_i hcurrent
      · cases h
      · rw [if_neg hcurrent]
        split at h <;> rename_i hruns
        · cases h
        · rw [if_neg hruns]
          have hon : b.runtime.actualEnabled = true := by rw [hsound.classified.hardware, hs]; rfl
          -- A switch off that is staged would mean that adaptive processing runs.
          have hasked : b.runtime.requestedEnabled = true :=
            (Bool.not_eq_false _).mp fun hoff => hruns (hsound.staged hs hoff).adaptive
          unfold applyPending at h ⊢
          cases leaves_reconfigure (b := b.setRuntime fun r => { r with requestedMode := m })
            (UInt8.not_le.mp hrange) h with
          | nothing same => exact same
          | mode _ off => exact absurd (hon.trans hasked.symm) off
          | power _ off => exact absurd (hon.trans hasked.symm) off
  · rfl

theorem leaves_switchOff (hc : b.runtime.Classified) (hr : Ranged b) (hs : b.runtime.state = .enabled)
    {next : Lifecycle} (hn : next ≠ .powerOff)
    (hout : (b.switchOff next).1.runtime.state ≠ next) (h : (b.switchOff next).2 = .error fault) :
    let wanted := b.runtime.requestedMode
    (b.switchOff next).1.standing = b.standing ∨
      wanted ≠ b.runtime.currentMode ∧ fault = .hardware (.switch false) ∧
        (b.switchOff next).1.standing =
          { b.standing with currentMode := wanted, told := .modeChanged wanted :: b.standing.told } := by
  have hon : b.runtime.actualEnabled = true := by rw [hc.hardware, hs]; rfl
  have hleft := leaves_reconfigure hr.requested h
  unfold switchOff at hout ⊢
  dsimp only at hout ⊢
  rw [if_neg hn] at hout ⊢
  generalize (reconfigure _ _ _).1 = after at hleft hout ⊢
  cases hleft with
  | nothing same =>
    have hstill : after.runtime.actualEnabled = true :=
      (congrArg Standing.actualEnabled same).trans hon
    rw [if_pos hstill]
    exact Or.inl same
  | mode other _ refused loaded =>
    have hstill : after.runtime.actualEnabled = true :=
      (congrArg Standing.actualEnabled loaded).trans hon
    rw [if_pos hstill]
    exact Or.inr ⟨other, refused, loaded⟩
  | power _ _ _ switched =>
    have hoff : after.runtime.actualEnabled = false := congrArg Standing.actualEnabled switched
    rw [if_neg (by simp [hoff])] at hout
    exact absurd (congrArg Standing.state (standing_enter after hn)) hout

theorem enterTuning_failed {kind : TuningKind} (h : (b.enterTuning kind).2 = .error fault) :
    b.runtime.state = .enabled ∧
      (b.stopSettleTimers.switchOff (tuningState kind)).2 = .error fault ∧
      (b.enterTuning kind).1 = (b.stopSettleTimers.switchOff (tuningState kind)).1 := by
  unfold enterTuning at h ⊢
  dsimp only at h ⊢
  by_cases hon : b.isEnabled = true
  · rw [if_pos hon] at h ⊢
    split at h <;> rename_i ho
    · cases h
    · cases h
      exact ⟨beq_iff_eq.mp hon, ho, rfl⟩
  · rw [if_neg hon] at h
    cases h

theorem leaves_enterTuning (hc : b.runtime.Classified) (hr : Ranged b) {kind : TuningKind} {e : Event}
    (he : e = .enterTuning ∨ e = .enterAdaptiveTuning)
    (hout : b.runtime.state = .enabled → (b.enterTuning kind).1.runtime.state.isTuning = false)
    (h : (b.enterTuning kind).2 = .error fault) : CommandLeaves e fault b (b.enterTuning kind).1 := by
  obtain ⟨hs, hfailed, hleft⟩ := enterTuning_failed h
  rw [hleft] at hout ⊢
  have hnot : (b.stopSettleTimers.switchOff (tuningState kind)).1.runtime.state ≠ tuningState kind :=
    fun heq => nomatch (hout hs).symm.trans ((congrArg _ heq).trans (isTuning_tuningState kind))
  have hoff := leaves_switchOff (b := b.stopSettleTimers) hc (hr.same rfl rfl) hs
    (by cases kind <;> decide) hnot hfailed
  refine hoff.imp id fun ⟨other, refused, loaded⟩ => Or.inl ⟨Or.inr he, other, ?_, loaded⟩
  rw [refused]
  rcases he with rfl | rfl <;> rfl

theorem chooseEnable_failed (h : b.chooseEnable.2 = .error fault) :
    b.requestEnable.2 = .error fault ∧ b.chooseEnable.1 = b.requestEnable.1 := by
  unfold chooseEnable at h ⊢
  split at h <;> rename_i heq
  · cases h
  · exact ⟨h, rfl⟩

theorem chooseMode_failed {m : Mode} (h : (b.chooseMode m).2 = .error fault) :
    (b.requestMode m).2 = .error fault ∧ (b.chooseMode m).1 = (b.requestMode m).1 := by
  unfold chooseMode changeMode at h ⊢
  generalize b.requestMode m = y at h ⊢
  obtain ⟨after, _ | _⟩ := y
  · exact ⟨h, rfl⟩
  · cases h

theorem handle_tuning {e : Event} (he : e = .enterTuning ∨ e = .enterAdaptiveTuning) :
    (b.handle e).1 = b ∨ b.runtime.state ≠ .uninitialised ∧ ∃ kind, b.handle e = b.enterTuning kind := by
  have hadaptive : (if b.config.adaptive then b.enterTuning .adaptive
      else b.refuse .enterAdaptiveTuning).1 = b ∨ ∃ kind, (if b.config.adaptive then
        b.enterTuning .adaptive else b.refuse .enterAdaptiveTuning) = b.enterTuning kind := by
    split
    · exact Or.inr ⟨.adaptive, rfl⟩
    · exact Or.inl rfl
  have hhandle : b.handle e = b.handleInState e := by rcases he with rfl | rfl <;> rfl
  rw [hhandle]
  unfold handleInState
  cases b.runtime.state with
  | disabled =>
    rcases he with rfl | rfl
    · exact Or.inr ⟨by decide, .fixed, rfl⟩
    · exact hadaptive.imp_right fun h => ⟨by decide, h⟩
  | enabled =>
    rcases he with rfl | rfl
    · exact Or.inr ⟨by decide, .fixed, rfl⟩
    · exact hadaptive.imp_right fun h => ⟨by decide, h⟩
  | _ => rcases he with rfl | rfl <;> exact Or.inl rfl

/-- A command that failed did nothing, or what it asked for was taken up and could not be done. -/
theorem handle_failed {e : Event} (he : e.commandsNoiseControl = true)
    (h : (b.handle e).2 = .error fault) :
    (b.handle e).1 = b ∨
      (e = .enable ∧ b.requestEnable.2 = .error fault ∧ (b.handle e).1 = b.requestEnable.1) ∨
      (∃ m, (b.requestMode m).2 = .error fault ∧ (b.handle e).1 = (b.requestMode m).1) ∨
      ((e = .enterTuning ∨ e = .enterAdaptiveTuning) ∧ b.runtime.state ≠ .uninitialised ∧
        ∃ kind, b.handle e = b.enterTuning kind) := by
  cases e with
  | enable => exact Or.inr (Or.inl ⟨rfl, chooseEnable_failed h⟩)
  | setMode m => exact Or.inr (Or.inr (Or.inl ⟨_, chooseMode_failed h⟩))
  | setNextMode => exact Or.inr (Or.inr (Or.inl ⟨_, chooseMode_failed h⟩))
  | enterTuning =>
    exact (handle_tuning (Or.inl rfl)).imp_right fun h => Or.inr (Or.inr ⟨Or.inl rfl, h⟩)
  | enterAdaptiveTuning =>
    exact (handle_tuning (Or.inr rfl)).imp_right fun h => Or.inr (Or.inr ⟨Or.inr rfl, h⟩)
  | _ => cases he

theorem dispatch_failed (hdone : b.followUps = []) {e : Event} (he : e.commandsNoiseControl = true)
    (h : (b.handle e).2 = .error fault) : (b.dispatch e).1 = (b.handle e).1 := by
  refine finishFollowUps_eq_self (b.handle e).1 (Eq.trans ?_ hdone)
  rcases handle_failed he h with hsame | ⟨-, -, hleft⟩ | ⟨m, -, hleft⟩ | ⟨-, -, kind, hentered⟩
  · rw [hsame]
  · rw [hleft]
    exact ((work_requestEnable b).silent rfl).2.1
  · rw [hleft]
    exact ((work_requestMode b m).silent rfl).2.1
  · rw [hentered]
    exact ((work_enterTuning b kind).silent rfl).2.1

theorem leaves_handle (hsound : Sound b) (hr : b.runtime.state ≠ .uninitialised → Ranged b) {e : Event}
    (he : e.commandsNoiseControl = true)
    (hout : b.runtime.state = .enabled → (b.handle e).1.runtime.state.isTuning = false)
    (h : (b.handle e).2 = .error fault) : CommandLeaves e fault b (b.handle e).1 := by
  rcases handle_failed he h with
    hsame | ⟨rfl, hfailed, hleft⟩ | ⟨m, hfailed, hleft⟩ | ⟨htuning, hs, kind, hentered⟩
  · exact Or.inl (congrArg standing hsame)
  · rw [hleft]
    exact leaves_requestEnable hsound.classified hr hfailed
  · rw [hleft]
    exact Or.inl (leaves_requestMode hsound m hfailed)
  · rw [hentered] at h hout ⊢
    exact leaves_enterTuning hsound.classified (hr hs) htuning hout h

/-- Whatever led an earbud to where it is and whatever fails: a command that failed leaves nothing or
one of the two steps it takes, and the clients were told of just that.  A switch off that ends in a
tuning session though it failed is left aside. -/
theorem failed_command_leaves (config : Config) (clockOrigin : Option WallClock) (store : SessionStore)
    (moves : List Move) {e : Event} {fault : Error} (he : e.commandsNoiseControl = true) :
    let b := (Earbud.new config clockOrigin store).run moves
    let after := (b.dispatch e).1
    (b.dispatch e).2 = .error fault →
      (b.runtime.state = .enabled → after.runtime.state.isTuning = false) →
      CommandLeaves e fault b after := by
  intro b after h hout
  obtain ⟨hsound, hdone⟩ := sound_run config clockOrigin store moves
  have hfailed : (b.handle e).2 = .error fault := h
  have hsame : after = (b.handle e).1 := dispatch_failed hdone he hfailed
  rw [hsame] at hout ⊢
  exact leaves_handle hsound (ranged_run config clockOrigin store moves) he hout hfailed

theorem failed_command_leaves_on :
    let broken : Surroundings := ⟨none, {}, fun _ call => call == .audio (.setMode ⟨1⟩), none, {}, {}⟩
    let b := (Earbud.new (.standard "") none {}).run
      [.event .initialise, .event .powerOn, .event (.setMode ⟨1⟩), .surround broken]
    (b.dispatch .enable).2 = .error (.hardware (.load ⟨1⟩)) ∧
      (b.dispatch .enable).1.standing =
        { b.standing with
          state := .enabled
          actualEnabled := true
          told := .stateChanged true :: b.standing.told } := by
  intro broken b
  have hfailed : (b.dispatch .enable).2 = .error (.hardware (.load ⟨1⟩)) := by decide
  refine ⟨hfailed, ?_⟩
  rcases failed_command_leaves (.standard "") none {}
    [.event .initialise, .event .powerOn, .event (.setMode ⟨1⟩), .surround broken] (by decide)
    hfailed (by decide) with hsame | ⟨-, -, hfault, -⟩ | ⟨-, -, -, hon⟩
  · exact absurd hsame (by decide)
  · exact absurd hfault (by decide)
  · exact hon

/-- So a command that failed can switch noise control on. -/
theorem failed_command_half_done :
    ¬∀ (config : Config) (clockOrigin : Option WallClock) (store : SessionStore) (moves : List Move)
      (e : Event) (fault : Error), e.commandsNoiseControl = true →
      let b := (Earbud.new config clockOrigin store).run moves
      (b.dispatch e).2 = .error fault → (b.dispatch e).1.standing = b.standing := by
  intro h
  have hsame := h (.standard "") none {}
    [.event .initialise, .event .powerOn, .event (.setMode ⟨1⟩),
      .surround ⟨none, {}, fun _ call => call == .audio (.setMode ⟨1⟩), none, {}, {}⟩]
    .enable (.hardware (.load ⟨1⟩)) (by decide) (by decide)
  exact absurd hsame (by decide)

end Earbud

end NoiseControl
