import NoiseControl.Proofs.Earbud.History
import NoiseControl.Proofs.Earbud.Modes

/-!
# The link of a tuning session

The link is attached on the way into a tuning session and detached on the way out.  Noise control is
switched off on the way in, and where that fails the link is not attached.  Most such failures leave
noise control on; but when a mode that waits cannot be loaded while the hardware goes off, the
session is entered all the same and goes without its link.
-/

namespace NoiseControl

def Lifecycle.isTuning : Lifecycle → Bool
  | .tuning | .adaptiveTuning => true
  | _ => false

/-- The session that a command attaches the tuning link for, none if it detaches it. -/
def linked : Matter (Option TuningKind)
  | .attachTuningLink kind, _ => some (some kind)
  | .detachTuningLink, _ => some none
  | _, _ => none

namespace Earbud

variable {a b : Earbud}

def tuningLink? (b : Earbud) : Option TuningKind := (b.latest? linked).join

def linkings (b : Earbud) : Nat := b.tally linked

/-! ### Work that leaves the link alone -/

def unlinked : Extent where
  keeps r := { tuningSampleRate := r.tuningSampleRate }
  timer _ := true
  audio
    | .attachTuningLink _ | .detachTuningLink => false
    | _ => true
  talks := true

theorem beside_within_unlinked : beside.Within unlinked where
  keeps _ _ h := (congrArg unlinked.keeps h :)
  timer _ _ := rfl
  audio c h := by cases c <;> first | rfl | cases h
  talks _ := rfl
  tells _ _ := rfl
  saves _ := rfl

theorem starting_within_unlinked : starting.Within unlinked where
  keeps _ _ h := h
  timer _ _ := rfl
  audio c h := by cases c <;> first | rfl | cases h
  talks _ := rfl
  tells _ _ := rfl
  saves _ := rfl

theorem demanding_within_unlinked : demanding.Within unlinked where
  keeps _ _ h := (congrArg unlinked.keeps h :)
  timer _ _ := rfl
  audio c h := by cases c <;> first | rfl | cases h
  talks _ := rfl
  tells _ _ := rfl
  saves _ := rfl

theorem steering_within_unlinked : steering.Within unlinked :=
  steering_within_demanding.trans demanding_within_unlinked

/-- The link was not touched, and neither was what the tuning host agreed on. -/
structure Unlinked (a b : Earbud) : Prop where
  linkings : b.linkings = a.linkings
  link : b.tuningLink? = a.tuningLink?
  rate : b.runtime.tuningSampleRate = a.runtime.tuningSampleRate

theorem Work.unlinked (w : Work unlinked a b) : Unlinked a b where
  linkings := w.tally fun c done hc => by cases c <;> first | rfl | cases hc
  link := congrArg Option.join
    (w.latest? fun c done hc => by cases c <;> first | rfl | cases hc)
  rate := (congrArg Runtime.tuningSampleRate w.keeps :)

theorem Work.unlinked_steering (w : Work steering a b) : Unlinked a b :=
  (w.mono steering_within_unlinked).unlinked

theorem Demand.unlinked (d : Demand a b) : Work unlinked a b := by
  cases d with
  | beside t => exact .single (t.mono beside_within_unlinked)
  | enable => exact (steers_requestEnable a).mono steering_within_unlinked
  | disable => exact (ramps_requestDisable a).mono demanding_within_unlinked
  | mode m => exact (ramps_requestMode a m).mono demanding_within_unlinked
  | remember => exact .single (.runtime _ rfl)

/-! ### States -/

/-- The state is the same, or not that of a session before and after. -/
def Unentered (a b : Earbud) : Prop :=
  b.runtime.state = a.runtime.state ∨
    a.runtime.state.isTuning = false ∧ b.runtime.state.isTuning = false

theorem Unentered.trans {c : Earbud} (h : Unentered a b) (h' : Unentered b c) : Unentered a c := by
  rcases h' with he | ⟨hb, hc⟩
  · rcases h with he' | ⟨ha, hb⟩
    · exact Or.inl (he.trans he')
    · exact Or.inr ⟨ha, by rw [he, hb]⟩
  · rcases h with he' | ⟨ha, -⟩
    · exact Or.inr ⟨by rw [← he', hb], hc⟩
    · exact Or.inr ⟨ha, hc⟩

theorem state_beside (w : Work beside a b) : b.runtime.state = a.runtime.state :=
  (congrArg Runtime.state w.keeps :)

theorem state_switchOff (b : Earbud) (next : Lifecycle) :
    (b.switchOff next).1.runtime.state = next ∨
      (b.switchOff next).1.runtime.state = b.runtime.state := by
  rw [runtime_switchOff]
  dsimp only [Runtime.clearUserFlags]
  split
  · exact Or.inl rfl
  · split
    · exact Or.inr (state_reconfigure b false _)
    · exact Or.inl rfl

theorem state_requestEnable (b : Earbud) :
    b.requestEnable.1.runtime.state = b.runtime.state ∨
      b.requestEnable.1.runtime.state = .enabled := by
  unfold requestEnable
  split
  · dsimp only
    split
    · rw [runtime_enter]
      exact Or.inr rfl
    · exact Or.inl (state_reconfigure (b.setRuntime fun r => { r with requestedEnabled := true }) _ _)
  · exact Or.inl rfl

theorem state_requestDisable (b : Earbud) :
    b.requestDisable.1.runtime.state = b.runtime.state ∨
      b.requestDisable.1.runtime.state = .disabled := by
  unfold requestDisable
  split
  · dsimp only
    split
    · exact Or.inl rfl
    · exact (state_switchOff _ _).symm
  · exact Or.inl rfl

theorem state_requestMode (b : Earbud) (m : Mode) :
    (b.requestMode m).1.runtime.state = b.runtime.state := by
  unfold requestMode
  split
  · split
    · rfl
    · obtain ⟨gain, he⟩ := refreshLeakthrough_eq (b.setRuntime fun r => { r with requestedMode := m })
      rw [he]
      rfl
  · split
    · rfl
    · dsimp only
      split
      · rfl
      · split
        · rfl
        · exact state_reconfigure (b.setRuntime fun r => { r with requestedMode := m }) _ _
  · rfl

theorem Demand.unentered (d : Demand a b) : Unentered a b := by
  cases d with
  | beside t => exact Or.inl (state_beside (.single t))
  | enable hs =>
    refine (state_requestEnable a).imp_right fun h => ⟨by rw [hs]; rfl, by rw [h]; rfl⟩
  | disable hs =>
    refine (state_requestDisable a).imp_right fun h => ⟨by rw [hs]; rfl, by rw [h]; rfl⟩
  | mode m => exact Or.inl (state_requestMode a m)
  | remember => exact Or.inl rfl

theorem Demands.unlinked (ds : Demands a b) : Work unlinked a b ∧ Unentered a b := by
  induction ds with
  | refl => exact ⟨.refl, Or.inl rfl⟩
  | tail _ d ih => exact ⟨ih.1.trans d.unlinked, ih.2.trans d.unentered⟩

/-! ### How an event bears on the link -/

/-- From `a` to `b`, with the outcome of the event in between. -/
inductive Linking (a b : Earbud) (outcome : Outcome) : Prop where
  | stays (hn : b.linkings = a.linkings) (hl : b.tuningLink? = a.tuningLink?) (hs : Unentered a b)
      (hr : a.runtime.state.isTuning = false →
        b.runtime.tuningSampleRate = a.runtime.tuningSampleRate)
  | enters (kind : TuningKind) (hn : a.linkings < b.linkings) (hl : b.tuningLink? = some kind)
      (hs : b.runtime.state = tuningState kind)
  | leaves (hn : a.linkings < b.linkings) (hl : b.tuningLink? = none)
      (hs : b.runtime.state.isTuning = false) (hr : b.runtime.tuningSampleRate = none)
  /-- The session is entered although noise control could not be switched off in order. -/
  | misses (hn : b.linkings = a.linkings) (hl : b.tuningLink? = a.tuningLink?)
      (ha : a.runtime.state = .enabled) (hs : b.runtime.state.isTuning = true)
      (ho : outcome.isOk = false)

theorem Unlinked.stays {outcome : Outcome} (h : Unlinked a b) (hs : Unentered a b) :
    Linking a b outcome := .stays h.linkings h.link hs fun _ => h.rate

theorem isTuning_tuningState (kind : TuningKind) : (tuningState kind).isTuning = true := by
  cases kind <;> rfl

theorem tuningState_injective {kind kind' : TuningKind} (h : tuningState kind = tuningState kind') :
    kind = kind' := by
  cases kind <;> cases kind' <;> first | rfl | cases h

theorem tuningLink?_attach (b : Earbud) (kind : TuningKind) :
    (b.command (.attachTuningLink kind)).tuningLink? = some kind ∧
      (b.command (.attachTuningLink kind)).linkings = b.linkings + 1 := by
  refine ⟨rfl, ?_⟩
  simp [linkings, tally, command, Activity.tells, linked]

/-- The hardware is as it was to be, unless the outcome says otherwise. -/
theorem actualEnabled_of_ok {on : Bool} {m : Mode} (h : (b.reconfigure on m).2 = .ok ()) :
    (b.reconfigure on m).1.runtime.actualEnabled = on := by
  obtain ⟨hruntime, houtcome⟩ := reconfigure_eq b on m
  rw [hruntime]
  rw [houtcome] at h
  generalize (b.boost true).inMode m = moded at h ⊢
  have hpower : (moded.1.inPower on).2 = .ok () := by
    obtain ⟨after, _ | _⟩ := moded
    · cases h
    · exact h
  unfold inPower at hpower ⊢
  split at hpower <;> rename_i hon
  · rw [if_pos hon]
    exact hon
  · rw [if_neg hon]
    rcases switchHardware_cases moded.1 on with ⟨-, hr⟩ | ⟨herr, -⟩
    · rw [hr]
    · rw [herr] at hpower
      cases hpower

theorem linking_enterTuning (b : Earbud) (kind : TuningKind) :
    Linking b (b.enterTuning kind).1 (b.enterTuning kind).2 := by
  have hattach : ∀ x, Unlinked b x → x.runtime.state = tuningState kind →
      Linking b (x.command (.attachTuningLink kind)) (.ok ()) := by
    intro x hx hstate
    obtain ⟨hlink, hn⟩ := tuningLink?_attach x kind
    exact .enters kind (by rw [hn, hx.linkings]; omega) hlink hstate
  cases hon : b.isEnabled with
  | true =>
    have hoff : Unlinked b (b.stopSettleTimers.switchOff (tuningState kind)).1 :=
      Work.unlinked_steering ((steers_stopSettleTimers b).trans (steers_switchOff _ _))
    cases houtcome : (b.stopSettleTimers.switchOff (tuningState kind)).2 with
    | ok u =>
      have hactual := actualEnabled_of_ok (b := b.stopSettleTimers) houtcome
      simp only [enterTuning, hon, if_true, houtcome]
      refine hattach _ hoff ?_
      rw [runtime_switchOff]
      dsimp only [Runtime.clearUserFlags]
      rw [hactual]
      cases kind <;> rfl
    | error fault =>
      simp only [enterTuning, hon, if_true, houtcome]
      rcases state_switchOff b.stopSettleTimers (tuningState kind) with hstate | hstate
      · refine .misses hoff.linkings hoff.link (eq_of_beq hon) ?_ rfl
        rw [hstate]
        exact isTuning_tuningState kind
      · exact hoff.stays (Or.inl hstate)
  | false =>
    simp only [enterTuning, hon, Bool.false_eq_true, if_false]
    refine hattach _ (steers_enter b _).unlinked_steering ?_
    rw [runtime_enter]

theorem linking_leaveTuning (b : Earbud) (kind : TuningKind) {next : Lifecycle}
    (hn : next.isTuning = false) : Linking b (b.leaveTuning kind next) (.ok ()) := by
  have hdetach : (((b.command .detachTuningLink).command (.exitTuning kind)).setRuntime fun r =>
      { r with tuningSampleRate := none, powerOn := r.powerOn && next != .powerOff }).linkings =
        b.linkings + 1 := by
    simp [linkings, tally, command, setRuntime, Activity.tells, linked]
  have hentered := Work.unlinked_steering (steers_enter
    (((b.command .detachTuningLink).command (.exitTuning kind)).setRuntime fun r =>
      { r with tuningSampleRate := none, powerOn := r.powerOn && next != .powerOff }) next)
  refine .leaves ?_ (hentered.link.trans rfl) ?_ (hentered.rate.trans rfl)
  · unfold leaveTuning
    rw [hentered.linkings, hdetach]
    omega
  · unfold leaveTuning
    rw [runtime_enter]
    exact hn

theorem unentered_start (b : Earbud) (hs : b.runtime.state = .uninitialised) :
    Unentered b b.start.1 := by
  rcases start_fst b with ⟨he, -⟩ | ⟨microphones, mode, ⟨he, -⟩ | ⟨enabled, he, -⟩⟩ <;> rw [he]
  · exact Or.inl rfl
  · exact Or.inl (by rw [runtime_attempt]; rfl)
  · exact Or.inr ⟨by rw [hs]; rfl, by rw [runtime_enter]; rfl⟩

theorem Course.linking {e : Event} {y : Earbud × Outcome} (course : Course b e y) :
    Linking b y.1 y.2 := by
  cases course with
  | demands ds => exact ds.unlinked.1.unlinked.stays ds.unlinked.2
  | start hs =>
    exact ((work_start b).mono starting_within_unlinked).unlinked.stays (unentered_start b hs)
  | powerOn hs =>
    obtain ⟨next, hnext, he⟩ := switchPowerOn_eq b
    refine (steers_switchPowerOn b).unlinked_steering.stays (Or.inr ⟨by rw [hs]; rfl, ?_⟩)
    rw [he, runtime_enter]
    rcases hnext with rfl | rfl <;> rfl
  | powerOffDisabled hs =>
    have hoff : Work steering b (b.setRuntime fun r => { r with powerOn := false }) :=
      .single (.runtime _ rfl)
    refine Unlinked.stays (Work.unlinked_steering (hoff.trans (steers_enter _ _)))
      (Or.inr ⟨by rw [hs]; rfl, ?_⟩)
    rw [runtime_enter]
    rfl
  | powerOffEnabled hs =>
    refine (steers_powerOffEnabled b).unlinked_steering.stays (Or.inr ⟨by rw [hs]; rfl, ?_⟩)
    have hstate := state_switchOff (b.setRuntime fun r =>
      { r with powerOn := false, requestedEnabled := true }).stopSettleTimers .powerOff
    unfold Earbud.powerOffEnabled
    rcases hstate with hstate | hstate <;> rw [hstate]
    · rfl
    · exact congrArg Lifecycle.isTuning hs
  | tune kind hs => exact linking_enterTuning b kind
  | host kind rate hs =>
    have hlink : Work Earbud.unlinked (b.setRuntime fun r => { r with tuningSampleRate := some rate })
        ((b.setRuntime fun r => { r with tuningSampleRate := some rate }).command
          (.enterTuning kind rate)) := .single (.command _ rfl)
    refine .stays hlink.unlinked.linkings hlink.unlinked.link (Or.inl rfl) fun hout => ?_
    rw [hs, isTuning_tuningState] at hout
    cases hout
  | leaveTuning kind next hs hn =>
    exact linking_leaveTuning b kind (by rcases hn with rfl | rfl <;> rfl)
  | startAdaptive hs =>
    have w : Work Earbud.unlinked b b.startAdaptive := attempts_startAdaptive b rfl
    exact w.unlinked.stays (Or.inl (congrArg Runtime.state (runtime_startAdaptive b)))
  | switchOff hs =>
    refine (steers_switchOff b _).unlinked_steering.stays ?_
    exact (state_switchOff b .disabled).symm.imp_right fun h => ⟨by rw [hs]; rfl, by rw [h]; rfl⟩
  | applyPending hs =>
    exact (steers_reconfigure b _ _).unlinked_steering.stays (Or.inl (state_reconfigure b _ _))
  | applyGains hs => exact Unlinked.stays (Work.unlinked (.single (.command _ rfl))) (Or.inl rfl)

theorem Linking.beside {c : Earbud} {outcome : Outcome} (h : Linking a b outcome)
    (w : Work beside b c) : Linking a c outcome := by
  have hstate := state_beside w
  obtain ⟨hcount, hlink, hrate⟩ := (w.mono beside_within_unlinked).unlinked
  cases h with
  | stays hn hl hs hr =>
    exact .stays (hcount.trans hn) (hlink.trans hl) (hs.trans (Or.inl hstate)) fun ha =>
      hrate.trans (hr ha)
  | enters kind hn hl hs => exact .enters kind (by omega) (hlink.trans hl) (hstate.trans hs)
  | leaves hn hl hs hr =>
    exact .leaves (by omega) (hlink.trans hl) (by rw [hstate, hs]) (hrate.trans hr)
  | misses hn hl ha hs ho =>
    exact .misses (hcount.trans hn) (hlink.trans hl) ha (by rw [hstate, hs]) ho

theorem linking_dispatch (b : Earbud) (e : Event) :
    Linking b (b.dispatch e).1 (b.dispatch e).2 :=
  (course_handle b e).linking.beside (work_finishFollowUps _)

/-! ### Runs -/

/-- The link is attached for the session that is on, and a rate is agreed on in a session only. -/
def Tied (b : Earbud) : Prop :=
  (∀ kind, b.tuningLink? = some kind ↔ b.runtime.state = tuningState kind) ∧
    (b.runtime.state.isTuning = false → b.runtime.tuningSampleRate = none)

theorem tied_of_out (hs : b.runtime.state.isTuning = false) (hl : b.tuningLink? = none)
    (hr : b.runtime.tuningSampleRate = none) : Tied b := by
  refine ⟨fun kind => iff_of_false (by simp [hl]) fun he => ?_, fun _ => hr⟩
  rw [he, isTuning_tuningState] at hs
  cases hs

theorem tied_of_in {kind : TuningKind} (hs : b.runtime.state = tuningState kind)
    (hl : b.tuningLink? = some kind) : Tied b := by
  refine ⟨fun kind' => ?_, fun hout => ?_⟩
  · rw [hl, hs, Option.some.injEq]
    exact ⟨fun he => by rw [he], tuningState_injective⟩
  · rw [hs, isTuning_tuningState] at hout
    cases hout

theorem Tied.out (h : Tied b) (hs : b.runtime.state.isTuning = false) : b.tuningLink? = none := by
  cases hl : b.tuningLink? with
  | none => rfl
  | some kind =>
    rw [(h.1 kind).mp hl, isTuning_tuningState] at hs
    cases hs

/-- An event that enters a session although noise control could not be switched off in order. -/
def Misses (b : Earbud) (e : Event) : Prop :=
  b.runtime.state = .enabled ∧ (b.dispatch e).1.runtime.state.isTuning = true ∧
    (b.dispatch e).2.isOk = false

def Turn.misses (b : Earbud) (t : Turn) : Prop := ∃ e, t = .event e ∧ Misses b e

theorem linkings_take (b : Earbud) (t : Turn) : b.linkings ≤ (b.take t).linkings := by
  cases t with
  | event e => exact tally_le (work_dispatch b e).history_suffix linked
  | timers q => exact Nat.le_refl _
  | surround s => exact Nat.le_refl _

/-- One turn keeps the link tied, and keeps a session that goes without its link so. -/
theorem tied_take {missing : Prop} (t : Turn)
    (h : missing ∧ b.runtime.state.isTuning = true ∧ b.tuningLink? = none ∨ ¬missing ∧ Tied b) :
    let missing' := (b.take t).linkings = b.linkings ∧ (missing ∨ Turn.misses b t)
    missing' ∧ (b.take t).runtime.state.isTuning = true ∧ (b.take t).tuningLink? = none ∨
      ¬missing' ∧ Tied (b.take t) := by
  intro missing'
  have hquiet : (b.take t).linkings = b.linkings → ¬Turn.misses b t →
      (missing' ↔ missing) := fun hn hm => by simp [missing', hn, hm]
  cases t with
  | timers q =>
    rw [hquiet rfl fun ⟨e, he, _⟩ => nomatch he]
    exact h
  | surround s =>
    rw [hquiet rfl fun ⟨e, he, _⟩ => nomatch he]
    exact h
  | event e =>
    cases linking_dispatch b e with
    | enters kind hn hl hs =>
      exact Or.inr ⟨fun hm => Nat.ne_of_gt hn hm.1, tied_of_in hs hl⟩
    | leaves hn hl hs hr =>
      exact Or.inr ⟨fun hm => Nat.ne_of_gt hn hm.1, tied_of_out hs hl hr⟩
    | misses hn hl ha hs ho =>
      have hout : b.runtime.state.isTuning = false := by rw [ha]; rfl
      refine Or.inl ⟨⟨hn, Or.inr ⟨e, rfl, ha, hs, ho⟩⟩, hs, ?_⟩
      rcases h with ⟨-, hin, -⟩ | ⟨-, htied⟩
      · rw [hout] at hin
        cases hin
      · exact hl.trans (htied.out hout)
    | stays hn hl hs hr =>
      have hstays : ¬Turn.misses b (.event e) := by
        rintro ⟨e', he, ha, hin, -⟩
        obtain rfl : e = e' := by simpa using he
        rcases hs with hs | ⟨-, hs⟩
        · rw [hs, ha] at hin
          cases hin
        · rw [hs] at hin
          cases hin
      rw [hquiet hn hstays]
      rcases hs with hs | ⟨ha, hs⟩
      · refine h.imp (fun ⟨hm, hin, hnone⟩ => ⟨hm, ?_, hl.trans hnone⟩)
          fun ⟨hm, htied⟩ => ⟨hm, ?_⟩
        · exact (congrArg _ hs).trans hin
        · refine ⟨fun kind => ?_, fun hout => ?_⟩
          · rw [show (b.take (.event e)).tuningLink? = b.tuningLink? from hl,
              show (b.take (.event e)).runtime.state = b.runtime.state from hs]
            exact htied.1 kind
          · have hout : b.runtime.state.isTuning = false := (congrArg _ hs.symm).trans hout
            exact (hr hout).trans (htied.2 hout)
      · rcases h with ⟨-, hin, -⟩ | ⟨hm, htied⟩
        · rw [ha] at hin
          cases hin
        · exact Or.inr ⟨hm, tied_of_out hs (hl.trans (htied.out ha)) ((hr ha).trans (htied.2 ha))⟩

theorem tied_after (c : Config) (clockOrigin : Option WallClock) (store : SessionStore)
    (turns : List Turn) :
    let start := Earbud.new c clockOrigin store
    Since take linkings Turn.misses start turns ∧ (start.after turns).runtime.state.isTuning = true ∧
        (start.after turns).tuningLink? = none ∨
      ¬Since take linkings Turn.misses start turns ∧ Tied (start.after turns) := by
  intro start
  induction turns using List.reverseRecOn with
  | nil => exact Or.inr ⟨not_since_nil start, tied_of_out rfl rfl rfl⟩
  | append_singleton turns t ih =>
    have hstep : start.after (turns ++ [t]) = (start.after turns).take t := List.foldl_append
    rw [since_snoc linkings_take, hstep]
    exact tied_take t ih

/-- Outside a session no rate is agreed on. -/
theorem rate_after (c : Config) (clockOrigin : Option WallClock) (store : SessionStore)
    (turns : List Turn)
    (hout : ((Earbud.new c clockOrigin store).after turns).runtime.state.isTuning = false) :
    ((Earbud.new c clockOrigin store).after turns).runtime.tuningSampleRate = none := by
  rcases tied_after c clockOrigin store turns with ⟨-, hin, -⟩ | ⟨-, htied⟩
  · exact nomatch hout.symm.trans hin
  · exact htied.2 hout

/-- Whatever events come, in whatever order, and whatever fails: the tuning link is attached for the
session that is on, and only in a session a rate is agreed on; except from an event that enters a
session although noise control could not be switched off in order until the link is next attached or
detached. -/
theorem tuning_linked_iff (c : Config) (clockOrigin : Option WallClock) (store : SessionStore)
    (turns : List Turn) :
    let start := Earbud.new c clockOrigin store
    let b := start.after turns
    ((∀ kind, b.tuningLink? = some kind ↔ b.runtime.state = tuningState kind) ∧
        (b.runtime.state.isTuning = false → b.runtime.tuningSampleRate = none)) ↔
      ¬∃ earlier e later, turns = earlier ++ .event e :: later ∧
        (start.after earlier).runtime.state = .enabled ∧
        ((start.after earlier).dispatch e).1.runtime.state.isTuning = true ∧
        ((start.after earlier).dispatch e).2.isOk = false ∧
        b.linkings = (start.after earlier).linkings := by
  intro start b
  have hsince : Since take linkings Turn.misses start turns ↔
      ∃ earlier e later, turns = earlier ++ .event e :: later ∧
        (start.after earlier).runtime.state = .enabled ∧
        ((start.after earlier).dispatch e).1.runtime.state.isTuning = true ∧
        ((start.after earlier).dispatch e).2.isOk = false ∧
        b.linkings = (start.after earlier).linkings := by
    constructor
    · rintro ⟨earlier, t, later, heq, ⟨e, rfl, ha, hs, ho⟩, hn⟩
      exact ⟨earlier, e, later, heq, ha, hs, ho, hn⟩
    · rintro ⟨earlier, e, later, heq, ha, hs, ho, hn⟩
      exact ⟨earlier, .event e, later, heq, ⟨e, rfl, ha, hs, ho⟩, hn⟩
  rw [← hsince]
  rcases tied_after c clockOrigin store turns with ⟨hmissing, hin, hnone⟩ | ⟨hmissing, htied⟩
  · refine iff_of_false (fun htied => ?_) (not_not_intro hmissing)
    have hkind : ∃ kind, b.runtime.state = tuningState kind := by
      change b.runtime.state.isTuning = true at hin
      cases hs : b.runtime.state with
      | tuning => exact ⟨.fixed, rfl⟩
      | adaptiveTuning => exact ⟨.adaptive, rfl⟩
      | _ => rw [hs] at hin; cases hin
    obtain ⟨kind, hs⟩ := hkind
    have hsome := (htied.1 kind).mpr hs
    rw [show b.tuningLink? = none from hnone] at hsome
    cases hsome
  · exact iff_of_true htied hmissing

/-- A mode that waits cannot be loaded on the way into a session: the session is on without its
link. -/
theorem tuning_unlinked :
    ¬∀ (c : Config) (clockOrigin : Option WallClock) (store : SessionStore) (turns : List Turn),
      let b := (Earbud.new c clockOrigin store).after turns
      (∀ kind, b.tuningLink? = some kind ↔ b.runtime.state = tuningState kind) ∧
        (b.runtime.state.isTuning = false → b.runtime.tuningSampleRate = none) := by
  intro h
  have hmissed := (h (.standard "") none {}
    [.event .initialise, .event .powerOn, .event .enable, .event (.timerExpired .configSettle),
      .event (.setMode ⟨1⟩),
      .surround ⟨none, {}, fun _ call => call == .audio (.setMode ⟨1⟩), none, {}, {}⟩,
      .event .enterTuning]).1 .fixed
  exact absurd hmissed (by decide)

end Earbud

end NoiseControl
