import Mathlib.Data.List.Induction
import NoiseControl.Proofs.Earbud.Classification

/-!
# What an event comes down to

Whatever the event and the state, an earbud goes through a few acts: requests made in the states
where they are not refused, and touches aside, which leave alone the state, the modes, what is asked
for and the timers of requests.  What each act keeps, each event keeps.
-/

namespace NoiseControl.Earbud

/-- Nothing that bears on a request or on what came of it. -/
def aside : Extent where
  keeps r :=
    { state := r.state, powerOn := r.powerOn, requestedEnabled := r.requestedEnabled,
      actualEnabled := r.actualEnabled, currentMode := r.currentMode,
      requestedMode := r.requestedMode, previousMode := r.previousMode, numModes := r.numModes,
      clockBoost := r.clockBoost }
  timer
    | .gainPoll | .quietMode _ => true
    | _ => false
  audio
    | .adaptiveOn .. | .adaptiveOff | .exitTuning _ => false
    | _ => true
  talks := true

inductive Act : Earbud → Earbud → Prop where
  | aside {a b : Earbud} (t : Touch aside a b) : Act a b
  | enable (b : Earbud) (hs : b.runtime.state = .disabled) : Act b b.requestEnable.1
  | disable (b : Earbud) (hs : b.runtime.state = .enabled) : Act b b.requestDisable.1
  | mode (b : Earbud) (m : Mode) (hs : b.runtime.state = .disabled ∨ b.runtime.state = .enabled) :
      Act b (b.requestMode m).1
  /-- The mode to go back to after a call is noted. -/
  | remember (b : Earbud) :
      Act b (b.setRuntime fun r => { r with previousMode := r.currentMode, modeForCall := true })
  | powerOffEnabled (b : Earbud) (hs : b.runtime.state = .enabled) : Act b b.powerOffEnabled.1
  | powerOffDisabled (b : Earbud) (hs : b.runtime.state = .disabled) :
      Act b ((b.setRuntime fun r => { r with powerOn := false }).enter .powerOff)
  | powerOn (b : Earbud) (hs : b.runtime.state = .powerOff) (hoff : b.runtime.actualEnabled = false) :
      Act b b.switchPowerOn
  | tune (b : Earbud) (kind : TuningKind)
      (hs : b.runtime.state = .disabled ∨ b.runtime.state = .enabled) : Act b (b.enterTuning kind).1
  | leaveTuning (b : Earbud) (kind : TuningKind) (next : Lifecycle)
      (hs : b.runtime.state = .tuning ∨ b.runtime.state = .adaptiveTuning)
      (hn : next = .powerOff ∨ next = .disabled) : Act b (b.leaveTuning kind next)
  | start (b : Earbud) (hs : b.runtime.state = .uninitialised) : Act b b.start.1
  | startAdaptive (b : Earbud) (hs : b.runtime.state = .enabled) : Act b b.startAdaptive
  | switchOff (b : Earbud) (hs : b.runtime.state = .enabled) : Act b (b.switchOff .disabled).1
  | applyPending (b : Earbud) (hs : b.runtime.state = .enabled) : Act b b.applyPending.1

abbrev Acts : Earbud → Earbud → Prop := Relation.ReflTransGen Act

variable {a b : Earbud}

theorem beside_within_aside : beside.Within aside where
  keeps _ _ h := (congrArg aside.keeps h :)
  timer k h := by cases k <;> first | rfl | cases h
  audio c h := by cases c <;> first | rfl | cases h
  talks h := h
  tells _ _ := rfl
  saves _ := rfl

theorem Work.acts (w : Work aside a b) : Acts a b :=
  Relation.ReflTransGen.mono (fun _ _ => Act.aside) _ _ w

theorem Demand.act (d : Demand a b) : Act a b := by
  cases d with
  | beside t => exact .aside (t.mono beside_within_aside)
  | enable hs => exact .enable a hs
  | disable hs => exact .disable a hs
  | mode m hs => exact .mode a m hs
  | remember => exact .remember a

theorem Course.acts {e : Event} {y : Earbud × Outcome} (hc : b.runtime.Classified)
    (course : Course b e y) : Acts b y.1 := by
  cases course with
  | demands ds => exact Relation.ReflTransGen.mono (fun _ _ => Demand.act) _ _ ds
  | start hs => exact .single (.start b hs)
  | powerOn hs => exact .single (.powerOn b hs (by rw [hc.hardware, hs]; rfl))
  | powerOffDisabled hs => exact .single (.powerOffDisabled b hs)
  | powerOffEnabled hs => exact .single (.powerOffEnabled b hs)
  | tune kind hs => exact .single (.tune b kind hs)
  | host kind rate hs =>
    exact (Relation.ReflTransGen.single (.aside (.runtime _ rfl))).tail (.aside (.command _ rfl))
  | leaveTuning kind next hs hn =>
    have htuning : b.runtime.state = .tuning ∨ b.runtime.state = .adaptiveTuning := by
      cases kind with
      | fixed => exact Or.inl hs
      | adaptive => exact Or.inr hs
    exact .single (.leaveTuning b kind next htuning hn)
  | startAdaptive hs => exact .single (.startAdaptive b hs)
  | switchOff hs => exact .single (.switchOff b hs)
  | applyPending hs => exact .single (.applyPending b hs)
  | applyGains hs => exact .single (.aside (.command .applyPathGains rfl))

/-- What each act keeps is kept by an event and by what follows from it. -/
theorem dispatch_induction {P : Earbud → Prop} (act : ∀ a b, Act a b → P a → P b)
    (hc : b.runtime.Classified) (h : P b) (e : Event) : P (b.dispatch e).1 := by
  have hacts : ∀ a b, Acts a b → P a → P b := by
    intro a b w ha
    induction w with
    | refl => exact ha
    | tail _ t ih => exact act _ _ t ih
  have hhandled : P (b.handle e).1 := hacts _ _ ((course_handle b e).acts hc) h
  exact hacts _ _ ((work_finishFollowUps _).mono beside_within_aside).acts hhandled

/-! ### Runs -/

/-- What holds at first and is kept by each kind of move of an earbud that is sound holds along
every run. -/
theorem run_induction {P : Earbud → Prop} (c : Config) (clockOrigin : Option WallClock)
    (store : SessionStore) (new : P (Earbud.new c clockOrigin store))
    (event : ∀ b e, Sound b → e.isExternal = true → P b → P (b.dispatch e).1)
    (expiry : ∀ b k timers, Sound b → b.timers.popDue? = some (k, timers) → P b →
      P (({ b with timers := timers } : Earbud).dispatch (.timerExpired k)).1)
    (wait : ∀ b t, P b → P (b.advanceTo t)) (surround : ∀ b s, P b → P (b.surround s))
    (moves : List Move) : P ((Earbud.new c clockOrigin store).run moves) := by
  induction moves using List.reverseRecOn with
  | nil => exact new
  | append_singleton moves m ih =>
    have hsound := (sound_run c clockOrigin store moves).1
    rw [run_snoc, perform_eq]
    cases m with
    | event e he => exact event _ e hsound he ih
    | expiry =>
      simp only [dispatched?]
      cases hp : ((Earbud.new c clockOrigin store).run moves).timers.popDue? with
      | none => exact ih
      | some p => exact expiry _ p.1 p.2 hsound hp ih
    | wait t => exact wait _ t ih
    | surround s => exact surround _ s ih

end NoiseControl.Earbud
