import NoiseControl.Proofs.Earbud.Shutdown

/-!
# The parts of a session that are not kept

The settings choose which parts of the session are kept when the power goes off.  The store holds a
session as a whole, so the earlier one is read before it is written over: a part that is not to be kept
stays as it was stored.  Only if the store can be written but not read does it become that of a new
session.
-/

namespace NoiseControl.Earbud

variable {b : Earbud}

/-- Whether the store cannot be read when the power goes off. -/
def unread (b : Earbud) : Bool := b.windDown.failures b.windDown.calls .load

/-- Whether a session was saved since an earlier state. -/
def savedSince (b earlier : Earbud) : Bool :=
  ((b.activitiesSince earlier).filterMap Activity.saved?).any Prod.snd

theorem loadSession_windDown (b : Earbud) :
    b.windDown.loadSession.2 = if b.unread then none else b.store.data := by
  rw [← ((unsaving_windDown b).unsaved rfl).1]
  rfl

/-! ### No part is kept -/

theorem unsaving_enter (hkeeps : (b.config.persist.enabled || b.config.persist.mode) = false)
    (next : Lifecycle) : Work unsaving b (b.enter next) := by
  unfold enter
  dsimp only
  split
  · have hstopped : Work unsaving b (b.stopSettleTimers.cancel .pathGainSettle) :=
      (((Relation.ReflTransGen.single (.cancel _ rfl)).tail (.cancel _ rfl)).tail
        (.cancel _ rfl)).tail (.cancel _ rfl)
    have hkept : (b.stopSettleTimers.cancel .pathGainSettle).persistSession =
        b.stopSettleTimers.cancel .pathGainSettle := if_neg (Bool.eq_false_iff.mp hkeeps)
    rw [hkept]
    exact hstopped.tail (.runtime _ rfl)
  · exact .single (.runtime _ rfl)

theorem unsaved_powerOff (hs : b.runtime.state.isPowered = true) (hdone : b.followUps = [])
    (hkeeps : (b.config.persist.enabled || b.config.persist.mode) = false) :
    let off := (b.dispatch .powerOff).1
    off.store = b.store ∧ off.savedSince b = false := by
  intro off
  obtain ⟨change, -, hoff⟩ := dispatch_powerOff hs hdone
  have hentered : Work unsaving b (b.windDown.enter .powerOff) :=
    (unsaving_windDown b).trans (unsaving_enter (by rwa [(work_windDown b).config]) .powerOff)
  have w : Work unsaving b off := by
    show Work unsaving b (b.dispatch .powerOff).1
    rw [hoff]
    exact hentered.tail (.runtime change rfl)
  obtain ⟨hstore, newer, hnewer, hnone⟩ := w.unsaved rfl
  refine ⟨hstore, ?_⟩
  unfold savedSince
  rw [activitiesSince_eq hnewer, filterMap_saved_of_not_mem hnone]
  rfl

/-! ### Parts that stay -/

/-- What is stored once the power went off. -/
theorem data_powerOff (hs : b.runtime.state.isPowered = true) (hdone : b.followUps = []) :
    let off := (b.dispatch .powerOff).1
    off.store.data = if off.savedSince b
      then some (b.windDown.sessionOver ((if b.unread then none else b.store.data).getD {}))
      else b.store.data := by
  intro off
  cases hkeeps : b.config.persist.enabled || b.config.persist.mode with
  | false =>
    obtain ⟨hstore, hunsaved⟩ := unsaved_powerOff hs hdone hkeeps
    rw [hunsaved]
    exact congrArg SessionStore.data hstore
  | true =>
    obtain ⟨-, hstore, hsaves⟩ := saves_powerOff hs hdone hkeeps
    rw [loadSession_windDown] at hstore hsaves
    generalize b.windDown.sessionOver _ = s at hstore hsaves ⊢
    generalize (!b.windDown.failures (b.windDown.calls + 1) (.save s)) = written at hstore hsaves
    have hsaved : off.savedSince b = written := by
      unfold savedSince
      rw [hsaves]
      exact Bool.or_false written
    rw [hsaved, hstore]
    cases written <;> rfl

/-- After any run, whatever reads and writes of the store fail as the power goes off, a part of the stored
session that is not to be kept is as it was, unless a session is saved although the earlier one could not
be read: then it is the part of a new session. -/
theorem unkept_parts_stay (c : Config) (clockOrigin : Option WallClock) (store : SessionStore)
    (turns : List Turn) (s : Session)
    (hs : ((Earbud.new c clockOrigin store).after turns).runtime.state.isPowered = true)
    (hstored : ((Earbud.new c clockOrigin store).after turns).store.data = some s) :
    let on := (Earbud.new c clockOrigin store).after turns
    let off := (on.dispatch .powerOff).1
    let source : Session := if on.unread && off.savedSince on then {} else s
    ∃ s', off.store.data = some s' ∧
      (c.persist.enabled = false → s'.enabled = source.enabled) ∧
      (c.persist.mode = false → s'.mode = source.mode) := by
  intro on off source
  have hdone : on.followUps = [] := done_after (b := Earbud.new c clockOrigin store) rfl turns
  have hconfig : on.windDown.config = c :=
    (work_windDown on).config.trans (config_after (Earbud.new c clockOrigin store) turns)
  have hdata : off.store.data = _ := data_powerOff hs hdone
  change _ = if off.savedSince on then _ else _ at hdata
  rw [show on.store.data = some s from hstored] at hdata
  by_cases hsaved : off.savedSince on = true
  · have hsource : source = (if on.unread then none else some s).getD {} := by
      show (if on.unread && off.savedSince on then _ else _) = _
      rw [hsaved, Bool.and_true]
      split <;> rfl
    rw [if_pos hsaved, ← hsource] at hdata
    refine ⟨_, hdata, fun hunkept => ?_, fun hunkept => ?_⟩ <;> unfold sessionOver
    · rw [hconfig, hunkept]
      rfl
    · rw [hconfig, hunkept]
      rfl
  · have hsource : source = s := if_neg (by simp [hsaved])
    rw [if_neg hsaved] at hdata
    rw [hsource]
    exact ⟨s, hdata, fun _ => rfl, fun _ => rfl⟩

/-- Only noise control is kept, and the store cannot be read when the power goes off. -/
theorem unkept_parts_stay_unread :
    let c : Config := { Config.standard "" with persist := ⟨true, false, ""⟩ }
    let store : SessionStore := ⟨some { mode := ⟨2⟩ }, 0⟩
    let on := (Earbud.new c none store).after [.event .initialise, .event .powerOn,
      .surround ⟨none, store, fun _ call => call == .load, none, {}, {}⟩]
    on.store.data = some { mode := ⟨2⟩ } ∧
      ∃ s, (on.dispatch .powerOff).1.store.data = some s ∧ s.mode = ⟨0⟩ := by
  intro c store on
  have hstored : on.store.data = some { mode := ⟨2⟩ } := by decide +kernel
  have hlost : (on.unread && (on.dispatch .powerOff).1.savedSince on) = true := by decide +kernel
  obtain ⟨s, hdata, -, hmode⟩ := unkept_parts_stay c none store
    [.event .initialise, .event .powerOn,
      .surround ⟨none, store, fun _ call => call == .load, none, {}, {}⟩] { mode := ⟨2⟩ }
    (by decide +kernel) hstored
  refine ⟨hstored, s, hdata, (hmode rfl).trans ?_⟩
  exact (congrArg Session.mode (if_pos hlost) :)

/-- A part that is not to be kept can be lost. -/
theorem unkept_part_lost : ¬∀ (c : Config) (clockOrigin : Option WallClock) (store : SessionStore)
    (turns : List Turn) (s : Session),
    let on := (Earbud.new c clockOrigin store).after turns
    let off := (on.dispatch .powerOff).1
    on.runtime.state.isPowered = true → on.store.data = some s →
      (c.persist.enabled = false → off.store.data.map Session.enabled = some s.enabled) ∧
      (c.persist.mode = false → off.store.data.map Session.mode = some s.mode) := by
  intro h
  have hkept := h { Config.standard "" with persist := ⟨true, false, ""⟩ } none
    ⟨some { mode := ⟨2⟩ }, 0⟩ [.event .initialise, .event .powerOn,
      .surround ⟨none, ⟨some { mode := ⟨2⟩ }, 0⟩, fun _ call => call == .load, none, {}, {}⟩]
    { mode := ⟨2⟩ } rfl rfl
  exact absurd (hkept.2 rfl) (by decide +kernel)

end NoiseControl.Earbud
