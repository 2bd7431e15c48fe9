import NoiseControl.Proofs.Earbud.PowerOff

/-!
# The audio chain without power

While the power is off requests are refused, agreed instants do not count and timers mean nothing, so
an event gives the audio chain no command.  A report of the peer is the exception: its leakthrough gain
is followed in every state, and written to the hardware wherever the mode and the layout have one.
-/

namespace NoiseControl

open QuietMode (Effect Synchronizer)

def Activity.command? : Activity → Option AudioCommand
  | .audio c _ => some c
  | _ => none

def QuietMode.Effect.switches : Effect → Bool
  | .switchOn | .switchOff => true
  | _ => false

theorem QuietMode.Synchronizer.switches_peerRecord (s : Synchronizer) (record : QuietMode.Record)
    (now : WallClock) : ∀ e ∈ (s.peerRecord record now).2, e.switches = false := by
  intro e he
  have hschedules := (s.peerRecord_effects record now).2 e he
  cases e <;> first | rfl | cases hschedules

namespace Earbud

variable {x : Extent} {a b c : Earbud} {cs ds : List AudioCommand} {e : Event}

/-! ### The commands given -/

/-- The commands given to the audio chain since `former`, oldest first, carried out or not. -/
def commandsSince (b former : Earbud) : List AudioCommand :=
  (b.activitiesSince former).filterMap Activity.command?

/-- From `a` to `b` exactly these commands were given, in this order. -/
def Gives (a : Earbud) (cs : List AudioCommand) (b : Earbud) : Prop :=
  ∃ newer, b.history = newer ++ a.history ∧ (newer.filterMap Activity.command?).reverse = cs

theorem Gives.trans (h : Gives a cs b) (h' : Gives b ds c) : Gives a (cs ++ ds) c := by
  obtain ⟨newer, he, rfl⟩ := h
  obtain ⟨newest, he', rfl⟩ := h'
  refine ⟨newest ++ newer, by rw [he', he, List.append_assoc], ?_⟩
  rw [List.filterMap_append, List.reverse_append]

theorem Gives.commandsSince (h : Gives a cs b) : b.commandsSince a = cs := by
  obtain ⟨newer, he, rfl⟩ := h
  unfold Earbud.commandsSince
  rw [activitiesSince_eq he, List.filterMap_reverse]

theorem gives_nothing (h : b.history = a.history) : Gives a [] b := ⟨[], h, rfl⟩

/-- Work that has no command to give gives none. -/
theorem Work.gives_nothing (w : Work x a b) (hx : ∀ c, x.audio c = false) : Gives a [] b := by
  obtain ⟨newer, he, hin⟩ := w.history
  refine ⟨newer, he, ?_⟩
  rw [List.reverse_eq_nil_iff, List.filterMap_eq_nil_iff]
  intro activity hmem
  cases activity with
  | audio c done => exact nomatch (hx c).symm.trans (hin c done hmem)
  | sent r => rfl
  | saved s done => rfl

theorem gives_attempt (b : Earbud) (c : AudioCommand) : Gives b [c] (b.attempt c).1 := by
  rcases attempt_fst b c with h | h <;> rw [h]
  · exact ⟨[.audio c false], rfl, rfl⟩
  · exact ⟨[.audio c true], rfl, rfl⟩

/-! ### Leaving the audio chain alone -/

/-- Anything but commands to the audio chain. -/
def inaudible : Extent where
  keeps _ := {}
  timer _ := true
  audio _ := false
  talks := true

theorem inaudible_adopt {decision : Synchronizer.Decision}
    (h : ∀ e ∈ decision.2, e.switches = false) (b : Earbud) : Work inaudible b (b.adopt decision) := by
  have hcarry : ∀ (effects : List Effect) (b : Earbud), (∀ e ∈ effects, e.switches = false) →
      Work inaudible b (effects.foldl carryOut b) := by
    intro effects
    induction effects with
    | nil => exact fun _ _ => .refl
    | cons e rest ih =>
      intro b hnone
      refine .trans ?_ (ih _ fun e he => hnone e (List.mem_cons_of_mem _ he))
      have he := hnone e List.mem_cons_self
      cases e with
      | arm d after => exact .single (.arm _ _ rfl)
      | fireNow d => exact .single (.defer _ rfl)
      | cancel d => exact .single (.cancel _ rfl)
      | publish r => exact (Relation.ReflTransGen.single (.announce _)).tail (.send _ rfl)
      | switchOn => cases he
      | switchOff => cases he
  exact .trans (.single (.negotiate decision.1 rfl)) (hcarry decision.2 _ h)

theorem inaudible_resetQuietMode (b : Earbud) : Work inaudible b b.resetQuietMode :=
  inaudible_adopt (by simp [Synchronizer.reset, Effect.switches]) b

theorem inaudible_announceBothGains (b : Earbud) (ofPeer : UInt8) :
    Work inaudible b (b.announceBothGains ofPeer) :=
  .single (.announce _)

theorem inaudible_pollGain (b : Earbud) : Work inaudible b b.pollGain := by
  unfold pollGain
  split
  · have hread : Work inaudible b
        (b.setRuntime fun r => { r with feedForwardGain := b.audio.feedForwardGain }) :=
      .single (.runtime _ rfl)
    have hpolled := (hread.tail (.arm .gainPoll b.config.timing.gainPoll rfl)).tail
      (.announce (.feedForwardGain b.audio.feedForwardGain))
    dsimp only
    split
    · exact hpolled.trans (inaudible_announceBothGains _ _)
    · exact hpolled
  · exact .refl

theorem inaudible_receiveRecord (b : Earbud) (r : QuietMode.Record) :
    Work inaudible b (b.receiveRecord r) := by
  unfold receiveRecord
  split
  · exact .refl
  · exact inaudible_adopt (b.quietMode.switches_peerRecord r b.wallNow) b

theorem inaudible_ownPlaced (hs : b.isEnabled = false) (p : Placement) :
    Work inaudible b (b.ownPlaced p) := by
  have hidle : ¬((b.setRuntime fun r => { r with placement := p }).runtime.actualEnabled &&
      (b.setRuntime fun r => { r with placement := p }).isEnabled) = true := by
    have hsame : (b.setRuntime fun r => { r with placement := p }).isEnabled = b.isEnabled := rfl
    simp [hsame, hs]
  unfold ownPlaced
  dsimp only
  rw [if_neg hidle]
  exact .single (.runtime _ rfl)

theorem inaudible_peerPlaced (b : Earbud) (p : Placement) : Work inaudible b (b.peerPlaced p) := by
  have hset : Work inaudible b (b.setRuntime fun r => { r with peerInCase := p == .inCase }) :=
    .single (.runtime _ rfl)
  unfold peerPlaced
  dsimp only
  split
  · have hreset := hset.trans (inaudible_resetQuietMode _)
    split
    · exact (hreset.trans (inaudible_announceBothGains _ _)).tail (.arm _ _ rfl)
    · exact hreset
  · exact hset

/-! ### The peer's gain -/

theorem gives_writeLeakthrough (b : Earbud) :
    Gives b
      (if b.hasLeakthrough then
        b.config.layout.leakthroughTargets.map fun target =>
          .setGain target.1 target.2 b.runtime.leakthroughGain
      else []) b.writeLeakthrough := by
  -- The gain to write is read from the runtime state each time, which an attempt leaves alone.
  have hwrite : ∀ (targets : List (Channel × GainPath)) (b : Earbud),
      Gives b (targets.map fun target => .setGain target.1 target.2 b.runtime.leakthroughGain)
        (targets.foldl
          (fun b target => (b.attempt (.setGain target.1 target.2 b.runtime.leakthroughGain)).1) b) := by
    intro targets
    induction targets with
    | nil => exact fun b => gives_nothing rfl
    | cons target rest ih =>
      intro b
      have hrest := ih (b.attempt (.setGain target.1 target.2 b.runtime.leakthroughGain)).1
      rw [runtime_attempt] at hrest
      exact (gives_attempt b _).trans hrest
  unfold writeLeakthrough
  split
  · exact hwrite _ b
  · exact gives_nothing rfl

theorem gives_setLeakthrough (b : Earbud) (gain : UInt8) :
    Gives b
      (if b.hasLeakthrough then
        b.config.layout.leakthroughTargets.map fun target => .setGain target.1 target.2 gain
      else []) (b.setLeakthrough gain) := by
  have hstored : Gives b [] (b.storeLeakthrough gain) := by
    unfold storeLeakthrough
    split <;> exact gives_nothing rfl
  have hannounced : ∀ x : Earbud, Gives x [] x.announceLeakthrough := by
    intro x
    unfold announceLeakthrough
    split <;> exact gives_nothing rfl
  have hwritten := (hstored.trans (gives_writeLeakthrough _)).trans (hannounced _)
  rw [List.nil_append, List.append_nil] at hwritten
  unfold setLeakthrough
  cases hmode : b.hasLeakthrough with
  | true =>
    have hset : b.storeLeakthrough gain = b.setRuntime fun r => { r with leakthroughGain := gain } :=
      if_pos hmode
    have hkept : (b.storeLeakthrough gain).hasLeakthrough = true := by
      rw [hset]
      exact hmode
    rw [hkept, hset] at hwritten
    rw [hset]
    exact hwritten
  | false =>
    have hset : b.storeLeakthrough gain = b := if_neg (by simp [hmode])
    rw [hset, hmode] at hwritten
    rw [hset]
    exact hwritten

/-- The gains that a report of the peer has written: its leakthrough gain, where it is news and the
peer is not in its case, to all that take one in the present mode. -/
def gainsFollowed (b : Earbud) (report : PeerReport) : List AudioCommand :=
  if b.runtime.peerInCase = false ∧ report.leakthroughGain ≠ b.runtime.leakthroughGain ∧
      b.runtime.currentMode.isAdaptive = false then
    b.config.layout.leakthroughTargets.map fun target =>
      .setGain target.1 target.2 report.leakthroughGain
  else []

theorem gainsFollowed_eq_nil_iff (b : Earbud) (report : PeerReport) :
    b.gainsFollowed report = [] ↔
      ¬(b.runtime.peerInCase = false ∧ report.leakthroughGain ≠ b.runtime.leakthroughGain ∧
        b.runtime.currentMode.isAdaptive = false ∧ b.config.layout.leakthroughTargets ≠ []) := by
  unfold gainsFollowed
  split <;> rename_i h
  · simp [h]
  · simp only [true_iff]
    exact fun h' => h ⟨h'.1, h'.2.1, h'.2.2.1⟩

theorem gives_followPeer (hoff : b.runtime.state ≠ .disabled) (hon : b.runtime.state ≠ .enabled)
    (report : PeerReport) : Gives b (b.gainsFollowed report) (b.followPeer report) := by
  cases hcase : b.runtime.peerInCase with
  | true =>
    unfold followPeer gainsFollowed
    rw [if_pos hcase, if_neg (by simp [hcase])]
    exact gives_nothing rfl
  | false =>
    rw [followPeer_eq b report hcase, followSwitch_refused hoff hon, followMode_refused hoff hon]
    unfold followLeakthrough gainsFollowed
    by_cases hgain : report.leakthroughGain = b.runtime.leakthroughGain
    · rw [if_pos hgain, if_neg (by simp [hgain])]
      exact gives_nothing rfl
    · have hset := gives_setLeakthrough b report.leakthroughGain
      rw [if_neg hgain]
      simpa [hcase, hgain, hasLeakthrough] using hset

/-! ### Events without power -/

/-- What an event commands while the power is off and stays off. -/
def commandsWithoutPower (b : Earbud) : Event → List AudioCommand
  | .peerState report => b.gainsFollowed report
  | _ => []

theorem gives_handle (hs : b.runtime.state = .powerOff) (hpower : e ≠ .powerOn) :
    Gives b (b.commandsWithoutPower e) (b.handle e).1 := by
  have hoff : b.runtime.state ≠ .disabled := by simp [hs]
  have hon : b.runtime.state ≠ .enabled := by simp [hs]
  have hquiet : ∀ {x : Earbud}, Work inaudible b x → Gives b [] x := fun w =>
    w.gives_nothing fun _ => rfl
  have hin : ∀ e' : Event, e' ≠ .powerOn → Gives b [] (b.handleInState e').1 := by
    intro e' he
    rw [handleInState_unpowered (by rw [hs]; rfl) (fun _ => by simp [hs]) fun h => absurd h he]
    exact gives_nothing rfl
  cases e with
  | peerRecord r => exact hquiet (inaudible_receiveRecord b r)
  | peerState report => exact gives_followPeer hoff hon report
  | peerFeedForwardGain gain => exact hquiet (inaudible_announceBothGains b gain)
  | peerLinkLost => exact hquiet (inaudible_resetQuietMode b)
  | placed whose p =>
    cases whose with
    | own => exact hquiet (inaudible_ownPlaced (isEnabled_eq_false hon) p)
    | peer => exact hquiet (inaudible_peerPlaced b p)
  | timerExpired k =>
    cases k with
    | gainPoll => exact hquiet (inaudible_pollGain b)
    | quietMode d => exact hin (.quietModeFire d) nofun
    | _ => exact hin _ hpower
  | enable =>
    show Gives b [] b.chooseEnable.1
    rw [chooseEnable_refused hoff]
    exact gives_nothing rfl
  | setMode m =>
    show Gives b [] (b.chooseMode m).1
    rw [chooseMode_refused hoff hon]
    exact gives_nothing rfl
  | setNextMode =>
    show Gives b [] (b.chooseMode _).1
    rw [chooseMode_refused hoff hon]
    exact gives_nothing rfl
  | _ => exact hin _ hpower

theorem commandsSince_powerOff (hs : b.runtime.state = .powerOff)
    (hstays : (b.dispatch e).1.runtime.state = .powerOff) :
    (b.dispatch e).1.commandsSince b = b.commandsWithoutPower e := by
  have hstate : (b.handle e).1.runtime.state = .powerOff := (state_dispatch b e).symm.trans hstays
  have hout : ((b.handle e).1.isEnabled && (b.handle e).1.audio.adaptive) = false := by
    simp [isEnabled, hstate]
  have hend : (b.dispatch e).1 = { (b.handle e).1 with followUps := [] } :=
    finishFollowUps_outside hout
  have hfollowed : Gives (b.handle e).1 [] (b.dispatch e).1 := gives_nothing (by rw [hend])
  have hgives := (gives_handle hs (ne_powerOn_of_off hs hstays)).trans hfollowed
  rw [List.append_nil] at hgives
  exact hgives.commandsSince

section Run

variable (c : Config) (clockOrigin : Option WallClock) (store : SessionStore)

/-- After any run, an event in the state `powerOff` that does not leave it commands nothing, unless it
is a report of the peer, not in its case, with a leakthrough gain that is news, where the mode and the
layout have such a gain. -/
theorem audio_rests_iff (turns : List Turn) (e : Event)
    (hs : ((Earbud.new c clockOrigin store).after turns).runtime.state = .powerOff)
    (hstays : (((Earbud.new c clockOrigin store).after turns).dispatch e).1.runtime.state = .powerOff) :
    let b := (Earbud.new c clockOrigin store).after turns
    (b.dispatch e).1.commandsSince b = [] ↔
      ¬∃ report, e = .peerState report ∧ b.runtime.peerInCase = false ∧
        report.leakthroughGain ≠ b.runtime.leakthroughGain ∧
        b.runtime.currentMode.isAdaptive = false ∧ b.config.layout.leakthroughTargets ≠ [] := by
  intro b
  rw [commandsSince_powerOff hs hstays]
  cases e with
  | peerState report =>
    rw [commandsWithoutPower, gainsFollowed_eq_nil_iff]
    refine not_congr ⟨fun h => ⟨report, rfl, h⟩, ?_⟩
    rintro ⟨report', he, h⟩
    cases he
    exact h
  | _ => exact iff_of_true rfl fun ⟨_, he, _⟩ => nomatch he

/-- A report that the peer's noise control is on, in another mode and with another gain, is not
followed in the adaptive mode. -/
theorem audio_rests_iff_adaptive :
    let b := (Earbud.new (.standard "") none {}).after [.event .initialise]
    let e : Event := .peerState { enabled := true, mode := ⟨1⟩, leakthroughGain := 5 }
    b.runtime.state = .powerOff ∧ (b.dispatch e).1.runtime.state = .powerOff ∧
      (b.dispatch e).1.commandsSince b = [] := by
  intro b e
  have hrests := audio_rests_iff (.standard "") none {} [.event .initialise] e (by decide) (by decide)
  refine ⟨by decide, by decide, hrests.mpr ?_⟩
  rintro ⟨report, -, -, -, hmode, -⟩
  exact absurd hmode (by decide)

end Run

/-- The gain that the peer reports is written while the power is off. -/
theorem gain_written_without_power : ¬∀ (c : Config) (clockOrigin : Option WallClock)
    (store : SessionStore) (turns : List Turn) (e : Event),
      ((Earbud.new c clockOrigin store).after turns).runtime.state = .powerOff →
      (((Earbud.new c clockOrigin store).after turns).dispatch e).1.runtime.state = .powerOff →
      (((Earbud.new c clockOrigin store).after turns).dispatch e).1.commandsSince
        ((Earbud.new c clockOrigin store).after turns) = [] := by
  intro h
  have hsilent := h (.standard "") none { data := some { mode := ⟨2⟩ } } [.event .initialise]
    (.peerState { enabled := false, mode := ⟨2⟩, leakthroughGain := 5 }) (by decide) (by decide)
  exact absurd hsilent (by decide)

end Earbud

end NoiseControl
