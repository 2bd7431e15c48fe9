import NoiseControl.Proofs.Earbud.Driving
import NoiseControl.Proofs.Earbud.Stroke

/-!
# What clients hear of the switch

Clients are told of each switch of the hardware that is confirmed, and of nothing else.  When the
hardware refuses to go off with the power, noise control is taken to be off all the same and they are
told nothing: they last heard that it is on, until the hardware is next switched.
-/

namespace NoiseControl

/-- What a notification says of whether noise control is on. -/
def Notification.switch? : Notification → Option Bool
  | .stateChanged on => some on
  | _ => none

namespace Earbud

variable {x : Extent} {a b c : Earbud} {v w : Option Bool} {reads : Bool}

/-- Between two earbuds clients are told this of the switch last, if anything. -/
def Tells (a b : Earbud) (v : Option Bool) : Prop :=
  ∃ newer, b.clients.sent = newer ++ a.clients.sent ∧ newer.findSome? Notification.switch? = v

theorem tells_refl (b : Earbud) : Tells b b none := ⟨[], rfl, rfl⟩

theorem Tells.trans (h : Tells a b v) (h' : Tells b c w) : Tells a c (w.or v) := by
  obtain ⟨newer, he, hv⟩ := h
  obtain ⟨newest, he', hw⟩ := h'
  exact ⟨newest ++ newer, by rw [he', he, List.append_assoc], by rw [List.findSome?_append, hw, hv]⟩

theorem tells_announce (b : Earbud) (n : Notification) : Tells b (b.announce n) n.switch? := by
  refine ⟨[n], rfl, ?_⟩
  rw [List.findSome?_singleton]

theorem Work.tells_none (w : Work x a b) (hx : ∀ on, x.tells (.stateChanged on) = false) :
    Tells a b none := by
  obtain ⟨newer, he, hin⟩ := w.sent
  refine ⟨newer, he, List.findSome?_eq_none_iff.mpr fun n hn => ?_⟩
  cases n with
  | stateChanged on => exact nomatch (hx on).symm.trans (hin _ hn)
  | _ => rfl

/-- Clients are told of the switch when the hardware is switched, and they are told how it is then;
otherwise they are not and it is as it was. -/
def Reported (a b : Earbud) : Prop :=
  (Tells a b none ∧ b.tally drives = a.tally drives ∧
      b.runtime.actualEnabled = a.runtime.actualEnabled) ∨
    (Tells a b (some b.runtime.actualEnabled) ∧ a.tally drives < b.tally drives)

theorem reported_refl (b : Earbud) : Reported b b := Or.inl ⟨tells_refl b, rfl, rfl⟩

theorem Reported.trans (h : Reported a b) (h' : Reported b c) : Reported a c := by
  rcases h with ⟨htells, hn, hon⟩ | ⟨htells, hn⟩ <;>
    rcases h' with ⟨htells', hn', hon'⟩ | ⟨htells', hn'⟩
  · exact Or.inl ⟨htells.trans htells', hn'.trans hn, hon'.trans hon⟩
  · exact Or.inr ⟨htells.trans htells', by omega⟩
  · rw [← hon'] at htells
    exact Or.inr ⟨htells.trans htells', by omega⟩
  · exact Or.inr ⟨htells.trans htells', by omega⟩

theorem Reported.work (h : Reported a b) (w : Work x b c)
    (hon : c.runtime.actualEnabled = b.runtime.actualEnabled)
    (htells : ∀ on, x.tells (.stateChanged on) = false)
    (haudio : ∀ c done, x.audio c = true → drives c done = none) : Reported a c :=
  h.trans (Or.inl ⟨w.tells_none htells, w.tally haudio, hon⟩)

theorem Reported.still (h : Reported a b) (w : Work still b c) : Reported a c :=
  h.work w (congrArg Runtime.actualEnabled w.keeps :) (fun _ => rfl)
    fun c done hc => by cases c <;> first | rfl | cases hc

theorem Reported.levels (h : Reported a b) (w : Work levels b c) : Reported a c :=
  h.work w (congrArg Runtime.actualEnabled w.keeps :) (fun _ => rfl)
    fun c done hc => by cases c <;> first | rfl | cases hc

/-! ### Reconfigurations -/

theorem tells_switchHardware (b : Earbud) (on : Bool) :
    Tells b (b.switchHardware on).1 (if (b.switchHardware on).2.isOk then some on else none) := by
  have hturned : Tells b (if on then b.hardwareOn else b.stopAdaptive.hardwareOff).1 none :=
    (work_turnHardware b on).tells_none fun _ => rfl
  unfold switchHardware
  split <;> rename_i turned heq <;> rw [heq] at hturned
  · have hset : Tells b (turned.setRuntime fun r => { r with actualEnabled := on }) none := hturned
    dsimp only
    split
    · have hsettled := (work_settleAdaptive (turned.setRuntime fun r =>
        { r with actualEnabled := on }) on).tells_none fun _ => rfl
      exact (hset.trans hsettled).trans (tells_announce _ (.stateChanged on))
    · exact hset.trans (tells_announce _ (.stateChanged on))
  · exact hturned

theorem reported_inPower (b : Earbud) (on : Bool) : Reported b (b.inPower on).1 := by
  have htells := tells_switchHardware b on
  have hdriven := drives_switchHardware b on
  unfold inPower
  split
  · exact reported_refl b
  · rcases switchHardware_cases b on with ⟨hok, hr⟩ | ⟨herror, hr⟩
    · rw [hok] at htells hdriven
      refine Or.inr ⟨?_, by rw [hdriven]; exact Nat.lt_succ_self _⟩
      rw [hr]
      exact htells
    · rw [herror] at htells hdriven
      exact Or.inl ⟨htells, hdriven, by rw [hr]⟩

theorem reported_reconfigure (b : Earbud) (on : Bool) (m : Mode) :
    Reported b (b.reconfigure on m).1 := by
  have hboosted : ∀ (x : Earbud) (raised : Bool), Reported x (x.boost raised) := fun x raised =>
    (reported_refl x).still (work_boost x raised (fun _ => rfl) rfl)
  have hmode := work_inMode (b.boost true) (fun _ => true) (m := m) rfl rfl
  have hmoded := (hboosted b true).work hmode (congrArg Runtime.actualEnabled hmode.keeps :)
    (fun _ => rfl) fun c done hc => by cases c <;> first | rfl | cases hc
  have htold := work_tellAdaptive (((b.boost true).inMode m).1.inPower on).1 b.runtime.actualEnabled
    b.runtime.currentMode
  rw [reconfigure_stages]
  refine Reported.trans ?_ (hboosted _ false)
  exact (hmoded.trans (reported_inPower _ on)).work htold
    (congrArg Runtime.actualEnabled htold.keeps :) (fun _ => rfl)
    fun c done hc => by cases c <;> first | rfl | cases hc

/-! ### Events -/

theorem Strokes.reported (s : Strokes a reads b) : Reported a b := by
  induction s with
  | start => exact reported_refl a
  | touch _ t ih => exact ih.still (.single t)
  | settle _ ih => exact ih.trans (Or.inl ⟨⟨[], rfl, rfl⟩, rfl, rfl⟩)
  | write _ gain ih => exact ih.levels (levels_setLeakthrough _ gain)
  | read _ ih => exact ih.levels (levels_refreshLeakthrough _)
  | reconfigure _ on m ih => exact ih.trans (reported_reconfigure _ on m)

theorem tells_start (b : Earbud) : Tells b b.start.1 none := by
  have hprobe : ∀ c, Tells b (b.loadSession.1.attempt c).1 none := fun c =>
    Work.tells_none (x := { anything with tells := gains.tells })
      ((Relation.ReflTransGen.single .load).tail (.attempt c rfl)) fun _ => rfl
  rcases start_fst b with ⟨he, -⟩ | ⟨microphones, mode, ⟨he, -⟩ | ⟨enabled, he, -⟩⟩ <;> rw [he]
  · exact tells_refl b
  · exact hprobe _
  · refine Tells.trans (v := none) (w := none) ?_ ((parts_enter _ .powerOff).tells_none fun _ => rfl)
    exact hprobe (.start microphones mode)

theorem reported_start (hoff : b.runtime.actualEnabled = false) : Reported b b.start.1 :=
  Or.inl ⟨tells_start b, tally_start b fun _ _ _ => rfl, (actualEnabled_start hoff).trans hoff.symm⟩

/-- Only where the power goes off with noise control on may clients not be told how the hardware is
taken to be. -/
theorem Account.reported {e : Event} (account : Account b e c)
    (hoff : b.runtime.state = .uninitialised → b.runtime.actualEnabled = false)
    (he : e = .powerOff → b.runtime.state ≠ .enabled) : Reported b c := by
  have hpolling : ∀ {c : Earbud}, Work polling b c → Reported b c := fun w =>
    (reported_refl b).work w (congrArg Runtime.actualEnabled w.keeps :) (fun _ => rfl)
      fun c done hc => by cases c <;> first | rfl | cases hc
  cases account with
  | strokes s => exact s.reported
  | start hs => exact reported_start (hoff hs)
  | powerOff hs => exact absurd hs (he rfl)
  | applyGains => exact Or.inl ⟨⟨[], rfl, rfl⟩, rfl, rfl⟩
  | poll => exact hpolling (polling_pollGain b)
  | peerPlaced p => exact hpolling (polling_peerPlaced b p)

theorem reported_dispatch {e : Event}
    (hoff : b.runtime.state = .uninitialised → b.runtime.actualEnabled = false)
    (he : e = .powerOff → b.runtime.state ≠ .enabled) : Reported b (b.dispatch e).1 :=
  ((account_handle b e).reported hoff he).still (still_finishFollowUps _)

/-- The hardware goes off with the power and clients are told so, or it is taken to be off and they
are told nothing. -/
theorem powerOff_reported (hs : b.runtime.state = .enabled) :
    let after := (b.dispatch .powerOff).1
    after.runtime.actualEnabled = false ∧
      ((Tells b after none ∧ after.tally drives = b.tally drives) ∨
        (Tells b after (some false) ∧ b.tally drives < after.tally drives)) := by
  intro after
  have hhandle : (b.handle .powerOff).1 = b.powerOffEnabled.1 :=
    congrArg Prod.fst (handleInState_enabled b hs .powerOff)
  have hafter : after = b.powerOffEnabled.1.finishFollowUps :=
    congrArg finishFollowUps hhandle
  have hoff : after.runtime.actualEnabled = false := by
    rw [hafter, runtime_finishFollowUps]
    exact congrArg Runtime.actualEnabled (runtime_switchOff _ .powerOff)
  refine ⟨hoff, ?_⟩
  generalize hforced : b.leaveHardware.setRuntime (fun r => { r with actualEnabled := false }) = forced
  -- The hardware was switched, if at all, to go off.
  have htried : (Tells b forced none ∧ forced.tally drives = b.tally drives) ∨
      (Tells b forced (some false) ∧ b.tally drives < forced.tally drives) := by
    have hleave : b.leave.tally drives = b.tally drives :=
      (still_leave b).tally fun c done hc => by cases c <;> first | rfl | cases hc
    have hreported : Reported b b.leaveHardware :=
      ((reported_refl b).still (still_leave b)).trans (reported_reconfigure _ _ _)
    have hdriven := reconfigure_drives b.leave false b.runtime.requestedMode
    rw [← hforced]
    rcases hreported with ⟨htells, hn, -⟩ | ⟨htells, hn⟩
    · exact Or.inl ⟨htells, hn⟩
    · rcases hdriven with ⟨hsame, -⟩ | ⟨-, hconfirmed, -⟩
      · exact absurd (hsame.trans hleave) (Nat.ne_of_gt hn)
      · exact Or.inr ⟨hconfirmed ▸ htells, hn⟩
  have hended : Reported forced after := by
    rw [hafter, ← hforced]
    exact (strokes_powerOffEnabled b).reported.still (still_finishFollowUps _)
  rcases htried with ⟨htells, hn⟩ | ⟨htells, hn⟩ <;>
    rcases hended with ⟨htells', hn', -⟩ | ⟨htells', hn'⟩
  · exact Or.inl ⟨htells.trans htells', hn'.trans hn⟩
  · rw [hoff] at htells'
    exact Or.inr ⟨htells.trans htells', hn ▸ hn'⟩
  · exact Or.inr ⟨htells.trans htells', hn' ▸ hn⟩
  · rw [hoff] at htells'
    exact Or.inr ⟨htells.trans htells', Nat.lt_trans hn hn'⟩

/-! ### Runs -/

/-- What clients are sent in a move, newest first. -/
def announced (b : Earbud) (m : Move) : List Notification :=
  match b.dispatched? m with
  | some (x, e) =>
    (x.dispatch e).1.clients.sent.take
      ((x.dispatch e).1.clients.sent.length - x.clients.sent.length)
  | none => []

/-- All that clients are sent in a run, newest first, whatever else becomes of their channel. -/
def heard (b : Earbud) : List Move → List Notification
  | [] => []
  | m :: rest => (b.perform m).heard rest ++ b.announced m

theorem heard_snoc (b : Earbud) (moves : List Move) (m : Move) :
    b.heard (moves ++ [m]) = (b.run moves).announced m ++ b.heard moves := by
  induction moves generalizing b with
  | nil => simp [heard, run]
  | cons first rest ih =>
    rw [List.cons_append, heard, ih, heard, List.append_assoc]
    rfl

theorem announced_eq {m : Move} {e : Event} (hd : b.dispatched? m = some (a, e))
    (h : Tells a (a.dispatch e).1 v) :
    (b.announced m).findSome? Notification.switch? = v := by
  obtain ⟨newer, he, hv⟩ := h
  unfold announced
  rw [hd]
  dsimp only
  rw [he, List.length_append, Nat.add_sub_cancel, List.take_left, hv]

theorem announced_none {m : Move} (hd : b.dispatched? m = none) : b.announced m = [] := by
  unfold announced
  rw [hd]

/-- A move that switches the hardware has clients told how it is then, and no other tells them of the
switch; noise control is off then or as it was. -/
theorem announced_cases (h : Sound b) (m : Move) :
    let after := b.perform m
    let told := (b.announced m).findSome? Notification.switch?
    (PowersOff b m → after.runtime.actualEnabled = false) ∧
      ((told = none ∧ after.tally drives = b.tally drives ∧
          (¬PowersOff b m → after.runtime.actualEnabled = b.runtime.actualEnabled)) ∨
        (told = some after.runtime.actualEnabled ∧ b.tally drives < after.tally drives)) := by
  intro after told
  cases hd : b.dispatched? m with
  | none =>
    have hafter := perform_eq b m
    rw [hd] at hafter
    have hnone : told = none := by
      show (b.announced m).findSome? _ = none
      rw [announced_none hd, List.findSome?_nil]
    have hstill : after.tally drives = b.tally drives ∧ after.runtime = b.runtime := by
      show (b.perform m).tally drives = _ ∧ (b.perform m).runtime = _
      rw [hafter]
      cases m <;> exact ⟨rfl, rfl⟩
    refine ⟨?_, Or.inl ⟨hnone, hstill.1, fun _ => by rw [hstill.2]⟩⟩
    rintro ⟨rfl, -⟩
    cases hd
  | some p =>
    obtain ⟨x, e⟩ := p
    have hafter : after = (x.dispatch e).1 := by
      show b.perform m = _
      rw [perform_eq, hd]
    have hx : x.runtime = b.runtime ∧ x.tally drives = b.tally drives ∧
        (e = .powerOff → m = .event .powerOff) := by
      rcases dispatched?_eq_some h.order hd with ⟨he, rfl, rfl⟩ | ⟨k, rfl, rfl, -, rfl⟩
      · exact ⟨rfl, rfl, fun hp => by subst hp; rfl⟩
      · exact ⟨rfl, rfl, nofun⟩
    obtain ⟨hruntime, htally, hevent⟩ := hx
    rw [hafter, ← hruntime, ← htally]
    by_cases hp : PowersOff b m
    · obtain ⟨rfl, hon⟩ := id hp
      obtain ⟨rfl, rfl⟩ : b = x ∧ Event.powerOff = e := by simpa [dispatched?] using hd
      obtain ⟨hoff, htold⟩ := powerOff_reported ((isEnabled_iff b).mp hon)
      refine ⟨fun _ => hoff, ?_⟩
      rcases htold with ⟨htells, hn⟩ | ⟨htells, hn⟩
      · exact Or.inl ⟨announced_eq hd htells, hn, fun hnot => absurd hp hnot⟩
      · exact Or.inr ⟨hoff ▸ announced_eq hd htells, hn⟩
    · refine ⟨fun h => absurd h hp, ?_⟩
      have hoff : x.runtime.state = .uninitialised → x.runtime.actualEnabled = false := by
        intro hs
        rw [hruntime] at hs ⊢
        exact h.off (by simp [hs])
      have he : e = .powerOff → x.runtime.state ≠ .enabled := by
        intro he hs
        exact hp ⟨hevent he, (isEnabled_iff b).mpr (hruntime ▸ hs)⟩
      rcases reported_dispatch hoff he with ⟨htells, hn, hon⟩ | ⟨htells, hn⟩
      · exact Or.inl ⟨announced_eq hd htells, hn, fun _ => hon⟩
      · exact Or.inr ⟨announced_eq hd htells, hn⟩

/-- Noise control is taken to be off though clients last heard that it is on, as the hardware refused to
go off with the power and was not switched since; or clients last heard how it is. -/
theorem heard_cases (c : Config) (clockOrigin : Option WallClock) (store : SessionStore)
    (moves : List Move) :
    let new := Earbud.new c clockOrigin store
    let told := (new.heard moves).findSome? Notification.switch?
    let refused := Since perform (Earbud.tally · drives) PowersOff new moves
    (refused ∧ told = some true ∧ (new.run moves).runtime.actualEnabled = false) ∨
      (¬refused ∧ told.getD false = (new.run moves).runtime.actualEnabled) := by
  intro new
  induction moves using List.reverseRecOn with
  | nil => exact Or.inr ⟨not_since_nil _, rfl⟩
  | append_singleton moves m ih =>
    have hsound := (sound_run c clockOrigin store moves).1
    have hsnoc : Since perform (Earbud.tally · drives) PowersOff new (moves ++ [m]) ↔
        ((new.run moves).perform m).tally drives = (new.run moves).tally drives ∧
          (Since perform (Earbud.tally · drives) PowersOff new moves ∨ PowersOff (new.run moves) m) :=
      since_snoc (fun b m => tally_le (history_perform b m) drives) new moves m
    dsimp only at ih ⊢
    rw [run_snoc, heard_snoc, List.findSome?_append, hsnoc]
    generalize new.run moves = b at *
    obtain ⟨hoff, ⟨hnone, hn, hkept⟩ | ⟨hsome, hn⟩⟩ := announced_cases hsound m
    · rw [hnone, Option.none_or]
      by_cases hp : PowersOff b m
      -- The hardware was on until then, so clients last heard that it is.
      · have hactual : b.runtime.actualEnabled = true := by
          rw [hsound.classified.hardware]
          exact hp.2
        rcases ih with ⟨-, -, hwas⟩ | ⟨-, htold⟩
        · exact nomatch hwas.symm.trans hactual
        · refine Or.inl ⟨⟨hn, Or.inr hp⟩, ?_, hoff hp⟩
          rw [hactual] at htold
          cases hheard : (new.heard moves).findSome? Notification.switch? with
          | none => rw [hheard] at htold; cases htold
          | some on => rw [hheard] at htold; exact congrArg some htold
      · rw [hkept hp]
        simpa [hn, hp] using ih
    · rw [hsome, Option.some_or]
      exact Or.inr ⟨fun hr => absurd hr.1 (Nat.ne_of_gt hn), rfl⟩

/-- Clients last heard whether noise control is on, exactly unless the hardware refused to go off when
the power went off with noise control on, and was not switched since. -/
theorem heard_switch_iff (c : Config) (clockOrigin : Option WallClock) (store : SessionStore)
    (moves : List Move) :
    let new := Earbud.new c clockOrigin store
    ((new.heard moves).findSome? Notification.switch?).getD false = (new.run moves).isEnabled ↔
      ¬∃ earlier m later, moves = earlier ++ m :: later ∧ PowersOff (new.run earlier) m ∧
        (new.run moves).tally drives = (new.run earlier).tally drives := by
  intro new
  have hswitch : (new.run moves).isEnabled = (new.run moves).runtime.actualEnabled :=
    (sound_run c clockOrigin store moves).1.classified.hardware.symm
  rw [hswitch]
  change _ ↔ ¬Since perform (Earbud.tally · drives) PowersOff new moves
  rcases heard_cases c clockOrigin store moves with ⟨hrefused, htold, hoff⟩ | ⟨hconfirmed, htold⟩
  · simp [hrefused, show _ = some true from htold, show _ = false from hoff, new]
  · exact iff_of_true htold hconfirmed

/-- The hardware refuses to go off with the power. -/
theorem switch_unheard : ¬∀ (c : Config) (clockOrigin : Option WallClock) (store : SessionStore)
    (moves : List Move),
    (((Earbud.new c clockOrigin store).heard moves).findSome? Notification.switch?).getD false =
      ((Earbud.new c clockOrigin store).run moves).isEnabled := by
  intro h
  have hrefused := h (.standard "") none {} [.event .initialise, .event .powerOn, .event .enable,
    .surround ⟨none, {}, fun _ call => call == .audio .hardwareOff, none, {}, {}⟩, .event .powerOff]
  exact absurd hrefused (by decide)

end Earbud

end NoiseControl
