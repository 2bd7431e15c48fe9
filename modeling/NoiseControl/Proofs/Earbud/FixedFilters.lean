import NoiseControl.Proofs.Earbud.Departure
import NoiseControl.Proofs.Earbud.Modes
import NoiseControl.Proofs.Earbud.Reticence

/-!
# Fixed filters know nothing of adaptive processing

Some of what serves adaptive processing asks whether the filters are adaptive, some whether adaptive
processing runs, and some only follows the records of the two sides.  With fixed filters nothing of
it is ever reached: adaptive processing does not run, its timers are not armed, and the own record
stays clear, so that a record of the peer arms a timer at most and nothing is ever answered.
-/

namespace NoiseControl

open QuietMode (Direction Record Synchronizer Effect)

/-- The commands to adaptive processing, and to quiet mode, which only it has. -/
def AudioCommand.drivesAdaptive : AudioCommand → Bool
  | .adaptiveOn .. | .gentleMute | .setModeIdentifier _ | .swapModeLive _ | .quietModeOn
  | .quietModeOff => true
  | _ => false

/-- The timers that start adaptive processing or end a ramp of its gains. -/
def TimerKind.servesAdaptive : TimerKind → Bool
  | .configSettle | .muteBeforeDisable | .muteBeforeMode => true
  | _ => false

namespace Earbud

variable {a b : Earbud}

/-! ### Work without adaptive processing -/

/-- The timers of adaptive processing are left alone and it is given no command, but for quiet mode;
its tuning is neither entered nor left. -/
def plain : Extent where
  keeps r := { state := if r.state = .adaptiveTuning then .adaptiveTuning else .uninitialised }
  timer k := !k.servesAdaptive
  audio
    | .quietModeOn | .quietModeOff => true
    | c => !c.drivesAdaptive
  talks := true

theorem beside_within_plain : beside.Within plain where
  keeps _ _ h := (congrArg plain.keeps h :)
  timer k h := by cases k <;> first | rfl | cases h
  audio c h := by cases c <;> first | rfl | cases h
  talks h := h
  tells _ _ := rfl
  saves _ := rfl

theorem levels_within_plain : levels.Within plain :=
  (levels_within_aloof.trans aloof_within_beside).trans beside_within_plain

/-- The filters are fixed, and adaptive processing neither runs nor is tuned nor is about to. -/
structure Plain (b : Earbud) : Prop where
  fixed : b.config.adaptive = false
  idle : b.audio.adaptive = false
  unarmed : ∀ k : TimerKind, k.servesAdaptive = true → b.timers.isArmed k = false
  untuned : b.runtime.state ≠ .adaptiveTuning

theorem Plain.work (h : Plain a) (w : Work plain a b) : Plain b where
  fixed := (congrArg Config.adaptive w.config).trans h.fixed
  idle := w.idle (fun _ _ _ => rfl) h.idle
  unarmed k hk := (w.isArmed (congrArg not hk)).trans (h.unarmed k hk)
  untuned ht := by
    have hkept := congrArg Runtime.state w.keeps
    simp [plain, ht, h.untuned] at hkept

theorem Plain.cancel (h : Plain b) (k : TimerKind) : Plain (b.cancel k) where
  fixed := h.fixed
  idle := h.idle
  unarmed k' hk' := Bool.eq_false_iff.mpr fun harmed =>
    nomatch (h.unarmed k' hk').symm.trans (isArmed_of_cancel harmed)
  untuned := h.untuned

/-! ### The hardware -/

theorem Plain.stopSettleTimers (h : Plain b) : b.stopSettleTimers = b := by
  unfold Earbud.stopSettleTimers
  rw [cancel_eq_self (h.unarmed .configSettle rfl), cancel_eq_self (h.unarmed .muteBeforeDisable rfl),
    cancel_eq_self (h.unarmed .muteBeforeMode rfl)]

theorem Plain.stopAdaptive (h : Plain b) : b.stopAdaptive = b := by
  unfold Earbud.stopAdaptive
  dsimp only
  rw [cancel_eq_self (h.unarmed .configSettle rfl), if_neg (by simp [h.idle])]

theorem Plain.applyMode (h : Plain b) (m : Mode) : Work plain b (b.applyMode m).1 := by
  have hidentified : b.identifyMode m b.audio.adaptive = b := by rw [h.idle]; rfl
  have habandoned : ∀ x, Work plain b x → Work plain b (x.abandonMode false) := fun x w => by
    have hgiven : Work plain b (x.setRuntime fun r => { r with requestedMode := r.currentMode }) :=
      w.tail (.runtime _ rfl)
    exact hgiven
  have hloaded : Work plain b (b.loadMode m).1 := work_loadMode b rfl rfl
  unfold Earbud.applyMode
  dsimp only
  rw [hidentified, h.idle]
  split
  · exact habandoned _ .refl
  · split <;> rename_i loaded heq <;> rw [heq] at hloaded
    · exact habandoned _ hloaded
    · have hset := hloaded.tail (.runtime (fun r => { r with currentMode := m }) rfl)
      rw [if_neg (by simp [(h.work hset).fixed])]
      refine .trans ?_ ((levels_announceLeakthrough _).mono levels_within_plain)
      refine .trans ?_ ((levels_refreshLeakthrough _).mono levels_within_plain)
      exact hset.tail (.announce _)

theorem Plain.inMode (h : Plain b) (m : Mode) : Work plain b (b.inMode m).1 := by
  unfold Earbud.inMode
  split
  · exact .refl
  · exact h.applyMode m

theorem Plain.inPower (h : Plain b) (on : Bool) : Work plain b (b.inPower on).1 := by
  have hturned : Work plain b (if on then b.hardwareOn else b.stopAdaptive.hardwareOff).1 := by
    rw [h.stopAdaptive]
    cases on with
    | true => exact work_hardwareOn b rfl rfl rfl
    | false => exact work_hardwareOff b levels_within_plain rfl rfl
  unfold Earbud.inPower
  split
  · exact .refl
  · unfold Earbud.switchHardware
    generalize (if on then b.hardwareOn else b.stopAdaptive.hardwareOff) = turned at hturned ⊢
    obtain ⟨turned, _ | _⟩ := turned
    · exact hturned
    · have hset := hturned.tail (.runtime (fun r => { r with actualEnabled := on }) rfl)
      dsimp only
      rw [settleAdaptive_fixed (h.work hset).fixed, ite_self]
      exact hset.tail (.announce _)

theorem Plain.reconfigure (h : Plain b) (on : Bool) (m : Mode) :
    Work plain b (b.reconfigure on m).1 := by
  have hraised : Work plain b (b.boost true) := work_boost b true (fun _ => rfl) rfl
  have hmoded := hraised.trans ((h.work hraised).inMode m)
  have hpower := hmoded.trans ((h.work hmoded).inPower on)
  rw [reconfigure_stages, tellAdaptive, if_neg (by simp [(h.work hpower).fixed])]
  exact hpower.trans (work_boost _ false (fun _ => rfl) rfl)

/-! ### Requests -/

theorem Plain.enter (h : Plain b) {next : Lifecycle} (hn : next ≠ .adaptiveTuning) :
    Work plain b (b.enter next) := by
  have hgone : ∀ x, Work plain b x →
      Work plain b (x.setRuntime fun r => { r with state := next }) := fun x w =>
    w.tail (.runtime _ (by simp [plain, hn, (h.work w).untuned]))
  unfold Earbud.enter
  dsimp only
  refine hgone _ ?_
  split
  · rw [h.stopSettleTimers]
    exact (Relation.ReflTransGen.single (.cancel _ rfl)).trans (work_persistSession _ rfl)
  · exact .refl

theorem Plain.enterAfter (h : Plain a) (w : Work plain a b) {next : Lifecycle}
    (hn : next ≠ .adaptiveTuning) : Work plain a (b.enter next) :=
  w.trans ((h.work w).enter hn)

theorem Plain.switchOff (h : Plain b) {next : Lifecycle} (hn : next ≠ .adaptiveTuning) :
    Work plain b (b.switchOff next).1 := by
  have hoff := h.reconfigure false b.runtime.requestedMode
  unfold Earbud.switchOff
  dsimp only
  refine .tail ?_ (.runtime _ rfl)
  split
  · exact h.enterAfter (hoff.tail (.runtime _ rfl)) hn
  · split
    · exact hoff.tail (.runtime _ rfl)
    · exact h.enterAfter hoff hn

theorem Plain.requestEnable (h : Plain b) : Work plain b b.requestEnable.1 := by
  unfold Earbud.requestEnable
  split
  · have hset : Work plain b (b.setRuntime fun r => { r with requestedEnabled := true }) :=
      .single (.runtime _ rfl)
    have hon := hset.trans ((h.work hset).reconfigure true b.runtime.requestedMode)
    dsimp only
    split
    · exact h.enterAfter hon nofun
    · exact hon
  · exact .refl

theorem Plain.requestDisable (h : Plain b) : Work plain b b.requestDisable.1 := by
  unfold Earbud.requestDisable
  split
  · have hset : Work plain b (b.setRuntime fun r => { r with requestedEnabled := false }) :=
      .single (.runtime _ rfl)
    have hasked := h.work hset
    dsimp only
    rw [hasked.stopSettleTimers, if_neg (by simp [hasked.idle])]
    exact hset.trans (hasked.switchOff nofun)
  · exact .refl

theorem Plain.requestMode (h : Plain b) (m : Mode) : Work plain b (b.requestMode m).1 := by
  have hset : Work plain b (b.setRuntime fun r => { r with requestedMode := m }) :=
    .single (.runtime _ rfl)
  have hasked := h.work hset
  unfold Earbud.requestMode
  split
  · split
    · exact .refl
    · exact hset.trans ((levels_refreshLeakthrough _).mono levels_within_plain)
  · split
    · exact .refl
    · dsimp only
      split
      · exact hset
      · rw [if_neg (by simp [hasked.idle])]
        exact hset.trans (hasked.reconfigure _ _)
  · exact .refl

theorem Plain.switchPowerOn (h : Plain b) : Work plain b b.switchPowerOn := by
  have hset : Work plain b (b.setRuntime fun r => { r with powerOn := true }) :=
    .single (.runtime _ rfl)
  obtain ⟨next, hnext, he⟩ := switchPowerOn_eq b
  rw [he]
  refine h.enterAfter ?_ fun heq => by simp [heq] at hnext
  split
  · exact hset.trans ((h.work hset).reconfigure true _)
  · exact hset

theorem Plain.powerOffEnabled (h : Plain b) : Work plain b b.powerOffEnabled.1 := by
  have hset : Work plain b
      (b.setRuntime fun r => { r with powerOn := false, requestedEnabled := true }) :=
    .single (.runtime _ rfl)
  unfold Earbud.powerOffEnabled
  rw [(h.work hset).stopSettleTimers]
  exact hset.trans ((h.work hset).switchOff nofun)

theorem Plain.start (h : Plain b) : Work plain b b.start.1 := by
  rcases start_fst b with ⟨he, -⟩ | ⟨microphones, mode, he⟩
  · rw [he]
  · have hprobed : Work plain b (b.loadSession.1.attempt (.start microphones mode)).1 :=
      (Relation.ReflTransGen.single .load).tail (.attempt _ rfl)
    rcases he with ⟨he, -⟩ | ⟨enabled, he, -⟩ <;> rw [he]
    · exact hprobed
    · exact h.enterAfter ((hprobed.tail (.runtime _ rfl)).tail (.negotiate _ rfl)) nofun

theorem Plain.enterTuning (h : Plain b) : Work plain b (b.enterTuning .fixed).1 := by
  refine enterTuning_induction b .fixed (fun _ => ?_) (fun _ => h.enter nofun)
    fun x w => w.tail (.command _ rfl)
  rw [h.stopSettleTimers]
  exact h.switchOff nofun

theorem Plain.leaveTuning (h : Plain b) (kind : TuningKind) {next : Lifecycle}
    (hn : next ≠ .adaptiveTuning) : Work plain b (b.leaveTuning kind next) := by
  have hleft : Work plain b ((b.command .detachTuningLink).command (.exitTuning kind)) :=
    (Relation.ReflTransGen.single (.command _ rfl)).tail (.command _ rfl)
  exact h.enterAfter (hleft.tail (.runtime _ rfl)) hn

theorem Demand.plain (d : Demand a b) (h : Plain a) : Work plain a b := by
  cases d with
  | beside t => exact .single (t.mono beside_within_plain)
  | enable => exact h.requestEnable
  | disable => exact h.requestDisable
  | mode m => exact h.requestMode m
  | remember => exact .single (.runtime _ rfl)

theorem Demands.plain (ds : Demands a b) (h : Plain a) : Work plain a b := by
  induction ds with
  | refl => exact .refl
  | tail _ d ih => exact ih.trans (d.plain (h.work ih))

theorem Course.plain {e : Event} {y : Earbud × Outcome} (course : Course b e y) (h : Plain b)
    (he : e ≠ .timerExpired .configSettle) : Work plain b y.1 := by
  cases course with
  | demands ds => exact ds.plain h
  | start => exact h.start
  | powerOn => exact h.switchPowerOn
  | powerOffDisabled => exact h.enterAfter (.single (.runtime _ rfl)) nofun
  | powerOffEnabled => exact h.powerOffEnabled
  | tune kind _ hk =>
    cases kind with
    | fixed => exact h.enterTuning
    | adaptive => exact nomatch h.fixed.symm.trans (hk rfl)
  | host kind rate => exact (Relation.ReflTransGen.single (.runtime _ rfl)).tail (.command _ rfl)
  | leaveTuning kind next _ hn => exact h.leaveTuning kind fun heq => by simp [heq] at hn
  | startAdaptive => exact absurd rfl he
  | switchOff => exact h.switchOff nofun
  | applyPending => exact h.reconfigure _ _
  | applyGains => exact .single (.command _ rfl)

theorem Plain.dispatch (h : Plain b) {e : Event} (he : e ≠ .timerExpired .configSettle) :
    Work plain b (b.dispatch e).1 :=
  ((course_handle b e).plain h he).trans ((work_finishFollowUps _).mono beside_within_plain)

/-! ### The negotiation -/

/-- From `a` to `b` no record was sent and quiet mode was not switched, and the own record of `b` is
clear. -/
structure Unengaged (a b : Earbud) : Prop where
  own : b.quietMode.own = .clear
  sent : b.recordsSent = a.recordsSent
  switchings : b.switchings = a.switchings

/-- A record of the peer that meets a clear own record is noted, and its request followed. -/
theorem peerRecord_clear {s : Synchronizer} (hown : s.own = .clear) (r : Record) (now : WallClock) :
    s.peerRecord r now =
      ({ s with peer := r }, r.pending?.toList.map fun d => Synchronizer.follow d r now) := by
  unfold Synchronizer.peerRecord
  cases hr : r.pending? with
  | none => simp [Synchronizer.tryEnable, Synchronizer.tryDisable, Synchronizer.electsEnable, hown,
      Record.clear, Record.hasRequest]
  | some d =>
    have hfree : s.own.requested d = false := by
      rw [hown]
      cases d <;> rfl
    simp [hfree]

theorem unengaged_receive (hown : b.quietMode.own = .clear) (r : Record) :
    Unengaged b (b.adopt (b.quietMode.peerRecord r b.wallNow)) := by
  rw [peerRecord_clear hown]
  cases r.pending? with
  | none => exact ⟨hown, rfl, rfl⟩
  | some d =>
    rw [Option.toList_some, List.map_singleton]
    unfold Synchronizer.follow
    split
    · exact ⟨hown, rfl, rfl⟩
    · exact ⟨hown, rfl, rfl⟩

/-- While adaptive processing does not run no event engages a clear own record. -/
theorem unengaged_handle (hidle : b.audio.adaptive = false) (hown : b.quietMode.own = .clear)
    (e : Event) : Unengaged b (b.handle e).1 := by
  have hout : (b.isEnabled && b.audio.adaptive) = false := by rw [hidle, Bool.and_false]
  cases h : b.startsAfresh e with
  | true =>
    have hother : ∀ r, e ≠ .peerRecord r := by
      rintro r rfl
      cases h
    have hafresh := handle_afresh h
    exact ⟨hafresh.own, (reticent_handle hout hother).1.sent, hafresh.switchings⟩
  | false =>
    rcases handle_gated h with w | ⟨hon | ⟨r, rfl⟩, -, o, ho, heq⟩
    · exact ⟨(congrArg _ (w.silent rfl).1).trans hown, w.recordsSent rfl, w.switchings⟩
    · exact nomatch hout.symm.trans hon
    · cases ho
      rw [heq]
      exact unengaged_receive hown r

/-! ### Runs -/

/-- The event that an incident has dispatched, and the earbud it comes to. -/
def reached? (b : Earbud) : Incident → Option (Earbud × Event)
  | .move m => b.dispatched? m
  | .event e => some (b, e)

/-- Nothing of adaptive processing was reached since the earbud was new. -/
structure Untouched (b : Earbud) : Prop extends Plain b where
  order : b.timers.InOrder
  own : b.quietMode.own = .clear
  unsent : b.recordsSent = []
  unswitched : b.switchings = 0
  commands : ∀ c done, Activity.audio c done ∈ b.history → plain.audio c = true

theorem untouched_new {config : Config} (hfixed : config.adaptive = false)
    (clockOrigin : Option WallClock) (store : SessionStore) :
    Untouched (Earbud.new config clockOrigin store) where
  fixed := hfixed
  idle := rfl
  unarmed _ _ := rfl
  untuned := nofun
  order := TimerQueue.inOrder_empty
  own := rfl
  unsent := rfl
  unswitched := rfl
  commands := nofun

theorem Untouched.dispatch (h : Untouched b) {e : Event} (he : e ≠ .timerExpired .configSettle) :
    Untouched (b.dispatch e).1 := by
  have w := h.toPlain.dispatch he
  have hhandled := (course_handle b e).plain h.toPlain he
  have hengaged := unengaged_handle h.idle h.own e
  -- Adaptive processing does not run, so nothing comes of what the event left to do.
  have hout : ((b.handle e).1.isEnabled && (b.handle e).1.audio.adaptive) = false := by
    rw [(h.toPlain.work hhandled).idle, Bool.and_false]
  have hdone : (b.dispatch e).1 = { (b.handle e).1 with followUps := [] } :=
    finishFollowUps_outside hout
  refine ⟨h.toPlain.work w, w.inOrder h.order, ?_, ?_, ?_, fun c done hc => ?_⟩
  · rw [hdone]
    exact hengaged.own
  · rw [hdone]
    exact hengaged.sent.trans h.unsent
  · rw [hdone]
    exact hengaged.switchings.trans h.unswitched
  · obtain ⟨newer, heq, hnewer⟩ := w.history
    rw [heq] at hc
    rcases List.mem_append.mp hc with hc | hc
    · exact hnewer c done hc
    · exact h.commands c done hc

theorem Untouched.cancel (h : Untouched b) (k : TimerKind) : Untouched (b.cancel k) :=
  ⟨h.toPlain.cancel k, h.order.cancel k, h.own, h.unsent, h.unswitched, h.commands⟩

/-- The expiry that starts adaptive processing does not come from the queue, for its timer is not
armed. -/
theorem Untouched.reached (h : Untouched b) {incident : Incident} {x : Earbud} {e : Event}
    (hi : incident ≠ .event (.timerExpired .configSettle))
    (hreached : b.reached? incident = some (x, e)) :
    Untouched x ∧ e ≠ .timerExpired .configSettle := by
  cases incident with
  | event e' =>
    obtain ⟨rfl, rfl⟩ := Prod.mk.inj (Option.some.inj hreached)
    exact ⟨h, fun heq => hi (congrArg _ heq)⟩
  | move m =>
    rcases dispatched?_eq_some h.order hreached with ⟨he, -, rfl⟩ | ⟨k, -, rfl, harmed, rfl⟩
    · refine ⟨h, ?_⟩
      rintro rfl
      cases he
    · refine ⟨h.cancel k, fun heq => ?_⟩
      obtain rfl : k = .configSettle := by simpa using heq
      exact nomatch (h.unarmed .configSettle rfl).symm.trans harmed

theorem Untouched.undergo (h : Untouched b) {incident : Incident}
    (hi : incident ≠ .event (.timerExpired .configSettle)) : Untouched (b.undergo incident) := by
  cases incident with
  | event e => exact h.dispatch fun heq => hi (congrArg _ heq)
  | move m =>
    rw [Earbud.undergo, perform_eq]
    cases hd : b.dispatched? m with
    | some p =>
      obtain ⟨hx, he⟩ := h.reached (x := p.1) (e := p.2) hi hd
      exact hx.dispatch he
    | none =>
      cases m with
      | event e he => exact h
      | expiry => exact h
      | wait t =>
        exact ⟨⟨h.fixed, h.idle, h.unarmed, h.untuned⟩, h.order.advanceTo t, h.own, h.unsent,
          h.unswitched, h.commands⟩
      | surround s =>
        exact ⟨⟨h.fixed, h.idle, h.unarmed, h.untuned⟩, h.order, h.own, h.unsent, h.unswitched,
          h.commands⟩

theorem untouched_run {config : Config} (hfixed : config.adaptive = false)
    (clockOrigin : Option WallClock) (store : SessionStore) {incidents : List Incident}
    (hqueue : .event (.timerExpired .configSettle) ∉ incidents) :
    Untouched (incidents.foldl undergo (Earbud.new config clockOrigin store)) :=
  List.foldlRecOn incidents Earbud.undergo (untouched_new hfixed clockOrigin store)
    fun _ h _ hmem => h.undergo fun heq => hqueue (heq ▸ hmem)

/-- Whatever happens to an earbud with fixed filters, with the settling timer expiring only when it
is due: no command to adaptive processing or to quiet mode was ever given and no record ever sent, no
timer of adaptive processing is armed, and it is not being tuned.  Nothing that is dispatched arms
such a timer even for a while. -/
theorem adaptive_never_touched {config : Config} (hfixed : config.adaptive = false)
    (clockOrigin : Option WallClock) (store : SessionStore) {incidents : List Incident}
    (hqueue : .event (.timerExpired .configSettle) ∉ incidents) :
    let b := incidents.foldl undergo (Earbud.new config clockOrigin store)
    (∀ c done, .audio c done ∈ b.history → c.drivesAdaptive = false) ∧
      (∀ r, .sent r ∉ b.history) ∧
      (∀ k : TimerKind, k.servesAdaptive = true → b.timers.isArmed k = false) ∧
      b.runtime.state ≠ .adaptiveTuning ∧
      ∀ incident x e, incident ≠ .event (.timerExpired .configSettle) →
        b.reached? incident = some (x, e) → Work plain x (x.dispatch e).1 := by
  intro b
  have h : Untouched b := untouched_run hfixed clockOrigin store hqueue
  refine ⟨fun c done hc => ?_, fun r hr => ?_, h.unarmed, h.untuned, fun incident x e hi he => ?_⟩
  · have hplain := h.commands c done hc
    have hquiet : ¬Activity.switchesQuietMode (.audio c done) = true :=
      List.countP_eq_zero.mp h.unswitched _ hc
    cases c with
    | quietModeOn => exact absurd rfl hquiet
    | quietModeOff => exact absurd rfl hquiet
    | _ => first | rfl | cases hplain
  · have hmem : r ∈ b.recordsSent := List.mem_filterMap.mpr ⟨_, hr, rfl⟩
    rw [h.unsent] at hmem
    cases hmem
  · obtain ⟨hx, he⟩ := h.reached hi he
    exact hx.toPlain.dispatch he

/-- A request of the peer arms its timer while noise control is on, and fires too early. -/
theorem adaptive_never_touched_on :
    let config : Config := { Config.standard "" with adaptive := false }
    let incidents : List Incident :=
      [.move (.event .initialise), .move (.event .powerOn), .move (.event .enable),
        .event (.peerRecord { detected := true, enableRequested := true, timestamp := .add .zero 5 }),
        .event (.quietModeFire .enable)]
    let b := incidents.foldl undergo (Earbud.new config none {})
    (b.isEnabled = true ∧ b.timers.isArmed (.quietMode .enable) = true) ∧
      (∀ c done, .audio c done ∈ b.history → c.drivesAdaptive = false) ∧
      (∀ r, .sent r ∉ b.history) ∧
      (∀ k : TimerKind, k.servesAdaptive = true → b.timers.isArmed k = false) ∧
      b.runtime.state ≠ .adaptiveTuning ∧
      ∀ incident x e, incident ≠ .event (.timerExpired .configSettle) →
        b.reached? incident = some (x, e) → Work plain x (x.dispatch e).1 :=
  ⟨by decide, adaptive_never_touched (by decide) none {} (by simp)⟩

end Earbud

end NoiseControl
