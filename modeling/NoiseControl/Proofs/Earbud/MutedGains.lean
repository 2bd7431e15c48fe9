import NoiseControl.Proofs.Earbud.Act
import NoiseControl.Proofs.Earbud.History
import NoiseControl.Proofs.Earbud.Modes

/-!
# Fixed filters come out of their mute

Without adaptive processing the hardware is switched on muted, and muted by a ramp before it is
switched off.  A timer applies the gains of the filters once they have settled, and a mode that is
loaded brings gains of its own.  Before a mode is loaded and before the hardware is switched off
that timer is cancelled, and it is not armed again if the hardware then refuses: so the filters stay
muted without it after a refusal, and only then.
-/

namespace NoiseControl

def clocking : Matter Bool
  | .clockBoost on, _ => some on
  | _, _ => none

/-- What a command says of a refusal since the hardware was last switched on muted. -/
def refusing : Matter Bool
  | .hardwareOnMuted, true => some false
  | .setMode _, false | .hardwareOff, false => some true
  | _, _ => none

/-- The feed-forward gain of a channel was last written to mute it, with the hardware or in a ramp,
and neither a mode nor the gains of the filters came after it.  A gain that is written while the
clock is raised is one of a ramp. -/
def mutedIn (c : Channel) : List Activity → Bool
  | [] => false
  | .audio .hardwareOnMuted true :: _ => true
  | .audio (.setMode _) true :: _ | .audio .applyPathGains true :: _ => false
  | .audio (.setGain c' .ffa gain) true :: older =>
    if c' = c then gain == 0 && older.findSome? (Activity.tells clocking) == some true
    else mutedIn c older
  | _ :: older => mutedIn c older

namespace Earbud

variable {x : Extent} {a b : Earbud}

def muted (b : Earbud) (c : Channel) : Bool := mutedIn c b.history

def refused (b : Earbud) : Bool := b.latest? refusing == some true

def clockRaised (b : Earbud) : Bool := b.latest? clocking == some true

/-- While a channel is muted the timer that applies the gains is armed, if nothing was refused. -/
def Gated (b : Earbud) : Prop :=
  ∀ c, b.muted c = true → (b.timers.isArmed .pathGainSettle = true ↔ b.refused = false)

theorem gated_of_refused (hr : b.refused = true) (ha : b.timers.isArmed .pathGainSettle = false) :
    b.Gated := fun _ _ => by rw [hr, ha]; decide

theorem gated_of_armed (hr : b.refused = false) (ha : b.timers.isArmed .pathGainSettle = true) :
    b.Gated := fun _ _ => by rw [hr, ha]; decide

theorem gated_of_loaded (h : ∀ c, b.muted c = false) : b.Gated := fun c hm =>
  nomatch (h c).symm.trans hm

/-- The filters are fixed: adaptive processing neither runs nor is about to. -/
structure Static (b : Earbud) : Prop where
  fixed : b.config.adaptive = false
  idle : b.audio.adaptive = false
  unsettled : b.timers.isArmed .configSettle = false

structure Tended (b : Earbud) : Prop extends Static b where
  gated : b.runtime.actualEnabled = true → b.Gated

structure Resting (b : Earbud) : Prop extends Tended b where
  lowered : b.clockRaised = false

/-! ### Work that does not drive the hardware -/

theorem Static.cancel (h : Static b) (k : TimerKind) : Static (b.cancel k) where
  fixed := h.fixed
  idle := h.idle
  unsettled := Bool.eq_false_iff.mpr fun hr => nomatch h.unsettled.symm.trans (isArmed_of_cancel hr)

theorem Static.work (h : Static a) (w : Work x a b)
    (hon : ∀ inEar path m, x.audio (.adaptiveOn inEar path m) = false)
    (hk : x.timer .configSettle = false) : Static b where
  fixed := (congrArg Config.adaptive w.config).trans h.fixed
  idle := w.idle hon h.idle
  unsettled := (w.isArmed hk).trans h.unsettled

/-- The hardware is left as it is, and no filters or gains are loaded. -/
def undriven : Extent where
  keeps r := { actualEnabled := r.actualEnabled }
  timer
    | .configSettle | .pathGainSettle => false
    | _ => true
  audio
    | .hardwareOnMuted | .hardwareOff | .setMode _ | .adaptiveOn .. | .clockBoost _ => false
    | _ => true
  talks := true

theorem beside_within_undriven : beside.Within undriven where
  keeps _ _ h := (congrArg undriven.keeps h :)
  timer k h := by cases k <;> first | rfl | cases h
  audio c h := by cases c <;> first | rfl | cases h
  talks h := h
  tells _ _ := rfl
  saves _ := rfl

theorem mutedIn_append {c : Channel} {newer older : List Activity}
    (hnew : ∀ command done, Activity.audio command done ∈ newer → undriven.audio command = true)
    (hlow : (older.findSome? (Activity.tells clocking) == some true) = false)
    (h : mutedIn c (newer ++ older) = true) : mutedIn c older = true := by
  induction newer with
  | nil => exact h
  | cons activity rest ih =>
    have hnew' : ∀ command done, Activity.audio command done ∈ rest → undriven.audio command = true :=
      fun command done hmem => hnew command done (List.mem_cons_of_mem _ hmem)
    have hrest := ih hnew'
    cases activity with
    | sent r => exact hrest h
    | saved s done => exact hrest h
    | audio command done =>
      have hin := hnew command done List.mem_cons_self
      cases command with
      | hardwareOnMuted | setMode m => cases hin
      | applyPathGains => cases done with
        | false => exact hrest h
        | true => cases h
      | setGain c' path gain =>
        cases path with
        | ffb | fb => exact hrest h
        | ffa =>
          cases done with
          | false => exact hrest h
          | true =>
            -- No ramp is under way, since the clock is not raised.
            have hclock : (rest ++ older).findSome? (Activity.tells clocking) =
                older.findSome? (Activity.tells clocking) := by
              have hnone : rest.findSome? (Activity.tells clocking) = none := by
                refine List.findSome?_eq_none_iff.mpr fun activity hmem => ?_
                cases activity with
                | audio command done =>
                  have hin := hnew' command done hmem
                  cases command with
                  | clockBoost on => cases hin
                  | _ => rfl
                | _ => rfl
              rw [List.findSome?_append, hnone, Option.none_or]
            have hwrites : mutedIn c (.audio (.setGain c' .ffa gain) true :: (rest ++ older)) =
                if c' = c then gain == 0 && false else mutedIn c (rest ++ older) := by
              rw [← hlow, ← hclock]
              rfl
            rw [List.cons_append, hwrites] at h
            split at h
            · simp at h
            · exact hrest h
      | _ => exact hrest h

theorem Resting.work (h : Resting a) (w : Work undriven a b) : Resting b where
  toStatic := h.toStatic.work w (fun _ _ _ => rfl) rfl
  gated hon c hm := by
    have hactual : b.runtime.actualEnabled = a.runtime.actualEnabled :=
      (congrArg Runtime.actualEnabled w.keeps :)
    have hmuted : a.muted c = true := by
      obtain ⟨newer, he, hin⟩ := w.history
      unfold muted at hm ⊢
      rw [he] at hm
      exact mutedIn_append hin h.lowered hm
    have hrefused : b.refused = a.refused := by
      unfold refused
      rw [w.latest? fun c done hc => by cases c <;> first | rfl | cases hc]
    rw [w.isArmed rfl, hrefused]
    exact h.gated (hactual ▸ hon) c hmuted
  lowered := by
    unfold clockRaised
    rw [w.latest? fun c done hc => by cases c <;> first | rfl | cases hc]
    exact h.lowered

/-! ### Reconfigurations -/

/-- The hardware is driven without adaptive processing. -/
def dimming : Extent where
  keeps r := r
  timer
    | .pathGainSettle => true
    | _ => false
  audio
    | .setMode _ | .hardwareOnMuted | .hardwareOff => true
    | _ => false
  talks := false

theorem Static.dimmed (h : Static a) (w : Work dimming a b) : Static b :=
  h.work w (fun _ _ _ => rfl) rfl

theorem Tended.boost (h : Tended b) (raised : Bool) : Tended (b.boost raised) :=
  ⟨⟨h.fixed, h.idle, h.unsettled⟩, h.gated⟩

theorem Tended.leakthrough (h : Tended b) : Tended b.refreshLeakthrough.announceLeakthrough := by
  obtain ⟨gain, he⟩ := refreshLeakthrough_eq b
  rw [he]
  unfold announceLeakthrough
  split <;> exact ⟨⟨h.fixed, h.idle, h.unsettled⟩, h.gated⟩

/-- A mode that is loaded brings gains of its own; one that is refused leaves no timer armed. -/
theorem Static.loadMode (h : Static b) (m : Mode) :
    Static (b.loadMode m).1 ∧
      ((b.loadMode m).2 = true ∧ (∀ c, (b.loadMode m).1.muted c = false) ∨
        (b.loadMode m).2 = false ∧ (b.loadMode m).1.refused = true ∧
          (b.loadMode m).1.timers.isArmed .pathGainSettle = false) := by
  have hload : b.loadMode m = (b.cancel .pathGainSettle).attempt (.setMode m) := by
    unfold Earbud.loadMode
    rw [h.idle]
    rfl
  rw [hload]
  refine ⟨(h.cancel .pathGainSettle).dimmed (.single (.attempt _ rfl)), ?_⟩
  rcases attempt_cases (b.cancel .pathGainSettle) (.setMode m) with he | he <;> rw [he]
  · exact Or.inr ⟨rfl, rfl, not_isArmed_cancel b _⟩
  · exact Or.inl ⟨rfl, fun _ => rfl⟩

theorem Tended.applyMode (h : Tended b) (m : Mode) : Tended (b.applyMode m).1 := by
  have hid : b.identifyMode m b.audio.adaptive = b := by rw [h.idle]; rfl
  obtain ⟨hstatic, hloaded⟩ := h.toStatic.loadMode m
  unfold Earbud.applyMode
  dsimp only
  rw [hid, h.idle]
  split
  · exact ⟨⟨h.fixed, h.idle, h.unsettled⟩, h.gated⟩
  · split <;> rename_i loaded heq <;> rw [heq] at hstatic hloaded
    · rcases hloaded with ⟨hok, -⟩ | ⟨-, hrefused, hcancelled⟩
      · cases hok
      · exact ⟨⟨hstatic.fixed, hstatic.idle, hstatic.unsettled⟩, fun _ =>
          gated_of_refused hrefused hcancelled⟩
    · rcases hloaded with ⟨-, hgains⟩ | ⟨hfailed, -⟩
      · refine Tended.leakthrough ?_
        split <;> exact ⟨⟨hstatic.fixed, hstatic.idle, hstatic.unsettled⟩, fun _ =>
          gated_of_loaded hgains⟩
      · cases hfailed

theorem Tended.inMode (h : Tended b) (m : Mode) : Tended (b.inMode m).1 := by
  unfold Earbud.inMode
  split
  · exact h
  · exact h.applyMode m

/-- The hardware comes on muted with the timer armed, or stays off. -/
theorem Static.hardwareOn (h : Static b) :
    Static b.hardwareOn.1 ∧ (b.hardwareOn.2 = true → b.hardwareOn.1.refused = false ∧
      b.hardwareOn.1.timers.isArmed .pathGainSettle = true) := by
  have hstatic : Static (b.attempt .hardwareOnMuted).1 := h.dimmed (.single (.attempt _ rfl))
  unfold Earbud.hardwareOn
  rw [if_neg (by simp [h.fixed])]
  rcases attempt_cases b .hardwareOnMuted with he | he <;> rw [he] at hstatic ⊢
  · exact ⟨hstatic, fun hok => by cases hok⟩
  · exact ⟨hstatic.dimmed (.single (.arm _ _ rfl)), fun _ => ⟨rfl, isArmed_arm _ _ _⟩⟩

/-- The hardware goes off, or stays on muted without a timer. -/
theorem Static.hardwareOff (h : Static b) :
    Static b.hardwareOff.1 ∧ (b.hardwareOff.2 = false → b.hardwareOff.1.refused = true ∧
      b.hardwareOff.1.timers.isArmed .pathGainSettle = false) := by
  have hcancelled : Static (b.cancel .pathGainSettle) := h.cancel _
  have hramp := hcancelled.work (work_rampDown _) (fun _ _ _ => rfl) rfl
  have hstatic : Static ((b.cancel .pathGainSettle).rampDown.attempt .hardwareOff).1 :=
    hramp.dimmed (.single (.attempt _ rfl))
  have hunarmed := ((work_rampDown (b.cancel .pathGainSettle)).isArmed rfl).trans
    (not_isArmed_cancel b _)
  unfold Earbud.hardwareOff
  dsimp only
  rw [if_neg (by simp [hcancelled.fixed])]
  rcases attempt_cases (b.cancel .pathGainSettle).rampDown .hardwareOff with he | he <;>
    rw [he] at hstatic ⊢
  · exact ⟨hstatic, fun _ => ⟨rfl, hunarmed⟩⟩
  · exact ⟨hstatic, fun hfailed => by cases hfailed⟩

theorem Static.stopAdaptive (h : Static b) : Static b.stopAdaptive := by
  have hcancelled := h.cancel .configSettle
  unfold Earbud.stopAdaptive
  dsimp only
  rw [if_neg (by simp [hcancelled.idle])]
  exact hcancelled

theorem Tended.switchHardware (h : Tended b) {on : Bool} (hne : b.runtime.actualEnabled ≠ on) :
    Tended (b.switchHardware on).1 := by
  cases on with
  | true =>
    obtain ⟨hstatic, hon⟩ := h.toStatic.hardwareOn
    have hkept : b.hardwareOn.1.runtime = b.runtime := runtime_hardwareOn b
    unfold Earbud.switchHardware
    dsimp only
    split <;> rename_i turned heq <;> rw [if_pos rfl] at heq <;> rw [heq] at hstatic hon hkept
    · obtain ⟨hrefused, harmed⟩ := hon rfl
      rw [if_pos rfl]
      rw [settleAdaptive_fixed (b := turned.setRuntime _) hstatic.fixed]
      exact ⟨⟨hstatic.fixed, hstatic.idle, hstatic.unsettled⟩, fun _ => gated_of_armed hrefused harmed⟩
    · exact ⟨hstatic, fun hactual => absurd ((congrArg _ hkept).symm.trans hactual) hne⟩
  | false =>
    obtain ⟨hstatic, hoff⟩ := h.toStatic.stopAdaptive.hardwareOff
    unfold Earbud.switchHardware
    dsimp only
    split <;> rename_i turned heq <;> rw [if_neg (by decide)] at heq <;> rw [heq] at hstatic hoff
    -- Once the hardware is off there is nothing to gate.
    · exact ⟨⟨hstatic.fixed, hstatic.idle, hstatic.unsettled⟩, fun hactual => by cases hactual⟩
    · obtain ⟨hrefused, hunarmed⟩ := hoff rfl
      exact ⟨hstatic, fun _ => gated_of_refused hrefused hunarmed⟩

/-- Fixed filters that are tended are tended after a reconfiguration, whatever fails in it. -/
theorem Tended.reconfigure (h : Tended b) (on : Bool) (m : Mode) : Resting (b.reconfigure on m).1 := by
  have hmoded := (h.boost true).inMode m
  rw [reconfigure_stages]
  generalize ((b.boost true).inMode m).1 = moded at hmoded ⊢
  have hpower : Tended (moded.inPower on).1 := by
    unfold inPower
    split <;> rename_i hon
    · exact hmoded
    · exact hmoded.switchHardware hon
  have htold : (moded.inPower on).1.tellAdaptive b.runtime.actualEnabled b.runtime.currentMode =
      (moded.inPower on).1 := by
    unfold tellAdaptive
    rw [if_neg (by simp [hpower.fixed])]
  rw [htold]
  exact ⟨hpower.boost false, rfl⟩

/-! ### Requests -/

theorem Resting.setRuntime (h : Resting b) (change : Runtime → Runtime)
    (hactual : (change b.runtime).actualEnabled = true → b.runtime.actualEnabled = true) :
    Resting (b.setRuntime change) :=
  ⟨⟨⟨h.fixed, h.idle, h.unsettled⟩, fun hon => h.gated (hactual hon)⟩, h.lowered⟩

theorem Resting.off (h : Resting b) (change : Runtime → Runtime)
    (hoff : (change b.runtime).actualEnabled = false) : Resting (b.setRuntime change) :=
  h.setRuntime change fun hon => nomatch hoff.symm.trans hon

theorem Resting.beside (h : Resting a) (w : Work beside a b) : Resting b :=
  h.work (w.mono beside_within_undriven)

theorem Resting.command (h : Resting b) (c : AudioCommand) (hc : undriven.audio c = true) :
    Resting (b.command c) := h.work (.single (.command c hc))

theorem Resting.stopSettleTimers (h : Resting b) : Resting b.stopSettleTimers := by
  have hcancelled := ((h.toStatic.cancel .configSettle).cancel .muteBeforeDisable).cancel .muteBeforeMode
  refine ⟨⟨hcancelled, fun hon c hm => ?_⟩, h.lowered⟩
  have hother : b.stopSettleTimers.timers.isArmed .pathGainSettle = b.timers.isArmed .pathGainSettle := by
    simp [Earbud.stopSettleTimers, cancel, TimerQueue.isArmed, TimerQueue.find?_cancel]
  rw [hother]
  exact h.gated hon c hm

theorem Resting.enter (h : Resting b) (next : Lifecycle)
    (hoff : next = .powerOff → b.runtime.actualEnabled = false) : Resting (b.enter next) := by
  by_cases hn : next = .powerOff
  -- The timer is cancelled on the way to `powerOff`, but the hardware is off by then.
  · have w := parts_enter b next
    have hstill : (b.enter next).runtime.actualEnabled = b.runtime.actualEnabled :=
      (congrArg Runtime.actualEnabled w.keeps :)
    refine ⟨⟨⟨?_, w.idle (fun _ _ _ => rfl) h.idle, ?_⟩, fun hon => ?_⟩, ?_⟩
    · exact (congrArg Config.adaptive w.config).trans h.fixed
    · exact Bool.eq_false_iff.mpr fun hr => nomatch h.unsettled.symm.trans (isArmed_of_enter b hr)
    · exact nomatch (hstill.trans (hoff hn)).symm.trans hon
    · unfold clockRaised
      rw [w.latest? fun _ _ hc => nomatch hc]
      exact h.lowered
  · rw [enter_of_ne b hn]
    exact h.setRuntime _ fun hon => hon

theorem Resting.switchOff (h : Resting b) (next : Lifecycle) : Resting (b.switchOff next).1 := by
  have hoff := h.toTended.reconfigure false b.runtime.requestedMode
  unfold Earbud.switchOff
  dsimp only
  refine Resting.setRuntime ?_ _ fun hon => hon
  split
  · exact (hoff.off _ rfl).enter next fun _ => rfl
  · rename_i hn
    split
    · exact hoff.setRuntime _ fun hon => hon
    · exact hoff.enter next fun heq => absurd heq hn

theorem Resting.requestEnable (h : Resting b) : Resting b.requestEnable.1 := by
  unfold Earbud.requestEnable
  split
  · have hset := h.setRuntime (fun r => { r with requestedEnabled := true }) fun hon => hon
    have hon := hset.toTended.reconfigure true b.runtime.requestedMode
    dsimp only
    split
    · exact hon.enter .enabled fun heq => nomatch heq
    · exact hon
  · exact h

theorem Resting.requestDisable (h : Resting b) : Resting b.requestDisable.1 := by
  unfold Earbud.requestDisable
  split
  · have hset := (h.setRuntime (fun r => { r with requestedEnabled := false }) fun hon => hon)
      |>.stopSettleTimers
    dsimp only
    rw [if_neg (by simp [hset.idle])]
    exact hset.switchOff .disabled
  · exact h

theorem Resting.requestMode (h : Resting b) (m : Mode) : Resting (b.requestMode m).1 := by
  have hset := h.setRuntime (fun r => { r with requestedMode := m }) fun hon => hon
  unfold Earbud.requestMode
  split
  · split
    · exact h
    · exact hset.beside ((work_refreshLeakthrough _).mono gains_within_beside)
  · split
    · exact h
    · dsimp only
      split
      · exact hset
      · rw [if_neg (by simp [hset.idle])]
        exact hset.toTended.reconfigure _ _
  · exact h

theorem Resting.switchPowerOn (h : Resting b) : Resting b.switchPowerOn := by
  have hset := h.setRuntime (fun r => { r with powerOn := true }) fun hon => hon
  obtain ⟨next, hnext, he⟩ := switchPowerOn_eq b
  rw [he]
  refine Resting.enter ?_ next fun heq => by simp [heq] at hnext
  split
  · exact hset.toTended.reconfigure true _
  · exact hset

theorem Resting.start (h : Resting b) : Resting b.start.1 := by
  have hloaded : Resting b.loadSession.1 := h.work (.single .load)
  have hprobed : ∀ microphones mode,
      Resting (b.loadSession.1.attempt (.start microphones mode)).1 := fun _ _ =>
    hloaded.work (.single (.attempt _ rfl))
  rcases start_fst b with ⟨he, -⟩ | ⟨microphones, mode, ⟨he, -⟩ | ⟨enabled, he, -⟩⟩ <;> rw [he]
  · exact h
  · exact hprobed _ _
  · refine Resting.enter ?_ .powerOff fun _ => rfl
    refine Resting.work ?_ (.single (.negotiate _ rfl))
    exact (hprobed _ _).off _ rfl

theorem Demand.resting (d : Demand a b) (h : Resting a) : Resting b := by
  cases d with
  | beside t => exact h.beside (.single t)
  | enable => exact h.requestEnable
  | disable => exact h.requestDisable
  | mode m => exact h.requestMode m
  | remember => exact h.setRuntime _ fun hon => hon

theorem Demands.resting (ds : Demands a b) (h : Resting a) : Resting b := by
  induction ds with
  | refl => exact h
  | tail _ d ih => exact d.resting ih

theorem Static.applyPathGains (h : Static b) (hlow : b.clockRaised = false) :
    Resting (b.command .applyPathGains) :=
  ⟨⟨⟨h.fixed, h.idle, h.unsettled⟩, fun _ => gated_of_loaded fun _ => rfl⟩, hlow⟩

theorem Course.resting {e : Event} {y : Earbud × Outcome} (course : Course b e y)
    (hc : b.runtime.Classified) (h : Resting b) (he : e ≠ .timerExpired .configSettle) :
    Resting y.1 := by
  have hoff : b.runtime.state ≠ .enabled → b.runtime.actualEnabled = false := fun hs => by
    rw [hc.hardware]
    exact beq_eq_false_iff_ne.mpr hs
  cases course with
  | demands ds => exact ds.resting h
  | start => exact h.start
  | powerOn => exact h.switchPowerOn
  | powerOffDisabled hs =>
    refine Resting.enter ?_ .powerOff fun _ => hoff (by rw [hs]; decide)
    exact h.setRuntime _ fun hon => hon
  | powerOffEnabled =>
    have hset := h.setRuntime (fun r => { r with powerOn := false, requestedEnabled := true })
      fun hon => hon
    exact hset.stopSettleTimers.switchOff .powerOff
  | tune kind =>
    refine enterTuning_induction b kind (fun _ => h.stopSettleTimers.switchOff _) (fun _ => ?_)
      fun x hx => hx.command _ rfl
    exact h.enter _ fun heq => by cases kind <;> cases heq
  | host kind rate => exact (h.setRuntime _ fun hon => hon).command _ rfl
  | leaveTuning kind next hs =>
    refine Resting.enter ?_ next fun _ => hoff (by rw [hs]; cases kind <;> decide)
    exact ((h.command _ rfl).command _ rfl).setRuntime _ fun hon => hon
  | startAdaptive => exact absurd rfl he
  | switchOff => exact h.switchOff .disabled
  | applyPending => exact h.toTended.reconfigure _ _
  | applyGains => exact h.toStatic.applyPathGains h.lowered

theorem Resting.dispatch (h : Resting b) (hc : b.runtime.Classified) (e : Event)
    (he : e ≠ .timerExpired .configSettle) : Resting (b.dispatch e).1 :=
  ((course_handle b e).resting hc h he).beside (work_finishFollowUps _)

/-! ### Runs -/

theorem Resting.expiry (h : Resting b) (hsound : Sound b) {k : TimerKind} {timers : TimerQueue}
    (hp : b.timers.popDue? = some (k, timers)) :
    Resting (({ b with timers := timers } : Earbud).dispatch (.timerExpired k)).1 := by
  obtain ⟨armed, hfind, -, rfl, -⟩ := hsound.order.popDue?_eq_some hp
  have harmed : b.timers.isArmed k = true := by simp [TimerQueue.isArmed, hfind]
  have hstatic : Static (b.cancel k) := h.toStatic.cancel k
  have hk : Event.timerExpired k ≠ .timerExpired .configSettle := fun heq => by
    obtain rfl : k = .configSettle := by simpa using heq
    exact Bool.false_ne_true (h.unsettled.symm.trans harmed)
  -- The timer that has just expired is not armed any more, so its own expiry is told apart.
  by_cases hgains : k = .pathGainSettle ∧ b.runtime.state = .enabled
  · obtain ⟨rfl, hs⟩ := hgains
    have hhandle : (b.cancel .pathGainSettle).handle (.timerExpired .pathGainSettle) =
        ((b.cancel .pathGainSettle).command .applyPathGains, .ok ()) :=
      handleInState_enabled (b.cancel .pathGainSettle) hs _
    have hend := (hstatic.applyPathGains h.lowered).beside (work_finishFollowUps _)
    show Resting ((b.cancel .pathGainSettle).handle (.timerExpired .pathGainSettle)).1.finishFollowUps
    rw [hhandle]
    exact hend
  · refine Resting.dispatch (b := b.cancel k) ⟨⟨hstatic, fun hon c hm => ?_⟩, h.lowered⟩
      hsound.classified _ hk
    have hs : b.runtime.state = .enabled := by
      have hclass := hsound.classified.hardware
      rw [show b.runtime.actualEnabled = true from hon] at hclass
      exact beq_iff_eq.mp hclass.symm
    have hother : (b.cancel k).timers.isArmed .pathGainSettle = b.timers.isArmed .pathGainSettle :=
      congrArg Option.isSome ((TimerQueue.find?_cancel _ _ _).trans
        (if_neg fun heq => hgains ⟨heq.symm, hs⟩))
    rw [hother]
    exact h.gated hon c hm

theorem resting_run {config : Config} (hfixed : config.adaptive = false)
    (clockOrigin : Option WallClock) (store : SessionStore) (moves : List Move) :
    Resting ((Earbud.new config clockOrigin store).run moves) := by
  refine run_induction config clockOrigin store ?_ ?_ ?_ ?_ ?_ moves
  · exact ⟨⟨⟨hfixed, rfl, rfl⟩, fun hon => by cases hon⟩, rfl⟩
  · intro b e hsound hexternal h
    refine h.dispatch hsound.classified e ?_
    rintro rfl
    cases hexternal
  · exact fun b k timers hsound hp h => h.expiry hsound hp
  · exact fun b t h => ⟨⟨⟨h.fixed, h.idle, h.unsettled⟩, h.gated⟩, h.lowered⟩
  · exact fun b s h => ⟨⟨⟨h.fixed, h.idle, h.unsettled⟩, h.gated⟩, h.lowered⟩

/-- Whatever happens to an earbud with fixed filters: while noise control is on and a channel is
muted, the timer that applies the gains is armed, unless a mode or a switch off was refused since
the hardware was last switched on. -/
theorem muted_gains_settle_iff {config : Config} (hfixed : config.adaptive = false)
    (clockOrigin : Option WallClock) (store : SessionStore) (moves : List Move) (c : Channel) :
    let b := (Earbud.new config clockOrigin store).run moves
    b.runtime.state = .enabled → b.muted c = true →
      (b.timers.isArmed .pathGainSettle = true ↔ b.refused = false) := by
  intro b hs hm
  have hclass := (sound_run config clockOrigin store moves).1.classified
  have hon : b.runtime.actualEnabled = true := by
    rw [hclass.hardware]
    exact beq_iff_eq.mpr hs
  exact (resting_run hfixed clockOrigin store moves).gated hon c hm

theorem muted_gains_settle_on :
    let config : Config := { Config.standard "" with adaptive := false }
    let b := (Earbud.new config none {}).run [.event .initialise, .event .powerOn, .event .enable]
    (b.runtime.state = .enabled ∧ b.muted .left = true) ∧
      (b.timers.isArmed .pathGainSettle = true ↔ b.refused = false) := by
  intro config b
  have hon : b.runtime.state = .enabled ∧ b.muted .left = true := by decide
  exact ⟨hon, muted_gains_settle_iff (by decide) none {} _ .left hon.1 hon.2⟩

/-- A mode that cannot be loaded before the gains have settled leaves the filters muted. -/
theorem gains_left_muted :
    ¬∀ (config : Config) (clockOrigin : Option WallClock) (store : SessionStore),
      config.adaptive = false → ∀ (moves : List Move), ∀ c ∈ config.layout.channels,
        let b := (Earbud.new config clockOrigin store).run moves
        b.runtime.state = .enabled → b.muted c = true →
          b.timers.isArmed .pathGainSettle = true := by
  intro h
  have harmed := h { Config.standard "" with adaptive := false } none {} (by decide)
    [.event .initialise, .event .powerOn, .event .enable,
      .surround ⟨none, {}, fun _ call => call == .audio (.setMode ⟨1⟩), none, {}, {}⟩,
      .event (.setMode ⟨1⟩)] .left (by decide) (by decide) (by decide)
  exact absurd harmed (by decide)

end Earbud

end NoiseControl
