import Mathlib.Algebra.Group.Nat.Defs
import NoiseControl.Proofs.Earbud.AudioWithoutPower
import NoiseControl.Proofs.Earbud.FollowUp
import NoiseControl.Proofs.Earbud.Initialised
import NoiseControl.Proofs.QuietMode.Response

/-!
# Instants that have come

While adaptive processing runs, a request of the peer whose instant is not ahead is carried out in the
event that brings it, once, unless an own request stands against it.  A request made here is given up
for it, and that is told first.  Without a shared clock the reading is zero, and half of all instants
are ahead of that.
-/

namespace NoiseControl

open QuietMode (Direction Record Synchronizer Effect)

namespace QuietMode

namespace Direction

/-- What the audio chain is told in a transition. -/
def command : Direction → AudioCommand
  | .enable => .quietModeOn
  | .disable => .quietModeOff

/-- What clients are told of a transition. -/
def notice : Direction → Notification
  | .enable => .quietModeOn
  | .disable => .quietModeOff

end Direction

namespace Synchronizer

variable {s : Synchronizer} {d : Direction} {r : Record} {now : WallClock}

theorem follow_due (h : r.timestamp.until? now = none) : follow d r now = .fireNow d := by
  unfold follow
  rw [h]

theorem follow_ahead {after : Nat} (h : r.timestamp.until? now = some after) :
    follow d r now = .arm d after := by
  unfold follow
  rw [h]

end Synchronizer

end QuietMode

namespace Earbud

variable {a b : Earbud} {d : Direction} {r : Record}

/-! ### A transition in one event -/

/-- What clients are told of a request that is given up for one of the peer. -/
def givingUp (b : Earbud) (d : Direction) : List Notification :=
  if b.quietMode.own.requested d then [.quietModeUpdated (b.quietMode.yieldRequest d).own] else []

/-- From `a` to `b` a transition was carried out once.  It was told to the clients, and no record asks
for it any more. -/
structure Transits (d : Direction) (a b : Earbud) : Prop where
  commanded : b.commandsSince a = [d.command]
  told : b.clients.sent = d.notice :: (a.givingUp d ++ a.clients.sent)
  switched : b.audio.quiet = decide (d = .enable) ∧ b.quietMode.own.enabled = decide (d = .enable)
  settled : b.quietMode.own.requested d = false ∧ b.quietMode.peer.requested d = false
  timers : b.timers = a.timers
  done : b.followUps = []

theorem carryOut_switch (b : Earbud) (d : Direction) :
    b.carryOut d.switch = (b.command d.command).announce d.notice := by
  cases d <;> rfl

/-- The transition is carried out in an earbud that has told of giving its own request up. -/
theorem transits_fire (htold : a.clients.sent = b.givingUp d ++ b.clients.sent)
    (hgave : Gives b [] a) (htimers : a.timers = b.timers) (hdone : a.followUps = [])
    (hasked : a.quietMode.peer.requested d = true) :
    Transits d b (a.adopt (a.quietMode.fire d)) := by
  obtain ⟨heffects, henabled, hown, hpeer⟩ := Synchronizer.fire_asked (Or.inr hasked)
  generalize a.quietMode.fire d = decision at heffects henabled hown hpeer ⊢
  obtain ⟨s, effects⟩ := decision
  cases heffects
  have hadopt : a.adopt (s, [d.switch]) =
      ({ a with quietMode := s }.command d.command).announce d.notice := carryOut_switch _ d
  rw [hadopt]
  have hgives : Gives a [d.command] (({ a with quietMode := s }.command d.command).announce d.notice) :=
    ⟨[.audio d.command true], rfl, rfl⟩
  exact {
    commanded := (hgave.trans hgives).commandsSince
    told := congrArg (d.notice :: ·) htold
    switched := ⟨by cases d <;> rfl, henabled⟩
    settled := ⟨hown, hpeer⟩
    timers := htimers
    done := hdone }

/-! ### Records of the peer -/

section Heard

variable (hdone : b.followUps = []) (hcase : b.runtime.peerInCase = false)
  (hr : r.pending? = some d)

include hcase in
theorem handle_peerRecord_around (r : Record) :
    (b.handle (.peerRecord r)).1 = b.adopt (b.quietMode.peerRecord r b.wallNow) := by
  show b.receiveRecord r = _
  rw [receiveRecord, if_neg (by simp [hcase])]

include hdone hcase hr

/-- A request that stands against that of the peer stays as it is. -/
theorem dispatch_kept (hasked : b.quietMode.own.requested d = true)
    (hkeeps : b.quietMode.keepsOwnRequest r.timestamp = true) :
    (b.dispatch (.peerRecord r)).1 = { b with quietMode := b.quietMode.hearing r } := by
  have hhears : b.quietMode.peerRecord r b.wallNow = (b.quietMode.hearing r, []) := by
    rw [Synchronizer.peerRecord_asking _ hr]
    exact (if_pos hasked).trans (if_pos hkeeps)
  have hhandle := handle_peerRecord_around hcase r
  rw [hhears] at hhandle
  exact dispatch_adopt hhandle hdone

/-- A side without a request of its own counts down to an instant that is ahead. -/
theorem dispatch_ahead (hfree : b.quietMode.own.requested d = false) {after : Nat}
    (hahead : r.timestamp.until? b.wallNow = some after) :
    (b.dispatch (.peerRecord r)).1 =
      { b with
        quietMode := b.quietMode.hearing r
        timers := b.timers.arm (.quietMode d) after } := by
  have hhears : b.quietMode.peerRecord r b.wallNow = (b.quietMode.hearing r, [.arm d after]) := by
    rw [Synchronizer.peerRecord_asking _ hr, ← Synchronizer.follow_ahead hahead]
    exact if_neg (Bool.eq_false_iff.mp hfree)
  have hhandle := handle_peerRecord_around hcase r
  rw [hhears] at hhandle
  exact dispatch_adopt hhandle hdone

theorem transits_dispatch (hs : b.runtime.state = .enabled) (hactive : b.audio.adaptive = true)
    (hdue : r.timestamp.until? b.wallNow = none)
    (hgives : b.quietMode.own.requested d = true → b.quietMode.keepsOwnRequest r.timestamp = false) :
    Transits d b (b.dispatch (.peerRecord r)).1 := by
  have hpeer : r.requested d = true := Record.requested_of_pending? hr
  have hhandle := handle_peerRecord_around hcase r
  rw [Synchronizer.peerRecord_asking _ hr, Synchronizer.follow_due hdue] at hhandle
  -- Only a side that gives a request up tells of it, and it does so before the transition.
  by_cases hasked : b.quietMode.own.requested d = true
  · have hyields : ¬(b.quietMode.hearing r).keepsOwnRequest r.timestamp = true :=
      Bool.eq_false_iff.mp (hgives hasked)
    rw [if_pos (show (b.quietMode.hearing r).own.requested d = true from hasked), if_neg hyields]
      at hhandle
    rw [dispatch_fireNow [.publish _] hhandle hdone hs hactive]
    refine transits_fire ?_ ⟨[.sent _], rfl, rfl⟩ rfl hdone hpeer
    rw [givingUp, if_pos hasked]
    rfl
  · rw [if_neg (show ¬(b.quietMode.hearing r).own.requested d = true from hasked)] at hhandle
    rw [dispatch_fireNow [] hhandle hdone hs hactive]
    refine transits_fire ?_ (gives_nothing rfl) rfl hdone hpeer
    rw [givingUp, if_neg hasked]
    rfl

end Heard

section Run

variable (c : Config) (clockOrigin : Option WallClock) (store : SessionStore)

/-- After any run, a request of the peer that comes at its instant or later while adaptive processing
runs is carried out in the same event, once: the queue is emptied, and no record asks any more.  An own
request that stands against it stays, and nothing else happens. -/
theorem late_request_carried_out (turns : List Turn) (r : Record) (d : Direction)
    (hs : ((Earbud.new c clockOrigin store).after turns).runtime.state = .enabled)
    (hactive : ((Earbud.new c clockOrigin store).after turns).audio.adaptive = true)
    (hcase : ((Earbud.new c clockOrigin store).after turns).runtime.peerInCase = false)
    (hr : r.pending? = some d)
    (hlate : r.timestamp.deltaSince ((Earbud.new c clockOrigin store).after turns).wallNow ≤ 0) :
    let b := (Earbud.new c clockOrigin store).after turns
    let b' := (b.dispatch (.peerRecord r)).1
    let keeps := b.quietMode.own.requested d && b.quietMode.keepsOwnRequest r.timestamp
    Drains (b.handle (.peerRecord r)).1 b' ∧ (keeps = false → Transits d b b') ∧
      (keeps = true → b' = { b with quietMode := b.quietMode.hearing r }) := by
  intro b b' keeps
  have hdone : b.followUps = [] := done_after (b := Earbud.new c clockOrigin store) rfl turns
  have hdue := (WallClock.until?_eq_none_iff r.timestamp b.wallNow).mpr hlate
  refine ⟨drains_dispatch b _, fun hgives => ?_, fun hkeeps => ?_⟩
  · refine transits_dispatch hdone hcase hr hs hactive hdue fun hasked => ?_
    have hand : (b.quietMode.own.requested d && b.quietMode.keepsOwnRequest r.timestamp) = false :=
      hgives
    rwa [hasked, Bool.true_and] at hand
  · obtain ⟨hasked, hkept⟩ := Bool.and_eq_true_iff.mp hkeeps
    exact dispatch_kept hdone hcase hr hasked hkept

/-- Both sides asked to switch on, the peer for an instant that has passed when its record arrives. -/
theorem late_request_carried_out_crossed :
    let turns : List Turn := [.event .initialise, .event .powerOn, .event .enable,
      .event (.timerExpired .configSettle), .event (.peerRecord { detected := true }),
      .event .silenceDetected]
    let b := (Earbud.new (.standard "") (some ⟨1000000⟩) {}).after turns
    let r : Record := { detected := true, enableRequested := true, timestamp := ⟨900000⟩ }
    b.runtime.state = .enabled ∧ b.audio.adaptive = true ∧ b.runtime.peerInCase = false ∧
      b.quietMode.own.enableRequested = true ∧ Transits .enable b (b.dispatch (.peerRecord r)).1 := by
  intro turns b r
  exact ⟨by decide, by decide, by decide, by decide,
    (late_request_carried_out (.standard "") (some ⟨1000000⟩) {} turns r .enable (by decide) (by decide)
      (by decide) (by decide) (by decide)).2.1 (by decide)⟩

/-! ### Without a shared clock -/

/-- After any run without a shared clock, a request of the peer that meets none of this side is carried
out at once, without arming a timer, exactly when its instant is zero or in the second half of a turn.
It is counted down to otherwise. -/
theorem carried_out_without_clock_iff (turns : List Turn) (r : Record) (d : Direction)
    (hclock : ((Earbud.new c clockOrigin store).after turns).clockOrigin = none)
    (hs : ((Earbud.new c clockOrigin store).after turns).runtime.state = .enabled)
    (hactive : ((Earbud.new c clockOrigin store).after turns).audio.adaptive = true)
    (hcase : ((Earbud.new c clockOrigin store).after turns).runtime.peerInCase = false)
    (hfree : ((Earbud.new c clockOrigin store).after turns).quietMode.own.hasRequest = false)
    (hr : r.pending? = some d) :
    let b := (Earbud.new c clockOrigin store).after turns
    let b' := (b.dispatch (.peerRecord r)).1
    let time := r.timestamp.micros.toNat
    (Transits d b b' ↔ time = 0 ∨ 2 ^ 31 ≤ time) ∧
      (time ≠ 0 → time < 2 ^ 31 →
        b' = { b with
          quietMode := b.quietMode.hearing r
          timers := b.timers.arm (.quietMode d) time }) := by
  intro b b' time
  have hdone : b.followUps = [] := done_after (b := Earbud.new c clockOrigin store) rfl turns
  have hnone : b.quietMode.own.requested d = false := Record.plain_of_hasRequest hfree d
  have hnow : b.wallNow = .zero := by
    unfold wallNow
    rw [show b.clockOrigin = none from hclock]
  have huntil : r.timestamp.until? b.wallNow =
      if 0 < time ∧ time < 2 ^ 31 then some time else none := by
    rw [hnow]
    exact WallClock.until?_zero _
  have hcounts : time ≠ 0 → time < 2 ^ 31 →
      b' = { b with
        quietMode := b.quietMode.hearing r
        timers := b.timers.arm (.quietMode d) time } := by
    intro hpos hlt
    rw [if_pos ⟨Nat.pos_of_ne_zero hpos, hlt⟩] at huntil
    exact dispatch_ahead hdone hcase hr hnone huntil
  refine ⟨⟨fun htransits => ?_, fun hdue => ?_⟩, hcounts⟩
  · by_cases hahead : time ≠ 0 ∧ time < 2 ^ 31
    · have hquiet : b'.commandsSince b = [] := by
        rw [hcounts hahead.1 hahead.2]
        exact Gives.commandsSince (gives_nothing rfl)
      exact nomatch hquiet.symm.trans htransits.commanded
    · omega
  · rw [if_neg (by omega)] at huntil
    exact transits_dispatch hdone hcase hr hs hactive huntil fun hasked =>
      nomatch hnone.symm.trans hasked

/-- The peer tells no instant. -/
theorem carried_out_without_clock_iff_zero :
    let turns : List Turn := [.event .initialise, .event .powerOn, .event .enable,
      .event (.timerExpired .configSettle)]
    let b := (Earbud.new (.standard "") none {}).after turns
    let r : Record := { detected := true, enableRequested := true }
    b.runtime.state = .enabled ∧ b.audio.adaptive = true ∧
      Transits .enable b (b.dispatch (.peerRecord r)).1 := by
  intro turns b r
  exact ⟨by decide, by decide, (carried_out_without_clock_iff (.standard "") none {} turns r .enable
    (by decide) (by decide) (by decide) (by decide) (by decide) (by decide)).1.mpr (by decide)⟩

end Run

/-- An instant 1.2 seconds after zero is counted down to from zero. -/
theorem counted_down_without_clock : ¬∀ (c : Config) (clockOrigin : Option WallClock)
    (store : SessionStore) (turns : List Turn) (r : Record) (d : Direction),
    let b := (Earbud.new c clockOrigin store).after turns
    let b' := (b.dispatch (.peerRecord r)).1
    b.clockOrigin = none → b.runtime.state = .enabled → b.audio.adaptive = true →
      b.runtime.peerInCase = false → b.quietMode.own.hasRequest = false → r.pending? = some d →
      b'.commandsSince b = [d.command] ∧
        ∀ d', b'.timers.find? (.quietMode d') = b.timers.find? (.quietMode d') := by
  intro h
  have hcounts := h (.standard "") none {} [.event .initialise, .event .powerOn, .event .enable,
    .event (.timerExpired .configSettle)]
    { detected := true, enableRequested := true, timestamp := ⟨1200000⟩ } .enable (by decide) (by decide)
    (by decide) (by decide) (by decide) (by decide)
  exact absurd hcounts.1 (by decide)

end Earbud

end NoiseControl
