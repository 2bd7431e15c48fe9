import NoiseControl.QuietMode.Synchronizer

/-!
# Where a side of a negotiation stands

Of the two directions only the one that leaves the present state is ever negotiated.  A side is
free of requests, asks for the transition itself, or follows the request of its peer.  Each
operation is followed from each stance to the stance it ends in and to what it asks for.
-/

namespace NoiseControl.QuietMode

/-- The direction that leaves quiet mode as it is now, on or off. -/
def Direction.leaving (on : Bool) : Direction := if on then .disable else .enable

theorem Direction.leaving_ne (on : Bool) : leaving (!on) ≠ leaving on := by
  cases on <;> decide

namespace Record

variable {r : Record} {d : Direction}

def Plain (r : Record) : Prop := ∀ d, r.requested d = false

structure Carries (r : Record) (d : Direction) (instant : WallClock) : Prop where
  requested : ∀ d', r.requested d' = decide (d' = d)
  timestamp : r.timestamp = instant

theorem plain_clear : clear.Plain := fun d => by cases d <;> rfl

theorem Plain.pending? (h : r.Plain) : r.pending? = none := by
  have he : r.enableRequested = false := h .enable
  have hd : r.disableRequested = false := h .disable
  simp [Record.pending?, he, hd]

theorem Plain.hasRequest (h : r.Plain) : r.hasRequest = false := by
  rw [← isSome_pending?, h.pending?]
  rfl

theorem pending?_eq_some (h : ∀ d', r.requested d' = decide (d' = d)) : r.pending? = some d := by
  have he : r.enableRequested = decide (.enable = d) := h .enable
  have hd : r.disableRequested = decide (.disable = d) := h .disable
  cases d <;> simp [Record.pending?, he, hd]

theorem hasRequest_of_requested (h : r.requested d = true) : r.hasRequest = true := by
  cases d with
  | enable => exact Bool.or_eq_true_iff.mpr (Or.inl h)
  | disable => exact Bool.or_eq_true_iff.mpr (Or.inr h)

theorem Carries.hasRequest {w : WallClock} (h : r.Carries d w) : r.hasRequest = true := by
  rw [← isSome_pending?, pending?_eq_some h.requested]
  rfl

theorem Carries.detected {w : WallClock} (h : r.Carries d w) (silent : Bool) :
    { r with detected := silent }.Carries d w :=
  ⟨fun d' => (show _ = r.requested d' by cases d' <;> rfl).trans (h.requested d'), h.timestamp⟩

theorem Plain.detected (h : r.Plain) (silent : Bool) : { r with detected := silent }.Plain :=
  fun d => (show _ = r.requested d by cases d <;> rfl).trans (h d)

end Record

namespace Synchronizer

/-- Neither side has a request. -/
structure Free (on : Bool) (s : Synchronizer) : Prop where
  enabled : s.own.enabled = on
  own : s.own.Plain
  peer : s.peer.Plain

/-- This side requests to leave the present state at an instant.  Its copy of the peer's record may
still have the same request, given up since. -/
structure Asks (on : Bool) (instant : WallClock) (s : Synchronizer) : Prop where
  enabled : s.own.enabled = on
  own : s.own.Carries (.leaving on) instant
  peer : s.peer.requested (.leaving !on) = false

/-- The peer requests to leave the present state, and this side does not. -/
structure Follows (on : Bool) (s : Synchronizer) : Prop where
  enabled : s.own.enabled = on
  own : s.own.Plain
  peer : ∀ d, s.peer.requested d = decide (d = .leaving on)

variable {on : Bool} {s : Synchronizer} {instant now : WallClock} {r : Record}

/-! ### Elections -/

theorem setup_tryEnable (s : Synchronizer) (now : WallClock) :
    (s.tryEnable now).1.delay = s.delay ∧ (s.tryEnable now).1.winsTies = s.winsTies := by
  unfold tryEnable
  split
  · exact ⟨rfl, rfl⟩
  · split
    · exact ⟨rfl, rfl⟩
    · split <;> exact ⟨rfl, rfl⟩

theorem setup_tryDisable (s : Synchronizer) (now : WallClock) :
    (s.tryDisable now).1.delay = s.delay ∧ (s.tryDisable now).1.winsTies = s.winsTies := by
  unfold tryDisable
  split
  · exact ⟨rfl, rfl⟩
  · split <;> exact ⟨rfl, rfl⟩

/-- What an operation makes of a side that is free: it stays free and asks for nothing, or it tells
that it observes silence where it may, or it elects itself. -/
inductive Answer (tells : Bool) (on : Bool) (now : WallClock) (delay : Nat) : Decision → Prop where
  | quiet {s : Synchronizer} : s.Free on → Answer tells on now delay (s, [])
  | tells {s : Synchronizer} : tells = true → s.Free on → s.own.detected = true →
      Answer tells on now delay (s, [.publish s.own])
  | elects {s : Synchronizer} : s.Asks on (now.add delay) →
      Answer tells on now delay (s, [.arm (.leaving on) delay, .publish s.own])

theorem Answer.enabled {tells : Bool} {delay : Nat} {decision : Decision}
    (h : Answer tells on now delay decision) : decision.1.own.enabled = on := by
  cases h with
  | quiet h => exact h.enabled
  | tells _ h => exact h.enabled
  | elects h => exact h.enabled

theorem Answer.mayTell {tells : Bool} {delay : Nat} {decision : Decision}
    (h : Answer tells on now delay decision) : Answer true on now delay decision := by
  cases h with
  | quiet h => exact .quiet h
  | tells _ h hsilent => exact .tells rfl h hsilent
  | elects h => exact .elects h

theorem Free.schedule (h : s.Free on) (now : WallClock) (tells : Bool) :
    Answer tells on now s.delay (s.schedule (.leaving on) now) := by
  have henabled : (s.own.setRequested (.leaving on) true).enabled = s.own.enabled := by
    cases on <;> rfl
  refine .elects ⟨henabled.trans h.enabled, ⟨fun d => ?_, rfl⟩, h.peer _⟩
  have hown := h.own d
  cases on <;> cases d <;> first | rfl | exact hown

/-- Nothing is told to a peer that is known to observe silence: this side would elect itself. -/
theorem Free.tryEnable (h : s.Free on) (now : WallClock) :
    Answer (!s.peer.detected) on now s.delay (s.tryEnable now) := by
  have hnone := h.own.hasRequest
  unfold Synchronizer.tryEnable
  cases on with
  | true =>
    rw [if_pos (by simp [h.enabled])]
    exact .quiet h
  | false =>
    rw [if_neg (by simp [h.enabled, hnone])]
    split
    · exact h.schedule now _
    · rename_i helect
      split
      · rename_i hsilent
        have hown : s.own.enableRequested = false := h.own .enable
        have hpeer : s.peer.enableRequested = false := h.peer .enable
        have hunknown : s.peer.detected = false := by
          simpa [electsEnable, hown, hpeer, hsilent] using helect
        exact .tells (by simp [hunknown]) h hsilent
      · exact .quiet h

theorem Free.tryDisable (h : s.Free on) (now : WallClock) (tells : Bool) :
    Answer tells on now s.delay (s.tryDisable now) := by
  have hnone := h.own.hasRequest
  unfold Synchronizer.tryDisable
  cases on with
  | false =>
    rw [if_pos (by simp [h.enabled])]
    exact .quiet h
  | true =>
    rw [if_neg (by simp [h.enabled, hnone])]
    split
    · exact h.schedule now tells
    · exact .quiet h

theorem tryDisable_off (s : Synchronizer) (h : s.own.enabled = false) (now : WallClock) :
    s.tryDisable now = (s, []) := by
  unfold tryDisable
  rw [if_pos (by simp [h])]

theorem tryEnable_on (s : Synchronizer) (h : s.own.enabled = true) (now : WallClock) :
    s.tryEnable now = (s, []) := by
  unfold tryEnable
  rw [if_pos (by simp [h])]

theorem tryEnable_requested (s : Synchronizer) (h : s.own.hasRequest = true) (now : WallClock) :
    s.tryEnable now = (s, []) := by
  unfold tryEnable
  rw [if_pos (by simp [h])]

theorem tryDisable_requested (s : Synchronizer) (h : s.own.hasRequest = true) (now : WallClock) :
    s.tryDisable now = (s, []) := by
  unfold tryDisable
  rw [if_pos (by simp [h])]

/-! ### Reports of silence -/

def noting (s : Synchronizer) (silent : Bool) : Synchronizer :=
  { s with own := { s.own with detected := silent } }

def report (s : Synchronizer) (silent : Bool) (now : WallClock) : Decision :=
  if silent then s.detected now else s.cleared now

theorem report_eq (s : Synchronizer) (silent : Bool) (now : WallClock) :
    s.report silent now =
      if silent then (s.noting silent).tryEnable now else (s.noting silent).tryDisable now := by
  cases silent <;> rfl

theorem setup_report (s : Synchronizer) (silent : Bool) (now : WallClock) :
    (s.report silent now).1.delay = s.delay ∧ (s.report silent now).1.winsTies = s.winsTies := by
  rw [report_eq]
  split
  · exact setup_tryEnable _ now
  · exact setup_tryDisable _ now

theorem report_requested (h : s.own.hasRequest = true) (silent : Bool) (now : WallClock) :
    s.report silent now = (s.noting silent, []) := by
  have hbusy : (s.noting silent).own.hasRequest = true := h
  rw [report_eq, tryEnable_requested _ hbusy, tryDisable_requested _ hbusy, ite_self]

theorem Free.report (h : s.Free on) (silent : Bool) (now : WallClock) :
    Answer true on now s.delay (s.report silent now) := by
  have hfree : (s.noting silent).Free on := ⟨h.enabled, h.own.detected silent, h.peer⟩
  rw [report_eq]
  split
  · exact (hfree.tryEnable now).mayTell
  · exact hfree.tryDisable now true

/-- While a transition is scheduled by this side, a report is only noted. -/
theorem Asks.report (h : s.Asks on instant) (silent : Bool) (now : WallClock) :
    (s.report silent now).1.Asks on instant ∧ (s.report silent now).2 = [] := by
  rw [report_requested h.own.hasRequest]
  exact ⟨⟨h.enabled, h.own.detected silent, h.peer⟩, rfl⟩

/-- While a transition is scheduled by the peer, a report elects nobody. -/
theorem Follows.report (h : s.Follows on) (silent : Bool) (now : WallClock) :
    (s.report silent now).1.Follows on ∧
      ((s.report silent now).2 = [] ∨
        (s.report silent now).2 = [.publish (s.report silent now).1.own]) := by
  have hfollows : (s.noting silent).Follows on := ⟨h.enabled, h.own.detected silent, h.peer⟩
  have hnone := hfollows.own.hasRequest
  have hasked : (s.noting silent).peer.requested (.leaving on) = true := by simp [hfollows.peer]
  have heq : s.report silent now = (s.noting silent, []) ∨
      s.report silent now = (s.noting silent, [.publish (s.noting silent).own]) := by
    rw [report_eq]
    -- Silence is told to the peer while quiet mode is off; no other report has an effect.
    cases on with
    | false =>
      rw [tryDisable_off _ hfollows.enabled]
      split
      · rename_i hsilent
        have hwaits : (s.noting silent).electsEnable = false := by
          simp [electsEnable, show (s.noting silent).peer.enableRequested = true from hasked]
        refine Or.inr ?_
        unfold tryEnable
        rw [if_neg (by simp [hfollows.enabled, hnone]), if_neg (by simp [hwaits]),
          if_pos (show (s.noting silent).own.detected = true from hsilent)]
      · exact Or.inl rfl
    | true =>
      rw [tryEnable_on _ hfollows.enabled]
      split
      · exact Or.inl rfl
      · have hwaits : (s.noting silent).electsDisable = false := by
          simp [electsDisable, show (s.noting silent).peer.disableRequested = true from hasked]
        refine Or.inl ?_
        unfold tryDisable
        rw [if_neg (by simp [hfollows.enabled, hnone]), if_neg (by simp [hwaits])]
  rcases heq with heq | heq <;> rw [heq]
  · exact ⟨hfollows, Or.inl rfl⟩
  · exact ⟨hfollows, Or.inr rfl⟩

/-! ### Records of the peer -/

def hearing (s : Synchronizer) (r : Record) : Synchronizer := { s with peer := r }

theorem setup_peerRecord (s : Synchronizer) (r : Record) (now : WallClock) :
    (s.peerRecord r now).1.delay = s.delay ∧ (s.peerRecord r now).1.winsTies = s.winsTies := by
  unfold peerRecord
  dsimp only
  split
  · split
    · split <;> exact ⟨rfl, rfl⟩
    · exact ⟨rfl, rfl⟩
  · have henable := setup_tryEnable (s.hearing r) now
    have hdisable := setup_tryDisable ((s.hearing r).tryEnable now).1 now
    exact ⟨hdisable.1.trans henable.1, hdisable.2.trans henable.2⟩

theorem peerRecord_plain (s : Synchronizer) (hr : r.Plain) (now : WallClock) :
    s.peerRecord r now =
      let enabling := (s.hearing r).tryEnable now
      let disabling := enabling.1.tryDisable now
      (disabling.1, enabling.2 ++ disabling.2) := by
  unfold peerRecord
  rw [hr.pending?]
  rfl

theorem peerRecord_asking (s : Synchronizer) {d : Direction} (hr : r.pending? = some d)
    (now : WallClock) :
    s.peerRecord r now =
      if (s.hearing r).own.requested d then
        if (s.hearing r).keepsOwnRequest r.timestamp then (s.hearing r, [])
        else
          let yielded := (s.hearing r).yieldRequest d
          (yielded, [.publish yielded.own, follow d r now])
      else (s.hearing r, [follow d r now]) := by
  unfold peerRecord
  rw [hr]
  rfl

theorem peerRecord_request (s : Synchronizer) {d : Direction} (hr : r.Carries d instant)
    (now : WallClock) :
    s.peerRecord r now =
      if (s.hearing r).own.requested d then
        if (s.hearing r).keepsOwnRequest r.timestamp then (s.hearing r, [])
        else
          let yielded := (s.hearing r).yieldRequest d
          (yielded, [.publish yielded.own, follow d r now])
      else (s.hearing r, [follow d r now]) :=
  peerRecord_asking s (Record.pending?_eq_some hr.requested) now

/-- News that the peer observes silence leave this side free, or make it elect itself.  Nothing is
told in answer, so two sides that observe silence do not go on telling each other. -/
theorem Free.hears (h : s.Free on) (hr : r.Plain) (hsilent : r.detected = true) (now : WallClock) :
    Answer false on now s.delay (s.peerRecord r now) := by
  have hfree : (s.hearing r).Free on := ⟨h.enabled, h.own, hr⟩
  rw [peerRecord_plain s hr]
  dsimp only
  cases on with
  | true =>
    rw [tryEnable_on _ hfree.enabled]
    exact hfree.tryDisable now false
  | false =>
    have hanswer := hfree.tryEnable now
    rw [show (!(s.hearing r).peer.detected) = false by simp [hearing, hsilent]] at hanswer
    rw [tryDisable_off _ hanswer.enabled, List.append_nil]
    exact hanswer

theorem Free.follows (h : s.Free on) (hr : r.Carries (.leaving on) instant) (now : WallClock) :
    (s.peerRecord r now).1.Follows on ∧ (s.peerRecord r now).2 = [follow (.leaving on) r now] := by
  have hown : (s.hearing r).own.requested (.leaving on) = false := h.own _
  rw [peerRecord_request s hr, if_neg (by simp [hown])]
  exact ⟨⟨h.enabled, h.own, hr.requested⟩, rfl⟩

theorem Asks.hears (h : s.Asks on instant) (hr : r.Plain) (now : WallClock) :
    (s.peerRecord r now).1.Asks on instant ∧ (s.peerRecord r now).2 = [] := by
  have hasks : (s.hearing r).Asks on instant := ⟨h.enabled, h.own, hr _⟩
  rw [peerRecord_plain s hr, tryEnable_requested _ hasks.own.hasRequest]
  dsimp only
  rw [tryDisable_requested _ hasks.own.hasRequest]
  exact ⟨hasks, rfl⟩

theorem Asks.keepsOwnRequest (h : s.Asks on instant) (hr : r.Carries (.leaving on) instant) :
    (s.hearing r).keepsOwnRequest r.timestamp = s.winsTies := by
  have hdelta : r.timestamp.deltaSince s.own.timestamp = 0 := by
    rw [hr.timestamp, h.own.timestamp]
    simp [WallClock.deltaSince]
  simp [Synchronizer.keepsOwnRequest, hearing, hdelta]

/-- Of two sides that ask for one instant the one with priority keeps its request. -/
theorem Asks.keeps (h : s.Asks on instant) (hr : r.Carries (.leaving on) instant)
    (hwins : s.winsTies = true) (now : WallClock) :
    (s.peerRecord r now).1.Asks on instant ∧ (s.peerRecord r now).2 = [] := by
  have hown : (s.hearing r).own.requested (.leaving on) = true := by simp [hearing, h.own.requested]
  have hpeer : r.requested (.leaving !on) = false := by
    simp [hr.requested, Direction.leaving_ne]
  rw [peerRecord_request s hr, if_pos hown, if_pos (by rw [h.keepsOwnRequest hr, hwins])]
  exact ⟨⟨h.enabled, h.own, hpeer⟩, rfl⟩

/-- The other gives its request up, tells so, and follows. -/
theorem Asks.yields (h : s.Asks on instant) (hr : r.Carries (.leaving on) instant)
    (hyields : s.winsTies = false) (now : WallClock) :
    (s.peerRecord r now).1.Follows on ∧
      (s.peerRecord r now).2 = [.publish (s.peerRecord r now).1.own, follow (.leaving on) r now] := by
  have hown : (s.hearing r).own.requested (.leaving on) = true := by simp [hearing, h.own.requested]
  rw [peerRecord_request s hr, if_pos hown, if_neg (by rw [h.keepsOwnRequest hr, hyields]; decide)]
  refine ⟨⟨?_, fun d => ?_, hr.requested⟩, rfl⟩
  · exact (show _ = s.own.enabled by cases on <;> rfl).trans h.enabled
  · have hd := h.own.requested d
    cases on <;> cases d <;> first | rfl | exact hd

/-! ### The agreed instant -/

theorem setup_fire (s : Synchronizer) (d : Direction) :
    (s.fire d).1.delay = s.delay ∧ (s.fire d).1.winsTies = s.winsTies := by
  unfold fire
  split
  · exact ⟨rfl, rfl⟩
  · cases d <;> exact ⟨rfl, rfl⟩

/-- A transition that either side asked for, and no other, leaves the side free in the other
state. -/
theorem fire_leaving (henabled : s.own.enabled = on)
    (hasked : s.own.requested (.leaving on) = true ∨ s.peer.requested (.leaving on) = true)
    (hown : s.own.requested (.leaving !on) = false) (hpeer : s.peer.requested (.leaving !on) = false) :
    (s.fire (.leaving on)).1.Free (!on) ∧
      (s.fire (.leaving on)).2 = [if on then .switchOff else .switchOn] := by
  -- Switching on takes the one request out of both records, switching off clears them.
  have hfires : ¬(!s.own.requested (.leaving on) && !s.peer.requested (.leaving on)) = true := by
    rcases hasked with h | h <;> simp [h]
  unfold fire
  rw [if_neg hfires]
  cases on with
  | false =>
    refine ⟨⟨rfl, fun d => ?_, fun d => ?_⟩, rfl⟩
    · cases d
      · rfl
      · exact hown
    · cases d
      · rfl
      · exact hpeer
  | true => exact ⟨⟨rfl, Record.plain_clear, Record.plain_clear⟩, rfl⟩

theorem Asks.fire (h : s.Asks on instant) :
    (s.fire (.leaving on)).1.Free (!on) ∧
      (s.fire (.leaving on)).2 = [if on then .switchOff else .switchOn] :=
  fire_leaving h.enabled (Or.inl (by simp [h.own.requested]))
    (by simp [h.own.requested, Direction.leaving_ne]) h.peer

theorem Follows.fire (h : s.Follows on) :
    (s.fire (.leaving on)).1.Free (!on) ∧
      (s.fire (.leaving on)).2 = [if on then .switchOff else .switchOn] :=
  fire_leaving h.enabled (Or.inr (by simp [h.peer])) (h.own _)
    (by simp [h.peer, Direction.leaving_ne])

end Synchronizer

end NoiseControl.QuietMode
