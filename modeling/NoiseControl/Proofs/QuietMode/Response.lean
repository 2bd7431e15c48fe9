import NoiseControl.Proofs.QuietMode.Decision

/-!
# What a record of the peer sets off

On a record of its peer a side may arm the timer of a transition and may send its own record.  When
it does is read off the two records and the clock.
-/

namespace NoiseControl.QuietMode.Synchronizer

variable {s : Synchronizer} {r : Record} {now : WallClock} {d : Direction}

/-- The record makes this side arm the timer of a transition.  A request in it does while its
instant lies ahead, unless an own request stands against it.  Without a request it does when this
side, free of requests itself, is then to lead the transition. -/
def Arms (s : Synchronizer) (r : Record) (now : WallClock) (d : Direction) : Prop :=
  match r.pending? with
  | some d' =>
    d = d' ∧ (r.timestamp.until? now).isSome = true ∧
      (s.own.requested d' = true → s.keepsOwnRequest r.timestamp = false)
  | none =>
    s.own.hasRequest = false ∧ s.own.enabled = decide (d = .disable) ∧
      s.own.detected = decide (d = .enable) ∧ (d = .enable → r.detected = true)

/-- The record makes this side send its own: it gives its request up, or it has no request and what
it observes is at odds with quiet mode as it is. -/
def Responds (s : Synchronizer) (r : Record) : Prop :=
  match r.pending? with
  | some d => s.own.requested d = true ∧ s.keepsOwnRequest r.timestamp = false
  | none => s.own.hasRequest = false ∧ s.own.enabled ≠ s.own.detected

/-! ### Requests -/

theorem peerRecord_pending (s : Synchronizer) (hr : r.pending? = some d) (now : WallClock) :
    (s.peerRecord r now).2 =
      if s.own.requested d then
        if s.keepsOwnRequest r.timestamp then []
        else [.publish (s.yieldRequest d).own, follow d r now]
      else [follow d r now] := by
  rw [peerRecord_asking s hr]
  split
  · rename_i hasked
    rw [if_pos (show s.own.requested d = true from hasked)]
    split <;> rename_i hkeeps
    · rw [if_pos (show s.keepsOwnRequest r.timestamp = true from hkeeps)]
    · rw [if_neg (show ¬s.keepsOwnRequest r.timestamp = true from hkeeps)]
      rfl
  · rename_i hfree
    rw [if_neg (show ¬s.own.requested d = true from hfree)]

theorem follow_eq_arm (d' : Direction) (r : Record) (now : WallClock) :
    (∃ after, Effect.arm d after = follow d' r now) ↔
      d = d' ∧ (r.timestamp.until? now).isSome = true := by
  unfold follow
  cases r.timestamp.until? now <;> simp

theorem follow_ne_publish (d : Direction) (r r' : Record) (now : WallClock) :
    Effect.publish r' ≠ follow d r now := by
  unfold follow
  split <;> exact nofun

/-! ### Elections -/

/-- Without a request on either side quiet mode is compared with what is observed here. -/
theorem peerRecord_free (hr : r.pending? = none) (hfree : s.own.hasRequest = false)
    (now : WallClock) :
    s.peerRecord r now =
      match s.own.enabled, s.own.detected with
      | false, true =>
        if r.detected then (s.hearing r).schedule .enable now else (s.hearing r, [.publish s.own])
      | true, false => (s.hearing r).schedule .disable now
      | _, _ => (s.hearing r, []) := by
  have hon : r.enableRequested = false := plain_of_pending? hr .enable
  have hoff : r.disableRequested = false := plain_of_pending? hr .disable
  obtain ⟨hown, hown'⟩ := Bool.or_eq_false_iff.mp hfree
  rw [peerRecord_plain s (plain_of_pending? hr)]
  cases henabled : s.own.enabled with
  | true =>
    rw [tryEnable_on (s.hearing r) henabled]
    cases hsilent : s.own.detected <;>
      simp [tryDisable, electsDisable, hearing, henabled, hfree, hown', hoff, hsilent]
  | false =>
    have hleft : ((s.hearing r).tryEnable now).1.own.enabled = false :=
      (kept_tryEnable _ now).2.1.trans henabled
    dsimp only
    rw [tryDisable_off _ hleft, List.append_nil]
    cases hsilent : s.own.detected <;> cases hpeer : r.detected <;>
      simp [tryEnable, electsEnable, hearing, henabled, hfree, hown, hon, hsilent, hpeer]

theorem peerRecord_busy (hr : r.pending? = none) (hbusy : s.own.hasRequest = true)
    (now : WallClock) : (s.peerRecord r now).2 = [] := by
  rw [peerRecord_of_hasRequest hbusy (plain_of_pending? hr)]

/-! ### Effects -/

theorem arm_mem_peerRecord_iff (s : Synchronizer) (r : Record) (now : WallClock) (d : Direction) :
    (∃ after, .arm d after ∈ (s.peerRecord r now).2) ↔ s.Arms r now d := by
  unfold Arms
  rcases hr : r.pending? with _ | d'
  · cases hfree : s.own.hasRequest with
    | true => simp [peerRecord_busy hr hfree]
    | false =>
      rw [peerRecord_free hr hfree]
      cases s.own.enabled <;> cases s.own.detected <;> cases r.detected <;> cases d <;>
        simp [schedule]
  · have hfollow := follow_eq_arm (d := d) d' r now
    rw [s.peerRecord_pending hr]
    split <;> rename_i hasked
    · split <;> rename_i hkeeps
      · simp [hasked, hkeeps]
      · simp [hasked, hkeeps, hfollow]
    · simp [hasked, hfollow]

theorem publish_mem_peerRecord_iff (s : Synchronizer) (r : Record) (now : WallClock) :
    (∃ r', .publish r' ∈ (s.peerRecord r now).2) ↔ s.Responds r := by
  unfold Responds
  rcases hr : r.pending? with _ | d
  · cases hfree : s.own.hasRequest with
    | true => simp [peerRecord_busy hr hfree]
    | false =>
      rw [peerRecord_free hr hfree]
      cases s.own.enabled <;> cases s.own.detected <;> cases r.detected <;> simp [schedule]
  · rw [s.peerRecord_pending hr]
    split <;> rename_i hasked
    · split <;> rename_i hkeeps
      · simp [hasked, hkeeps]
      · simp [hasked, hkeeps]
    · simp [hasked, follow_ne_publish]

end NoiseControl.QuietMode.Synchronizer
