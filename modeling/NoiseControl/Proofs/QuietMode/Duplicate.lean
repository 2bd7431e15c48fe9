import NoiseControl.Proofs.QuietMode.Instant
import NoiseControl.Proofs.QuietMode.Response

/-!
# Records that come twice

A link may hand a record over more than once.  What a side makes of a record leaves it where the same
record changes nothing: an election closes the next one, a request that was given up is not given up
again, and a request that is followed is followed to the same instant.
-/

namespace NoiseControl.QuietMode.Synchronizer

variable {s : Synchronizer} {r : Record} {now now' : WallClock}

/-- How the decision on a record goes with the decision on the same record right after it.  The
state is the same, and the second asks for nothing, or tells of silence again, or follows the
request again. -/
inductive Echoes (r : Record) (now now' : WallClock) : Decision → Decision → Prop where
  | silently (s : Synchronizer) (effects : List Effect) : Echoes r now now' (s, effects) (s, [])
  | telling {s : Synchronizer} (free : s.own.hasRequest = false) :
      Echoes r now now' (s, [.publish s.own]) (s, [.publish s.own])
  | following (s : Synchronizer) {d : Direction} {effects : List Effect}
      (followed : follow d r now ∈ effects) : Echoes r now now' (s, effects) (s, [follow d r now'])

theorem hearing_self (h : s.peer = r) : s.hearing r = s := by
  rw [← h]
  rfl

theorem echoes_busy (hr : r.pending? = none) (hbusy : s.own.hasRequest = true) (hpeer : s.peer = r)
    (effects : List Effect) : Echoes r now now' (s, effects) (s.peerRecord r now') := by
  rw [peerRecord_of_hasRequest hbusy (plain_of_pending? hr), hearing_self hpeer]
  exact .silently s effects

/-- Whether a side without a request elects itself does not hang on the clock. -/
theorem echoes_free (hr : r.pending? = none) (hfree : s.own.hasRequest = false) (now now' : WallClock) :
    Echoes r now now' (s.peerRecord r now) ((s.peerRecord r now).1.peerRecord r now') := by
  have hagain : (s.hearing r).peerRecord r now' = s.peerRecord r now' := rfl
  have hled : ∀ d, Echoes r now now' ((s.hearing r).schedule d now)
      (((s.hearing r).schedule d now).1.peerRecord r now') := fun d =>
    echoes_busy hr (hasRequest_schedule (s.hearing r) d now) rfl _
  have hidle : s.peerRecord r now' = (s.hearing r, []) →
      Echoes r now now' (s.hearing r, []) ((s.hearing r).peerRecord r now') := fun h => by
    rw [hagain, h]
    exact .silently _ _
  have hsecond := peerRecord_free hr hfree now'
  rw [peerRecord_free hr hfree now]
  cases hon : s.own.enabled <;> cases hsilent : s.own.detected <;> rw [hon, hsilent] at hsecond
  · exact hidle hsecond
  · cases hpeer : r.detected with
    | true => exact hled .enable
    | false =>
      rw [hpeer] at hsecond
      change Echoes r now now' (s.hearing r, [.publish s.own]) ((s.hearing r).peerRecord r now')
      rw [hagain, hsecond]
      exact .telling (s := s.hearing r) hfree
  · exact hled .disable
  · exact hidle hsecond

theorem echoes_asking {d : Direction} (hr : r.pending? = some d) (now now' : WallClock) :
    Echoes r now now' (s.peerRecord r now) ((s.peerRecord r now).1.peerRecord r now') := by
  have hagain : (s.hearing r).peerRecord r now' = s.peerRecord r now' := rfl
  rw [peerRecord_asking s hr now]
  split
  · rename_i hasked
    split
    · rename_i hkeeps
      rw [hagain, peerRecord_asking s hr now', if_pos hasked, if_pos hkeeps]
      exact .silently _ _
    · have hgiven : ¬(((s.hearing r).yieldRequest d).hearing r).own.requested d = true := by
        rw [hearing, requested_yieldRequest, if_pos rfl]
        exact Bool.false_ne_true
      dsimp only
      rw [peerRecord_asking _ hr now', if_neg hgiven]
      exact .following _ (by simp)
  · rename_i hfree
    rw [hagain, peerRecord_asking s hr now', if_neg hfree]
    exact .following _ (by simp)

theorem peerRecord_echoes (s : Synchronizer) (r : Record) (now now' : WallClock) :
    Echoes r now now' (s.peerRecord r now) ((s.peerRecord r now).1.peerRecord r now') := by
  rcases hr : r.pending? with _ | d
  · cases hbusy : s.own.hasRequest with
    | true =>
      rw [peerRecord_of_hasRequest hbusy (plain_of_pending? hr)]
      exact echoes_busy (s := s.hearing r) hr hbusy rfl _
    | false => exact echoes_free hr hbusy now now'
  · exact echoes_asking hr now now'

theorem arm_eq_follow {d d' : Direction} {instant time after : Nat}
    (hnear : ((instant : Int) - time).natAbs < 2 ^ 31) (hr : r.timestamp = .reading instant) :
    .arm d' after = follow d r (.reading time) ↔ d' = d ∧ 0 < after ∧ time + after = instant := by
  rw [follow_reading d hnear hr]
  split
  · rw [Effect.arm.injEq]
    exact and_congr_right fun _ => by omega
  · exact iff_of_false nofun (by omega)

/-- The same record heard again, at a later time with the instant still less than half a turn away,
leaves both records as they are and brings no request about.  If a timer is armed again it is the
one that was armed before, for the same instant. -/
theorem duplicate_harmless (s : Synchronizer) (r : Record) (time later instant : Nat)
    (hle : time ≤ later) (hnear : ((instant : Int) - time).natAbs < 2 ^ 31)
    (hnear' : ((instant : Int) - later).natAbs < 2 ^ 31) (hr : r.timestamp = .reading instant) :
    let once := s.peerRecord r (.reading time)
    let twice := once.1.peerRecord r (.reading later)
    twice.1 = once.1 ∧ (∀ r', .publish r' ∈ twice.2 → r'.hasRequest = false) ∧
      ∀ d left', .arm d left' ∈ twice.2 →
        later + left' = instant ∧ (WallClock.reading later).add left' = r.timestamp ∧
          ∃ left, .arm d left ∈ once.2 ∧
            time + left = instant ∧ (WallClock.reading time).add left = r.timestamp := by
  intro once twice
  have hechoes : Echoes r (.reading time) (.reading later) once twice :=
    s.peerRecord_echoes r (.reading time) (.reading later)
  generalize once = first at hechoes
  generalize twice = second at hechoes
  cases hechoes with
  | silently s effects => exact ⟨rfl, nofun, nofun⟩
  | telling free =>
    refine ⟨rfl, fun r' hmem => ?_, fun d left' hmem => ?_⟩
    · cases List.mem_singleton.mp hmem
      exact free
    · cases List.mem_singleton.mp hmem
  | @following s d effects followed =>
    refine ⟨rfl, fun r' hmem => absurd (List.mem_singleton.mp hmem) (follow_ne_publish d r r' _), ?_⟩
    intro d' left' hmem
    obtain ⟨rfl, hpos, hleft'⟩ := (arm_eq_follow hnear' hr).mp (List.mem_singleton.mp hmem)
    have hfirst : .arm d' (instant - time) = follow d' r (.reading time) :=
      (arm_eq_follow hnear hr).mpr ⟨rfl, by omega, by omega⟩
    refine ⟨hleft', ?_, instant - time, hfirst ▸ followed, by omega, ?_⟩
    · rw [WallClock.reading_add, hleft', hr]
    · rw [WallClock.reading_add, show time + (instant - time) = instant by omega, hr]

/-- The own request is given up to an earlier one, which comes again after the clock has turned. -/
theorem duplicate_harmless_yielded :
    let s := elected false (.reading 4294967096)
    let r : Record := { detected := true, enableRequested := true, timestamp := ⟨50⟩ }
    let once := s.peerRecord r (.reading 4294967196)
    let twice := once.1.peerRecord r (.reading 4294967326)
    twice.1 = once.1 ∧ .arm .enable 20 ∈ twice.2 ∧
      ∃ left, .arm .enable left ∈ once.2 ∧ 4294967196 + left = 4294967326 + 20 := by
  intro s r once twice
  obtain ⟨hsame, -, harmed⟩ := duplicate_harmless s r 4294967196 4294967326 4294967346 (by decide)
    (by decide) (by decide) (by decide)
  have htwice : .arm .enable 20 ∈ twice.2 := by decide
  obtain ⟨-, -, left, honce, hleft, -⟩ := harmed .enable 20 htwice
  exact ⟨hsame, htwice, left, honce, hleft⟩

end NoiseControl.QuietMode.Synchronizer
