import NoiseControl.Proofs.QuietMode.CrossedRequests
import NoiseControl.Proofs.QuietMode.Response

/-!
# Answers to records

A record of the peer may be answered with the own record.  An answer is an election, a greeting or a
surrender, and what may be answered by it in turn is less each time: a greeting is not greeted back, a
surrender is not surrendered to, and an election meets a surrender at most.
-/

namespace NoiseControl.QuietMode

/-! ### What a side decides on a record -/

namespace Synchronizer

variable {s : Synchronizer} {r : Record} {now : WallClock}

/-- What a side makes of a record of its peer, by what it sends. -/
inductive Answers (s : Synchronizer) (r : Record) (now : WallClock) : Decision → Prop where
  | silently {y : Decision} (h : ∀ r', .publish r' ∉ y.2) : Answers s r now y
  | elected (d : Direction) (free : s.own.hasRequest = false) (plain : r.hasRequest = false) :
      Answers s r now ((s.hearing r).schedule d now)
  | telling (free : s.own.hasRequest = false) (plain : r.hasRequest = false)
      (silent : s.own.detected = true) (unaware : r.detected = false) :
      Answers s r now (s.hearing r, [.publish s.own])
  | yielding (d : Direction) (asked : s.own.requested d = true) (request : r.hasRequest = true) :
      Answers s r now ((s.hearing r).yieldRequest d,
        [.publish ((s.hearing r).yieldRequest d).own, follow d r now])

theorem Elects.answers {y : Decision} (h : (s.hearing r).Elects now y)
    (plain : r.hasRequest = false) : s.Answers r now y := by
  cases h with
  | nobody => exact .silently nofun
  | on free => exact .elected .enable (Record.Plain.hasRequest free) plain
  | off free => exact .elected .disable (Record.Plain.hasRequest free) plain

theorem peerRecord_answers (s : Synchronizer) (r : Record) (now : WallClock) :
    s.Answers r now (s.peerRecord r now) := by
  rcases hr : r.pending? with _ | d
  · have hplain := plain_of_pending? hr
    have hnone := hplain.hasRequest
    have hdecides := s.peerRecord_decides hplain now
    generalize s.peerRecord r now = decision at hdecides ⊢
    rcases hdecides with helects | ⟨free, silent, unsure⟩
    · exact helects.answers hnone
    · refine .telling (Record.Plain.hasRequest free) hnone silent (Bool.eq_false_iff.mpr fun haware => ?_)
      cases (hplain .enable).symm.trans (unsure haware)
  · have hrequest : r.hasRequest = true := by
      rw [← Record.isSome_pending?, hr]
      rfl
    have hsilent : ∀ r', Effect.publish r' ∉ [follow d r now] := fun r' hmem =>
      follow_ne_publish d r r' now (List.mem_singleton.mp hmem)
    rw [peerRecord_asking s hr]
    split
    · rename_i hasked
      split
      · exact .silently nofun
      · exact .yielding d hasked hrequest
    · exact .silently hsilent

theorem hasRequest_yieldRequest (h : s.own.Coherent) {d : Direction} (hasked : s.own.requested d = true)
    (r : Record) : ((s.hearing r).yieldRequest d).own.hasRequest = false :=
  (plain_yielded h hasked r).hasRequest

theorem hasRequest_fire (h : s.own.hasRequest = false) (d : Direction) :
    (s.fire d).1.own.hasRequest = false := by
  unfold fire
  split
  · exact h
  · cases d with
    | enable => exact (Bool.false_or _).trans (Bool.or_eq_false_iff.mp h).2
    | disable => rfl

end Synchronizer

/-! ### Answers to answers -/

namespace Record

/-- How a record that answers another goes with it and with whether its sender had a request, and has
one left. -/
inductive Answer (busy : Bool) (r : Record) (left : Bool) (r' : Record) : Prop where
  | election (free : busy = false) (plain : r.hasRequest = false) (asks : r'.hasRequest = true)
      (asking : left = true)
  | greeting (free : busy = false) (plain : r.hasRequest = false) (unaware : r.detected = false)
      (silent : r'.detected = true) (mere : r'.hasRequest = false) (still : left = false)
  | surrender (asked : busy = true) (request : r.hasRequest = true) (plain : r'.hasRequest = false)
      (given : left = false)

/-- How many records may still be sent on account of one that waits, by whether its receiver and its
sender have a request. -/
def burden (w : Option Record) (receiver sender : Bool) : Nat :=
  match w with
  | none => 0
  | some r =>
    if r.hasRequest then if receiver then if sender then 2 else 4 else 1
    else if receiver then 1
    else if r.detected && !sender then 2 else 3

theorem burden_le (w : Option Record) (receiver sender : Bool) : burden w receiver sender ≤ 4 := by
  unfold burden
  grind

theorem burden_eq_zero {w : Option Record} {receiver sender : Bool} :
    burden w receiver sender = 0 ↔ w = none := by
  unfold burden
  grind

/-- An answer weighs less than what it answers. -/
theorem Answer.burden_lt {busy left : Bool} {r r' : Record} (h : Answer busy r left r') (sender : Bool) :
    burden (some r') sender left < burden (some r) busy sender := by
  cases h with
  | election free plain asks asking =>
    cases sender <;> cases hd : r.detected <;> simp [burden, free, plain, asks, asking, hd]
  | greeting free plain unaware silent mere still =>
    cases sender <;> simp [burden, free, plain, unaware, silent, mere, still]
  | surrender asked request plain given =>
    cases sender <;> cases hd : r'.detected <;> simp [burden, asked, request, plain, given, hd]

end Record

end NoiseControl.QuietMode
