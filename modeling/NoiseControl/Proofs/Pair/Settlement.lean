import Mathlib.Order.Nat
import NoiseControl.Proofs.Earbud.Answer
import NoiseControl.Proofs.Pair.Handover

/-!
# Deliveries settle

Each record that is handed over may be answered, but the answers weigh less and less.  Once the first
round has been delivered a single record is on its way at any time, and three rounds leave nothing to
deliver, far fewer than there may be.  A record is handed over at most once, and records of one side
are handed over in the order in which they were sent.
-/

namespace NoiseControl

open QuietMode (Record)

namespace Pair

variable {p q : Pair} {s : Side} {log more : List Handover}

/-! ### Both sides between two events -/

def Tidy (p : Pair) : Prop := ∀ s, (p.side s).Tidy

theorem Tidy.setSide (h : p.Tidy) {b : Earbud} (hb : b.Tidy) : (p.setSide s b).Tidy :=
  Side.forall_of s (by rwa [side_setSide]) (by rw [side_other_setSide]; exact h s.other)

theorem Tidy.tick (h : p.Tidy) (tick : Tick p more q) : q.Tidy := by
  cases tick with
  | event s e => exact h.setSide ((h s).dispatch e)
  | take s => exact h.setSide (h s.other).taken
  | wait t ht =>
    intro s
    cases s
    · exact (h .left).timers _
    · exact (h .right).timers _
  | expiry s timer hfirst => exact h.setSide (((h s).timers _).dispatch _)

theorem Tidy.path (h : p.Tidy) (path : Path p more q) : q.Tidy := by
  induction path with
  | refl => exact h
  | tail _ tick ih => exact ih.tick tick

theorem Tidy.deliverTo (h : p.Tidy) (s : Side) : (p.deliverTo s).1.Tidy :=
  h.path (path_deliverTo p s)

/-! ### One delivery after another -/

/-- How many records may still be sent on account of the one that waits for a side. -/
def burden (p : Pair) (s : Side) : Nat :=
  Record.burden (p.side s.other).waiting? (p.side s).busy (p.side s.other).busy

/-- A record that is handed to a side on whose own link nothing waits leaves at most an answer, which
weighs less. -/
theorem burden_deliverTo (h : p.Tidy) (hempty : (p.side s).waiting? = none) :
    ((p.deliverTo s).1.side s.other).waiting? = none ∧
      (p.deliverTo s).1.burden s.other ≤ p.burden s - 1 := by
  have hside := side_deliverTo p s
  have hother := side_other_deliverTo p s
  refine ⟨by rw [hother]; exact Earbud.waiting?_taken _, ?_⟩
  have hsender : ((p.deliverTo s).1.side s.other).busy = (p.side s.other).busy := by
    rw [hother]
    rfl
  unfold burden
  rw [hsender, Side.other_other, hside]
  cases hw : (p.side s.other).waiting? with
  | none =>
    have hnone : ((p.side s).handed none).waiting? = none := hempty
    rw [hnone]
    exact Nat.zero_le _
  | some r =>
    rcases (h s).answers hempty r with hnone | ⟨r', hr', hanswer⟩
    · rw [show ((p.side s).handed (some r)).waiting? = none from hnone]
      exact Nat.zero_le _
    · rw [show ((p.side s).handed (some r)).waiting? = some r' from hr']
      exact Nat.le_sub_one_of_lt (hanswer.burden_lt _)

def round (p : Pair) : Pair := ((p.deliverTo .left).1.deliverTo .right).1

/-- Nothing waits for the right side, and the record that waits for the left one may lead to so many. -/
structure Dwindling (n : Nat) (p : Pair) : Prop where
  tidy : p.Tidy
  empty : p.left.waiting? = none
  burden : p.burden .left ≤ n

theorem Dwindling.round {n : Nat} (h : Dwindling n p) : Dwindling (n - 2) p.round := by
  have hleft := h.tidy.deliverTo .left
  obtain ⟨hempty, hless⟩ := burden_deliverTo (s := .left) h.tidy h.empty
  obtain ⟨hempty', hless'⟩ := burden_deliverTo (s := .right) hleft hempty
  have hless : (p.deliverTo .left).1.burden .right ≤ p.burden .left - 1 := hless
  have hn := h.burden
  exact ⟨hleft.deliverTo .right, hempty', hless'.trans (by omega)⟩

/-- The first round leaves a single record on its way. -/
theorem dwindling_round (h : p.Tidy) : Dwindling 3 p.round := by
  have hleft := h.deliverTo .left
  have hempty : ((p.deliverTo .left).1.side .right).waiting? = none := by
    rw [show Side.right = Side.left.other from rfl, side_other_deliverTo]
    exact Earbud.waiting?_taken _
  obtain ⟨hempty', hless⟩ := burden_deliverTo (s := .right) hleft hempty
  have hn := Record.burden_le ((p.deliverTo .left).1.side .left).waiting?
    ((p.deliverTo .left).1.side .right).busy ((p.deliverTo .left).1.side .left).busy
  have hburden : (p.deliverTo .left).1.burden .right ≤ 4 := hn
  exact ⟨hleft.deliverTo .right, hempty', hless.trans (by omega)⟩

theorem Dwindling.settled (h : Dwindling 0 p) (s : Side) : (p.side s).waiting? = none := by
  cases s with
  | left => exact h.empty
  | right => exact Record.burden_eq_zero.mp (Nat.le_zero.mp h.burden)

/-! ### Rounds -/

theorem deliverTo_idle (h : p.Tidy) (hidle : (p.side s.other).waiting? = none) :
    p.deliverTo s = (p, 0) := by
  rw [deliverTo_eq, Earbud.load_eq_zero.mpr hidle, hidle, (h s.other).taken_eq hidle]
  cases s <;> rfl

theorem deliverRounds_idle (h : p.Tidy) (hidle : ∀ s, (p.side s).waiting? = none) (rounds : Nat) :
    p.deliverRounds rounds = (p, 0) := by
  cases rounds with
  | zero => rfl
  | succ rounds =>
    unfold deliverRounds
    rw [deliverTo_idle (s := .left) h (hidle .right)]
    dsimp only
    rw [deliverTo_idle (s := .right) h (hidle .left)]
    rfl

/-- A round that hands nothing over found nothing. -/
theorem idle_round (hnone : (p.deliverTo .left).2 + ((p.deliverTo .left).1.deliverTo .right).2 = 0)
    (s : Side) : (p.round.side s).waiting? = none := by
  have hleft := load_deliverTo p .left (by omega)
  have hright := load_deliverTo (p.deliverTo .left).1 .right (by omega)
  have hbefore : ((p.deliverTo .left).1.side .right).load = 0 := hleft.2
  cases s with
  | left => exact Earbud.load_eq_zero.mp hright.2
  | right => exact Earbud.load_eq_zero.mp (hright.1.trans hbefore)

/-- So many rounds leave nothing to deliver, and further rounds change nothing. -/
structure SettledBy (n : Nat) (p : Pair) : Prop where
  further : ∀ rounds, n ≤ rounds → p.deliverRounds rounds = p.deliverRounds n
  empty : ∀ s, ((p.deliverRounds n).1.side s).waiting? = none

theorem SettledBy.of_round {n : Nat} (h : SettledBy n p.round) : SettledBy (n + 1) p := by
  have hsucc : ∀ rounds, p.deliverRounds (rounds + 1) =
      let count := (p.deliverTo .left).2 + ((p.deliverTo .left).1.deliverTo .right).2
      if count = 0 then (p.round, 0)
      else ((p.round.deliverRounds rounds).1, count + (p.round.deliverRounds rounds).2) := fun _ => rfl
  refine ⟨fun rounds hrounds => ?_, fun s => ?_⟩
  · cases rounds with
    | zero => omega
    | succ rounds => rw [hsucc, hsucc, h.further rounds (by omega)]
  · rw [hsucc]
    dsimp only
    split <;> rename_i hcount
    · exact idle_round hcount s
    · exact h.empty s

theorem Dwindling.settledBy {n : Nat} (h : Dwindling (2 * n) p) : SettledBy n p := by
  induction n generalizing p with
  | zero =>
    have hidle := deliverRounds_idle h.tidy h.settled
    refine ⟨fun rounds _ => (hidle rounds).trans (hidle 0).symm, fun s => ?_⟩
    rw [hidle]
    exact h.settled s
  | succ n ih => exact (ih h.round).of_round

theorem Tidy.settledBy (h : p.Tidy) : SettledBy 3 p := by
  have hround := dwindling_round h
  exact SettledBy.of_round (Dwindling.settledBy ⟨hround.tidy, hround.empty, hround.burden.trans (by decide)⟩)

/-! ### No record twice -/

/-- The records handed to a side, in order. -/
def received (log : List Handover) (s : Side) : List Record :=
  log.filterMap fun
    | .record s' r => if s' = s then some r else none
    | .expiry .. => none

theorem received_append (log more : List Handover) (s : Side) :
    received (log ++ more) s = received log s ++ received more s := List.filterMap_append

theorem received_arriving (p : Pair) (s s' : Side) :
    received (p.arriving s') s = if s' = s then (p.side s'.other).waiting?.toList else [] := by
  unfold received arriving
  cases (p.side s'.other).waiting? with
  | none => simp
  | some r => by_cases hs : s' = s <;> simp [hs]

end Pair

namespace Earbud

variable {x : Extent} {a b : Earbud} {gone : List Record}

/-- The records that are gone from the link, and then the one on it, were each sent, in this order. -/
def Conveys (gone : List Record) (b : Earbud) : Prop :=
  (gone ++ b.waiting?.toList).Sublist b.recordsSent.reverse

theorem Work.conveys (w : Work x a b) (h : a.Conveys gone) : b.Conveys gone := by
  induction w with
  | refl => exact h
  | @tail c d _ t ih =>
    unfold Conveys at ih ⊢
    rcases t.link with ⟨ho, hsent⟩ | ⟨r, ho, hsent⟩
    · rw [waiting?, ho, hsent]
      exact ih
    · rw [waiting?_send ho, hsent, List.reverse_cons]
      have hgone := (List.sublist_append_left gone _).trans ih
      split
      · exact hgone.append (List.Sublist.refl [r])
      · exact (List.append_nil gone).symm ▸ hgone.trans (List.sublist_append_left _ _)

theorem Conveys.taken (h : b.Conveys gone) : b.taken.Conveys (gone ++ b.waiting?.toList) := by
  unfold Conveys
  rw [waiting?_taken]
  exact (List.append_nil _).symm ▸ h

end Earbud

namespace Pair

variable {p q : Pair} {log more : List Handover}

def Conveys (log : List Handover) (p : Pair) : Prop :=
  ∀ s, (p.side s).Conveys (received log s.other)

theorem conveys_of {s : Side} {b : Earbud} (h : p.Conveys log)
    (hmore : received more s.other = []) (hb : b.Conveys (received log s.other))
    (hother : received more s = []) : (p.setSide s b).Conveys (log ++ more) := by
  refine Side.forall_of s ?_ ?_
  · rwa [side_setSide, received_append, hmore, List.append_nil]
  · rw [side_other_setSide, received_append, Side.other_other, hother, List.append_nil]
    have hkept := h s.other
    rwa [Side.other_other] at hkept

theorem Conveys.tick (h : p.Conveys log) (tick : Tick p more q) : q.Conveys (log ++ more) := by
  cases tick with
  | event s e => exact conveys_of h rfl ((Earbud.work_dispatch _ e).conveys (h s)) rfl
  | take s =>
    refine Side.forall_of s ?_ ?_
    · have hkept : ((p.takeFor s).1.side s) = p.side s := by
        rw [takeFor_eq]
        cases s <;> rfl
      have hnone : received (p.arriving s) s.other = [] := by
        rw [received_arriving, if_neg (by cases s <;> decide)]
      rw [hkept, received_append, hnone, List.append_nil]
      exact h s
    · have htaken : ((p.takeFor s).1.side s.other) = (p.side s.other).taken := by
        rw [takeFor_eq]
        exact side_setSide _ _ _
      have hgone := h s.other
      rw [Side.other_other] at hgone
      rw [htaken, Side.other_other, received_append, received_arriving, if_pos rfl]
      exact hgone.taken
  | wait t ht =>
    rw [List.append_nil]
    intro s
    rw [show (p.advanceTo t).side s = (p.side s).advanceTo t by cases s <;> rfl]
    exact h s
  | expiry s timer hfirst =>
    exact conveys_of h rfl ((Earbud.work_dispatch _ _).conveys (a := (p.side s).popped timer.kind) (h s)) rfl

theorem Conveys.path (h : p.Conveys log) (path : Path p more q) : q.Conveys (log ++ more) := by
  induction path with
  | refl => rwa [List.append_nil]
  | tail _ tick ih =>
    rw [← List.append_assoc]
    exact ih.tick tick

/-! ### Every run -/

theorem tidy_new (left right : Config) (leftStore rightStore : SessionStore)
    (failures : Side → FailurePattern) :
    ((Pair.new left right leftStore rightStore).withFailures failures).Tidy := by
  have hnew : ∀ s, (((Pair.new left right leftStore rightStore).withFailures failures).side s).Tidy :=
    Side.forall_of .left ⟨rfl, QuietMode.Synchronizer.coherent_clear, nofun⟩
      ⟨rfl, QuietMode.Synchronizer.coherent_clear, nofun⟩
  exact hnew

/-- What a delivery comes to after a pair was acted on. -/
structure DiesOut (log : List Handover) (p : Pair) : Prop where
  /-- Nothing waits afterwards. -/
  empty : ∀ s, (p.deliver.1.side s).waiting? = none
  /-- More rounds, or fewer down to three, would deliver the same. -/
  early : ∀ rounds, 3 ≤ rounds → p.deliverRounds rounds = p.deliver
  /-- The records that were handed to a side were each sent by the other, in this order. -/
  once : ∀ s, (received (log ++ p.roundsLog maxRounds) s).Sublist
    (p.deliver.1.side s.other).recordsSent.reverse

theorem delivery_settles (left right : Config) (leftStore rightStore : SessionStore)
    (failures : Side → FailurePattern) (fuel : Nat) (actions : List Action) (p : Pair) :
    let start := (Pair.new left right leftStore rightStore).withFailures failures
    start.acts? fuel actions = some p → DiesOut (start.log fuel actions) p := by
  intro start hacts
  have hpath := path_acts? hacts
  have hsettled := ((tidy_new left right leftStore rightStore failures).path hpath).settledBy
  have hstart : start.Conveys [] := Side.forall_of .left (List.Sublist.refl _) (List.Sublist.refl _)
  have hconveys := (hstart.path hpath).path (path_deliver p)
  have hearly : ∀ rounds, 3 ≤ rounds → p.deliverRounds rounds = p.deliver := fun rounds hrounds =>
    (hsettled.further rounds hrounds).trans (hsettled.further maxRounds (by decide)).symm
  refine ⟨fun s => ?_, hearly, fun s => ?_⟩
  · rw [← hearly 3 (Nat.le_refl 3)]
    exact hsettled.empty s
  · have hsent := hconveys s.other
    rw [Side.other_other] at hsent
    exact (List.sublist_append_left _ _).trans hsent

theorem delivery_settles_crossing :
    let start := (Pair.ofConfig (.standard "")).withFailures fun _ _ _ => false
    let actions : List Action :=
      [.dispatchBoth .initialise, .dispatchBoth .powerOn, .dispatchBoth .enable, .runFor (millis 300),
        .dispatchBoth .silenceDetected, .deliverCrossed]
    ∃ p, start.acts? 10 actions = some p ∧ DiesOut (start.log 10 actions) p := by
  intro start actions
  have harrives : (start.acts? 10 actions).isSome = true := by decide
  obtain ⟨p, hp⟩ := Option.isSome_iff_exists.mp harrives
  exact ⟨p, hp, delivery_settles _ _ _ _ _ 10 actions p hp⟩

end Pair

end NoiseControl
