import NoiseControl.Proofs.Earbud.Timely
import NoiseControl.Proofs.Pair.Time

/-!
# What is handed to the sides of a pair

A pair is acted on by events for either side, by deliveries and by time that passes.  On the way its
sides are handed records and timers that expired, which are noted here in the order in which they are
handed over.  All that is done to a pair is made of four kinds of ticks.
-/

namespace NoiseControl

open QuietMode (Record)

/-- What is handed to a side of a pair: a record of the other side, or a timer of its own that expired
at some time. -/
inductive Handover where
  | record (s : Side) (r : Record)
  | expiry (s : Side) (timer : ArmedTimer) (time : Nat)
deriving DecidableEq

namespace Pair

/-! ### Actions -/

inductive Action where
  | dispatch (s : Side) (e : Event)
  | dispatchBoth (e : Event)
  | deliver
  | deliverCrossed
  | runUntil (t : Nat)
  | runFor (duration : Nat)

/-- Act on a pair.  None means that `fuel` was not enough for time to pass. -/
def act? (fuel : Nat) (p : Pair) : Action → Option Pair
  | .dispatch s e => some (p.dispatch s e).1
  | .dispatchBoth e => some (p.dispatchBoth e)
  | .deliver => some p.deliver.1
  | .deliverCrossed => some p.deliverCrossed.1
  | .runUntil t => p.runUntil? fuel t
  | .runFor duration => p.runFor? fuel duration

def acts? (fuel : Nat) (p : Pair) : List Action → Option Pair
  | [] => some p
  | action :: rest => (p.act? fuel action).bind fun p => p.acts? fuel rest

/-- A pair whose calls of the audio chain and the session store fail by these patterns. -/
def withFailures (p : Pair) (failures : Side → FailurePattern) : Pair where
  left := { p.left with failures := failures .left }
  right := { p.right with failures := failures .right }

/-! ### What is handed over -/

def arriving (p : Pair) (s : Side) : List Handover := (p.side s.other).waiting?.toList.map (.record s)

def roundsLog (p : Pair) : Nat → List Handover
  | 0 => []
  | rounds + 1 =>
    let toLeft := p.deliverTo .left
    let toRight := toLeft.1.deliverTo .right
    p.arriving .left ++ toLeft.1.arriving .right ++
      if toLeft.2 + toRight.2 = 0 then [] else toRight.1.roundsLog rounds

/-- The timers of one side that expire until none is due. -/
def dueLog (s : Side) (b : Earbud) : Nat → List Handover
  | 0 => []
  | fuel + 1 =>
    match ArmedTimer.first? b.timers.due with
    | some timer => .expiry s timer b.timers.now :: dueLog s (b.expire timer.kind) fuel
    | none => []

def stepLog (p : Pair) (t : Nat) : Nat → List Handover
  | 0 => []
  | fuel + 1 =>
    match p.nextDeadline?.filter fun deadline => decide (deadline ≤ t) with
    | some deadline =>
      let p := p.advanceTo deadline
      dueLog .left p.left fuel ++ dueLog .right p.right fuel ++
        match fireDue? p.left fuel, fireDue? p.right fuel with
        | some left, some right =>
          let p : Pair := ⟨left, right⟩
          p.roundsLog maxRounds ++ p.deliver.1.stepLog t fuel
        | _, _ => []
    | none => []

def untilLog (fuel : Nat) (p : Pair) (t : Nat) : List Handover :=
  p.roundsLog maxRounds ++ p.deliver.1.stepLog t fuel

def actLog (fuel : Nat) (p : Pair) : Action → List Handover
  | .dispatch .. | .dispatchBoth _ => []
  | .deliver => p.roundsLog maxRounds
  | .deliverCrossed => p.arriving .left ++ p.arriving .right
  | .runUntil t => p.untilLog fuel t
  | .runFor duration => p.untilLog fuel (p.now + duration)

/-- All that is handed to either side while a pair is acted on, in order. -/
def log (fuel : Nat) (p : Pair) : List Action → List Handover
  | [] => []
  | action :: rest =>
    p.actLog fuel action ++
      match p.act? fuel action with
      | some p => p.log fuel rest
      | none => []

/-! ### Ticks -/

/-- The least that can be done to a pair, with what is handed over or taken to be handed over. -/
inductive Tick : Pair → List Handover → Pair → Prop where
  | event (p : Pair) (s : Side) (e : Event) : Tick p [] (p.dispatch s e).1
  | take (p : Pair) (s : Side) : Tick p (p.arriving s) (p.takeFor s).1
  | wait (p : Pair) (t : Nat) (h : ∀ s, ∀ timer ∈ (p.side s).timers.pending, t ≤ timer.deadline) :
      Tick p [] (p.advanceTo t)
  | expiry (p : Pair) (s : Side) (timer : ArmedTimer)
      (h : ArmedTimer.first? (p.side s).timers.due = some timer) :
      Tick p [.expiry s timer (p.side s).timers.now] (p.setSide s ((p.side s).expire timer.kind))

inductive Path (p : Pair) : List Handover → Pair → Prop where
  | refl : Path p [] p
  | tail {log more : List Handover} {q r : Pair} (path : Path p log q) (tick : Tick q more r) :
      Path p (log ++ more) r

variable {p q r : Pair} {log more : List Handover} {s : Side}

theorem Tick.path (tick : Tick p log q) : Path p log q := .tail .refl tick

theorem Path.trans (path : Path p log q) (next : Path q more r) : Path p (log ++ more) r := by
  induction next with
  | refl => simpa using path
  | tail _ tick ih =>
    rw [← List.append_assoc]
    exact ih.tail tick

theorem Path.cast {log' : List Handover} (path : Path p log q) (h : log' = log) : Path p log' q :=
  h ▸ path

/-! ### Every action is made of ticks -/

theorem path_receive (p : Pair) (s : Side) (w : Option Record) : Path p [] (p.receive s w).1 := by
  cases w with
  | none => exact .refl
  | some r => exact (Tick.event p s (.peerRecord r)).path

theorem path_deliverTo (p : Pair) (s : Side) : Path p (p.arriving s) (p.deliverTo s).1 :=
  ((Tick.take p s).path.trans (path_receive _ s _)).cast (List.append_nil _).symm

theorem path_deliverRounds (p : Pair) (rounds : Nat) :
    Path p (p.roundsLog rounds) (p.deliverRounds rounds).1 := by
  induction rounds generalizing p with
  | zero => exact .refl
  | succ rounds ih =>
    have hround := (path_deliverTo p .left).trans (path_deliverTo (p.deliverTo .left).1 .right)
    unfold deliverRounds roundsLog
    dsimp only
    split
    · exact hround.cast (List.append_nil _)
    · exact hround.trans (ih _)

theorem path_deliver (p : Pair) : Path p (p.roundsLog maxRounds) p.deliver.1 :=
  path_deliverRounds p maxRounds

/-- What is kept when a record is taken and by each event is kept by deliveries. -/
theorem deliver_kept {P : Pair → Prop} (take : ∀ p s, P p → P (p.takeFor s).1)
    (event : ∀ p s e, P p → P (p.dispatch s e).1) (h : P p) : P p.deliver.1 := by
  have hto : ∀ p s, P p → P (p.deliverTo s).1 := by
    intro p s hp
    show P ((p.takeFor s).1.receive s (p.takeFor s).2).1
    cases (p.takeFor s).2 with
    | none => exact take p s hp
    | some r => exact event _ s (.peerRecord r) (take p s hp)
  have hrounds : ∀ rounds p, P p → P (p.deliverRounds rounds).1 := by
    intro rounds
    induction rounds with
    | zero => exact fun _ hp => hp
    | succ rounds ih =>
      intro p hp
      have hround := hto _ .right (hto p .left hp)
      unfold deliverRounds
      dsimp only
      split
      · exact hround
      · exact ih _ hround
  exact hrounds maxRounds p h

theorem path_deliverCrossed (p : Pair) :
    Path p (p.arriving .left ++ p.arriving .right) p.deliverCrossed.1 := by
  have htakes := (Tick.take p .left).path.tail (Tick.take (p.takeFor .left).1 .right)
  have hhands := (path_receive ((p.takeFor .left).1.takeFor .right).1 .left (p.takeFor .left).2).trans
    (path_receive _ .right ((p.takeFor .left).1.takeFor .right).2)
  exact (htakes.trans hhands).cast (List.append_nil _).symm

@[simp]
theorem setSide_side (p : Pair) (s : Side) : p.setSide s (p.side s) = p := by cases s <;> rfl

@[simp]
theorem setSide_setSide (p : Pair) (s : Side) (b b' : Earbud) :
    (p.setSide s b).setSide s b' = p.setSide s b' := by cases s <;> rfl

theorem fireDue?_succ (b : Earbud) (fuel : Nat) :
    fireDue? b (fuel + 1) =
      match ArmedTimer.first? b.timers.due with
      | some timer => fireDue? (b.expire timer.kind) fuel
      | none => some b := by
  have hdue := b.deliverDue?_fst
  conv_lhs => unfold fireDue?
  cases hfirst : ArmedTimer.first? b.timers.due with
  | none =>
    rw [hfirst] at hdue
    rw [Option.map_eq_none_iff.mp hdue]
  | some timer =>
    rw [hfirst] at hdue
    obtain ⟨⟨b', delivered⟩, hdelivered, hb'⟩ := Option.map_eq_some_iff.mp hdue
    rw [hdelivered]
    exact congrArg (fireDue? · fuel) hb'

/-- What is kept by each expiry is kept until none is due. -/
theorem fireDue_kept {P : Pair → Prop}
    (expire : ∀ p s k, P p → P (p.setSide s ((p.side s).expire k))) {b : Earbud} {fuel : Nat} (h : P p)
    (hfired : fireDue? (p.side s) fuel = some b) : P (p.setSide s b) := by
  induction fuel generalizing p with
  | zero => cases hfired
  | succ fuel ih =>
    rw [fireDue?_succ] at hfired
    split at hfired
    · rename_i timer _
      have hrest := ih (expire p s timer.kind h) (by rwa [side_setSide])
      rwa [setSide_setSide] at hrest
    · obtain rfl := Option.some.inj hfired
      rwa [setSide_side]

theorem path_fireDue? {b : Earbud} {fuel : Nat} (h : fireDue? (p.side s) fuel = some b) :
    Path p (dueLog s (p.side s) fuel) (p.setSide s b) := by
  induction fuel generalizing p with
  | zero => cases h
  | succ fuel ih =>
    rw [fireDue?_succ] at h
    unfold dueLog
    split at h <;> rename_i hfirst
    · rename_i timer
      have hrest := ih (p := p.setSide s ((p.side s).expire timer.kind)) (by rwa [side_setSide])
      rw [side_setSide, setSide_setSide] at hrest
      exact (Tick.expiry p s timer hfirst).path.trans hrest
    · obtain rfl := Option.some.inj h
      rw [setSide_side]
      exact .refl

/-! ### Time that passes -/

theorem path_stepUntil? {t fuel : Nat} (h : p.stepUntil? t fuel = some q) :
    Path p (p.stepLog t fuel) q := by
  induction fuel generalizing p with
  | zero => cases h
  | succ fuel ih =>
    unfold stepLog
    cases hd : p.nextDeadline?.filter fun deadline => decide (deadline ≤ t) with
    | none =>
      simp only [stepUntil?, hd, Option.some.injEq] at h
      subst h
      exact (Tick.wait p t fun s timer ht => Nat.le_of_lt (lt_of_filter_nextDeadline? hd s ht)).path
    | some deadline =>
      rw [stepUntil?_succ hd, Option.bind_eq_some_iff] at h
      obtain ⟨left, hleft, h⟩ := h
      obtain ⟨right, hright, h⟩ := Option.bind_eq_some_iff.mp h
      have hnext := (Option.filter_eq_some_iff.mp hd).1
      have hwait := (Tick.wait p deadline fun s _ ht => nextDeadline?_le hnext s ht).path
      have hfired := (path_fireDue? (s := .left) hleft).trans
        (path_fireDue? (p := (p.advanceTo deadline).setSide .left left) (s := .right) hright)
      have hdelivered := path_deliver ⟨left, right⟩
      dsimp only
      rw [hleft, hright]
      exact (hwait.trans hfired).trans (hdelivered.trans (ih h))

theorem path_runUntil? {t fuel : Nat} (h : p.runUntil? fuel t = some q) :
    Path p (p.untilLog fuel t) q :=
  (path_deliver p).trans (path_stepUntil? h)

theorem path_act? {fuel : Nat} {action : Action} (h : p.act? fuel action = some q) :
    Path p (p.actLog fuel action) q := by
  cases action with
  | dispatch s e =>
    obtain rfl := Option.some.inj h
    exact (Tick.event p s e).path
  | dispatchBoth e =>
    obtain rfl := Option.some.inj h
    exact (Tick.event p .left e).path.tail (Tick.event _ .right e)
  | deliver =>
    obtain rfl := Option.some.inj h
    exact path_deliver p
  | deliverCrossed =>
    obtain rfl := Option.some.inj h
    exact path_deliverCrossed p
  | runUntil t => exact path_runUntil? h
  | runFor duration => exact path_runUntil? h

theorem path_bringUp? {fuel : Nat} (h : p.bringUp? fuel = some q) : ∃ log, Path p log q := by
  have hboth : ∀ (p : Pair) (e : Event), Path p [] (p.dispatchBoth e) := fun p e =>
    (Tick.event p .left e).path.tail (Tick.event _ .right e)
  exact ⟨_, (((hboth p .initialise).trans (hboth _ .powerOn)).trans (hboth _ .enable)).trans
    (path_runUntil? h)⟩

/-- Whatever is done to a pair is done tick by tick, and hands over what the log says. -/
theorem path_acts? {fuel : Nat} {actions : List Action} (h : p.acts? fuel actions = some q) :
    Path p (p.log fuel actions) q := by
  induction actions generalizing p with
  | nil =>
    obtain rfl := Option.some.inj h
    exact .refl
  | cons action rest ih =>
    obtain ⟨next, hnext, hrest⟩ := Option.bind_eq_some_iff.mp h
    unfold log
    rw [hnext]
    exact (path_act? hnext).trans (ih hrest)

end Pair

end NoiseControl
