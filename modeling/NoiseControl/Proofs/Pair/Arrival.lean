import NoiseControl.Proofs.Earbud.Countdown
import NoiseControl.Proofs.Pair.OnTime
import NoiseControl.Proofs.Pair.Settlement

/-!
# Time arrives

No expiry has an earbud send anything, so once deliveries have settled the sides of a pair run out of
timers each on its own.  Time passes for the pair if it passes for both sides, and that fails only
where a gain poll without a pause is left alone with its deadline.
-/

namespace NoiseControl

namespace Earbud

variable {b b' : Earbud} {k : TimerKind} {timer : ArmedTimer} {t n m fuel : Nat}

/-! ### Expiries on one side -/

/-- An expiry sends nothing. -/
theorem outbox_expire (b : Earbud) (k : TimerKind) : (b.expire k).outbox = b.outbox := by
  have hafresh : (b.popped k).startsAfresh (.timerExpired k) = false := rfl
  have hhandled : (b.expire k).outbox = ((b.popped k).handle (.timerExpired k)).1.outbox :=
    outbox_finishFollowUps _
  rw [hhandled]
  rcases handle_gated hafresh with w | ⟨-, -, o, ho, he⟩
  · exact (w.silent rfl).2.2
  · cases k with
    | quietMode d =>
      obtain rfl := Option.some.inj ho
      rw [he]
      exact outbox_adopt_fire _ d
    | _ => cases ho

theorem Tidy.expire (h : b.Tidy) (k : TimerKind) : (b.expire k).Tidy := (h.timers _).dispatch _

/-- What is due is what expires next. -/
theorem next?_of_due (ht : b.timers.Timely) (hnow : b.timers.now ≤ t)
    (hfirst : ArmedTimer.first? b.timers.due = some timer) :
    b.next? t = some timer ∧ b.expireNext timer = b.expire timer.kind := by
  have hdue := (ht.due (ArmedTimer.mem_of_first? hfirst)).2
  refine ⟨next?_eq_some.mpr ⟨TimerQueue.first?_of_due hfirst, by omega⟩, ?_⟩
  have hsame : b.advanceTo timer.deadline = b := by
    rw [hdue, Earbud.advanceTo, TimerQueue.advanceTo, Nat.max_self]
  rw [expireNext, hsame]

theorem endsIn_advanceTo {d : Nat} (hd : ∀ timer ∈ b.timers.pending, d ≤ timer.deadline) :
    EndsIn t n (b.advanceTo d) ↔ EndsIn t n b := by
  cases n with
  | zero => exact Iff.rfl
  | succ n =>
    have hsame : ∀ timer, b.next? t = some timer →
        (b.advanceTo d).expireNext timer = b.expireNext timer := by
      intro timer hnext
      have hle := hd timer (ArmedTimer.mem_of_first? (next?_eq_some.mp hnext).1)
      have hmax : max (max b.timers.now d) timer.deadline = max b.timers.now timer.deadline := by omega
      have hclock : (b.advanceTo d).advanceTo timer.deadline = b.advanceTo timer.deadline :=
        congrArg (fun now => { b with timers := { b.timers with now := now } }) hmax
      rw [expireNext, hclock, expireNext]
    refine exists_congr fun timer => and_congr_right fun hnext => ?_
    rw [hsame timer hnext]

theorem settles_fireDue?_none (hnone : ArmedTimer.first? b.timers.due = none) :
    Settles (Pair.fireDue? b) b := by
  refine .of_succ ⟨0, fun fuel _ => ?_⟩
  dsimp only
  rw [Pair.fireDue?_succ, hnone]

/-- Where the timers run out so do those that are due, and each of them counts. -/
theorem EndsIn.fireDue (h : EndsIn t n b) (ht : b.timers.Timely) (hnow : b.timers.now ≤ t) :
    ∃ b' m, Settles (Pair.fireDue? b) b' ∧ EndsIn t m b' ∧ m ≤ n ∧
      ((ArmedTimer.first? b.timers.due).isSome = true → m < n) := by
  induction n generalizing b with
  | zero =>
    have hnone : ArmedTimer.first? b.timers.due = none :=
      Option.eq_none_iff_forall_ne_some.mpr fun timer hfirst =>
        nomatch h.symm.trans (next?_of_due ht hnow hfirst).1
    exact ⟨b, 0, settles_fireDue?_none hnone, h, le_rfl, by simp [hnone]⟩
  | succ n ih =>
    cases hfirst : ArmedTimer.first? b.timers.due with
    | none => exact ⟨b, n + 1, settles_fireDue?_none hfirst, h, le_rfl, nofun⟩
    | some timer =>
      obtain ⟨hnext, hsame⟩ := next?_of_due ht hnow hfirst
      obtain ⟨timer', hnext', hends⟩ := h
      obtain rfl := Option.some.inj (hnext'.symm.trans hnext)
      rw [hsame] at hends
      obtain ⟨b', m, hsettles, hends', hle, -⟩ :=
        ih hends (timely_expire ht timer'.kind) (by rwa [now_expire])
      refine ⟨b', m, .of_succ ?_, hends', by omega, fun _ => by omega⟩
      simpa only [Pair.fireDue?_succ, hfirst] using hsettles

theorem endsIn_of_fireDue? (ht : b.timers.Timely) (hnow : b.timers.now ≤ t)
    (hfired : Pair.fireDue? b fuel = some b') (h : EndsIn t m b') : ∃ n, EndsIn t n b := by
  induction fuel generalizing b with
  | zero => cases hfired
  | succ fuel ih =>
    rw [Pair.fireDue?_succ] at hfired
    split at hfired <;> rename_i hfirst
    · rename_i timer
      obtain ⟨hnext, hsame⟩ := next?_of_due ht hnow hfirst
      obtain ⟨n, hends⟩ := ih (timely_expire ht timer.kind) (by rwa [now_expire]) hfired
      exact ⟨n + 1, timer, hnext, hsame ▸ hends⟩
    · obtain rfl := Option.some.inj hfired
      exact ⟨m, h⟩

theorem first?_due_of_fireDue? (hfired : Pair.fireDue? b fuel = some b') :
    ArmedTimer.first? b'.timers.due = none := by
  induction fuel generalizing b with
  | zero => cases hfired
  | succ fuel ih =>
    rw [Pair.fireDue?_succ] at hfired
    split at hfired <;> rename_i hfirst
    · exact ih hfired
    · obtain rfl := Option.some.inj hfired
      exact hfirst

end Earbud

namespace Pair

open Earbud (EndsIn Spins)

variable {p q : Pair} {now t fuel : Nat}

/-! ### Between two expiries -/

/-- Both sides are at one time, no timer is overdue, and nothing is on its way between them. -/
structure Idle (now : Nat) (p : Pair) : Prop extends Level now p where
  tidy : p.Tidy
  waiting : ∀ s, (p.side s).waiting? = none

theorem idle_deliver (h : Level now p) (hp : p.Tidy) : Idle now p.deliver.1 where
  toLevel := h.deliver
  tidy := hp.path (path_deliver p)
  waiting := by
    have hsettled := hp.settledBy
    rw [show p.deliver = p.deliverRounds 3 from hsettled.further maxRounds (by decide)]
    exact hsettled.empty

theorem Idle.deliver_eq (h : Idle now p) : p.deliver.1 = p :=
  congrArg Prod.fst (deliverRounds_idle h.tidy h.waiting maxRounds)

theorem Idle.advanceTo (h : Idle now p)
    (ht : ∀ s, ∀ timer ∈ (p.side s).timers.pending, t ≤ timer.deadline) :
    Idle (max now t) (p.advanceTo t) where
  toLevel := h.toLevel.advanceTo ht
  tidy := h.tidy.tick (.wait p t ht)
  waiting s := by
    rw [side_advanceTo]
    exact h.waiting s

theorem Idle.expire (h : Idle now p) (s : Side) (k : TimerKind) :
    Idle now (p.setSide s ((p.side s).expire k)) where
  toLevel := h.toLevel.expire s k
  tidy := h.tidy.setSide ((h.tidy s).expire k)
  waiting := Side.forall_of s
    (by rw [side_setSide, Earbud.waiting?, Earbud.outbox_expire]; exact h.waiting s)
    (by rw [side_other_setSide]; exact h.waiting s.other)

theorem Idle.fireDue {s : Side} {b : Earbud} (h : Idle now p)
    (hfired : fireDue? (p.side s) fuel = some b) : Idle now (p.setSide s b) :=
  fireDue_kept (P := Idle now) (fun _ s k h => h.expire s k) h hfired

/-- Some timer of the pair is due at its next deadline. -/
theorem due_at_nextDeadline {d : Nat} (h : p.nextDeadline? = some d) :
    ∃ s, (ArmedTimer.first? ((p.advanceTo d).side s).timers.due).isSome = true := by
  obtain ⟨⟨s, hs⟩, -⟩ := nextDeadline?_spec h
  obtain ⟨first, hfirst, rfl⟩ := Option.map_eq_some_iff.mp hs
  refine ⟨s, ?_⟩
  rw [side_advanceTo]
  exact Option.isSome_of_eq_some
    (ArmedTimer.first?_filter hfirst (decide_eq_true (Nat.le_max_right _ _)))

theorem Level.now_le (h : Level now p) {d : Nat} (hd : p.nextDeadline? = some d) : now ≤ d := by
  obtain ⟨⟨s, hs⟩, -⟩ := nextDeadline?_spec hd
  obtain ⟨first, hfirst, rfl⟩ := Option.map_eq_some_iff.mp hs
  exact h.clock s ▸ (h.timely s).ahead first (ArmedTimer.mem_of_first? hfirst)

/-- What there is to know when the clock moves on to the next deadline. -/
structure Next (t d : Nat) (p : Pair) : Prop where
  le : d ≤ t
  ahead : ∀ s, ∀ timer ∈ (p.side s).timers.pending, d ≤ timer.deadline
  idle : Idle d (p.advanceTo d)
  due : ∃ s, (ArmedTimer.first? ((p.advanceTo d).side s).timers.due).isSome = true

theorem Idle.next {d : Nat} (h : Idle now p)
    (hd : p.nextDeadline?.filter (fun deadline => decide (deadline ≤ t)) = some d) : Next t d p := by
  obtain ⟨hnext, hle⟩ := Option.filter_eq_some_iff.mp hd
  have hahead : ∀ s, ∀ timer ∈ (p.side s).timers.pending, d ≤ timer.deadline :=
    fun s _ ht => nextDeadline?_le hnext s ht
  have hidle := h.advanceTo hahead
  rw [Nat.max_eq_right (h.now_le hnext)] at hidle
  exact ⟨of_decide_eq_true hle, hahead, hidle, due_at_nextDeadline hnext⟩

theorem Next.clock {d : Nat} (h : Next t d p) (s : Side) : ((p.advanceTo d).side s).timers.now ≤ t :=
  (h.idle.clock s).le.trans h.le

theorem Next.endsIn_iff {d n : Nat} (h : Next t d p) (s : Side) :
    EndsIn t n ((p.advanceTo d).side s) ↔ EndsIn t n (p.side s) := by
  rw [side_advanceTo]
  exact Earbud.endsIn_advanceTo (h.ahead s)

/-! ### Time that passes -/

theorem Idle.settles_stepUntil? {n m : Nat} (h : Idle now p) (hleft : EndsIn t n p.left)
    (hright : EndsIn t m p.right) : ∃ q, Settles (p.stepUntil? t) q := by
  -- The induction is on how many timers are still to expire on both sides.
  induction hk : n + m using Nat.strong_induction_on generalizing p now n m with
  | h k ih =>
    subst hk
    cases hd : p.nextDeadline?.filter fun deadline => decide (deadline ≤ t) with
    | none => exact ⟨_, settles_stepUntil?_last hd⟩
    | some d =>
      have hnext := h.next hd
      obtain ⟨left, n', hsettles, hends, hn, hless⟩ :=
        ((hnext.endsIn_iff .left).mpr hleft).fireDue (hnext.idle.timely .left) (hnext.clock .left)
      obtain ⟨right, m', hsettles', hends', hm, hless'⟩ :=
        ((hnext.endsIn_iff .right).mpr hright).fireDue (hnext.idle.timely .right) (hnext.clock .right)
      have hfewer : n' + m' < n + m := by
        obtain ⟨s, hdue⟩ := hnext.due
        cases s with
        | left =>
          have hlt := hless hdue
          omega
        | right =>
          have hlt := hless' hdue
          omega
      have hfired : Idle d ⟨left, right⟩ := by
        obtain ⟨_, hfuel⟩ := hsettles
        obtain ⟨_, hfuel'⟩ := hsettles'
        exact (hnext.idle.fireDue (s := .left) (hfuel _ le_rfl)).fireDue (s := .right) (hfuel' _ le_rfl)
      obtain ⟨q, hrest⟩ := ih (n' + m') hfewer hfired hends hends' rfl
      rw [← hfired.deliver_eq] at hrest
      refine ⟨q, .of_succ ?_⟩
      rw [funext (stepUntil?_succ hd)]
      exact hsettles.bind (g := fun fuel left => (fireDue? (p.advanceTo d).right fuel).bind
        fun right => (deliver ⟨left, right⟩).1.stepUntil? t fuel)
        (hsettles'.bind (g := fun fuel right => (deliver ⟨left, right⟩).1.stepUntil? t fuel) hrest)

theorem Idle.endsIn_of_stepUntil? (h : Idle now p) (hq : p.stepUntil? t fuel = some q) (s : Side) :
    ∃ n, EndsIn t n (p.side s) := by
  induction fuel generalizing p now with
  | zero => cases hq
  | succ fuel ih =>
    cases hd : p.nextDeadline?.filter fun deadline => decide (deadline ≤ t) with
    | none => exact ⟨0, Earbud.next?_eq_none.mpr fun timer ht => lt_of_filter_nextDeadline? hd s ht⟩
    | some d =>
      have hnext := h.next hd
      rw [stepUntil?_succ hd, Option.bind_eq_some_iff] at hq
      obtain ⟨left, hleft, hq⟩ := hq
      obtain ⟨right, hright, hq⟩ := Option.bind_eq_some_iff.mp hq
      have hfired : Idle d ⟨left, right⟩ :=
        (hnext.idle.fireDue (s := .left) hleft).fireDue (s := .right) hright
      rw [hfired.deliver_eq] at hq
      obtain ⟨m, hends⟩ := ih hfired hq
      simp only [← hnext.endsIn_iff s]
      cases s with
      | left =>
        exact Earbud.endsIn_of_fireDue? (hnext.idle.timely .left) (hnext.clock .left) hleft hends
      | right =>
        exact Earbud.endsIn_of_fireDue? (hnext.idle.timely .right) (hnext.clock .right) hright hends

theorem runUntil?_iff (h : Level now p) (hp : p.Tidy) (t : Nat) :
    (∃ fuel q, p.runUntil? fuel t = some q) ↔
      ∀ s n, ¬Spins t ((p.deliver.1.side s).runUntil t n).1 := by
  have hidle := idle_deliver h hp
  have hsides : (∀ s, ∃ n, EndsIn t n (p.deliver.1.side s)) ↔
      ∀ s n, ¬Spins t ((p.deliver.1.side s).runUntil t n).1 :=
    forall_congr' fun s => Earbud.exists_endsIn_iff (hidle.timely s)
  rw [← hsides]
  constructor
  · rintro ⟨fuel, q, hq⟩
    exact hidle.endsIn_of_stepUntil? hq
  · intro hends
    obtain ⟨n, hleft⟩ := hends .left
    obtain ⟨m, hright⟩ := hends .right
    obtain ⟨q, fuel, hfuel⟩ := hidle.settles_stepUntil? hleft hright
    exact ⟨fuel, q, hfuel fuel le_rfl⟩

theorem fireDue?_iff (h : Level now p) (s : Side) :
    (∃ fuel b, fireDue? (p.side s) fuel = some b) ↔
      ∀ n, ¬Spins now ((p.side s).runUntil now n).1 := by
  rw [← Earbud.exists_endsIn_iff (h.timely s)]
  constructor
  · rintro ⟨fuel, b, hfired⟩
    have hclock := (h.fireDue hfired).clock s
    rw [side_setSide] at hclock
    have hends : EndsIn now 0 b := Earbud.next?_eq_none.mpr fun timer hmem => by
      by_contra hle
      have hdue : timer ∈ b.timers.due := List.mem_filter.mpr ⟨hmem, decide_eq_true (by omega)⟩
      rw [ArmedTimer.first?_eq_none.mp (Earbud.first?_due_of_fireDue? hfired)] at hdue
      cases hdue
    exact Earbud.endsIn_of_fireDue? (h.timely s) (h.clock s).le hfired hends
  · rintro ⟨n, hends⟩
    obtain ⟨b, -, ⟨fuel, hfuel⟩, -⟩ := hends.fireDue (h.timely s) (h.clock s).le
    exact ⟨fuel, b, hfuel fuel le_rfl⟩

/-! ### Every run -/

theorem config_setSide {s : Side} {b : Earbud} (h : b.config = (p.side s).config) (s' : Side) :
    ((p.setSide s b).side s').config = (p.side s').config := by
  cases s <;> cases s' <;> first | exact h | rfl

theorem Path.config {log : List Handover} (path : Path p log q) (s : Side) :
    (q.side s).config = (p.side s).config := by
  induction path with
  | refl => rfl
  | tail _ tick ih =>
    rw [← ih]
    cases tick with
    | event s' e => exact config_setSide (Earbud.work_dispatch _ e).config s
    | take s' =>
      rw [takeFor_eq]
      exact config_setSide (b := (side _ s'.other).taken) rfl s
    | wait t ht =>
      rw [side_advanceTo]
      rfl
    | expiry s' timer hfirst => exact config_setSide (Earbud.config_expire _ _) s

theorem level_tidy (left right : Config) (leftStore rightStore : SessionStore)
    (failures : Side → FailurePattern) {log : List Handover}
    (path : Path ((Pair.new left right leftStore rightStore).withFailures failures) log p) :
    Level p.now p ∧ p.Tidy :=
  ⟨((onTime_new left right leftStore rightStore failures).path path).1.level,
    (tidy_new left right leftStore rightStore failures).path path⟩

/-- With a pause between the readings time always arrives. -/
theorem time_arrives (left right : Config) (leftStore rightStore : SessionStore)
    (failures : Side → FailurePattern) (fuel : Nat) (actions : List Action) (p : Pair)
    (hleft : 0 < left.timing.gainPoll) (hright : 0 < right.timing.gainPoll) :
    let start := (Pair.new left right leftStore rightStore).withFailures failures
    start.acts? fuel actions = some p → ∀ t, ∃ fuel q, p.runUntil? fuel t = some q := by
  intro start hacts t
  have hpath := path_acts? hacts
  obtain ⟨hlevel, htidy⟩ := level_tidy left right leftStore rightStore failures hpath
  refine (runUntil?_iff hlevel htidy t).mpr fun s n hspins => ?_
  have hpause : 0 < (start.side s).config.timing.gainPoll := by
    cases s with
    | left => exact hleft
    | right => exact hright
  have hconfig := (hpath.trans (path_deliver p)).config s
  rw [← hconfig, ← Earbud.config_runUntil _ t n, hspins.unpaused] at hpause
  omega

theorem time_arrives_iff (left right : Config) (leftStore rightStore : SessionStore)
    (failures : Side → FailurePattern) (fuel : Nat) (actions : List Action) (p : Pair) :
    let start := (Pair.new left right leftStore rightStore).withFailures failures
    start.acts? fuel actions = some p →
      (∀ t, (∃ fuel q, p.runUntil? fuel t = some q) ↔
        ∀ s n, ¬Spins t ((p.deliver.1.side s).runUntil t n).1) ∧
      ∀ s, (∃ fuel b, fireDue? (p.side s) fuel = some b) ↔
        ∀ n, ¬Spins p.now ((p.side s).runUntil p.now n).1 := by
  intro start hacts
  obtain ⟨hlevel, htidy⟩ := level_tidy left right leftStore rightStore failures (path_acts? hacts)
  exact ⟨runUntil?_iff hlevel htidy, fireDue?_iff hlevel⟩

theorem time_arrives_iff_negotiating :
    let start := (Pair.ofConfig (.standard "")).withFailures fun _ _ _ => false
    let actions : List Action :=
      [.dispatchBoth .initialise, .dispatchBoth .powerOn, .dispatchBoth .enable, .runFor (millis 300),
        .dispatchBoth .silenceDetected, .deliverCrossed]
    ∃ p, start.acts? 10 actions = some p ∧
      (∀ t, (∃ fuel q, p.runUntil? fuel t = some q) ↔
        ∀ s n, ¬Spins t ((p.deliver.1.side s).runUntil t n).1) ∧
      ∀ s, (∃ fuel b, fireDue? (p.side s) fuel = some b) ↔
        ∀ n, ¬Spins p.now ((p.side s).runUntil p.now n).1 := by
  intro start actions
  have harrives : (start.acts? 10 actions).isSome = true := by decide
  obtain ⟨p, hp⟩ := Option.isSome_iff_exists.mp harrives
  exact ⟨p, hp, time_arrives_iff _ _ _ _ _ 10 actions p hp⟩

/-- A valid configuration in which the gain poll has no pause, and the adaptive mode is not the first. -/
def unpaused : Config :=
  { Config.standard "" with defaultMode := ⟨1⟩, timing := { gainPoll := 0 } }

/-- Once the adaptive mode is entered the poll spins, and time does not arrive. -/
theorem time_stands_still :
    ¬∀ (c : Config) (fuel : Nat) (actions : List Action) (p : Pair) (t : Nat), c.check = .ok () →
      ((Pair.ofConfig c).bringUp? fuel).bind (·.acts? fuel actions) = some p →
        ∃ fuel q, p.runUntil? fuel t = some q := by
  intro harrives
  have hreached : (((Pair.ofConfig unpaused).bringUp? 10).bind
      (·.acts? 10 [.dispatch .left (.setMode ⟨0⟩)])).any (fun p =>
        decide (Spins (millis 100) ((p.deliver.1.side .left).runUntil (millis 100) 1).1)) = true := by
    decide
  obtain ⟨p, hp, hspins⟩ := (Option.any_eq_true _ _).mp hreached
  obtain ⟨up, hup, hacts⟩ := Option.bind_eq_some_iff.mp hp
  obtain ⟨log, hpath⟩ := path_bringUp? hup
  obtain ⟨hlevel, htidy⟩ :=
    level_tidy unpaused unpaused {} {} (fun _ _ _ => false) (hpath.trans (path_acts? hacts))
  have hnever := (runUntil?_iff hlevel htidy (millis 100)).mp
    (harrives unpaused 10 [.dispatch .left (.setMode ⟨0⟩)] p (millis 100) rfl hp)
  exact hnever .left 1 (of_decide_eq_true hspins)

end Pair

end NoiseControl
