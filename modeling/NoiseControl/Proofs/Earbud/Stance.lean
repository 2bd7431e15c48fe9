import Mathlib.Algebra.Group.Nat.Defs
import NoiseControl.Pair
import NoiseControl.Proofs.Earbud.FollowUp
import NoiseControl.Proofs.QuietMode.Stance

/-!
# Where an earbud of a pair stands

An earbud of a pair was not brought up, or waits for adaptive processing to start, or takes part in
the negotiation of quiet mode.  Its stance fixes its timers of agreed instants.  Reports of silence
and records of the peer are followed from stance to stance, together with the record that waits on
the link afterwards.
-/

namespace NoiseControl

open QuietMode (Direction Record Synchronizer Effect)

/-! ### Instants of a pair -/

namespace Pair

/-- What the shared clock shows at a virtual time. -/
def instant (t : Nat) : WallClock := clockOrigin.add t

theorem add_instant (t d : Nat) : (instant t).add d = instant (t + d) := by
  have horigin : clockOrigin = .reading 1000000 := rfl
  simp only [instant, horigin, WallClock.reading_add, Nat.add_assoc]

theorem until?_instant {t d : Nat} (hpos : 1 ≤ d) (hlt : d < 2 ^ 31) :
    (instant (t + d)).until? (instant t) = some d := by
  have horigin : clockOrigin = .reading 1000000 := rfl
  simp only [instant, horigin, WallClock.reading_add]
  rw [WallClock.until?_reading _ _ (by omega) (by omega), if_pos (by omega)]
  exact congrArg some (by omega)

end Pair

/-- The timers that may be pending while noise control is on and nothing is being changed. -/
def TimerKind.isSteady : TimerKind → Bool
  | .configSettle | .gainPoll | .quietMode _ => true
  | _ => false

def Event.silence (silent : Bool) : Event := if silent then .silenceDetected else .silenceCleared

namespace Earbud

/-! ### Earbuds of a pair -/

/-- An earbud set up as one side of a pair, between two events. -/
structure Paired (c : Config) (side : Side) (now : Nat) (b : Earbud) : Prop where
  config : b.config = { c with side := side }
  clock : b.clockOrigin = some Pair.clockOrigin
  reliable : b.failures = fun _ _ => false
  done : b.followUps = []
  connected : b.outbox.connected = true
  delay : b.quietMode.delay = c.timing.quietModeDelay
  ties : b.quietMode.winsTies = (side == .left)
  now : b.timers.now = now
  order : b.timers.InOrder

/-- Noise control is on, and nothing about it is being changed. -/
structure Operating (b : Earbud) : Prop where
  state : b.runtime.state = .enabled
  on : b.runtime.actualEnabled = true
  peerAround : b.runtime.peerInCase = false
  steady : ∀ k, k.isSteady = false → b.timers.find? k = none

/-- Adaptive processing runs, so that quiet mode is negotiated. -/
structure Running (b : Earbud) : Prop extends b.Operating where
  adaptive : b.audio.adaptive = true

/-- The record that waits for the peer. -/
def waiting? (b : Earbud) : Option Record := b.outbox.take.2

def taken (b : Earbud) : Earbud := { b with outbox := b.outbox.take.1 }

def handed (b : Earbud) : Option Record → Earbud
  | some r => (b.dispatch (.peerRecord r)).1
  | none => b

/-- Where an earbud stands.  The numbers are virtual times: that at which adaptive processing
starts, or the agreed instant of a transition. -/
inductive Stance where
  | absent
  | settling (time : Nat)
  | free (on : Bool)
  | asking (on : Bool) (time : Nat)
  | following (on : Bool) (time : Nat)

namespace Stance

def Activity : Stance → Earbud → Prop
  | absent => fun b => b.runtime.state = .uninitialised ∧ b.timers.pending = []
  | settling time => fun b =>
    b.Operating ∧ b.audio.adaptive = false ∧ b.timers.deadline? .configSettle = some time
  | free _ | asking _ _ | following _ _ => Running

def Negotiation : Stance → Synchronizer → Prop
  | absent | settling _ => Synchronizer.Free false
  | free on => Synchronizer.Free on
  | asking on time => Synchronizer.Asks on (Pair.instant time)
  | following on _ => Synchronizer.Follows on

def agreed? : Stance → Direction → Option Nat
  | asking on time, d | following on time, d => if d = .leaving on then some time else none
  | _, _ => none

end Stance

structure Stands (x : Stance) (b : Earbud) : Prop where
  activity : x.Activity b
  negotiation : x.Negotiation b.quietMode
  timers : ∀ d, b.timers.deadline? (.quietMode d) = x.agreed? d

variable {c : Config} {side : Side} {now time : Nat} {b : Earbud} {x : Stance} {on : Bool}

theorem Paired.taken (h : Paired c side now b) : Paired c side now b.taken :=
  { h with
    connected := by
      show b.outbox.take.1.connected = true
      unfold PeerLink.take
      split <;> exact h.connected }

/-- Work that leaves nothing to do later keeps an earbud between two events. -/
theorem Paired.work {y : Extent} {a : Earbud} (h : Paired c side now b) (w : Work y b a)
    (hdone : a.followUps = b.followUps) (hlink : a.outbox.connected = b.outbox.connected)
    (hsetup : a.quietMode.delay = b.quietMode.delay ∧ a.quietMode.winsTies = b.quietMode.winsTies) :
    Paired c side now a where
  config := w.config.trans h.config
  clock := w.clockOrigin.trans h.clock
  reliable := w.failures.trans h.reliable
  done := hdone.trans h.done
  connected := hlink.trans h.connected
  delay := hsetup.1.trans h.delay
  ties := hsetup.2.trans h.ties
  now := w.now.trans h.now
  order := w.inOrder h.order

theorem Paired.silent {y : Extent} {a : Earbud} (h : Paired c side now b) (w : Work y b a)
    (hy : y.talks = false) : Paired c side now a := by
  obtain ⟨hq, hdone, hlink⟩ := w.silent hy
  exact h.work w hdone (by rw [hlink]) ⟨by rw [hq], by rw [hq]⟩

theorem Operating.of_eq {a : Earbud} (h : b.Operating) (hstate : a.runtime.state = b.runtime.state)
    (hon : a.runtime.actualEnabled = b.runtime.actualEnabled)
    (hpeer : a.runtime.peerInCase = b.runtime.peerInCase)
    (hsteady : ∀ k, k.isSteady = false → a.timers.find? k = b.timers.find? k) : a.Operating where
  state := hstate.trans h.state
  on := hon.trans h.on
  peerAround := hpeer.trans h.peerAround
  steady k hk := (hsteady k hk).trans (h.steady k hk)

/-- Where an earbud stands is read off its state, its negotiation and its pending timers. -/
theorem Stands.of_eq {a : Earbud} (h : Stands x b) (hruntime : a.runtime = b.runtime)
    (hadaptive : a.audio.adaptive = b.audio.adaptive) (hq : a.quietMode = b.quietMode)
    (hpending : a.timers.pending = b.timers.pending) : Stands x a := by
  have hfind : ∀ k, a.timers.find? k = b.timers.find? k := fun k => by
    rw [TimerQueue.find?, hpending, TimerQueue.find?]
  have hdeadline : ∀ k, a.timers.deadline? k = b.timers.deadline? k := fun k =>
    congrArg (Option.map _) (hfind k)
  have hop : b.Operating → a.Operating := fun hop =>
    hop.of_eq (by rw [hruntime]) (by rw [hruntime]) (by rw [hruntime]) fun k _ => hfind k
  have hact := h.activity
  refine ⟨?_, hq ▸ h.negotiation, fun d => (hdeadline _).trans (h.timers d)⟩
  cases x with
  | absent => exact ⟨hruntime ▸ hact.1, hpending.trans hact.2⟩
  | settling => exact ⟨hop hact.1, hadaptive.trans hact.2.1, (hdeadline _).trans hact.2.2⟩
  | _ => exact ⟨hop hact.toOperating, hadaptive.trans hact.adaptive⟩

theorem Stands.taken (h : Stands x b) : Stands x b.taken := h.of_eq rfl rfl rfl rfl

@[simp]
theorem waiting?_taken (b : Earbud) : b.taken.waiting? = none :=
  congrArg Prod.snd (PeerLink.take_take b.outbox)

theorem Paired.wallNow (h : Paired c side now b) : b.wallNow = Pair.instant now := by
  unfold Earbud.wallNow
  rw [h.clock, h.now]
  rfl

/-! ### Carrying out decisions -/

def negotiating : Extent where
  keeps r := r
  timer
    | .quietMode _ => true
    | _ => false
  audio
    | .quietModeOn | .quietModeOff => true
    | _ => false
  talks := true

theorem adopt_negotiating (b : Earbud) (decision : Synchronizer.Decision) :
    Work negotiating b (b.adopt decision) :=
  work_adopt b decision rfl (fun _ => rfl) rfl rfl

theorem Running.adopt (h : b.Running) (decision : Synchronizer.Decision) :
    (b.adopt decision).Running := by
  have w := adopt_negotiating b decision
  have hruntime : (b.adopt decision).runtime = b.runtime := w.keeps
  have hadaptive : (b.adopt decision).audio.adaptive = b.audio.adaptive :=
    w.adaptive (fun _ _ _ => rfl) rfl fun _ => rfl
  have hop : (b.adopt decision).Operating := by
    refine h.toOperating.of_eq (by rw [hruntime]) (by rw [hruntime]) (by rw [hruntime]) ?_
    intro k hk
    exact w.find? (by cases k <;> first | rfl | cases hk)
  exact ⟨hop, hadaptive.trans h.adaptive⟩

theorem Paired.adopt (h : Paired c side now b) {decision : Synchronizer.Decision}
    (hsetup : decision.1.delay = b.quietMode.delay ∧ decision.1.winsTies = b.quietMode.winsTies)
    (hlater : ∀ d, Effect.fireNow d ∉ decision.2) : Paired c side now (b.adopt decision) := by
  have w := adopt_negotiating b decision
  have hcarry : ∀ (effects : List Effect) (a : Earbud), (∀ d, Effect.fireNow d ∉ effects) →
      (effects.foldl carryOut a).followUps = a.followUps ∧
        (effects.foldl carryOut a).outbox.connected = a.outbox.connected := by
    intro effects
    induction effects with
    | nil => exact fun _ _ => ⟨rfl, rfl⟩
    | cons e rest ih =>
      intro a hnone
      obtain ⟨hdone, hlink⟩ := ih (carryOut a e) fun d hd => hnone d (List.mem_cons_of_mem _ hd)
      have hhead : ∀ d, e ≠ .fireNow d := fun d he => hnone d (he ▸ List.mem_cons_self)
      refine ⟨hdone.trans ?_, hlink.trans ?_⟩
      · cases e with
        | fireNow d => exact absurd rfl (hhead d)
        | _ => rfl
      · cases e <;> rfl
  obtain ⟨hdone, hlink⟩ := hcarry decision.2 { b with quietMode := decision.1 } hlater
  rw [← quietMode_adopt b decision] at hsetup
  exact h.work w hdone hlink hsetup

theorem stands_adopt (hrun : b.Running) (hx : x.Activity = Running) {decision : Synchronizer.Decision}
    (hneg : x.Negotiation decision.1)
    (ht : ∀ d, (b.adopt decision).timers.deadline? (.quietMode d) = x.agreed? d) :
    Stands x (b.adopt decision) where
  activity := hx ▸ hrun.adopt decision
  negotiation := (quietMode_adopt b decision).symm ▸ hneg
  timers := ht

/-! ### What waits for the peer -/

/-- If a record waits, it tells that silence is observed, and requests nothing. -/
def Greets (w : Option Record) : Prop := ∀ r, w = some r → r.Plain ∧ r.detected = true

def Requestless (w : Option Record) : Prop := ∀ r, w = some r → r.Plain

/-- A record waits that requests the transition at a virtual time. -/
def Requests (on : Bool) (time : Nat) (w : Option Record) : Prop :=
  ∃ r, w = some r ∧ r.Carries (.leaving on) (Pair.instant time)

theorem greets_none : Greets none := fun _ h => nomatch h

theorem requestless_none : Requestless none := fun _ h => nomatch h

theorem Greets.requestless {w : Option Record} (h : Greets w) : Requestless w := fun r hr => (h r hr).1

theorem greets_some {r : Record} (hplain : r.Plain) (hsilent : r.detected = true) :
    Greets (some r) := fun _ h => Option.some.inj h ▸ ⟨hplain, hsilent⟩

theorem requestless_some {r : Record} (hplain : r.Plain) : Requestless (some r) :=
  fun _ h => Option.some.inj h ▸ hplain

theorem waiting?_sendRecord (h : b.outbox.connected = true) (r : Record) :
    (b.sendRecord r).waiting? = some r := congrArg Prod.snd (PeerLink.take_send b.outbox r h)

theorem deadline?_arm_agreed {q : TimerQueue} (hq : q.now = now) (after : Nat)
    (hother : ∀ d, d ≠ .leaving on → q.deadline? (.quietMode d) = none) (d : Direction) :
    (q.arm (.quietMode (.leaving on)) after).deadline? (.quietMode d) =
      if d = .leaving on then some (now + after) else none := by
  rw [TimerQueue.deadline?_arm, hq]
  by_cases hd : d = .leaving on
  · rw [if_pos (by rw [hd]), if_pos hd]
  · rw [if_neg (by simpa using hd), if_neg hd, hother d hd]

theorem stands_noting (hp : Paired c side now b) (hrun : b.Running) (hx : x.Activity = Running)
    {decision : Synchronizer.Decision}
    (hsetup : decision.1.delay = b.quietMode.delay ∧ decision.1.winsTies = b.quietMode.winsTies)
    (hnone : decision.2 = []) (hneg : x.Negotiation decision.1)
    (ht : ∀ d, b.timers.deadline? (.quietMode d) = x.agreed? d) :
    Paired c side now (b.adopt decision) ∧ Stands x (b.adopt decision) ∧
      (b.adopt decision).waiting? = b.waiting? := by
  refine ⟨hp.adopt hsetup (by simp [hnone]), stands_adopt hrun hx hneg ?_, ?_⟩
  · obtain ⟨s, effects⟩ := decision
    obtain rfl : effects = [] := hnone
    exact ht
  · obtain ⟨s, effects⟩ := decision
    obtain rfl : effects = [] := hnone
    rfl

theorem stands_telling (hp : Paired c side now b) (hrun : b.Running) (hx : x.Activity = Running)
    {decision : Synchronizer.Decision} {r : Record}
    (hsetup : decision.1.delay = b.quietMode.delay ∧ decision.1.winsTies = b.quietMode.winsTies)
    (htells : decision.2 = [.publish r]) (hneg : x.Negotiation decision.1)
    (ht : ∀ d, b.timers.deadline? (.quietMode d) = x.agreed? d) :
    Paired c side now (b.adopt decision) ∧ Stands x (b.adopt decision) ∧
      (b.adopt decision).waiting? = some r := by
  refine ⟨hp.adopt hsetup (by simp [htells]), stands_adopt hrun hx hneg ?_, ?_⟩
  · obtain ⟨s, effects⟩ := decision
    obtain rfl : effects = [.publish r] := htells
    exact ht
  · obtain ⟨s, effects⟩ := decision
    obtain rfl : effects = [.publish r] := htells
    have hlink : ({ b with quietMode := s }.announce (.quietModeUpdated r)).outbox.connected = true :=
      hp.connected
    exact waiting?_sendRecord hlink r

theorem Stands.answers (hp : Paired c side now b) (h : Stands (.free on) b) {tells : Bool}
    {decision : Synchronizer.Decision}
    (hsetup : decision.1.delay = b.quietMode.delay ∧ decision.1.winsTies = b.quietMode.winsTies)
    (ha : Synchronizer.Answer tells on (Pair.instant now) b.quietMode.delay decision) :
    Paired c side now (b.adopt decision) ∧
      (Stands (.free on) (b.adopt decision) ∧
          ((b.adopt decision).waiting? = b.waiting? ∨
            tells = true ∧ Greets (b.adopt decision).waiting?) ∨
        Stands (.asking on (now + c.timing.quietModeDelay)) (b.adopt decision) ∧
          Requests on (now + c.timing.quietModeDelay) (b.adopt decision).waiting?) := by
  have hrun : b.Running := h.activity
  cases ha with
  | quiet hfree =>
    obtain ⟨hpaired, hstands, hwaits⟩ :=
      stands_noting (x := .free on) hp hrun rfl hsetup rfl hfree h.timers
    exact ⟨hpaired, Or.inl ⟨hstands, Or.inl hwaits⟩⟩
  | @tells s ht hfree hsilent =>
    obtain ⟨hpaired, hstands, hwaits⟩ :=
      stands_telling (x := .free on) hp hrun rfl hsetup rfl hfree h.timers
    exact ⟨hpaired, Or.inl ⟨hstands, Or.inr ⟨ht, hwaits ▸ greets_some hfree.own hsilent⟩⟩⟩
  | @elects s hasks =>
    rw [hp.delay, Pair.add_instant] at hasks
    refine ⟨hp.adopt hsetup (by simp),
      Or.inr ⟨stands_adopt hrun rfl hasks fun d => ?_, s.own, ?_, hasks.own⟩⟩
    · show _ = if d = .leaving on then some (now + c.timing.quietModeDelay) else none
      rw [← hp.delay]
      exact deadline?_arm_agreed hp.now b.quietMode.delay (fun d _ => h.timers d) d
    · have hlink : (({ b with quietMode := s }.arm (.quietMode (.leaving on)) b.quietMode.delay).announce
          (.quietModeUpdated s.own)).outbox.connected = true := hp.connected
      exact waiting?_sendRecord hlink s.own

/-! ### Reports of silence -/

theorem handle_silence (hs : b.runtime.state = .enabled) (silent : Bool) :
    (b.handle (.silence silent)).1 = b.whileAdaptive (b.quietMode.report silent b.wallNow) := by
  have hstate : (b.handle (.silence silent)).1 = (b.handleEnabled (.silence silent)).1 := by
    rw [← handleInState_enabled b hs]
    cases silent <;> rfl
  rw [hstate]
  cases silent <;> rfl

theorem dispatch_eq_adopt {e : Event} {decision : Synchronizer.Decision}
    (h : (b.handle e).1 = b.adopt decision) (hp : Paired c side now (b.adopt decision)) :
    (b.dispatch e).1 = b.adopt decision :=
  dispatch_adopt h hp.done

theorem handle_silence_running (hp : Paired c side now b) (hrun : b.Running) (silent : Bool) :
    (b.handle (.silence silent)).1 = b.adopt (b.quietMode.report silent (Pair.instant now)) := by
  rw [handle_silence hrun.state, whileAdaptive, if_pos hrun.adaptive, hp.wallNow]

theorem dispatch_silence_idle (hp : Paired c side now b) (silent : Bool)
    (h : b.runtime.state = .uninitialised ∨ b.runtime.state = .enabled ∧ b.audio.adaptive = false) :
    (b.dispatch (.silence silent)).1 = b := by
  have hhandle : (b.handle (.silence silent)).1 = b := by
    rcases h with h | ⟨h, hoff⟩
    · have hstate : (b.handle (.silence silent)).1 = (b.handleInState (.silence silent)).1 := by
        cases silent <;> rfl
      rw [hstate]
      unfold handleInState
      rw [h]
      cases silent <;> rfl
    · rw [handle_silence h, whileAdaptive, if_neg (by simp [hoff])]
  show (b.handle (.silence silent)).1.finishFollowUps = b
  rw [hhandle, finishFollowUps_eq_self _ hp.done]

theorem Stands.silence_free (hp : Paired c side now b) (h : Stands (.free on) b) (silent : Bool) :
    Paired c side now (b.dispatch (.silence silent)).1 ∧
      (Stands (.free on) (b.dispatch (.silence silent)).1 ∧
          ((b.dispatch (.silence silent)).1.waiting? = b.waiting? ∨
            Greets (b.dispatch (.silence silent)).1.waiting?) ∨
        Stands (.asking on (now + c.timing.quietModeDelay)) (b.dispatch (.silence silent)).1 ∧
          Requests on (now + c.timing.quietModeDelay) (b.dispatch (.silence silent)).1.waiting?) := by
  have hsetup := b.quietMode.setup_report silent (Pair.instant now)
  obtain ⟨hpaired, houtcome⟩ := h.answers hp hsetup (h.negotiation.report silent (Pair.instant now))
  rw [dispatch_eq_adopt (handle_silence_running hp h.activity silent) hpaired]
  exact ⟨hpaired, houtcome.imp_left fun ⟨hfree, hwaits⟩ => ⟨hfree, hwaits.imp_right And.right⟩⟩

theorem Stands.silence_asking (hp : Paired c side now b) (h : Stands (.asking on time) b)
    (silent : Bool) :
    Paired c side now (b.dispatch (.silence silent)).1 ∧
      Stands (.asking on time) (b.dispatch (.silence silent)).1 ∧
      (b.dispatch (.silence silent)).1.waiting? = b.waiting? := by
  have hsetup := b.quietMode.setup_report silent (Pair.instant now)
  obtain ⟨hasks, hnone⟩ := h.negotiation.report silent (Pair.instant now)
  have hafter := stands_noting (x := .asking on time) hp h.activity rfl hsetup hnone hasks h.timers
  rw [dispatch_eq_adopt (handle_silence_running hp h.activity silent) hafter.1]
  exact hafter

theorem Stands.silence_following (hp : Paired c side now b) (h : Stands (.following on time) b)
    (silent : Bool) :
    Paired c side now (b.dispatch (.silence silent)).1 ∧
      Stands (.following on time) (b.dispatch (.silence silent)).1 ∧
      ((b.dispatch (.silence silent)).1.waiting? = b.waiting? ∨
        Requestless (b.dispatch (.silence silent)).1.waiting?) := by
  have hsetup := b.quietMode.setup_report silent (Pair.instant now)
  obtain ⟨hfollows, hnone | htells⟩ := h.negotiation.report silent (Pair.instant now)
  · have hafter :=
      stands_noting (x := .following on time) hp h.activity rfl hsetup hnone hfollows h.timers
    rw [dispatch_eq_adopt (handle_silence_running hp h.activity silent) hafter.1]
    exact ⟨hafter.1, hafter.2.1, Or.inl hafter.2.2⟩
  · have hafter :=
      stands_telling (x := .following on time) hp h.activity rfl hsetup htells hfollows h.timers
    rw [dispatch_eq_adopt (handle_silence_running hp h.activity silent) hafter.1]
    exact ⟨hafter.1, hafter.2.1, Or.inr (hafter.2.2 ▸ requestless_some hfollows.own)⟩

/-! ### Records of the peer -/

theorem handle_peerRecord (hp : Paired c side now b) (hrun : b.Running) (r : Record) :
    (b.handle (.peerRecord r)).1 = b.adopt (b.quietMode.peerRecord r (Pair.instant now)) := by
  show b.receiveRecord r = _
  rw [receiveRecord, if_neg (by simp [hrun.peerAround]), hp.wallNow]

theorem Stands.hears_free (hp : Paired c side now b) (h : Stands (.free on) b) {w : Option Record}
    (hw : Greets w) :
    Paired c side now (b.handed w) ∧
      (Stands (.free on) (b.handed w) ∧ (b.handed w).waiting? = b.waiting? ∨
        Stands (.asking on (now + c.timing.quietModeDelay)) (b.handed w) ∧
          Requests on (now + c.timing.quietModeDelay) (b.handed w).waiting?) := by
  cases w with
  | none => exact ⟨hp, Or.inl ⟨h, rfl⟩⟩
  | some r =>
    obtain ⟨hplain, hsilent⟩ := hw r rfl
    have hsetup := b.quietMode.setup_peerRecord r (Pair.instant now)
    obtain ⟨hpaired, houtcome⟩ :=
      h.answers hp hsetup (h.negotiation.hears hplain hsilent (Pair.instant now))
    have heq : b.handed (some r) = _ := dispatch_eq_adopt (handle_peerRecord hp h.activity r) hpaired
    rw [heq]
    refine ⟨hpaired, houtcome.imp_left fun ⟨hfree, hwaits⟩ => ⟨hfree, hwaits.resolve_right ?_⟩⟩
    simp

theorem Stands.hears_asking (hp : Paired c side now b) (h : Stands (.asking on time) b)
    {w : Option Record} (hw : Requestless w) :
    Paired c side now (b.handed w) ∧ Stands (.asking on time) (b.handed w) ∧
      (b.handed w).waiting? = b.waiting? := by
  cases w with
  | none => exact ⟨hp, h, rfl⟩
  | some r =>
    have hsetup := b.quietMode.setup_peerRecord r (Pair.instant now)
    obtain ⟨hasks, hnone⟩ := h.negotiation.hears (hw r rfl) (Pair.instant now)
    have hafter := stands_noting (x := .asking on time) hp h.activity rfl hsetup hnone hasks h.timers
    have heq : b.handed (some r) = _ := dispatch_eq_adopt (handle_peerRecord hp h.activity r) hafter.1
    rw [heq]
    exact hafter

/-- The left earbud keeps its request against one for the same instant. -/
theorem Stands.keeps (hp : Paired c .left now b) (h : Stands (.asking on time) b)
    {w : Option Record} (hw : w = none ∨ Requests on time w) :
    Paired c .left now (b.handed w) ∧ Stands (.asking on time) (b.handed w) ∧
      (b.handed w).waiting? = b.waiting? := by
  rcases hw with rfl | ⟨r, rfl, hr⟩
  · exact ⟨hp, h, rfl⟩
  · have hsetup := b.quietMode.setup_peerRecord r (Pair.instant now)
    obtain ⟨hasks, hnone⟩ := h.negotiation.keeps hr hp.ties (Pair.instant now)
    have hafter := stands_noting (x := .asking on time) hp h.activity rfl hsetup hnone hasks h.timers
    have heq : b.handed (some r) = _ := dispatch_eq_adopt (handle_peerRecord hp h.activity r) hafter.1
    rw [heq]
    exact hafter

theorem follow_eq {r : Record} (hpos : 1 ≤ c.timing.quietModeDelay)
    (hlt : c.timing.quietModeDelay < 2 ^ 31)
    (hr : r.Carries (.leaving on) (Pair.instant (now + c.timing.quietModeDelay))) :
    Synchronizer.follow (.leaving on) r (Pair.instant now) =
      .arm (.leaving on) c.timing.quietModeDelay := by
  unfold Synchronizer.follow
  rw [hr.timestamp, Pair.until?_instant hpos hlt]

theorem Stands.follows (hp : Paired c side now b) (h : Stands (.free on) b)
    (hpos : 1 ≤ c.timing.quietModeDelay) (hlt : c.timing.quietModeDelay < 2 ^ 31) {w : Option Record}
    (hw : Requests on (now + c.timing.quietModeDelay) w) :
    Paired c side now (b.handed w) ∧
      Stands (.following on (now + c.timing.quietModeDelay)) (b.handed w) ∧
      (b.handed w).waiting? = b.waiting? := by
  obtain ⟨r, rfl, hr⟩ := hw
  have hsetup := b.quietMode.setup_peerRecord r (Pair.instant now)
  obtain ⟨hfollows, heffects⟩ := h.negotiation.follows hr (Pair.instant now)
  rw [follow_eq hpos hlt hr] at heffects
  have hhandle := handle_peerRecord hp h.activity r
  generalize b.quietMode.peerRecord r (Pair.instant now) = decision at hsetup hfollows heffects hhandle
  obtain ⟨s, effects⟩ := decision
  obtain rfl : effects = [.arm (.leaving on) c.timing.quietModeDelay] := heffects
  have hpaired := hp.adopt hsetup (by simp)
  have heq : b.handed (some r) = _ := dispatch_eq_adopt hhandle hpaired
  rw [heq]
  exact ⟨hpaired, stands_adopt h.activity rfl hfollows
    (deadline?_arm_agreed hp.now c.timing.quietModeDelay fun d _ => h.timers d), rfl⟩

/-- The right earbud gives up its request for an instant for which the left one asks too. -/
theorem Stands.yields (hp : Paired c .right now b)
    (h : Stands (.asking on (now + c.timing.quietModeDelay)) b)
    (hpos : 1 ≤ c.timing.quietModeDelay) (hlt : c.timing.quietModeDelay < 2 ^ 31) {w : Option Record}
    (hw : Requests on (now + c.timing.quietModeDelay) w) :
    Paired c .right now (b.handed w) ∧
      Stands (.following on (now + c.timing.quietModeDelay)) (b.handed w) ∧
      Requestless (b.handed w).waiting? := by
  obtain ⟨r, rfl, hr⟩ := hw
  have hsetup := b.quietMode.setup_peerRecord r (Pair.instant now)
  obtain ⟨hfollows, heffects⟩ := h.negotiation.yields hr hp.ties (Pair.instant now)
  rw [follow_eq hpos hlt hr] at heffects
  -- The timer of the request given up is armed anew, for the same instant.
  have hhandle := handle_peerRecord hp h.activity r
  generalize b.quietMode.peerRecord r (Pair.instant now) = decision at hsetup hfollows heffects hhandle
  obtain ⟨s, effects⟩ := decision
  obtain rfl : effects = [.publish s.own, .arm (.leaving on) c.timing.quietModeDelay] := heffects
  have hpaired := hp.adopt hsetup (by simp)
  have heq : b.handed (some r) = _ := dispatch_eq_adopt hhandle hpaired
  have hlink : ({ b with quietMode := s }.announce (.quietModeUpdated s.own)).outbox.connected = true :=
    hp.connected
  rw [heq]
  refine ⟨hpaired, stands_adopt h.activity rfl hfollows
    (deadline?_arm_agreed hp.now c.timing.quietModeDelay fun d hd => ?_), ?_⟩
  · exact (h.timers d).trans (if_neg hd)
  · have hwaits : (b.adopt (s, [.publish s.own, .arm (.leaving on) c.timing.quietModeDelay])).waiting? =
        some s.own := waiting?_sendRecord hlink s.own
    exact hwaits ▸ requestless_some hfollows.own

end Earbud

end NoiseControl
