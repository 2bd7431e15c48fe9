import NoiseControl.Proofs.Earbud.Hearing
import NoiseControl.Proofs.Pair.Honesty

/-!
# One exchange of records

While each report is delivered before the next, one record at most is on its way.  News of silence
are answered by a request or not at all, a request by a notice that another one is given up or not at
all, and a notice is not answered.  The copies of the records stay honest on the way.
-/

namespace NoiseControl

open QuietMode (Direction Record Synchronizer Effect)

namespace Pair

open Earbud (Paired Emerges)

variable {c : Config} {now n : Nat} {p p' : Pair} {told : Side → Option Bool} {asked : Side → Bool}
  {x y : Side} {r : Record}

/-- One side makes up its mind. -/
theorem exists_minds (m : Minds) (y : Side) (q : Synchronizer) :
    ∃ m', Function.update m y q = m' ∧ m' y = q ∧ m' y.other = m y.other :=
  ⟨_, rfl, Function.update_self .., Function.update_of_ne y.other_ne ..⟩

def minds (p : Pair) : Minds := fun s => (p.side s).quietMode

def leaves (p : Pair) : Side → Option Nat := fun s => (p.side s).leave?

/-- The record of one side is all that is on its way. -/
structure Sent (p : Pair) (x : Side) (r : Record) : Prop where
  waiting : (p.side x).waiting? = some r
  alone : (p.side x.other).waiting? = none
  voices : r.Voices (p.minds x).own

/-- What is on its way, with the records that may still follow. -/
inductive Underway (c : Config) (now : Nat) (p : Pair) : Nat → Prop where
  | nothing (waiting : ∀ s, (p.side s).waiting? = none) (followed : Followed p.minds p.leaves) :
      Underway c now p 0
  /-- A request that was given up. -/
  | notice {x : Side} {r : Record} (sent : Sent p x r) (plain : r.Plain)
      (busy : (p.minds x.other).own.hasRequest = true) (followed : Followed p.minds p.leaves) :
      Underway c now p 1
  | asksOn {x : Side} {r : Record} {t : WallClock} (sent : Sent p x r)
      (request : r.Carries .enable t) (followed : Followed p.minds p.leaves) : Underway c now p 2
  | asksOff {x : Side} {r : Record} (sent : Sent p x r)
      (request : r.Carries .disable (instant (now + c.timing.quietModeDelay)))
      (stays : (p.minds x.other).own.disableRequested = false)
      (leaves : p.leaves x = some (now + c.timing.quietModeDelay)) : Underway c now p 2
  | news {x : Side} {r : Record} (sent : Sent p x r) (plain : r.Plain) (silent : r.detected = true)
      (followed : Followed p.minds p.leaves) : Underway c now p 3

structure Exchange (c : Config) (now : Nat) (told : Side → Option Bool) (asked : Side → Bool)
    (p : Pair) (n : Nat) : Prop where
  joined : Joined c now p
  running : ∀ s, (p.side s).Running
  honest : Honest told asked p.minds
  underway : Underway c now p n

theorem Exchange.emerges (h : Exchange c now told asked p n) (s : Side) :
    Emerges c s now (p.minds s) (p.side s).waiting? (p.leaves s) (p.side s) :=
  ⟨h.joined s, h.running s, rfl, rfl, rfl⟩

theorem Underway.of_eq (h : Underway c now p n) (hminds : p'.minds = p.minds)
    (hleaves : p'.leaves = p.leaves) (hwaiting : ∀ s, (p'.side s).waiting? = (p.side s).waiting?) :
    Underway c now p' n := by
  have hsent : ∀ {x r}, Sent p x r → Sent p' x r := fun h =>
    ⟨(hwaiting _).trans h.waiting, (hwaiting _).trans h.alone, hminds ▸ h.voices⟩
  cases h with
  | nothing waiting followed =>
    exact .nothing (fun s => (hwaiting s).trans (waiting s)) (hminds ▸ hleaves ▸ followed)
  | notice sent plain busy followed =>
    exact .notice (hsent sent) plain (hminds ▸ busy) (hminds ▸ hleaves ▸ followed)
  | asksOn sent request followed =>
    exact .asksOn (hsent sent) request (hminds ▸ hleaves ▸ followed)
  | asksOff sent request stays leaves =>
    exact .asksOff (hsent sent) request (hminds ▸ stays) (hleaves ▸ leaves)
  | news sent plain silent followed =>
    exact .news (hsent sent) plain silent (hminds ▸ hleaves ▸ followed)

/-- An exchange ends when nothing is on its way. -/
theorem Exchange.rest (h : Exchange c now told asked p n)
    (hwaiting : ∀ s, (p.side s).waiting? = none) : Exchange c now told asked p 0 := by
  have hnothing : ∀ {x r}, ¬Sent p x r := fun h => nomatch (hwaiting _).symm.trans h.waiting
  refine { h with underway := ?_ }
  cases h.underway with
  | nothing waiting followed => exact .nothing waiting followed
  | notice sent => exact absurd sent hnothing
  | asksOn sent => exact absurd sent hnothing
  | asksOff sent => exact absurd sent hnothing
  | news sent => exact absurd sent hnothing

/-! ### The side that acts -/

/-- One side came out of an event, and the other has nothing to say. -/
structure Acted (c : Config) (now : Nat) (m : Minds) (leaves : Side → Option Nat) (y : Side)
    (w : Option Record) (p : Pair) : Prop where
  self : Emerges c y now (m y) w (leaves y) (p.side y)
  other : Emerges c y.other now (m y.other) none (leaves y.other) (p.side y.other)

namespace Acted

variable {m : Minds} {leaves : Side → Option Nat} {w : Option Record}

theorem minds_eq (h : Acted c now m leaves y w p) : p.minds = m :=
  funext (Side.forall_of y h.self.quietMode h.other.quietMode)

theorem leaves_eq (h : Acted c now m leaves y w p) : p.leaves = leaves :=
  funext (Side.forall_of y h.self.leave h.other.leave)

theorem exchange (h : Acted c now m leaves y w p) (hm : Honest told asked m)
    (hu : Underway c now p n) : Exchange c now told asked p n where
  joined := Side.forall_of y h.self.paired h.other.paired
  running := Side.forall_of y h.self.running h.other.running
  honest := h.minds_eq ▸ hm
  underway := hu

theorem sent (h : Acted c now m leaves y (some r) p) (hr : r.Voices (m y).own) : Sent p y r :=
  ⟨h.self.waiting, h.other.waiting, h.minds_eq ▸ hr⟩

theorem ends (h : Acted c now m leaves y none p) (hm : Honest told asked m)
    (hf : Followed m leaves) : Exchange c now told asked p 0 :=
  h.exchange hm (.nothing (Side.forall_of y h.self.waiting h.other.waiting)
    (by rw [h.minds_eq, h.leaves_eq]; exact hf))

theorem of_emerges {q : Synchronizer} {leave : Option Nat}
    (hself : Emerges c y now q w leave (p.side y))
    (hother : Emerges c y.other now (m y.other) none (leaves y.other) (p.side y.other)) :
    Acted c now (Function.update m y q) (Function.update leaves y leave) y w p where
  self := by rwa [Function.update_self, Function.update_self]
  other := by rwa [Function.update_of_ne y.other_ne, Function.update_of_ne y.other_ne]

end Acted

section

variable {m : Minds} {leaves : Side → Option Nat} {q : Synchronizer} {b : Earbud} {e : Event}
  (hm : Honest told asked m) (hf : Followed m leaves) (hb : Emerges c y now q none (leaves y) b)
  (ho : Emerges c y.other now (m y.other) none (leaves y.other) (p.side y.other))
  (hp : p.side y = (b.dispatch e).1)

include hm hf hb ho hp

/-- A side that does no more than make up its mind. -/
theorem exchange_minds (hsetup : (m y).delay = q.delay ∧ (m y).winsTies = q.winsTies)
    (he : (b.handle e).1 = b.adopt (m y, [])) : Exchange c now told asked p 0 := by
  have hadopt : Emerges c y now (m y) none (leaves y) (b.adopt (m y, [])) := hb.decides hsetup
  exact Acted.ends ⟨hp ▸ hadopt.dispatches he, ho⟩ hm hf

theorem exchange_elects (hsetup : (m y).delay = q.delay ∧ (m y).winsTies = q.winsTies)
    {decision : Synchronizer.Decision} (helects : (m y).Elects (instant now) decision)
    (he : (b.handle e).1 = b.adopt decision) : ∃ n ≤ 2, Exchange c now told asked p n := by
  obtain ⟨m', hmind, hy, hy'⟩ := exists_minds m y decision.1
  have hhonest := hm.elects helects hy hy'
  have hdelay : (m y).delay = c.timing.quietModeDelay :=
    hsetup.1.trans (hb.quietMode ▸ hb.paired.delay)
  cases helects with
  | nobody => exact ⟨0, by decide, exchange_minds hm hf hb ho hp hsetup he⟩
  | on plain silent mirrored =>
    have hself : Emerges c y now ((m y).schedule .enable (instant now)).1
        (some ((m y).schedule .enable (instant now)).1.own) (leaves y) (p.side y) :=
      hp ▸ (hb.schedules hsetup .enable (instant now)).dispatches he
    have hacted := Acted.of_emerges hself ho
    rw [hmind] at hacted
    have hsent := hacted.sent (by rw [hy]; exact Record.voices_self _)
    refine ⟨2, Nat.le_refl 2, hacted.exchange hhonest
      (.asksOn hsent (Synchronizer.carries_schedule plain .enable _) ?_)⟩
    rw [hacted.minds_eq, hacted.leaves_eq, Function.update_eq_self]
    refine hf.acts hy' (by rw [hy]; rfl) (by rw [hy]; rfl) fun hgone => ?_
    rw [hgone.forgot] at mirrored
    cases mirrored
  | off plain enabled alone =>
    have hself : Emerges c y now ((m y).schedule .disable (instant now)).1
        (some ((m y).schedule .disable (instant now)).1.own) (some (now + (m y).delay)) (p.side y) :=
      hp ▸ (hb.schedules hsetup .disable (instant now)).dispatches he
    have hacted := Acted.of_emerges hself ho
    rw [hmind] at hacted
    have hsent := hacted.sent (by rw [hy]; exact Record.voices_self _)
    refine ⟨2, Nat.le_refl 2, hacted.exchange hhonest (.asksOff hsent ?_ ?_ ?_)⟩
    · have hcarries := Synchronizer.carries_schedule plain .disable (instant now)
      rwa [add_instant, hdelay] at hcarries
    · rw [hacted.minds_eq, hy']
      exact hf.alone enabled alone
    · rw [hacted.leaves_eq, Function.update_self, hdelay]

end

/-! ### Reports of silence -/

/-- The side to which silence is reported may tell of it or elect itself. -/
theorem Exchange.report (h : Exchange c now told asked p 0) (y : Side) (silent : Bool) :
    ∃ n ≤ 3, Exchange c now (Function.update told y (some silent))
      (fun s => (p.minds s).own.enableRequested) (p.dispatch y (.silence silent)).1 n := by
  obtain ⟨p', hp'⟩ : ∃ p', (p.dispatch y (.silence silent)).1 = p' := ⟨_, rfl⟩
  have hside : p'.side y = ((p.side y).dispatch (.silence silent)).1 := hp' ▸ side_setSide p y _
  have hother : p'.side y.other = p.side y.other := hp' ▸ side_other_setSide p y _
  rw [hp']
  cases h.underway with
  | nothing waiting followed =>
    have hb := h.emerges y
    rw [waiting y] at hb
    have ho : Emerges c y.other now (p.minds y.other) none (p.leaves y.other) (p'.side y.other) := by
      rw [hother, ← waiting y.other]
      exact h.emerges y.other
    obtain ⟨m, -, hy, hy'⟩ := exists_minds p.minds y ((p.minds y).noting silent)
    have hm := h.honest.noting hy hy'
    have hf : Followed m p.leaves :=
      followed.acts hy' (by rw [hy]; rfl) (by rw [hy]; rfl) fun hgone => hy ▸ hgone.noting silent
    have hsetup : (m y).delay = (p.minds y).delay ∧ (m y).winsTies = (p.minds y).winsTies := by
      rw [hy]
      exact ⟨rfl, rfl⟩
    have he := Earbud.handle_silence_running (h.joined y) (h.running y) silent
    have hdecides := (p.minds y).report_decides silent (instant now)
    change ((p.side y).handle _).1 = (p.side y).adopt ((p.minds y).report silent (instant now)) at he
    generalize (p.minds y).report silent (instant now) = decision at he hdecides
    rw [← hy] at hdecides
    rcases hdecides with helects | htells
    · obtain ⟨n, hn, hexchange⟩ :=
        exchange_elects hm hf hb (hy' ▸ ho) hside hsetup helects he
      exact ⟨n, by omega, hexchange⟩
    · cases htells with
      | intro plain hsilent unsure =>
        have hadopt : Emerges c y now (m y) (some (m y).own) (p.leaves y)
            ((p.side y).adopt (m y, [.publish (m y).own])) := (hb.decides hsetup).publishes _
        have hacted : Acted c now m p.leaves y (some (m y).own) p' :=
          ⟨hside ▸ hadopt.dispatches he, hy' ▸ ho⟩
        refine ⟨3, Nat.le_refl 3, hacted.exchange hm
          (.news (hacted.sent (Record.voices_self _)) plain hsilent ?_)⟩
        rw [hacted.minds_eq, hacted.leaves_eq]
        exact hf

/-! ### Records -/

/-- The sides once one of them has noted the record that was on its way. -/
structure Heard (told : Side → Option Bool) (asked : Side → Bool) (p : Pair) (y : Side) (r : Record)
    (m : Minds) : Prop where
  self : m y = (p.minds y).hearing r
  other : m y.other = p.minds y.other
  honest : Honest told asked m

theorem exists_heard (hm : Honest told asked p.minds) (sent : Sent p y.other r) :
    ∃ m, Heard told asked p y r m := by
  obtain ⟨m, -, hy, hy'⟩ := exists_minds p.minds y ((p.minds y).hearing r)
  exact ⟨m, hy, hy', hm.hearing sent.voices hy hy'⟩

namespace Heard

variable {m m' : Minds}

theorem setup (h : Heard told asked p y r m) :
    (m y).delay = (p.minds y).delay ∧ (m y).winsTies = (p.minds y).winsTies := by
  rw [h.self]
  exact ⟨rfl, rfl⟩

/-- A record that does not ask to leave changes nothing about whom the sides follow. -/
theorem followed (h : Heard told asked p y r m) (sent : Sent p y.other r)
    (hr : r.requested .disable = false) (hf : Followed p.minds p.leaves) : Followed m p.leaves :=
  hf.hears ((sent.voices.requested .disable).symm.trans hr) h.other (by rw [h.self]; exact id)

end Heard

/-- A request to switch on is followed at its instant or at once. -/
theorem exists_acted {m : Minds} {leaves : Side → Option Nat} {w : Option Record} {b : Earbud}
    {e : Event} {effects : List Effect} (hm : Honest told asked m) (hf : Followed m leaves)
    (hfree : (m y).own.enableRequested = false)
    (hstays : (m y.other).own.disableRequested = false)
    (hadopt : Emerges c y now (m y) w (leaves y) (b.adopt (m y, effects)))
    (he : (b.handle e).1 = b.adopt (m y, effects ++ [Synchronizer.follow .enable r (instant now)]))
    (ho : Emerges c y.other now (m y.other) none (leaves y.other) (p.side y.other))
    (hp : p.side y = (b.dispatch e).1) :
    ∃ m', Acted c now m' leaves y w p ∧ Honest told asked m' ∧ Followed m' leaves ∧
      (m y).own.Voices (m' y).own ∧ m' y.other = m y.other := by
  rcases hadopt.follows he with ⟨after, -, hself⟩ | hself
  · exact ⟨m, ⟨hp ▸ hself, ho⟩, hm, hf, Record.voices_self _, rfl⟩
  · have hvoices := Synchronizer.voices_fire_enable hfree
    have hacted := Acted.of_emerges (hp.symm ▸ hself) ho
    rw [Function.update_eq_self] at hacted
    obtain ⟨m', hmind, hy, hy'⟩ := exists_minds m y ((m y).fire .enable).1
    rw [hmind] at hacted
    rw [← hy] at hvoices
    exact ⟨m', hacted, hm.firesOn hy hy',
      hf.hears hstays hy' fun hasked => (hvoices.requested .disable).trans hasked, hvoices, hy'⟩

section

variable (hm : Honest told asked p.minds)
  (hb : Emerges c y now (p.minds y) none (p.leaves y) (p.side y)) (sent : Sent p y.other r)
  (ho : Emerges c y.other now (p.minds y.other) none (p.leaves y.other) (p'.side y.other))
  (hp : p'.side y = ((p.side y).dispatch (.peerRecord r)).1)

include hm hb sent ho hp

theorem hears_notice (plain : r.Plain) (busy : (p.minds y).own.hasRequest = true)
    (followed : Followed p.minds p.leaves) : Exchange c now told asked p' 0 := by
  obtain ⟨m, h⟩ := exists_heard hm sent
  have he : ((p.side y).handle (.peerRecord r)).1 =
      (p.side y).adopt ((p.minds y).peerRecord r (instant now)) :=
    Earbud.handle_peerRecord hb.paired hb.running r
  rw [Synchronizer.peerRecord_of_hasRequest busy plain, ← h.self] at he
  exact exchange_minds h.honest (h.followed sent (plain _) followed) hb (h.other ▸ ho) hp h.setup he

theorem hears_news (plain : r.Plain) (silent : r.detected = true)
    (followed : Followed p.minds p.leaves) : ∃ n ≤ 2, Exchange c now told asked p' n := by
  obtain ⟨m, h⟩ := exists_heard hm sent
  have he : ((p.side y).handle (.peerRecord r)).1 =
      (p.side y).adopt ((p.minds y).peerRecord r (instant now)) :=
    Earbud.handle_peerRecord hb.paired hb.running r
  have helects := (p.minds y).peerRecord_elects plain silent (instant now)
  rw [← h.self] at helects
  exact exchange_elects h.honest (h.followed sent (plain _) followed) hb (h.other ▸ ho) hp h.setup
    helects he

/-- A request to switch on is followed, unless this side made one too.  It may give that up and tell
so. -/
theorem hears_asksOn {t : WallClock} (request : r.Carries .enable t)
    (followed : Followed p.minds p.leaves) : ∃ n ≤ 1, Exchange c now told asked p' n := by
  obtain ⟨m, h⟩ := exists_heard hm sent
  have hnone : r.requested .disable = false := by rw [request.requested]; rfl
  have hstays : (p.minds y.other).own.disableRequested = false :=
    (sent.voices.requested .disable).symm.trans hnone
  have hf := h.followed sent hnone followed
  have he : ((p.side y).handle (.peerRecord r)).1 =
      (p.side y).adopt ((p.minds y).peerRecord r (instant now)) :=
    Earbud.handle_peerRecord hb.paired hb.running r
  have hreply := (p.minds y).peerRecord_reply request (instant now)
  generalize (p.minds y).peerRecord r (instant now) = decision at he hreply
  cases hreply with
  | keeps asked =>
    rw [← h.self] at he
    exact ⟨0, by decide, exchange_minds h.honest hf hb (h.other ▸ ho) hp h.setup he⟩
  | yields asked =>
    obtain ⟨m₁, -, hy, hy'⟩ := exists_minds m y ((m y).yieldRequest .enable)
    have hm₁ := h.honest.yields hy hy'
    have hf₁ : Followed m₁ p.leaves :=
      hf.hears (by rw [h.other]; exact hstays) hy' (by rw [hy]; exact id)
    have hsetup : (m₁ y).delay = (p.minds y).delay ∧ (m₁ y).winsTies = (p.minds y).winsTies :=
      hy ▸ h.setup
    have hfree : (m₁ y).own.enableRequested = false := by rw [hy]; rfl
    have hplain : (m₁ y).own.Plain := by
      have hnone : (m y).own.disableRequested = false :=
        (h.honest y).single (by rw [h.self]; exact asked)
      intro d
      cases d
      · exact hfree
      · rw [hy]
        exact hnone
    rw [← h.self, ← hy] at he
    have hadopt : Emerges c y now (m₁ y) (some (m₁ y).own) (p.leaves y)
        ((p.side y).adopt (m₁ y, [.publish (m₁ y).own])) := (hb.decides hsetup).publishes _
    obtain ⟨m', hacted, hm', hf', hvoices, hother⟩ := exists_acted hm₁ hf₁ hfree
      (by rw [hy', h.other]; exact hstays) hadopt he (by rw [hy', h.other]; exact ho) hp
    refine ⟨1, Nat.le_refl 1, hacted.exchange hm' (.notice (hacted.sent hvoices) hplain ?_ ?_)⟩
    · have hasks : (p.minds y.other).own.requested .enable = true := by
        rw [← sent.voices.requested, request.requested]
        rfl
      rw [hacted.minds_eq, hother, hy', h.other]
      exact Bool.or_eq_true_iff.mpr (Or.inl hasks)
    · rw [hacted.minds_eq, hacted.leaves_eq]
      exact hf'
  | follows free =>
    rw [← h.self] at he
    have hadopt : Emerges c y now (m y) none (p.leaves y) ((p.side y).adopt (m y, [])) :=
      hb.decides h.setup
    obtain ⟨m', hacted, hm', hf', -, -⟩ := exists_acted h.honest hf (by rw [h.self]; exact free)
      (by rw [h.other]; exact hstays) hadopt he (by rw [h.other]; exact ho) hp
    exact ⟨0, by decide, hacted.ends hm' hf'⟩

/-- A request to leave is followed, for nobody else asks to leave. -/
theorem hears_asksOff (request : r.Carries .disable (instant (now + c.timing.quietModeDelay)))
    (stays : (p.minds y).own.disableRequested = false)
    (leaves : p.leaves y.other = some (now + c.timing.quietModeDelay)) :
    Exchange c now told asked p' 0 := by
  obtain ⟨m, h⟩ := exists_heard hm sent
  have hasks : (m y.other).own.disableRequested = true := by
    have hrequested := request.requested .disable
    rw [sent.voices.requested, ← h.other] at hrequested
    exact hrequested
  have hstays : (m y).own.disableRequested = false := by rw [h.self]; exact stays
  have he : ((p.side y).handle (.peerRecord r)).1 =
      (p.side y).adopt ((p.minds y).peerRecord r (instant now)) :=
    Earbud.handle_peerRecord hb.paired hb.running r
  have hreply := (p.minds y).peerRecord_reply request (instant now)
  generalize (p.minds y).peerRecord r (instant now) = decision at he hreply
  cases hreply with
  | keeps asked => exact absurd (stays.symm.trans asked) Bool.false_ne_true
  | yields asked => exact absurd (stays.symm.trans asked) Bool.false_ne_true
  | follows free =>
    rw [← h.self] at he
    have hadopt : Emerges c y now (m y) none (p.leaves y) ((p.side y).adopt (m y, [])) :=
      hb.decides h.setup
    have hasked : (m y).peer.disableRequested = true := by
      have hrequested := request.requested .disable
      rw [h.self]
      exact hrequested
    rcases hadopt.follows he with ⟨after, huntil, hself⟩ | hself
    · rw [request.timestamp] at huntil
      have hle := until?_instant_le huntil
      have hself : Emerges c y now (m y) none (some (now + after)) (p'.side y) := hp.symm ▸ hself
      have hacted := Acted.of_emerges hself (h.other ▸ ho)
      rw [Function.update_eq_self] at hacted
      refine hacted.ends h.honest (followed_of_stays hstays (Or.inl ⟨hasked, hstays, ?_⟩))
      exact ⟨_, _, Function.update_self .., (Function.update_of_ne y.other_ne ..).trans leaves,
        Nat.add_le_add_left hle now⟩
    · rw [Synchronizer.fire_disable (Or.inr hasked)] at hself
      have hacted := Acted.of_emerges (hp.symm ▸ hself) (h.other ▸ ho)
      rw [Function.update_eq_self] at hacted
      obtain ⟨m', hmind, hy, hy'⟩ := exists_minds m y { m y with own := .clear, peer := .clear }
      rw [hmind] at hacted
      have hown : (m' y).own = .clear := by rw [hy]
      have hpeer : (m' y).peer = .clear := by rw [hy]
      exact hacted.ends (h.honest.firesOff hasks hstays hown hpeer hy')
        (followed_of_stays (by rw [hown]; rfl) (Or.inr (Synchronizer.gone_clear hown hpeer)))

end

/-! ### Deliveries -/

/-- What is done with nothing that waits leaves the exchange where it is. -/
theorem Exchange.of_eq (h : Exchange c now told asked p n)
    (hemerges : ∀ s, Emerges c s now (p.minds s) (p.side s).waiting? (p.leaves s) (p'.side s)) :
    Exchange c now told asked p' n := by
  have hminds : p'.minds = p.minds := funext fun s => (hemerges s).quietMode
  have hleaves : p'.leaves = p.leaves := funext fun s => (hemerges s).leave
  exact {
    joined := fun s => (hemerges s).paired
    running := fun s => (hemerges s).running
    honest := hminds ▸ h.honest
    underway := h.underway.of_eq hminds hleaves fun s => (hemerges s).waiting }

/-- The record that waits for a side brings the exchange nearer to its end. -/
theorem Exchange.hears (h : Exchange c now told asked p n)
    (hwaits : (p.side y.other).waiting? = some r)
    (ho : Emerges c y.other now (p.minds y.other) none (p.leaves y.other) (p'.side y.other))
    (hp : p'.side y = ((p.side y).dispatch (.peerRecord r)).1) :
    ∃ n', n' + 1 ≤ n ∧ Exchange c now told asked p' n' := by
  -- A record that is on its way is this one, so it was sent by the other side.
  have hsender : ∀ {x r'}, Sent p x r' → x = y.other ∧ r' = r := by
    intro x r' hsent
    rcases x.eq_or_eq_other y with rfl | rfl
    · exact nomatch hsent.alone.symm.trans hwaits
    · exact ⟨rfl, Option.some.inj (hsent.waiting.symm.trans hwaits)⟩
  have hreceives : ∀ {r'}, Sent p y.other r' →
      Emerges c y now (p.minds y) none (p.leaves y) (p.side y) := by
    intro r' hsent
    have halone := hsent.alone
    rw [Side.other_other] at halone
    exact halone ▸ h.emerges y
  cases h.underway with
  | nothing waiting followed => exact nomatch (waiting y.other).symm.trans hwaits
  | notice sent plain busy followed =>
    obtain ⟨rfl, rfl⟩ := hsender sent
    rw [Side.other_other] at busy
    exact ⟨0, Nat.le_refl 1,
      hears_notice h.honest (hreceives sent) sent ho hp plain busy followed⟩
  | asksOn sent request followed =>
    obtain ⟨rfl, rfl⟩ := hsender sent
    obtain ⟨n', hn', h'⟩ := hears_asksOn h.honest (hreceives sent) sent ho hp request followed
    exact ⟨n', by omega, h'⟩
  | asksOff sent request stays leaves =>
    obtain ⟨rfl, rfl⟩ := hsender sent
    rw [Side.other_other] at stays
    exact ⟨0, by decide,
      hears_asksOff h.honest (hreceives sent) sent ho hp request stays leaves⟩
  | news sent plain silent followed =>
    obtain ⟨rfl, rfl⟩ := hsender sent
    obtain ⟨n', hn', h'⟩ := hears_news h.honest (hreceives sent) sent ho hp plain silent followed
    exact ⟨n', by omega, h'⟩

theorem Exchange.deliverTo (h : Exchange c now told asked p n) (s : Side) :
    ∃ n', n' + (p.deliverTo s).2 ≤ n ∧ Exchange c now told asked (p.deliverTo s).1 n' := by
  have hside := side_deliverTo p s
  have hother := side_other_deliverTo p s
  have hcount : (p.deliverTo s).2 = (p.side s.other).load := congrArg Prod.snd (deliverTo_eq p s)
  rw [hcount]
  generalize (p.deliverTo s).1 = p' at hside hother ⊢
  have ho : Emerges c s.other now (p.minds s.other) none (p.leaves s.other) (p'.side s.other) :=
    hother ▸ (h.emerges s.other).taken
  cases hw : (p.side s.other).waiting? with
  | none =>
    rw [hw] at hside
    have hkept : p'.side s = p.side s := hside
    refine ⟨n, Nat.le_of_eq (congrArg (n + ·) (Earbud.load_eq_zero.mpr hw)), h.of_eq ?_⟩
    exact Side.forall_of s (hkept ▸ h.emerges s) (hw ▸ ho)
  | some r =>
    rw [hw] at hside
    obtain ⟨n', hn', h'⟩ := h.hears hw ho hside
    have hone := (p.side s.other).load_le_one
    exact ⟨n', by omega, h'⟩

theorem Exchange.deliverRounds (rounds : Nat) (h : Exchange c now told asked p n)
    (hrounds : n < rounds) : Exchange c now told asked (p.deliverRounds rounds).1 0 := by
  induction rounds generalizing p n with
  | zero => omega
  | succ rounds ih =>
    obtain ⟨n₁, hn₁, h₁⟩ := h.deliverTo .left
    obtain ⟨n₂, hn₂, h₂⟩ := h₁.deliverTo .right
    unfold Pair.deliverRounds
    dsimp only
    split
    -- A round that hands nothing over found both links empty.
    · rename_i hzero
      have hleft := load_deliverTo p .left (by omega)
      have hright := load_deliverTo (p.deliverTo .left).1 .right (by omega)
      refine h₂.rest (Side.forall_of .right ?_ ?_)
      · exact Earbud.load_eq_zero.mp (hright.1.trans hleft.2)
      · exact Earbud.load_eq_zero.mp hright.2
    · exact ih h₂ (by omega)

theorem Underway.le (h : Underway c now p n) : n ≤ 3 := by
  cases h <;> decide

/-- One delivery ends the exchange. -/
theorem Exchange.deliver (h : Exchange c now told asked p n) :
    Exchange c now told asked p.deliver.1 0 := by
  have hn := h.underway.le
  exact h.deliverRounds maxRounds (by simp only [maxRounds]; omega)

end Pair

end NoiseControl
