import NoiseControl.Proofs.Earbud.Stance

/-!
# Stages of a negotiation between two earbuds

The stage of a negotiation is given by the stances of the two sides and the records between them.
Every stage comes with a number of steps still to go.  A report of silence leads from stage to
stage, and each record that is delivered brings the negotiation nearer to a stage in which nothing
waits, so one delivery reaches it.
-/

namespace NoiseControl

open QuietMode (Direction Record Synchronizer Effect)

@[simp]
theorem Side.other_other (s : Side) : s.other.other = s := by cases s <;> rfl

theorem Side.eq_or_eq_other (s s' : Side) : s = s' ∨ s = s'.other := by
  cases s <;> cases s' <;> decide

theorem Side.forall_of {P : Side → Prop} (s : Side) (h : P s) (ho : P s.other) : ∀ s', P s' := by
  intro s'
  rcases s'.eq_or_eq_other s with rfl | rfl
  · exact h
  · exact ho

namespace Earbud

def Stance.isEarly : Stance → Bool
  | absent | settling _ => true
  | _ => false

/-- How many records wait for the peer: one or none. -/
def load (b : Earbud) : Nat := b.waiting?.toList.length

variable {b : Earbud}

theorem load_eq_zero : b.load = 0 ↔ b.waiting? = none := by
  unfold load
  cases b.waiting? <;> simp

theorem load_le_one (b : Earbud) : b.load ≤ 1 := by
  unfold load
  cases b.waiting? <;> simp

theorem load_taken (b : Earbud) : b.taken.load = 0 := load_eq_zero.mpr (waiting?_taken b)

theorem Requests.load {on : Bool} {time : Nat} (h : Requests on time b.waiting?) : b.load = 1 := by
  obtain ⟨r, hr, -⟩ := h
  simp [Earbud.load, hr]

end Earbud

namespace Pair

open Earbud (Paired Stands Stance Greets Requestless Requests)

variable {c : Config} {now time n : Nat} {p : Pair} {s : Side} {on : Bool}

@[simp]
theorem side_setSide (p : Pair) (s : Side) (b : Earbud) : (p.setSide s b).side s = b := by
  cases s <;> rfl

@[simp]
theorem side_other_setSide (p : Pair) (s : Side) (b : Earbud) :
    (p.setSide s b).side s.other = p.side s.other := by
  cases s <;> rfl

/-- Both sides are between two events at one time. -/
def Joined (c : Config) (now : Nat) (p : Pair) : Prop := ∀ s, Paired c s now (p.side s)

def load (p : Pair) : Nat := p.left.load + p.right.load

theorem load_eq (p : Pair) (s : Side) : p.load = (p.side s).load + (p.side s.other).load := by
  cases s
  · rfl
  · exact Nat.add_comm _ _

/-- The stages of a negotiation, with the steps that each is away from one without any record that
must be answered. -/
inductive Stage (c : Config) (now : Nat) (p : Pair) : Nat → Prop where
  | early (x : Stance) (hx : x.isEarly = true) (stands : ∀ s, Stands x (p.side s))
      (waiting : ∀ s, (p.side s).waiting? = none) : Stage c now p 0
  | idle (on : Bool) (stands : ∀ s, Stands (.free on) (p.side s))
      (waiting : ∀ s, Greets (p.side s).waiting?) : Stage c now p 2
  /-- One side asks for a transition, and the other does not know of it yet. -/
  | asked (on : Bool) (s : Side)
      (asks : Stands (.asking on (now + c.timing.quietModeDelay)) (p.side s))
      (free : Stands (.free on) (p.side s.other))
      (request : Requests on (now + c.timing.quietModeDelay) (p.side s).waiting?)
      (greeting : Greets (p.side s.other).waiting?) : Stage c now p 1
  /-- The request of one side is known to the other. -/
  | known (on : Bool) (time : Nat) (s : Side) (asks : Stands (.asking on time) (p.side s))
      (follows : Stands (.following on time) (p.side s.other)) (taken : (p.side s).waiting? = none)
      (plain : Requestless (p.side s.other).waiting?) : Stage c now p 0
  /-- Both sides ask for one instant, and the right one does not know yet that the left one does. -/
  | crossed (on : Bool) (asks : ∀ s, Stands (.asking on (now + c.timing.quietModeDelay)) (p.side s))
      (left : Requests on (now + c.timing.quietModeDelay) p.left.waiting?)
      (right : p.right.waiting? = none ∨
        Requests on (now + c.timing.quietModeDelay) p.right.waiting?) : Stage c now p 1

theorem Stage.le (h : Stage c now p n) : n ≤ 2 := by
  cases h <;> decide

/-! ### Reports of silence -/

theorem Stage.silence (hj : Joined c now p) (h : Stage c now p n) (s : Side) (silent : Bool) :
    Joined c now (p.dispatch s (.silence silent)).1 ∧
      ∃ n', Stage c now (p.dispatch s (.silence silent)).1 n' := by
  obtain ⟨p', hp'⟩ : ∃ p', (p.dispatch s (.silence silent)).1 = p' := ⟨_, rfl⟩
  have hside : p'.side s = ((p.side s).dispatch (.silence silent)).1 :=
    hp' ▸ side_setSide p s _
  have hother : p'.side s.other = p.side s.other := hp' ▸ side_other_setSide p s _
  rw [hp']
  have hjoined : Paired c s now (p'.side s) → Joined c now p' := fun h =>
    Side.forall_of s h (hother ▸ hj s.other)
  cases h with
  | early x hx stands waiting =>
    have hsame : p'.side s = p.side s := by
      have hact := (stands s).activity
      refine hside.trans (Earbud.dispatch_silence_idle (hj s) silent ?_)
      cases x with
      | absent => exact Or.inl hact.1
      | settling => exact Or.inr ⟨hact.1.state, hact.2.1⟩
      | _ => cases hx
    refine ⟨hjoined (hsame ▸ hj s), 0, .early x hx ?_ ?_⟩
    · exact Side.forall_of s (hsame ▸ stands s) (hother ▸ stands s.other)
    · exact Side.forall_of s (hsame ▸ waiting s) (hother ▸ waiting s.other)
  | idle on stands waiting =>
    obtain ⟨hpaired, hfree | hasks⟩ := (stands s).silence_free (hj s) silent
    · rw [← hside] at hpaired hfree
      refine ⟨hjoined hpaired, 2, .idle on ?_ ?_⟩
      · exact Side.forall_of s hfree.1 (hother ▸ stands s.other)
      · exact Side.forall_of s (hfree.2.elim (fun h => h ▸ waiting s) id) (hother ▸ waiting s.other)
    · rw [← hside] at hpaired hasks
      exact ⟨hjoined hpaired, 1, .asked on s hasks.1 (hother ▸ stands s.other) hasks.2
        (hother ▸ waiting s.other)⟩
  | asked on s₀ asks free request greeting =>
    rcases s.eq_or_eq_other s₀ with rfl | rfl
    · obtain ⟨hpaired, hasks, hwaits⟩ := asks.silence_asking (hj s) silent
      rw [← hside] at hpaired hasks hwaits
      exact ⟨hjoined hpaired, 1, .asked on s hasks (hother ▸ free) (hwaits ▸ request)
        (hother ▸ greeting)⟩
    · rw [Side.other_other] at hother
      obtain ⟨hpaired, hfree | hasks⟩ := free.silence_free (hj s₀.other) silent
      · rw [← hside] at hpaired hfree
        exact ⟨hjoined hpaired, 1, .asked on s₀ (hother ▸ asks) hfree.1 (hother ▸ request)
          (hfree.2.elim (fun h => h ▸ greeting) id)⟩
      · rw [← hside] at hpaired hasks
        have hrequest : ∀ s', Requests on (now + c.timing.quietModeDelay) (p'.side s').waiting? :=
          Side.forall_of s₀ (hother ▸ request) hasks.2
        exact ⟨hjoined hpaired, 1, .crossed on (Side.forall_of s₀ (hother ▸ asks) hasks.1)
          (hrequest .left) (Or.inr (hrequest .right))⟩
  | known on time s₀ asks follows taken plain =>
    rcases s.eq_or_eq_other s₀ with rfl | rfl
    · obtain ⟨hpaired, hasks, hwaits⟩ := asks.silence_asking (hj s) silent
      rw [← hside] at hpaired hasks hwaits
      exact ⟨hjoined hpaired, 0, .known on time s hasks (hother ▸ follows) (hwaits.trans taken)
        (hother ▸ plain)⟩
    · rw [Side.other_other] at hother
      obtain ⟨hpaired, hfollows, hwaits⟩ := follows.silence_following (hj s₀.other) silent
      rw [← hside] at hpaired hfollows hwaits
      exact ⟨hjoined hpaired, 0, .known on time s₀ (hother ▸ asks) hfollows (hother ▸ taken)
        (hwaits.elim (fun h => h ▸ plain) id)⟩
  | crossed on asks left right =>
    obtain ⟨hpaired, hasks, hwaits⟩ := (asks s).silence_asking (hj s) silent
    rw [← hside] at hpaired hasks hwaits
    have hwaiting : ∀ s', (p'.side s').waiting? = (p.side s').waiting? :=
      Side.forall_of s hwaits (by rw [hother])
    refine ⟨hjoined hpaired, 1, .crossed on (Side.forall_of s hasks (hother ▸ asks s.other)) ?_ ?_⟩
    · exact (hwaiting .left).symm ▸ left
    · exact (hwaiting .right).symm ▸ right

/-! ### One delivery to one side -/

theorem takeFor_eq (p : Pair) (s : Side) :
    p.takeFor s = (p.setSide s.other (p.side s.other).taken, (p.side s.other).waiting?) := rfl

theorem receive_eq (p : Pair) (s : Side) (w : Option Record) :
    p.receive s w = (p.setSide s ((p.side s).handed w), w.toList.length) := by
  cases w with
  | none => cases s <;> rfl
  | some r => rfl

theorem deliverTo_eq (p : Pair) (s : Side) :
    p.deliverTo s = ((p.setSide s.other (p.side s.other).taken).setSide s
      ((p.side s).handed (p.side s.other).waiting?), (p.side s.other).load) := by
  show (p.takeFor s).1.receive s (p.takeFor s).2 = _
  rw [takeFor_eq, receive_eq]
  cases s <;> rfl

theorem side_deliverTo (p : Pair) (s : Side) :
    (p.deliverTo s).1.side s = (p.side s).handed (p.side s.other).waiting? := by
  rw [deliverTo_eq]
  exact side_setSide _ s _

theorem side_other_deliverTo (p : Pair) (s : Side) :
    (p.deliverTo s).1.side s.other = (p.side s.other).taken := by
  rw [deliverTo_eq]
  exact (side_other_setSide _ s _).trans (side_setSide p s.other _)

theorem load_deliverTo (p : Pair) (s : Side) (h : (p.deliverTo s).2 = 0) :
    ((p.deliverTo s).1.side s).load = (p.side s).load ∧
      ((p.deliverTo s).1.side s.other).load = 0 := by
  rw [deliverTo_eq] at h
  rw [side_deliverTo, side_other_deliverTo, Earbud.load_eq_zero.mp h]
  exact ⟨rfl, Earbud.load_taken _⟩

/-- A record that is delivered brings the negotiation nearer to its end. -/
theorem Stage.deliverTo (hpos : 1 ≤ c.timing.quietModeDelay) (hlt : c.timing.quietModeDelay < 2 ^ 31)
    (hj : Joined c now p) (h : Stage c now p n) (s : Side) :
    Joined c now (p.deliverTo s).1 ∧ ∃ n', Stage c now (p.deliverTo s).1 n' ∧
      n' + (p.deliverTo s).1.load + (p.deliverTo s).2 ≤ n + p.load := by
  have hside := side_deliverTo p s
  have hother := side_other_deliverTo p s
  have hcount : (p.deliverTo s).2 = (p.side s.other).load := congrArg Prod.snd (deliverTo_eq p s)
  rw [hcount]
  generalize (p.deliverTo s).1 = p' at hside hother ⊢
  -- An answer is sent only on the way to a stage nearer to the end, which makes up for its load.
  have hbefore := p.load_eq s
  have hafter := p'.load_eq s
  have hempty : (p'.side s.other).load = 0 := by
    rw [hother]
    exact Earbud.load_taken _
  have hone := (p'.side s).load_le_one
  have hsilent : (p'.side s.other).waiting? = none := Earbud.load_eq_zero.mp hempty
  have hsame : (p'.side s).waiting? = (p.side s).waiting? → (p'.side s).load = (p.side s).load :=
    fun h => congrArg (fun w : Option Record => w.toList.length) h
  have hjoined : Paired c s now (p'.side s) → Joined c now p' := fun h =>
    Side.forall_of s h (hother ▸ (hj s.other).taken)
  cases h with
  | early x hx stands waiting =>
    rw [waiting s.other] at hside
    have hkept : p'.side s = p.side s := hside
    have hwaits := hsame (by rw [hkept])
    refine ⟨hjoined (hkept ▸ hj s), 0, .early x hx ?_ ?_, by omega⟩
    · exact Side.forall_of s (hkept ▸ stands s) (hother ▸ (stands s.other).taken)
    · exact Side.forall_of s (hkept ▸ waiting s) hsilent
  | idle on stands waiting =>
    obtain ⟨hpaired, ⟨hfree, hwaits⟩ | ⟨hasks, hrequest⟩⟩ :=
      (stands s).hears_free (hj s) (waiting s.other)
    · rw [← hside] at hpaired hfree hwaits
      have hload := hsame hwaits
      refine ⟨hjoined hpaired, 2, .idle on ?_ ?_, by omega⟩
      · exact Side.forall_of s hfree (hother ▸ (stands s.other).taken)
      · exact Side.forall_of s (hwaits ▸ waiting s) (hsilent ▸ Earbud.greets_none)
    · rw [← hside] at hpaired hasks hrequest
      exact ⟨hjoined hpaired, 1, .asked on s hasks (hother ▸ (stands s.other).taken) hrequest
        (hsilent ▸ Earbud.greets_none), by omega⟩
  | asked on s₀ asks free request greeting =>
    rcases s.eq_or_eq_other s₀ with rfl | rfl
    · obtain ⟨hpaired, hasks, hwaits⟩ := asks.hears_asking (hj s) greeting.requestless
      rw [← hside] at hpaired hasks hwaits
      have hload := hsame hwaits
      exact ⟨hjoined hpaired, 1, .asked on s hasks (hother ▸ free.taken) (hwaits ▸ request)
        (hsilent ▸ Earbud.greets_none), by omega⟩
    · rw [Side.other_other] at hside hother hsilent hbefore hafter hempty ⊢
      obtain ⟨hpaired, hfollows, hwaits⟩ := free.follows (hj s₀.other) hpos hlt request
      rw [← hside] at hpaired hfollows hwaits
      have hload := hsame hwaits
      exact ⟨hjoined hpaired, 0, .known on _ s₀ (hother ▸ asks.taken) hfollows hsilent
        (hwaits ▸ greeting.requestless), by omega⟩
  | known on time s₀ asks follows taken plain =>
    rcases s.eq_or_eq_other s₀ with rfl | rfl
    · obtain ⟨hpaired, hasks, hwaits⟩ := asks.hears_asking (hj s) plain
      rw [← hside] at hpaired hasks hwaits
      have hload := hsame hwaits
      exact ⟨hjoined hpaired, 0, .known on time s hasks (hother ▸ follows.taken)
        (hwaits.trans taken) (hsilent ▸ Earbud.requestless_none), by omega⟩
    · rw [Side.other_other] at hside hother hsilent hbefore hafter hempty ⊢
      rw [taken] at hside
      have hkept : p'.side s₀.other = p.side s₀.other := hside
      have hwaits := hsame (by rw [hkept])
      exact ⟨hjoined (hkept ▸ hj s₀.other), 0, .known on time s₀ (hother ▸ asks.taken)
        (hkept ▸ follows) hsilent (hkept ▸ plain), by omega⟩
  | crossed on asks left right =>
    have hload := Earbud.Requests.load left
    cases s with
    | left =>
      obtain ⟨hpaired, hasks, hwaits⟩ := (asks .left).keeps (hj .left) right
      have hside : p'.side .left = (p.side .left).handed p.right.waiting? := hside
      rw [← hside] at hpaired hasks hwaits
      have hsent := hsame hwaits
      exact ⟨hjoined hpaired, 1, .crossed on
        (Side.forall_of .left hasks (hother ▸ (asks .right).taken)) (hwaits ▸ left) (Or.inl hsilent),
        by omega⟩
    | right =>
      obtain ⟨hpaired, hfollows, hplain⟩ := (asks .right).yields (hj .right) hpos hlt left
      have hside : p'.side .right = (p.side .right).handed p.left.waiting? := hside
      rw [← hside] at hpaired hfollows hplain
      exact ⟨hjoined hpaired, 0, .known on _ .left (hother ▸ (asks .left).taken) hfollows hsilent
        hplain, by omega⟩

/-! ### Deliveries -/

theorem Stage.deliverRounds (hpos : 1 ≤ c.timing.quietModeDelay)
    (hlt : c.timing.quietModeDelay < 2 ^ 31) (rounds : Nat) (hj : Joined c now p)
    (h : Stage c now p n) (hrounds : n + p.load < rounds) :
    Joined c now (p.deliverRounds rounds).1 ∧ ∃ n', Stage c now (p.deliverRounds rounds).1 n' ∧
      (p.deliverRounds rounds).1.load = 0 := by
  induction rounds generalizing p n with
  | zero => omega
  | succ rounds ih =>
    obtain ⟨hj₁, n₁, h₁, hless₁⟩ := h.deliverTo hpos hlt hj .left
    obtain ⟨hj₂, n₂, h₂, hless₂⟩ := h₁.deliverTo hpos hlt hj₁ .right
    unfold Pair.deliverRounds
    dsimp only
    split
    -- A round that hands nothing over found both links empty.
    · rename_i hzero
      have hleft := load_deliverTo p .left (by omega)
      have hright := load_deliverTo (p.deliverTo .left).1 .right (by omega)
      have hsum := ((p.deliverTo .left).1.deliverTo .right).1.load_eq .right
      have hbefore : ((p.deliverTo .left).1.side .right).load = 0 := hleft.2
      exact ⟨hj₂, n₂, h₂, hsum.trans (by omega)⟩
    · exact ih hj₂ h₂ (by omega)

theorem Stage.deliver (hpos : 1 ≤ c.timing.quietModeDelay) (hlt : c.timing.quietModeDelay < 2 ^ 31)
    (hj : Joined c now p) (h : Stage c now p n) :
    Joined c now p.deliver.1 ∧ ∃ n', Stage c now p.deliver.1 n' ∧ p.deliver.1.load = 0 := by
  have hn := h.le
  have hleft := p.left.load_le_one
  have hright := p.right.load_le_one
  exact h.deliverRounds hpos hlt maxRounds hj (by simp only [load, maxRounds]; omega)

theorem deliverCrossed_eq (p : Pair) :
    p.deliverCrossed.1 =
      ⟨p.left.taken.handed p.right.waiting?, p.right.taken.handed p.left.waiting?⟩ := by
  have htake : (p.takeFor .left).1.takeFor .right =
      (⟨p.left.taken, p.right.taken⟩, p.left.waiting?) := rfl
  show (((((p.takeFor .left).1.takeFor .right).1.receive .left (p.takeFor .left).2).1).receive .right
    ((p.takeFor .left).1.takeFor .right).2).1 = _
  rw [htake, receive_eq, receive_eq]
  rfl

theorem Stage.deliverCrossed (hpos : 1 ≤ c.timing.quietModeDelay)
    (hlt : c.timing.quietModeDelay < 2 ^ 31) (hj : Joined c now p) (h : Stage c now p n) :
    Joined c now p.deliverCrossed.1 ∧ ∃ n', Stage c now p.deliverCrossed.1 n' := by
  have hside : ∀ s, p.deliverCrossed.1.side s = (p.side s).taken.handed (p.side s.other).waiting? := by
    rw [deliverCrossed_eq]
    intro s
    cases s <;> rfl
  generalize p.deliverCrossed.1 = p' at hside ⊢
  have hempty : ∀ s, (p.side s).taken.waiting? = none := fun s => Earbud.waiting?_taken _
  cases h with
  | early x hx stands waiting =>
    have hkept : ∀ s, p'.side s = (p.side s).taken := fun s => by
      rw [hside, waiting]
      rfl
    exact ⟨fun s => hkept s ▸ (hj s).taken, 0, .early x hx (fun s => hkept s ▸ (stands s).taken)
      fun s => hkept s ▸ hempty s⟩
  | idle on stands waiting =>
    have hhears : ∀ s, Paired c s now (p'.side s) ∧
        (Stands (.free on) (p'.side s) ∧ (p'.side s).waiting? = none ∨
          Stands (.asking on (now + c.timing.quietModeDelay)) (p'.side s) ∧
            Requests on (now + c.timing.quietModeDelay) (p'.side s).waiting?) := by
      intro s
      have hafter := (stands s).taken.hears_free (hj s).taken (waiting s.other)
      rwa [← hside, hempty] at hafter
    have hnothing : ∀ {s}, (p'.side s).waiting? = none → Greets (p'.side s).waiting? :=
      fun h => h ▸ Earbud.greets_none
    refine ⟨fun s => (hhears s).1, ?_⟩
    -- Each side may elect itself; if both do, they ask for the same instant.
    rcases (hhears .left).2 with ⟨hleft, hleft'⟩ | ⟨hleft, hleft'⟩ <;>
      rcases (hhears .right).2 with ⟨hright, hright'⟩ | ⟨hright, hright'⟩
    · exact ⟨2, .idle on (Side.forall_of .left hleft hright)
        (Side.forall_of .left (hnothing hleft') (hnothing hright'))⟩
    · exact ⟨1, .asked on .right hright hleft hright' (hnothing hleft')⟩
    · exact ⟨1, .asked on .left hleft hright hleft' (hnothing hright')⟩
    · exact ⟨1, .crossed on (Side.forall_of .left hleft hright) hleft' (Or.inr hright')⟩
  | asked on s asks free request greeting =>
    have hother := hside s.other
    rw [Side.other_other] at hother
    obtain ⟨hpaired, hasks, hwaits⟩ :=
      asks.taken.hears_asking (hj s).taken greeting.requestless
    obtain ⟨hpaired', hfollows, hwaits'⟩ := free.taken.follows (hj s.other).taken hpos hlt request
    rw [← hside, hempty] at hwaits
    rw [← hother, hempty] at hwaits'
    rw [← hside] at hpaired hasks
    rw [← hother] at hpaired' hfollows
    exact ⟨Side.forall_of s hpaired hpaired', 0, .known on _ s hasks hfollows hwaits
      (hwaits' ▸ Earbud.requestless_none)⟩
  | known on time s asks follows taken plain =>
    have hother := hside s.other
    rw [Side.other_other, taken] at hother
    have hkept : p'.side s.other = (p.side s.other).taken := hother
    obtain ⟨hpaired, hasks, hwaits⟩ := asks.taken.hears_asking (hj s).taken plain
    rw [← hside, hempty] at hwaits
    rw [← hside] at hpaired hasks
    have hempty' : (p'.side s.other).waiting? = none := by rw [hkept, hempty]
    exact ⟨Side.forall_of s hpaired (hkept ▸ (hj s.other).taken), 0,
      .known on time s hasks (hkept ▸ follows.taken) hwaits (hempty' ▸ Earbud.requestless_none)⟩
  | crossed on asks left right =>
    obtain ⟨hpaired, hasks, hwaits⟩ := (asks .left).taken.keeps (hj .left).taken right
    obtain ⟨hpaired', hfollows, hplain⟩ :=
      (asks .right).taken.yields (hj .right).taken hpos hlt left
    have hleft : p'.side .left = (p.side .left).taken.handed p.right.waiting? := hside .left
    have hright : p'.side .right = (p.side .right).taken.handed p.left.waiting? := hside .right
    rw [← hleft, hempty] at hwaits
    rw [← hleft] at hpaired hasks
    rw [← hright] at hpaired' hfollows hplain
    exact ⟨Side.forall_of .left hpaired hpaired', 0, .known on _ .left hasks hfollows hwaits hplain⟩

end Pair

end NoiseControl
