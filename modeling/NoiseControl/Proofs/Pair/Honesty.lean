import Mathlib.Logic.Function.Basic
import NoiseControl.Proofs.Pair.Stage
import NoiseControl.Proofs.QuietMode.Decision

/-!
# What the sides of a pair know of each other

A side acts on its copy of the record of the other.  The copy may be out of date: the end of a
silence is not told while quiet mode is off.  What it says is never made up, though.  If the last
report to a side was of silence, the copy that the other has of its record says no more than the
record itself, unless the other is leaving quiet mode and so elects nobody.
-/

namespace NoiseControl

open QuietMode (Direction Record Synchronizer)

theorem Side.other_ne (s : Side) : s.other ≠ s := by cases s <;> decide

namespace Pair

/-! ### One side -/

/-- What a side has of the other.  `last` and `others` are the last reports to the two, and `asked`
says whether the side asked for quiet mode already. -/
structure Knows (last others : Option Bool) (asked : Bool) (s o : Synchronizer) : Prop where
  single : s.own.enableRequested = true → s.own.disableRequested = false
  known : s.own.detected = true → last = some true
  heard : s.peer.detected = true → s.own.disableRequested = false → others = some true →
    o.own.detected = true
  following : s.peer.disableRequested = true → o.own.disableRequested = true
  elected : s.own.enableRequested = true → asked = true ∨
    s.own.detected = true ∧ (others = some true → o.own.detected = true)

variable {last others : Option Bool} {asked : Bool} {s s' o o' : Synchronizer} {now : WallClock}

/-- A side may do anything that leaves its report as it is and takes no request to leave back, and
its copy may be renewed. -/
theorem Knows.acts (h : Knows last others asked s o)
    (hsingle : s'.own.enableRequested = true → s'.own.disableRequested = false)
    (hdetected : s'.own.detected = s.own.detected)
    (hleaving : s.own.disableRequested = true → s'.own.disableRequested = true)
    (hcopy : s'.peer.detected = s.peer.detected ∧
        s'.peer.disableRequested = s.peer.disableRequested ∨
      s'.peer.detected = o.own.detected ∧ s'.peer.disableRequested = o.own.disableRequested)
    (helected : s'.own.enableRequested = true → s.own.enableRequested = true ∨
      s.own.detected = true ∧ (others = some true → o.own.detected = true)) :
    Knows last others asked s' o where
  single := hsingle
  known := hdetected ▸ h.known
  heard hpeer hstays := by
    rcases hcopy with ⟨hkept, -⟩ | ⟨hnew, -⟩
    · refine h.heard (hkept ▸ hpeer) (Bool.eq_false_iff.mpr fun hasked => ?_)
      exact Bool.false_ne_true (hstays.symm.trans (hleaving hasked))
    · exact fun _ => hnew ▸ hpeer
  following hpeer := by
    rcases hcopy with ⟨-, hkept⟩ | ⟨-, hnew⟩
    · exact h.following (hkept ▸ hpeer)
    · exact hnew ▸ hpeer
  elected hasks := by
    rw [hdetected]
    exact (helected hasks).elim h.elected Or.inr

/-- What the other does of that kind is nothing to this side. -/
theorem Knows.seen (h : Knows last others asked s o) (hdetected : o'.own.detected = o.own.detected)
    (hleaving : o.own.disableRequested = true → o'.own.disableRequested = true) :
    Knows last others asked s o' where
  single := h.single
  known := h.known
  heard := hdetected ▸ h.heard
  following hpeer := hleaving (h.following hpeer)
  elected := hdetected ▸ h.elected

/-- A side that cleared its records knows nothing that could be wrong. -/
theorem knows_clear (hown : s.own = .clear) (hpeer : s.peer = .clear) :
    Knows last others asked s o where
  single := by rw [hown]; exact fun hasks => nomatch hasks
  known := by rw [hown]; exact fun hsilent => nomatch hsilent
  heard := by rw [hpeer]; exact fun hsilent => nomatch hsilent
  following := by rw [hpeer]; exact fun hasked => nomatch hasked
  elected := by rw [hown]; exact fun hasks => nomatch hasks

/-- A side that has left elects nobody, whatever becomes of the other. -/
theorem Knows.seen_gone (h : Knows last others asked s o) (hs : s.Gone) :
    Knows last others asked s o' where
  single := h.single
  known := h.known
  heard := by rw [hs.forgot]; exact fun hsilent => nomatch hsilent
  following := by rw [hs.forgot]; exact fun hasked => nomatch hasked
  elected hasks := absurd ((hs.plain .enable).symm.trans hasks) Bool.false_ne_true

/-- Nor does a side that asks to leave itself. -/
theorem Knows.seen_leaving (h : Knows last others asked s o)
    (hasks : s.own.disableRequested = true) (hpeer : s.peer.disableRequested = false) :
    Knows last others asked s o' where
  single := h.single
  known := h.known
  heard _ hstays := absurd (hstays.symm.trans hasks) Bool.false_ne_true
  following hasked := absurd (hpeer.symm.trans hasked) Bool.false_ne_true
  elected hon := absurd ((h.single hon).symm.trans hasks) Bool.false_ne_true

/-! ### Both sides -/

/-- The negotiation as each side sees it. -/
abbrev Minds := Side → Synchronizer

/-- Both sides know what the other said.  `told s` is the last report to side `s`. -/
def Honest (told : Side → Option Bool) (asked : Side → Bool) (q : Minds) : Prop :=
  ∀ s, Knows (told s) (told s.other) (asked s) (q s) (q s.other)

/-- A side follows the request of the other to leave quiet mode, at its instant or before. -/
structure Trails (q : Minds) (leaves : Side → Option Nat) (s : Side) : Prop where
  peer : (q s).peer.disableRequested = true
  own : (q s).own.disableRequested = false
  inTime : ∃ t t', leaves s = some t ∧ leaves s.other = some t' ∧ t ≤ t'

/-- When one side asks to leave quiet mode, the other knows: it follows, or has left. -/
def Followed (q : Minds) (leaves : Side → Option Nat) : Prop :=
  ∀ s, (q s).own.disableRequested = true → Trails q leaves s.other ∨ (q s.other).Gone

variable {told : Side → Option Bool} {asked : Side → Bool} {q q' : Minds}
  {leaves leaves' : Side → Option Nat} {y : Side}

/-- The next step may elect anyone who does not ask before it. -/
theorem Honest.restart (h : Honest told asked q) :
    Honest told (fun s => (q s).own.enableRequested) q :=
  fun s => { h s with elected := Or.inl }

theorem Honest.of_side (y : Side)
    (hy : Knows (told y) (told y.other) (asked y) (q y) (q y.other))
    (ho : Knows (told y.other) (told y) (asked y.other) (q y.other) (q y)) : Honest told asked q :=
  Side.forall_of y hy (by rw [Side.other_other]; exact ho)

theorem Honest.other (h : Honest told asked q) (y : Side) :
    Knows (told y.other) (told y) (asked y.other) (q y.other) (q y) := by
  have ho := h y.other
  rwa [Side.other_other] at ho

theorem Honest.noting (h : Honest told asked q) {silent : Bool}
    (hy : q' y = (q y).noting silent) (ho : q' y.other = q y.other) :
    Honest (Function.update told y (some silent)) (fun s => (q s).own.enableRequested) q' := by
  refine .of_side y ?_ ?_ <;>
    rw [Function.update_self, Function.update_of_ne y.other_ne, hy, ho]
  · exact { h y with
      known := fun hsilent => congrArg some hsilent
      elected := Or.inl }
  · exact { h.other y with
      heard := fun _ _ hsilent => Option.some.inj hsilent
      elected := Or.inl }

theorem Honest.hearing (h : Honest told asked q) {r : Record} (hr : r.Voices (q y.other).own)
    (hy : q' y = (q y).hearing r) (ho : q' y.other = q y.other) : Honest told asked q' := by
  refine .of_side y ?_ ?_ <;> rw [hy, ho]
  · exact (h y).acts (h y).single rfl id (Or.inr ⟨hr.detected, hr.requested .disable⟩) Or.inl
  · exact (h.other y).seen rfl id

theorem Honest.elects (h : Honest told asked q) {decision : Synchronizer.Decision}
    (he : (q y).Elects now decision) (hy : q' y = decision.1) (ho : q' y.other = q y.other) :
    Honest told asked q' := by
  refine .of_side y ?_ ?_ <;> rw [hy, ho]
  · cases he with
    | nobody => exact h y
    | on plain silent mirrored =>
      have hstays : (q y).own.disableRequested = false := plain .disable
      exact (h y).acts (fun _ => hstays) rfl id (Or.inl ⟨rfl, rfl⟩) fun _ =>
        Or.inr ⟨silent, (h y).heard mirrored hstays⟩
    | off plain enabled alone =>
      have hnone : (q y).own.enableRequested = false := plain .enable
      refine (h y).acts (fun hasks => ?_) rfl (fun _ => rfl) (Or.inl ⟨rfl, rfl⟩) Or.inl
      exact absurd (hnone.symm.trans hasks) Bool.false_ne_true
  · cases he with
    | nobody => exact h.other y
    | on plain silent mirrored => exact (h.other y).seen rfl id
    | off plain enabled alone => exact (h.other y).seen rfl fun _ => rfl

theorem Honest.yields (h : Honest told asked q) (hy : q' y = (q y).yieldRequest .enable)
    (ho : q' y.other = q y.other) : Honest told asked q' := by
  refine .of_side y ?_ ?_ <;> rw [hy, ho]
  · exact (h y).acts nofun rfl id (Or.inl ⟨rfl, rfl⟩) nofun
  · exact (h.other y).seen rfl id

theorem Honest.firesOn (h : Honest told asked q) (hy : q' y = ((q y).fire .enable).1)
    (ho : q' y.other = q y.other) : Honest told asked q' := by
  by_cases hasked : (q y).own.enableRequested = true ∨ (q y).peer.enableRequested = true
  · rw [Synchronizer.fire_enable hasked] at hy
    refine .of_side y ?_ ?_ <;> rw [hy, ho]
    · exact (h y).acts nofun rfl id (Or.inl ⟨rfl, rfl⟩) nofun
    · exact (h.other y).seen rfl id
  · simp only [not_or, Bool.not_eq_true] at hasked
    rw [Synchronizer.fire_unasked (d := .enable) hasked.1 hasked.2] at hy
    refine .of_side y ?_ ?_ <;> rw [hy, ho]
    · exact h y
    · exact h.other y

/-- A side may leave at once when the other asks for it. -/
theorem Honest.firesOff (h : Honest told asked q) (hother : (q y.other).own.disableRequested = true)
    (hstays : (q y).own.disableRequested = false) (hown : (q' y).own = .clear)
    (hpeer : (q' y).peer = .clear) (ho : q' y.other = q y.other) : Honest told asked q' := by
  have hunasked : (q y.other).peer.disableRequested = false := by
    refine Bool.eq_false_iff.mpr fun hasked => ?_
    exact Bool.false_ne_true (hstays.symm.trans ((h.other y).following hasked))
  refine .of_side y (knows_clear hown hpeer) ?_
  rw [ho]
  exact (h.other y).seen_leaving hother hunasked

/-! ### Requests to leave -/

/-- What a side does of its own accord leaves as it is whom it follows. -/
theorem Followed.acts (h : Followed q leaves) (ho : q' y.other = q y.other)
    (hown : (q' y).own.disableRequested = (q y).own.disableRequested)
    (hpeer : (q' y).peer.disableRequested = (q y).peer.disableRequested)
    (hgone : (q y).Gone → (q' y).Gone) : Followed q' leaves := by
  refine Side.forall_of y ?_ ?_
  · rw [hown]
    intro hasked
    refine (h y hasked).imp (fun htrails => ?_) fun hgone => ho.symm ▸ hgone
    exact ⟨ho.symm ▸ htrails.peer, ho.symm ▸ htrails.own, htrails.inTime⟩
  · rw [ho]
    intro hasked
    have hfollowed := h y.other hasked
    rw [Side.other_other] at hfollowed ⊢
    refine hfollowed.imp (fun htrails => ?_) hgone
    exact ⟨hpeer.trans htrails.peer, hown.trans htrails.own, htrails.inTime⟩

/-- When the other does not ask to leave, a side may follow it or not. -/
theorem Followed.hears (h : Followed q leaves) (hother : (q y.other).own.disableRequested = false)
    (ho : q' y.other = q y.other)
    (hown : (q' y).own.disableRequested = true → (q y).own.disableRequested = true) :
    Followed q' leaves := by
  refine Side.forall_of y ?_ ?_
  · intro hasked
    refine (h y (hown hasked)).imp (fun htrails => ?_) fun hgone => ho.symm ▸ hgone
    exact ⟨ho.symm ▸ htrails.peer, ho.symm ▸ htrails.own, htrails.inTime⟩
  · rw [ho]
    exact fun hasked => absurd (hother.symm.trans hasked) Bool.false_ne_true

theorem followed_of_stays (hy : (q y).own.disableRequested = false)
    (h : Trails q leaves y ∨ (q y).Gone) : Followed q leaves := by
  refine Side.forall_of y ?_ ?_
  · exact fun hasked => absurd (hy.symm.trans hasked) Bool.false_ne_true
  · rw [Side.other_other]
    exact fun _ => h

/-- A side that may ask to leave is the only one to do so. -/
theorem Followed.alone (h : Followed q leaves) (hon : (q y).own.enabled = true)
    (hpeer : (q y).peer.disableRequested = false) : (q y.other).own.disableRequested = false := by
  refine Bool.eq_false_iff.mpr fun hasked => ?_
  have hfollowed := h y.other hasked
  rw [Side.other_other] at hfollowed
  rcases hfollowed with htrails | hgone
  · exact Bool.false_ne_true (hpeer.symm.trans htrails.peer)
  · exact Bool.false_ne_true (hgone.off.symm.trans hon)

/-! ### Time -/

theorem Honest.expires {time : Nat} (h : Honest told asked q) (hf : Followed q leaves)
    (hx : ∀ s, Synchronizer.Expires time (q s) (q' s) (leaves s) (leaves' s))
    (hlater : ∀ s t, leaves' s = some t → time < t) : Honest told asked q' := by
  intro s
  cases hx s with
  | left asked due own peer => exact knows_clear own peer
  | stays detected leaving heard following asks gone later =>
    have hsingle : (q' s).own.enableRequested = true → (q' s).own.disableRequested = false :=
      fun hasks => leaving.trans ((h s).single (asks hasks))
    have hs : Knows (told s) (told s.other) (asked s) (q' s) (q s.other) :=
      (h s).acts hsingle detected (fun hasked => leaving.trans hasked) (Or.inl ⟨heard, following⟩)
        fun hasks => Or.inl (asks hasks)
    cases hx s.other with
    | stays detected' leaving' => exact hs.seen detected' fun hasked => leaving'.trans hasked
    | left asked' due' own' peer' =>
      -- The other left.  A side that followed it left no later; it had left, or it asks itself.
      by_cases hother : (q s.other).own.disableRequested = true
      · have hfollowed := hf s.other hother
        rw [Side.other_other] at hfollowed
        rcases hfollowed with htrails | hgone
        · obtain ⟨t, t', ht, ht', hle⟩ := htrails.inTime
          obtain ⟨t'', ht'', hdue⟩ := due'
          obtain rfl : t' = t'' := Option.some.inj (ht'.symm.trans ht'')
          have hleft := hlater s t ((later (Or.inr htrails.peer)).trans ht)
          omega
        · exact hs.seen_gone (gone hgone)
      · have hfollowing := (h.other s).following (asked'.resolve_left hother)
        have hpeer : (q s).peer.disableRequested = false :=
          Bool.eq_false_iff.mpr fun hasked => hother ((h s).following hasked)
        exact hs.seen_leaving (leaving.trans hfollowing) (following.trans hpeer)

theorem Followed.expires {time : Nat} (hf : Followed q leaves)
    (hx : ∀ s, Synchronizer.Expires time (q s) (q' s) (leaves s) (leaves' s)) : Followed q' leaves' := by
  intro s hasked
  cases hx s with
  | left _ _ own peer =>
    rw [own] at hasked
    cases hasked
  | stays detected leaving heard following asks gone later =>
    have hasks : (q s).own.disableRequested = true := leaving.symm.trans hasked
    cases hx s.other with
    | left _ _ own' peer' => exact Or.inr (Synchronizer.gone_clear own' peer')
    | stays detected' leaving' heard' following' asks' gone' later' =>
      refine (hf s hasks).imp (fun htrails => ?_) gone'
      obtain ⟨t, t', ht, ht', hle⟩ := htrails.inTime
      refine ⟨following'.trans htrails.peer, leaving'.trans htrails.own, t, t', ?_, ?_, hle⟩
      · exact (later' (Or.inr htrails.peer)).trans ht
      · rw [Side.other_other] at ht' ⊢
        exact (later (Or.inl hasks)).trans ht'

end Pair

end NoiseControl
