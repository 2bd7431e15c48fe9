import Mathlib.Algebra.Group.Nat.Defs
import NoiseControl.Proofs.QuietMode.Operation
import NoiseControl.Proofs.QuietMode.Decision

/-!
# Crossed requests

Both sides may elect themselves for the same transition before either hears of the other.  Each then
receives the request of the other beside its own, and the earlier instant is the one that both keep.
-/

namespace NoiseControl

namespace WallClock

variable {w w' now : WallClock}

/-- An instant is later than another by less than half a turn of the clock. -/
def Precedes (w w' : WallClock) : Prop := ∃ d, 0 < d ∧ d < 2 ^ 31 ∧ w.add d = w'

theorem precedes_iff : w.Precedes w' ↔ 0 < w'.deltaSince w := by
  constructor
  · rintro ⟨d, hpos, hlt, rfl⟩
    rw [deltaSince_add w hlt]
    omega
  · intro h
    have hlt : w'.deltaSince w < 2 ^ 31 := BitVec.toInt_lt
    refine ⟨(w'.deltaSince w).toNat, ?_, ?_, add_deltaSince (Int.le_of_lt h)⟩
    · omega
    · omega

theorem eq_of_deltaSince (h : w'.deltaSince w = 0) : w = w' := by
  have hadd := add_deltaSince (Int.le_of_eq h.symm)
  rw [h] at hadd
  rw [← hadd]
  simp [add]

theorem deltaSince_self (w : WallClock) : w.deltaSince w = 0 := by
  simp [deltaSince]

theorem until?_of_precedes (h : now.Precedes w) :
    ∃ left, left < 2 ^ 31 ∧ now.add left = w ∧ w.until? now = some left := by
  obtain ⟨left, hpos, hlt, rfl⟩ := h
  refine ⟨left, hlt, rfl, ?_⟩
  have hdelta := deltaSince_add now hlt
  simp only [until?, hdelta]
  rw [if_pos (by omega), Int.toNat_natCast]

theorem precedes_or (h : (w'.deltaSince w).natAbs < 2 ^ 31) :
    w.Precedes w' ∧ ¬ w'.Precedes w ∨ w = w' ∨ w'.Precedes w ∧ ¬ w.Precedes w' := by
  have hswap : w.deltaSince w' = -w'.deltaSince w := deltaSince_swap (by omega)
  simp only [precedes_iff, hswap]
  rcases Int.lt_trichotomy (w'.deltaSince w) 0 with hneg | hzero | hpos
  · exact Or.inr (Or.inr ⟨by omega, by omega⟩)
  · exact Or.inr (Or.inl (eq_of_deltaSince hzero))
  · exact Or.inl ⟨by omega, by omega⟩

end WallClock

namespace QuietMode

theorem Record.Coherent.carries {r : Record} (h : r.Coherent) {d : Direction}
    (hd : r.requested d = true) : r.Carries d r.timestamp := by
  refine ⟨fun d' => ?_, rfl⟩
  by_cases heq : d' = d
  · rw [heq, hd, decide_eq_true rfl]
  · rw [decide_eq_false heq, Bool.eq_false_iff]
    intro hd'
    -- The two transitions would leave one state in two ways.
    have hsame := (h d hd).symm.trans (h d' hd')
    cases d <;> cases d' <;> simp at heq hsame

namespace Synchronizer

variable {s t : Synchronizer} {d : Direction} {now now' : WallClock}

/-- Of two requests that of `s` is for the earlier instant, or `s` has priority at one instant. -/
def Prevails (s t : Synchronizer) : Prop :=
  s.own.timestamp.Precedes t.own.timestamp ∨
    s.own.timestamp = t.own.timestamp ∧ s.winsTies = true

theorem prevails_iff : s.Prevails t ↔ s.keepsOwnRequest t.own.timestamp = true := by
  unfold Prevails keepsOwnRequest
  rw [WallClock.precedes_iff]
  simp only [Bool.or_eq_true, decide_eq_true_eq, Bool.and_eq_true, beq_iff_eq]
  constructor
  · rintro (hearlier | ⟨hsame, hwins⟩)
    · exact Or.inl hearlier
    · exact Or.inr ⟨by rw [hsame, WallClock.deltaSince_self], hwins⟩
  · rintro (hearlier | ⟨hzero, hwins⟩)
    · exact Or.inl hearlier
    · exact Or.inr ⟨WallClock.eq_of_deltaSince hzero, hwins⟩

theorem prevails_or (hties : s.winsTies = !t.winsTies)
    (hnear : (t.own.timestamp.deltaSince s.own.timestamp).natAbs < 2 ^ 31) :
    s.Prevails t ∧ ¬ t.Prevails s ∨ t.Prevails s ∧ ¬ s.Prevails t := by
  have hirrefl (w : WallClock) : ¬ w.Precedes w := by
    rw [WallClock.precedes_iff, WallClock.deltaSince_self]
    omega
  unfold Prevails
  rcases WallClock.precedes_or hnear with ⟨hst, hts⟩ | heq | ⟨hts, hst⟩
  · have hne : t.own.timestamp ≠ s.own.timestamp := fun h => hts (h ▸ hst)
    exact Or.inl ⟨Or.inl hst, by simp [hts, hne]⟩
  · rw [heq, hties]
    cases t.winsTies with
    | false => exact Or.inl ⟨Or.inr ⟨rfl, rfl⟩, by simp [hirrefl]⟩
    | true => exact Or.inr ⟨Or.inr ⟨rfl, rfl⟩, by simp [hirrefl]⟩
  · have hne : s.own.timestamp ≠ t.own.timestamp := fun h => hst (h ▸ hts)
    exact Or.inr ⟨Or.inl hts, by simp [hst, hne]⟩

/-! ### Carrying the transition out -/

/-- The agreed instant makes the transition, and its timer would find nothing to do a second time. -/
structure TransitsOnce (d : Direction) (s : Synchronizer) : Prop where
  before : s.own.enabled = decide (d = .disable)
  switches : (s.fire d).2 = [match d with | .enable => .switchOn | .disable => .switchOff]
  after : (s.fire d).1.own.enabled = decide (d = .enable)
  spent : (s.fire d).1.fire d = ((s.fire d).1, [])

theorem transitsOnce (hbefore : s.own.enabled = decide (d = .disable))
    (hasked : s.own.requested d = true ∨ s.peer.requested d = true) : s.TransitsOnce d := by
  cases d with
  | enable =>
    have hfire := fire_enable hasked
    refine ⟨hbefore, ?_, ?_, ?_⟩
    · rw [hfire]
    · rw [hfire]
      rfl
    · rw [hfire]
      exact fire_unasked rfl rfl
  | disable =>
    have hfire := fire_disable hasked
    refine ⟨hbefore, ?_, ?_, ?_⟩
    · rw [hfire]
    · rw [hfire]
      rfl
    · rw [hfire]
      exact fire_unasked rfl rfl

/-! ### The exchange -/

def yielded (t : Synchronizer) (d : Direction) (r : Record) : Synchronizer :=
  (t.hearing r).yieldRequest d

theorem plain_yielded (ht : t.own.Coherent) (hd : t.own.requested d = true) (r : Record) :
    (t.yielded d r).own.Plain := by
  have hcarries := ht.carries hd
  intro d'
  rw [yielded, requested_yieldRequest]
  split
  · rfl
  · rename_i hne
    exact (hcarries.requested d').trans (decide_eq_false (Ne.symm hne))

/-- The two requests are settled on the instant of `s`. -/
structure Settled (d : Direction) (s t : Synchronizer) (now now' : WallClock) : Prop where
  keeps : s.peerRecord t.own now = (s.hearing t.own, [])
  /-- The other gives its request up and tells so, and waits for the instant that stands. -/
  yields : ∃ left, left < 2 ^ 31 ∧ now'.add left = s.own.timestamp ∧
    t.peerRecord s.own now' =
      (t.yielded d s.own, [.publish (t.yielded d s.own).own, .arm d left])
  cleared : (t.yielded d s.own).own = { t.own.setRequested d false with timestamp := .zero }
  unmoved : ∀ later, (s.hearing t.own).peerRecord (t.yielded d s.own).own later =
    (s.hearing (t.yielded d s.own).own, [])
  transits : (s.hearing (t.yielded d s.own).own).TransitsOnce d
  follows : (t.yielded d s.own).TransitsOnce d
  /-- The instant may also come before the news does. -/
  unheard : (s.hearing t.own).TransitsOnce d

theorem settled_of_prevails (hs : s.own.Coherent) (ht : t.own.Coherent)
    (hsd : s.own.requested d = true) (htd : t.own.requested d = true)
    (hst : s.Prevails t) (hts : ¬ t.Prevails s) (hahead : now'.Precedes s.own.timestamp) :
    Settled d s t now now' := by
  have hplain := plain_yielded ht htd s.own
  have hkept : s.peerRecord t.own now = (s.hearing t.own, []) := by
    have hasked : (s.hearing t.own).own.requested d = true := hsd
    have hkeeps : (s.hearing t.own).keepsOwnRequest t.own.timestamp = true := prevails_iff.mp hst
    rw [peerRecord_request s (ht.carries htd), if_pos hasked, if_pos hkeeps]
  have hgives : ¬(t.hearing s.own).keepsOwnRequest s.own.timestamp = true := by
    intro hkeeps
    exact hts (prevails_iff.mpr hkeeps)
  have henabled : (t.yielded d s.own).own.enabled = t.own.enabled := by cases d <;> rfl
  obtain ⟨left, hlt, hleft, huntil⟩ := WallClock.until?_of_precedes hahead
  refine ⟨hkept, ⟨left, hlt, hleft, ?_⟩, rfl, fun later => ?_, ?_, ?_, ?_⟩
  · have hasked : (t.hearing s.own).own.requested d = true := htd
    rw [peerRecord_request t (hs.carries hsd), if_pos hasked, if_neg hgives]
    simp only [follow, huntil]
    rfl
  · have hasked : (s.hearing t.own).own.hasRequest = true := (hs.carries hsd).hasRequest
    rw [peerRecord_of_hasRequest hasked hplain]
    rfl
  · exact transitsOnce (hs d hsd) (Or.inl hsd)
  · exact transitsOnce (henabled.trans (ht d htd)) (Or.inr hsd)
  · exact transitsOnce (hs d hsd) (Or.inl hsd)

/-- Two sides of which one has priority, with requests for the same transition at instants less than
half a turn apart, settle on the one that prevails, whichever of the two records arrives first. -/
theorem crossed_requests_settle (hs : s.Reached) (ht : t.Reached)
    (hties : s.winsTies = !t.winsTies)
    (hsd : s.own.requested d = true) (htd : t.own.requested d = true)
    (hnear : (t.own.timestamp.deltaSince s.own.timestamp).natAbs < 2 ^ 31)
    (hahead : ∀ reading ∈ [now, now'],
      reading.Precedes s.own.timestamp ∧ reading.Precedes t.own.timestamp) :
    s.Prevails t ∧ ¬ t.Prevails s ∧ Settled d s t now now' ∨
      t.Prevails s ∧ ¬ s.Prevails t ∧ Settled d t s now' now := by
  rcases prevails_or hties hnear with ⟨hst, hts⟩ | ⟨hts, hst⟩
  · have hleft := (hahead now' (by simp)).1
    exact Or.inl ⟨hst, hts, settled_of_prevails hs.coherent ht.coherent hsd htd hst hts hleft⟩
  · have hleft := (hahead now (by simp)).2
    exact Or.inr ⟨hts, hst, settled_of_prevails ht.coherent hs.coherent htd hsd hts hst hleft⟩

/-- A side that elects itself for quiet mode at `now`, with a delay of 200 ms. -/
def elected (winsTies : Bool) (now : WallClock) : Synchronizer :=
  let heard := operate { delay := 200000, winsTies } (.peerRecord { detected := true } now)
  (heard.1.operate (.detected now)).1

theorem reached_elected (winsTies : Bool) (now : WallClock) : (elected winsTies now).Reached :=
  .operate _ (.operate _ (.new 200000 winsTies))

/-- The clock turns between the two instants, and the earlier one wins against priority. -/
theorem crossed_requests_settle_across_turn :
    Settled .enable (elected false ⟨4294767000⟩) (elected true ⟨4294768000⟩)
      ⟨4294790000⟩ ⟨4294780000⟩ := by
  have hahead : ∀ reading ∈ [(⟨4294790000⟩ : WallClock), ⟨4294780000⟩],
      reading.Precedes (elected false ⟨4294767000⟩).own.timestamp ∧
        reading.Precedes (elected true ⟨4294768000⟩).own.timestamp := by
    simp only [WallClock.precedes_iff]
    decide
  have hsettle := crossed_requests_settle (reached_elected false ⟨4294767000⟩)
    (reached_elected true ⟨4294768000⟩) (d := .enable) rfl rfl rfl (by decide) hahead
  rcases hsettle with ⟨-, -, hsettled⟩ | ⟨hprevails, -⟩
  · exact hsettled
  · exact absurd (prevails_iff.mp hprevails) (by decide)

end Synchronizer

end QuietMode

end NoiseControl
