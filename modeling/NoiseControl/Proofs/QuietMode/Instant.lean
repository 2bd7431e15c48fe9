import NoiseControl.Proofs.QuietMode.Calls
import NoiseControl.Proofs.QuietMode.CrossedRequests

/-!
# The instant of a request

The side that elects itself names an instant one delay after its reading of the clock, and the other
counts down to that instant from a reading of its own.  Both go by the difference of the two, so a
turn of the clock in between does not matter.  A request keeps its instant for as long as it stands,
but for one case: a request to switch off loses it when the peer has this side switch on meanwhile.
-/

namespace NoiseControl.QuietMode.Synchronizer

variable {s : Synchronizer} {now : WallClock} {r : Record} {d : Direction}

/-! ### Requests that stand -/

/-- A request of this side that stands before and after a call has the same instant after it. -/
def KeepsInstant (s : Synchronizer) (c : Call) : Prop :=
  ∀ d, s.own.requested d = true → (s.afterCall c).own.requested d = true →
    (s.afterCall c).own.timestamp = s.own.timestamp

/-- Switching on is carried out for the peer while this side asks to switch off at some instant. -/
def unsettles (s : Synchronizer) : Call → Prop
  | .operation (.fire .enable) =>
    s.own.disableRequested = true ∧ s.peer.enableRequested = true ∧ s.own.timestamp ≠ .zero
  | _ => False

theorem timestamp_report (h : s.own.hasRequest = true) (silent : Bool) (now : WallClock) :
    (s.report silent now).1.own.timestamp = s.own.timestamp := by
  rw [report_requested h]
  rfl

theorem timestamp_peerRecord (h : s.own.Coherent) (hbefore : s.own.requested d = true)
    (hafter : (s.peerRecord r now).1.own.requested d = true) :
    (s.peerRecord r now).1.own.timestamp = s.own.timestamp := by
  rcases hr : r.pending? with _ | d'
  · rw [peerRecord_of_hasRequest (Record.hasRequest_of_requested hbefore) (plain_of_pending? hr)]
    rfl
  · rw [peerRecord_asking s hr] at hafter ⊢
    split at hafter
    · rename_i hasked
      split at hafter
      · rename_i hkeeps
        rw [if_pos hasked, if_pos hkeeps]
        rfl
      -- A side with one request that gives it up has none left.
      · exact nomatch (plain_yielded h hasked r d).symm.trans hafter
    · rename_i hfree
      rw [if_neg hfree]
      rfl

/-- Switching on clears the instant, which may be that of a request to switch off. -/
theorem keepsInstant_fire_enable (h : s.own.Coherent)
    (hasked : s.own.enableRequested = true ∨ s.peer.enableRequested = true) :
    s.KeepsInstant (.operation (.fire .enable)) ↔ ¬s.unsettles (.operation (.fire .enable)) := by
  have hfire : s.afterCall (.operation (.fire .enable)) = _ := congrArg Prod.fst (fire_enable hasked)
  constructor
  · rintro hkeeps ⟨hoff, -, hinstant⟩
    have hkept := hkeeps .disable hoff (by rw [hfire]; exact hoff)
    rw [hfire] at hkept
    exact hinstant hkept.symm
  · intro hnone d hbefore hafter
    rw [hfire] at hafter ⊢
    cases d with
    | enable => cases hafter
    | disable =>
      have hon : s.own.enabled = true := h .disable hbefore
      have hfree : s.own.enableRequested = false := h.requested_eq_false (d := .enable) hon
      have hpeer : s.peer.enableRequested = true := hasked.resolve_left fun hown =>
        nomatch hfree.symm.trans hown
      exact Decidable.byContradiction fun hinstant =>
        hnone ⟨hbefore, hpeer, fun hzero => hinstant hzero.symm⟩

theorem keepsInstant_fire (h : s.own.Coherent) (d : Direction) :
    s.KeepsInstant (.operation (.fire d)) ↔ ¬s.unsettles (.operation (.fire d)) := by
  by_cases hasked : s.own.requested d = true ∨ s.peer.requested d = true
  · cases d with
    | enable => exact keepsInstant_fire_enable h hasked
    | disable =>
      refine iff_of_true (fun d _ hafter => ?_) id
      have hcleared : (s.fire .disable).1.own.requested d = true := hafter
      rw [fire_disable hasked] at hcleared
      exact nomatch (Record.plain_clear d).symm.trans hcleared
  · simp only [not_or, Bool.not_eq_true] at hasked
    have hfire : s.afterCall (.operation (.fire d)) = s :=
      congrArg Prod.fst (fire_unasked hasked.1 hasked.2)
    refine iff_of_true (fun _ _ _ => by rw [hfire]) ?_
    cases d with
    | enable => exact fun hloses => nomatch hasked.2.symm.trans hloses.2.1
    | disable => exact id

theorem keepsInstant_iff (h : s.own.Coherent) (c : Call) : s.KeepsInstant c ↔ ¬s.unsettles c := by
  cases c with
  | reset => exact iff_of_true (fun d _ hafter => nomatch (Record.plain_clear d).symm.trans hafter) id
  | operation o =>
    cases o with
    | detected now =>
      exact iff_of_true (fun _ hbefore _ =>
        timestamp_report (Record.hasRequest_of_requested hbefore) true now) id
    | cleared now =>
      exact iff_of_true (fun _ hbefore _ =>
        timestamp_report (Record.hasRequest_of_requested hbefore) false now) id
    | peerRecord r now => exact iff_of_true (fun _ hbefore => timestamp_peerRecord h hbefore) id
    | fire d => exact keepsInstant_fire h d

/-! ### Requests that are made -/

/-- The reading of the clock that a call is given. -/
def Call.reading? : Call → Option WallClock
  | .operation o => o.reading?
  | .reset => none

theorem timestamp_afterCall {c : Call} (hfree : s.own.requested d = false)
    (hasked : (s.afterCall c).own.requested d = true) :
    ∃ now, c.reading? = some now ∧ (s.afterCall c).own.timestamp = now.add s.delay := by
  cases c with
  | reset => exact nomatch (Record.plain_clear d).symm.trans hasked
  | operation o =>
    obtain ⟨now, s', hnow, hdelay, heq⟩ := operate_eq_schedule hfree hasked
    refine ⟨now, hnow, ?_⟩
    rw [← hdelay]
    exact congrArg (fun y : Decision => y.1.own.timestamp) heq

theorem delay_afterCall (s : Synchronizer) (c : Call) : (s.afterCall c).delay = s.delay := by
  cases c with
  | reset => rfl
  | operation o =>
    cases o with
    | detected now => exact (s.setup_report true now).1
    | cleared now => exact (s.setup_report false now).1
    | peerRecord r now => exact (s.setup_peerRecord r now).1
    | fire d => exact (s.setup_fire d).1

theorem delay_afterCalls (delay : Nat) (winsTies : Bool) (calls : List Call) :
    (afterCalls { delay, winsTies } calls).delay = delay :=
  List.foldlRecOn (motive := fun s => s.delay = delay) calls afterCall (rfl : Synchronizer.delay _ = _)
    fun s h c _ => (s.delay_afterCall c).trans h

/-- After any run, the next call leaves a request that stands its instant, unless it switches on for
the peer while this side asks to switch off at some instant.  A request that it makes is for one
delay after the reading it is given. -/
theorem instant_kept_iff (delay : Nat) (winsTies : Bool) (calls : List Call) (c : Call) :
    let s := afterCalls { delay, winsTies } calls
    ((∀ d, s.own.requested d = true → (s.afterCall c).own.requested d = true →
        (s.afterCall c).own.timestamp = s.own.timestamp) ↔ ¬s.unsettles c) ∧
      ∀ d, s.own.requested d = false → (s.afterCall c).own.requested d = true →
        ∃ now, c.reading? = some now ∧ (s.afterCall c).own.timestamp = now.add delay := by
  intro s
  have hcoherent : s.own.Coherent := coherent_afterCalls delay winsTies calls
  have hdelay : s.delay = delay := delay_afterCalls delay winsTies calls
  refine ⟨keepsInstant_iff hcoherent c, fun d hfree hasked => ?_⟩
  rw [← hdelay]
  exact timestamp_afterCall hfree hasked

/-- This side lost silence and asks to switch off when a request of the peer to switch on comes to
its instant first. -/
theorem instant_lost : ¬∀ (delay : Nat) (winsTies : Bool) (calls : List Call) (c : Call)
    (d : Direction),
    (afterCalls { delay, winsTies } calls).own.requested d = true →
      ((afterCalls { delay, winsTies } calls).afterCall c).own.requested d = true →
      ((afterCalls { delay, winsTies } calls).afterCall c).own.timestamp =
        (afterCalls { delay, winsTies } calls).own.timestamp := by
  intro h
  have hrun := h 200000 false
    [.operation (.peerRecord { detected := true } .zero), .operation (.detected .zero),
      .operation (.fire .enable), .operation (.cleared ⟨1000000⟩),
      .operation (.peerRecord
        { detected := true, enableRequested := true, timestamp := ⟨1150000⟩ } ⟨1050000⟩)]
    (.operation (.fire .enable)) .disable (by decide) (by decide)
  exact absurd hrun (by decide)

/-! ### Instants of true time -/

theorem follow_reading (d : Direction) {instant time : Nat}
    (hnear : ((instant : Int) - time).natAbs < 2 ^ 31) (hr : r.timestamp = .reading instant) :
    follow d r (.reading time) =
      if time < instant then .arm d (instant - time) else .fireNow d := by
  have huntil := WallClock.until?_reading instant time (by omega) (by omega)
  unfold follow
  rw [hr, huntil]
  by_cases hahead : time < instant
  · rw [if_pos hahead, if_pos hahead]
  · rw [if_neg hahead, if_neg hahead]

/-- A side without a request of its own counts down to the instant of its peer, or acts at once when
the instant has come, and a side that elects itself tells the instant one delay ahead.  Times are
counted without an end, and the clock shows them modulo its turn. -/
theorem instants_across_turns :
    (∀ (s : Synchronizer) (r : Record) (d : Direction) (time instant : Nat),
      ((instant : Int) - time).natAbs < 2 ^ 31 → s.own.requested d = false →
        r.pending? = some d → r.timestamp = .reading instant →
        (s.peerRecord r (.reading time)).2 =
          [if time < instant then .arm d (instant - time) else .fireNow d]) ∧
      ∀ (s : Synchronizer) (o : Operation) (d : Direction) (time : Nat),
        o.reading? = some (.reading time) → s.own.requested d = false →
          (s.operate o).1.own.requested d = true →
          (s.operate o).2 = [.arm d s.delay, .publish (s.operate o).1.own] ∧
            (s.operate o).1.own.timestamp.micros.toNat = (time + s.delay) % 2 ^ 32 := by
  refine ⟨fun s r d time instant hnear hfree hr hinstant => ?_, fun s o d time htime hfree hasked => ?_⟩
  · have hnone : ¬(s.hearing r).own.requested d = true := Bool.eq_false_iff.mp hfree
    rw [peerRecord_asking s hr, if_neg hnone, follow_reading d hnear hinstant]
  · obtain ⟨now, s', hnow, hdelay, heq⟩ := operate_eq_schedule hfree hasked
    cases htime.symm.trans hnow
    rw [heq, ← hdelay]
    refine ⟨rfl, ?_⟩
    change ((WallClock.reading time).add s'.delay).micros.toNat = _
    rw [WallClock.reading_add]
    exact UInt32.toNat_ofNat'

/-- The clock turns 100 microseconds after both readings. -/
theorem instants_across_turns_near :
    (peerRecord { delay := 200000 } { enableRequested := true, timestamp := ⟨100⟩ } ⟨4294967196⟩).2 =
        [.arm .enable 200] ∧
      (operate { peer := { detected := true }, delay := 200000 }
        (.detected ⟨4294967196⟩)).1.own.timestamp.micros.toNat = 199900 := by
  obtain ⟨hfollows, hleads⟩ := instants_across_turns
  have hleft := hfollows { delay := 200000 } { enableRequested := true, timestamp := ⟨100⟩ } .enable
    4294967196 4294967396 (by decide) rfl rfl (by decide)
  have hahead := hleads { peer := { detected := true }, delay := 200000 } (.detected ⟨4294967196⟩)
    .enable 4294967196 (by decide) rfl rfl
  exact ⟨hleft, hahead.2⟩

end NoiseControl.QuietMode.Synchronizer
