import NoiseControl.Proofs.QuietMode.Instant

/-!
# What an operation asks for

An operation that brings a request about arms the timer of the transition and then sends the record.
Any other sends the record or not, and after that times a transition of the peer's, carries one out,
or does neither.  Whatever is sent is therefore the record that the operation leaves, and an election
never comes together with a transition that is carried out.
-/

namespace NoiseControl.QuietMode

namespace Effect

/-- The effect times a transition: it arms the timer, or makes the transition at once. -/
def times : Effect → Bool
  | arm .. | fireNow _ => true
  | _ => false

def publishes : Effect → Bool
  | publish _ => true
  | _ => false

/-- The effect makes a transition, here or in the audio. -/
def transits : Effect → Bool
  | fireNow _ | switchOn | switchOff => true
  | _ => false

end Effect

namespace Synchronizer

variable {s : Synchronizer} {now : WallClock} {y : Decision} {d : Direction}

/-- What is done about a transition that was asked for before. -/
inductive Deed : Effect → Prop where
  | arms (d : Direction) (after : Nat) : Deed (.arm d after)
  | fires (d : Direction) : Deed (.fireNow d)
  | switches (d : Direction) : Deed d.switch

/-- The effects of a decision, told apart by how it sends the record. -/
inductive Shape (y : Decision) : Prop where
  | silent (effects : y.2 = [])
  | tells (effects : y.2 = [.publish y.1.own])
  | elects (d : Direction) (after : Nat) (effects : y.2 = [.arm d after, .publish y.1.own])
  | does {e : Effect} (deed : Deed e) (effects : y.2 = [e])
  | yields {e : Effect} (deed : Deed e) (effects : y.2 = [.publish y.1.own, e])

theorem deed_follow (d : Direction) (r : Record) (now : WallClock) : Deed (follow d r now) := by
  unfold follow
  split
  · exact .arms d _
  · exact .fires d

theorem Deed.apart {e : Effect} (h : Deed e) :
    e.publishes = false ∧ (∀ r, .publish r ≠ e) ∧ ∀ d, .cancel d ≠ e := by
  cases h with
  | arms d after => exact ⟨rfl, nofun, nofun⟩
  | fires d => exact ⟨rfl, nofun, nofun⟩
  | switches d => cases d <;> exact ⟨rfl, nofun, nofun⟩

/-! ### Operations -/

theorem shape_of_decides (h : s.Elects now y ∨ s.Tells y) : Shape y := by
  rcases h with helects | htells
  · cases helects with
    | nobody => exact .silent rfl
    | on => exact .elects .enable s.delay rfl
    | off => exact .elects .disable s.delay rfl
  · cases htells
    exact .tells rfl

theorem shape_peerRecord (s : Synchronizer) (r : Record) (now : WallClock) :
    Shape (s.peerRecord r now) := by
  rcases hr : r.pending? with _ | d
  · exact shape_of_decides (s.peerRecord_decides (plain_of_pending? hr) now)
  · rw [peerRecord_asking s hr]
    split
    · split
      · exact .silent rfl
      · exact .yields (deed_follow d r now) rfl
    · exact .does (deed_follow d r now) rfl

theorem shape_fire (s : Synchronizer) (d : Direction) : Shape (s.fire d) := by
  by_cases hasked : s.own.requested d = true ∨ s.peer.requested d = true
  · exact .does (.switches d) (fire_asked hasked).1
  · simp only [not_or, Bool.not_eq_true] at hasked
    rw [fire_unasked hasked.1 hasked.2]
    exact .silent rfl

theorem shape_operate (s : Synchronizer) (o : Operation) : Shape (s.operate o) := by
  cases o with
  | detected now => exact shape_of_decides (s.report_decides true now)
  | cleared now => exact shape_of_decides (s.report_decides false now)
  | peerRecord r now => exact s.shape_peerRecord r now
  | fire d => exact s.shape_fire d

/-! ### Effects -/

theorem Shape.countP_times_le (h : Shape y) : y.2.countP Effect.times ≤ 1 := by
  cases h with
  | silent effects => simp [effects]
  | tells effects => simp [effects, Effect.times]
  | elects d after effects => simp [effects, List.countP_cons, Effect.times]
  | does deed effects =>
    rw [effects]
    exact List.countP_le_length
  | yields deed effects =>
    rw [effects, List.countP_cons_of_neg (by simp [Effect.times])]
    exact List.countP_le_length

theorem Shape.countP_publishes_le (h : Shape y) : y.2.countP Effect.publishes ≤ 1 := by
  cases h with
  | silent effects => simp [effects]
  | tells effects => simp [effects, Effect.publishes]
  | elects d after effects => simp [effects, Effect.publishes]
  | does deed effects =>
    rw [effects]
    exact List.countP_le_length
  | yields deed effects =>
    rw [effects, List.countP_cons_of_pos rfl, List.countP_cons_of_neg (by simp [deed.apart.1])]
    exact Nat.le_refl 1

theorem Shape.eq_own (h : Shape y) {r : Record} (hsent : .publish r ∈ y.2) : r = y.1.own := by
  cases h with
  | silent effects => simp [effects] at hsent
  | tells effects => simpa [effects] using hsent
  | elects d after effects => simpa [effects] using hsent
  | does deed effects => simp [effects, deed.apart.2.1] at hsent
  | yields deed effects => simpa [effects, deed.apart.2.1] using hsent

theorem Shape.cancel_not_mem (h : Shape y) (d : Direction) : .cancel d ∉ y.2 := by
  cases h with
  | silent effects => simp [effects]
  | tells effects => simp [effects]
  | elects d after effects => simp [effects]
  | does deed effects => simp [effects, deed.apart.2.2]
  | yields deed effects => simp [effects, deed.apart.2.2]

/-- A request comes about with the timer armed for the whole delay and the record sent, and with
nothing else. -/
theorem effects_elected {o : Operation} (hfree : s.own.requested d = false)
    (hasked : (s.operate o).1.own.requested d = true) :
    (s.operate o).2 = [.arm d s.delay, .publish (s.operate o).1.own] := by
  obtain ⟨now, s', -, hdelay, heq⟩ := operate_eq_schedule hfree hasked
  rw [heq, ← hdelay]
  rfl

/-- After any run, an operation times at most one transition and sends the record at most once, as
the operation leaves it, and cancels nothing.  One that brings a request about arms the timer for the
whole delay and sends the record, and makes no transition. -/
theorem effects_shaped_run (delay : Nat) (winsTies : Bool) (calls : List Call) (o : Operation) :
    let s := afterCalls { delay, winsTies } calls
    let y := s.operate o
    y.2.countP Effect.times ≤ 1 ∧ y.2.countP Effect.publishes ≤ 1 ∧
      (∀ r, .publish r ∈ y.2 → r = y.1.own) ∧ (∀ d, .cancel d ∉ y.2) ∧
      ∀ d, s.own.requested d = false → y.1.own.requested d = true →
        .arm d delay ∈ y.2 ∧ .publish y.1.own ∈ y.2 ∧ ∀ e ∈ y.2, e.transits = false := by
  intro s y
  have hshape : Shape y := s.shape_operate o
  have hdelay : s.delay = delay := delay_afterCalls delay winsTies calls
  refine ⟨hshape.countP_times_le, hshape.countP_publishes_le, fun r => hshape.eq_own,
    hshape.cancel_not_mem, fun d hfree hasked => ?_⟩
  have heffects : y.2 = [.arm d delay, .publish y.1.own] := hdelay ▸ effects_elected hfree hasked
  rw [heffects]
  refine ⟨by simp, by simp, fun e he => ?_⟩
  simp only [List.mem_cons, List.not_mem_nil, or_false] at he
  rcases he with rfl | rfl <;> rfl

/-- After a reset both sides observe silence once more, and the news of the peer elect this side. -/
theorem effects_shaped_run_elected :
    let s := afterCalls { delay := 200000, winsTies := true }
      [.operation (.detected ⟨5⟩), .reset, .operation (.detected ⟨4294967000⟩)]
    let y := s.operate (.peerRecord { detected := true } ⟨4294967000⟩)
    y.1.own.enableRequested = true ∧ .arm .enable 200000 ∈ y.2 ∧ .publish y.1.own ∈ y.2 ∧
      y.2.countP Effect.times ≤ 1 ∧ ∀ e ∈ y.2, e.transits = false := by
  intro s y
  have hrun := effects_shaped_run 200000 true
    [.operation (.detected ⟨5⟩), .reset, .operation (.detected ⟨4294967000⟩)]
    (.peerRecord { detected := true } ⟨4294967000⟩)
  have hasked : y.1.own.requested .enable = true := by decide
  obtain ⟨harmed, hsent, hidle⟩ := hrun.2.2.2.2 .enable (by decide) hasked
  exact ⟨hasked, harmed, hsent, hrun.1, hidle⟩

end Synchronizer

end NoiseControl.QuietMode
