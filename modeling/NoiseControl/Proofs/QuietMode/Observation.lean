import NoiseControl.Proofs.QuietMode.Calls
import NoiseControl.Proofs.QuietMode.Decision
import NoiseControl.Proofs.Trace

/-!
# Silence as it was observed last

A side is told of silence when it begins and when it ends, and not in between, so its record has to
keep what it was told.  Elections, records of the peer and switching on leave it there.  Switching
off clears the record whole: silence that came back after the election is forgotten, and the side
does without it until it is told anew.
-/

namespace NoiseControl.QuietMode.Synchronizer

variable {s : Synchronizer} {c : Call}

/-- Silence begins. -/
def Call.begins : Call → Prop
  | .operation (.detected _) => True
  | _ => False

/-- Silence ends, or all is forgotten on purpose. -/
def Call.ends : Call → Prop
  | .operation (.cleared _) | .reset => True
  | _ => False

/-- Silence began since the last drop of all, and has not ended since it began last. -/
def Observed (s : Synchronizer) (calls : List Call) : Prop :=
  Lasts afterCall (fun _ c => c.begins) (fun _ c => c.ends) s calls

/-- Switching off is carried out while silence stands in the record. -/
def forgets (s : Synchronizer) : Call → Prop
  | .operation (.fire .disable) =>
    s.own.detected = true ∧ (s.own.disableRequested = true ∨ s.peer.disableRequested = true)
  | _ => False

/-- Silence was forgotten by switching off, and nothing was heard of it since. -/
def Forgotten (s : Synchronizer) (calls : List Call) : Prop :=
  Lasts afterCall forgets (fun _ c => c.begins ∨ c.ends) s calls

/-! ### Calls -/

theorem detected_peerRecord (s : Synchronizer) (r : Record) (now : WallClock) :
    (s.peerRecord r now).1.own.detected = s.own.detected := by
  rcases hr : r.pending? with _ | d
  · exact (kept_of_decides (s.peerRecord_decides (plain_of_pending? hr) now)).2.2
  · exact (s.heard_peerRecord hr now).2.2.1

theorem detected_fire (s : Synchronizer) (d : Direction) :
    (s.fire d).1.own.detected = true ↔
      s.own.detected = true ∧ ¬s.forgets (.operation (.fire d)) := by
  by_cases hasked : s.own.requested d = true ∨ s.peer.requested d = true
  · cases d with
    | enable =>
      rw [fire_enable hasked]
      exact (and_iff_left id).symm
    | disable =>
      rw [fire_disable hasked]
      exact iff_of_false Bool.false_ne_true fun h => h.2 ⟨h.1, hasked⟩
  · have hnone := hasked
    simp only [not_or, Bool.not_eq_true] at hnone
    rw [fire_unasked hnone.1 hnone.2]
    refine (and_iff_left ?_).symm
    cases d with
    | enable => exact id
    | disable => exact fun h => hasked h.2

theorem detected_afterCall (s : Synchronizer) (c : Call) :
    (s.afterCall c).own.detected = true ↔
      c.begins ∨ s.own.detected = true ∧ ¬c.ends ∧ ¬s.forgets c := by
  cases c with
  | reset => exact iff_of_false Bool.false_ne_true fun h => (h.resolve_left id).2.1 trivial
  | operation o =>
    cases o with
    | detected now => exact iff_of_true (kept_tryEnable _ now).2.2 (Or.inl trivial)
    | cleared now =>
      have hnoise : (s.cleared now).1.own.detected = false := (tryDisable_elects _ now).kept.2.2
      exact iff_of_false (fun hsilent => nomatch hnoise.symm.trans hsilent)
        fun h => (h.resolve_left id).2.1 trivial
    | peerRecord r now =>
      have hkept : (s.afterCall (.operation (.peerRecord r now))).own.detected = s.own.detected :=
        s.detected_peerRecord r now
      rw [hkept]
      exact ⟨fun hsilent => Or.inr ⟨hsilent, id, id⟩, fun h => (h.resolve_left id).1⟩
    | fire d =>
      refine (s.detected_fire d).trans ⟨fun h => Or.inr ⟨h.1, id, h.2⟩, fun h => ?_⟩
      exact (h.resolve_left id).imp_right And.right

theorem not_forgets (s : Synchronizer) (h : c.begins ∨ c.ends) : ¬s.forgets c := by
  unfold forgets
  split
  · exact fun _ => h.elim id id
  · exact id

theorem detected_of_forgets (h : s.forgets c) : s.own.detected = true := by
  unfold forgets at h
  split at h
  · exact h.1
  · exact h.elim

/-! ### Runs -/

theorem observed_snoc (s : Synchronizer) (calls : List Call) (c : Call) :
    Observed s (calls ++ [c]) ↔ c.begins ∨ Observed s calls ∧ ¬c.ends :=
  lasts_snoc s calls c

theorem forgotten_snoc (s : Synchronizer) (calls : List Call) (c : Call) :
    Forgotten s (calls ++ [c]) ↔
      (s.afterCalls calls).forgets c ∨ Forgotten s calls ∧ ¬(c.begins ∨ c.ends) :=
  lasts_snoc s calls c

/-- What was observed stands in the record or was forgotten by switching off, and not both. -/
theorem observed_iff (delay : Nat) (winsTies : Bool) (calls : List Call) :
    (Observed { delay, winsTies } calls ↔
        (afterCalls { delay, winsTies } calls).own.detected = true ∨
          Forgotten { delay, winsTies } calls) ∧
      ¬((afterCalls { delay, winsTies } calls).own.detected = true ∧
        Forgotten { delay, winsTies } calls) := by
  induction calls using List.reverseRecOn with
  | nil =>
    refine ⟨iff_of_false (not_lasts_nil _) ?_, fun h => not_lasts_nil _ h.2⟩
    rintro (h | h)
    · exact Bool.false_ne_true h
    · exact not_lasts_nil _ h
  | append_singleton calls c ih =>
    obtain ⟨hobserved, hnotBoth⟩ := ih
    have hafter : afterCalls { delay, winsTies } (calls ++ [c]) =
        (afterCalls { delay, winsTies } calls).afterCall c := List.foldl_append
    rw [hafter, detected_afterCall, observed_snoc, forgotten_snoc, hobserved]
    -- A call begins silence, ends it or forgets it, and only what stands in the record is forgotten.
    by_cases htold : c.begins ∨ c.ends
    · have hkept := not_forgets (afterCalls { delay, winsTies } calls) htold
      rcases htold with hbegan | hended <;> simp [*]
    · by_cases hforgot : (afterCalls { delay, winsTies } calls).forgets c
      · have hstood := detected_of_forgets hforgot
        simp_all
      · simp_all

/-- After a run the record says that silence is observed exactly when it began and has not ended
since, unless switching off took it from the record and nothing was heard of it after that. -/
theorem observation_kept_iff (delay : Nat) (winsTies : Bool) (calls : List Call) :
    ((afterCalls { delay, winsTies } calls).own.detected = true ↔
        Observed { delay, winsTies } calls) ↔
      ¬Forgotten { delay, winsTies } calls := by
  obtain ⟨hobserved, hnotBoth⟩ := observed_iff delay winsTies calls
  constructor
  · intro hkept hforgotten
    exact hnotBoth ⟨hkept.mpr (hobserved.mpr (Or.inr hforgotten)), hforgotten⟩
  · intro hnone
    exact ⟨fun hsilent => hobserved.mpr (Or.inl hsilent),
      fun hsilent => (hobserved.mp hsilent).resolve_right hnone⟩

/-- Quiet mode is on, silence is lost and comes back before the agreed instant of switching off. -/
theorem observation_forgotten : ¬∀ (delay : Nat) (winsTies : Bool) (calls : List Call),
    (afterCalls { delay, winsTies } calls).own.detected = true ↔
      Observed { delay, winsTies } calls := by
  intro h
  let before : List Call := [.operation (.peerRecord { detected := true } .zero),
    .operation (.detected .zero), .operation (.fire .enable), .operation (.cleared ⟨1000000⟩)]
  have hrun := h 200000 false
    (before ++ [.operation (.detected ⟨1100000⟩)] ++ [.operation (.fire .disable)])
  have hback : Observed { delay := 200000, winsTies := false }
      (before ++ [.operation (.detected ⟨1100000⟩)]) := (observed_snoc _ _ _).mpr (Or.inl trivial)
  have hobserved := (observed_snoc _ _ (.operation (.fire .disable))).mpr (Or.inr ⟨hback, id⟩)
  exact absurd (hrun.mpr hobserved) (by decide)

end NoiseControl.QuietMode.Synchronizer
