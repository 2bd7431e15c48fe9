import NoiseControl.QuietMode.Synchronizer

/-!
# Operations of a synchronizer

A synchronizer is told of silence, of records of the peer, and of instants that arrived, and it may
be made to forget all.  What can come of it from the beginning is what it reaches.
-/

namespace NoiseControl.QuietMode

def Effect.schedules : Effect → Bool
  | .arm .. | .fireNow _ | .publish _ => true
  | .cancel _ | .switchOn | .switchOff => false

def Direction.switch : Direction → Effect
  | .enable => .switchOn
  | .disable => .switchOff

namespace Synchronizer

/-- An operation of the synchronizer on what it is told, without the drop of all. -/
inductive Operation where
  | detected (now : WallClock)
  | cleared (now : WallClock)
  | peerRecord (record : Record) (now : WallClock)
  | fire (d : Direction)

def operate (s : Synchronizer) : Operation → Decision
  | .detected now => s.detected now
  | .cleared now => s.cleared now
  | .peerRecord record now => s.peerRecord record now
  | .fire d => s.fire d

/-- The reading of the clock that an operation is given. -/
def Operation.reading? : Operation → Option WallClock
  | .detected now | .cleared now | .peerRecord _ now => some now
  | .fire _ => none

theorem requested_yieldRequest (s : Synchronizer) (d d' : Direction) :
    (s.yieldRequest d).own.requested d' = if d = d' then false else s.own.requested d' := by
  rw [← Record.requested_setRequested]
  cases d' <;> rfl

theorem tryEnable_effects (s : Synchronizer) (now : WallClock) :
    (s.tryEnable now).1.own.enabled = s.own.enabled ∧
      ∀ e ∈ (s.tryEnable now).2, e.schedules = true := by
  unfold tryEnable
  split
  · simp
  · split
    · simp [schedule, Record.setRequested, Effect.schedules]
    · split <;> simp [Effect.schedules]

theorem tryDisable_effects (s : Synchronizer) (now : WallClock) :
    (s.tryDisable now).1.own.enabled = s.own.enabled ∧
      ∀ e ∈ (s.tryDisable now).2, e.schedules = true := by
  unfold tryDisable
  split
  · simp
  · split
    · simp [schedule, Record.setRequested, Effect.schedules]
    · simp

theorem schedules_follow (d : Direction) (record : Record) (now : WallClock) :
    (follow d record now).schedules = true := by
  unfold follow
  split <;> rfl

theorem peerRecord_effects (s : Synchronizer) (record : Record) (now : WallClock) :
    (s.peerRecord record now).1.own.enabled = s.own.enabled ∧
      ∀ e ∈ (s.peerRecord record now).2, e.schedules = true := by
  simp only [peerRecord]
  split
  · split
    · split
      · simp
      · rename_i d _ _ _
        refine ⟨by cases d <;> rfl, fun e he => ?_⟩
        simp only [List.mem_cons, List.not_mem_nil, or_false] at he
        rcases he with rfl | rfl
        · rfl
        · exact schedules_follow d record now
    · simp [schedules_follow]
  · obtain ⟨hon, henable⟩ := tryEnable_effects { s with peer := record } now
    obtain ⟨hoff, hdisable⟩ := tryDisable_effects
      (({ s with peer := record } : Synchronizer).tryEnable now).1 now
    refine ⟨hoff.trans hon, fun e he => ?_⟩
    rcases List.mem_append.mp he with he | he
    · exact henable e he
    · exact hdisable e he

/-- Only a transition that fires changes whether quiet mode is on, and it asks for what the record
then says.  The other operations schedule and tell. -/
theorem operate_effects (s : Synchronizer) (o : Operation) :
    ((s.operate o).1.own.enabled = s.own.enabled ∧ ∀ e ∈ (s.operate o).2, e.schedules = true) ∨
      (s.operate o).2 = [if (s.operate o).1.own.enabled then .switchOn else .switchOff] := by
  cases o with
  | detected now => exact Or.inl (tryEnable_effects _ now)
  | cleared now => exact Or.inl (tryDisable_effects _ now)
  | peerRecord record now => exact Or.inl (peerRecord_effects s record now)
  | fire d =>
    simp only [operate, fire]
    split
    · exact Or.inl ⟨rfl, by simp⟩
    · cases d
      · exact Or.inr rfl
      · exact Or.inr rfl

end Synchronizer

/-! ### Reachable synchronizers -/

/-- A record asks only for the transition that leaves its present state. -/
def Record.Coherent (r : Record) : Prop := ∀ d, r.requested d = true → r.enabled = decide (d = .disable)

namespace Synchronizer

inductive Reached : Synchronizer → Prop where
  | new (delay : Nat) (winsTies : Bool) : Reached { delay, winsTies }
  | operate {s : Synchronizer} (o : Operation) (h : Reached s) : Reached (s.operate o).1
  | reset {s : Synchronizer} (h : Reached s) : Reached s.reset.1

variable {s : Synchronizer}

theorem coherent_noting (silent : Bool) (h : s.own.Coherent) :
    { s.own with detected := silent }.Coherent := by
  intro d hd
  exact h d (by cases d <;> exact hd)

theorem coherent_tryEnable (h : s.own.Coherent) (now : WallClock) :
    (s.tryEnable now).1.own.Coherent := by
  unfold tryEnable
  split
  · exact h
  · rename_i hfree
    simp only [Bool.or_eq_true, not_or, Bool.not_eq_true] at hfree
    have hnone := hfree.2
    simp only [Record.hasRequest, Bool.or_eq_false_iff] at hnone
    split
    · intro d hd
      cases d with
      | enable => exact hfree.1
      | disable =>
        have hoff : s.own.disableRequested = true := hd
        simp [hnone.2] at hoff
    · split <;> exact h

theorem coherent_tryDisable (h : s.own.Coherent) (now : WallClock) :
    (s.tryDisable now).1.own.Coherent := by
  unfold tryDisable
  split
  · exact h
  · rename_i hfree
    simp only [Bool.or_eq_true, not_or, Bool.not_eq_true, Bool.not_eq_false'] at hfree
    have hnone := hfree.2
    simp only [Record.hasRequest, Bool.or_eq_false_iff] at hnone
    split
    · intro d hd
      cases d with
      | enable =>
        have hon : s.own.enableRequested = true := hd
        simp [hnone.1] at hon
      | disable => exact hfree.1
    · exact h

theorem coherent_yieldRequest (h : s.own.Coherent) (d : Direction) :
    (s.yieldRequest d).own.Coherent := by
  intro d' hd'
  rw [requested_yieldRequest] at hd'
  split at hd'
  · cases hd'
  · exact (show _ = s.own.enabled by cases d <;> rfl).trans (h d' hd')

theorem coherent_peerRecord (h : s.own.Coherent) (r : Record) (now : WallClock) :
    (s.peerRecord r now).1.own.Coherent := by
  unfold peerRecord
  dsimp only
  split
  · split
    · split
      · exact h
      · exact coherent_yieldRequest h _
    · exact h
  · have henable := coherent_tryEnable (s := { s with peer := r }) h now
    exact coherent_tryDisable henable now

theorem coherent_fire (h : s.own.Coherent) (d : Direction) : (s.fire d).1.own.Coherent := by
  unfold fire
  split
  · exact h
  · cases d with
    | enable =>
      -- A request to switch off can stand here only if quiet mode is on already.
      intro d' hd'
      cases d' with
      | enable => cases hd'
      | disable => rfl
    | disable =>
      intro d' hd'
      cases d' <;> cases hd'

theorem coherent_operate (h : s.own.Coherent) (o : Operation) : (s.operate o).1.own.Coherent := by
  cases o with
  | detected now =>
    have hnoted : ({ s with own := { s.own with detected := true } } : Synchronizer).own.Coherent :=
      coherent_noting true h
    exact coherent_tryEnable hnoted now
  | cleared now =>
    have hnoted : ({ s with own := { s.own with detected := false } } : Synchronizer).own.Coherent :=
      coherent_noting false h
    exact coherent_tryDisable hnoted now
  | peerRecord r now => exact coherent_peerRecord h r now
  | fire d => exact coherent_fire h d

theorem coherent_clear : Record.clear.Coherent := by
  intro d hd
  cases d <;> cases hd

theorem Reached.coherent (h : s.Reached) : s.own.Coherent := by
  induction h with
  | new delay winsTies => exact coherent_clear
  | operate o _ ih => exact coherent_operate ih o
  | reset _ _ => exact coherent_clear

end Synchronizer

end NoiseControl.QuietMode
