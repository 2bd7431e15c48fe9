import Mathlib.Data.List.Nodup
import NoiseControl.Proofs.Trace
import NoiseControl.Timer.Sleep

/-!
# Which expiries are accepted

An expiry waits in a queue, so its timer may be cancelled or armed again before it is looked at, and
it may be looked at more than once.  Its number tells: an arming has a number that none before it
had, and the timers keep the number of the latest arming of each kind until the kind is cancelled or
the expiry accepted.
-/

namespace NoiseControl.SleepTimers

inductive Operation where
  | arm (k : TimerKind) (after : Nat)
  | cancel (k : TimerKind)
  | pass (duration : Nat)
  | accept (e : Expiry)

def step (t : SleepTimers) : Operation → SleepTimers
  | .arm k after => t.arm k after
  | .cancel k => t.cancel k
  | .pass duration => (t.pass duration).1
  | .accept e => (t.accept e).1

/-- The expiries that time sends as it passes. -/
def sends (t : SleepTimers) : Operation → List Expiry
  | .pass duration => (t.pass duration).2
  | _ => []

/-- The expiry that is given to the timers and accepted. -/
def accepts (t : SleepTimers) : Operation → Option Expiry
  | .accept e => (t.accept e).2.map fun _ => e
  | _ => none

def after (t : SleepTimers) (ops : List Operation) : SleepTimers := ops.foldl step t

/-- What has been sent by the end of a run. -/
def arrived : SleepTimers → List Operation → List Expiry
  | _, [] => []
  | t, o :: rest => t.sends o ++ arrived (t.step o) rest

variable {t : SleepTimers} {e : Expiry} {k : TimerKind}

/-! ### Good order -/

/-- Each kind has one current expiry at most, and whatever is current or asleep comes from an arming
that was made. -/
structure InOrder (t : SleepTimers) : Prop where
  single : (t.current.map Expiry.kind).Nodup
  numbered : ∀ e ∈ t.current, e.number ≤ t.armings
  asleep : ∀ a ∈ t.sleeping, a.number ≤ t.armings

theorem inOrder_empty : InOrder {} where
  single := List.nodup_nil
  numbered := nofun
  asleep := nofun

theorem mem_current_cancel : e ∈ (t.cancel k).current ↔ e ∈ t.current ∧ e.kind ≠ k := by
  simp [cancel]

theorem mem_current_arm {after : Nat} :
    e ∈ (t.arm k after).current ↔ e ∈ t.current ∧ e.kind ≠ k ∨ e = ⟨k, t.armings + 1⟩ := by
  simp [arm, cancel]

theorem InOrder.cancel (h : t.InOrder) (k : TimerKind) : (t.cancel k).InOrder where
  single := h.single.sublist (List.filter_sublist.map _)
  numbered e he := h.numbered e (mem_current_cancel.mp he).1
  asleep a ha := h.asleep a (List.mem_filter.mp ha).1

theorem InOrder.arm (h : t.InOrder) (k : TimerKind) (after : Nat) : (t.arm k after).InOrder where
  single := by
    have hk : k ∉ (t.cancel k).current.map Expiry.kind := by
      intro hmem
      obtain ⟨e, he, hkind⟩ := List.mem_map.mp hmem
      exact (mem_current_cancel.mp he).2 hkind
    simpa [SleepTimers.arm] using (h.cancel k).single.concat hk
  numbered e he := by
    rcases mem_current_arm.mp he with ⟨hmem, -⟩ | rfl
    · exact Nat.le_succ_of_le (h.numbered e hmem)
    · exact Nat.le_refl _
  asleep a ha := by
    rcases List.mem_append.mp ha with ha | ha
    · exact Nat.le_succ_of_le ((h.cancel k).asleep a ha)
    · rw [List.mem_singleton.mp ha]
      exact Nat.le_refl _

theorem mem_sleeping_pass {duration : Nat} {a : ArmedTimer}
    (h : a ∈ (t.pass duration).1.sleeping) : a ∈ t.sleeping := by
  simp only [pass, List.partition_eq_filter_filter] at h
  exact (List.mem_filter.mp h).1

theorem InOrder.pass (h : t.InOrder) (duration : Nat) : (t.pass duration).1.InOrder where
  single := h.single
  numbered := h.numbered
  asleep a ha := h.asleep a (mem_sleeping_pass ha)

/-- An expiry is accepted when it is current, and then no longer is. -/
theorem accept_eq (t : SleepTimers) (e : Expiry) :
    e ∈ t.current ∧ t.accept e = ({ t with current := t.current.erase e }, some e.kind) ∨
      e ∉ t.current ∧ t.accept e = (t, none) := by
  rw [accept]
  split
  · exact Or.inl ⟨‹_›, rfl⟩
  · exact Or.inr ⟨‹_›, rfl⟩

theorem accept_eq_some_iff : (t.accept e).2 = some k ↔ e.kind = k ∧ e ∈ t.current := by
  rcases accept_eq t e with ⟨hmem, heq⟩ | ⟨hmem, heq⟩
  · simp [heq, hmem]
  · simp [heq, hmem]

theorem accepts_eq_some_iff {o : Operation} :
    t.accepts o = some e ↔ o = .accept e ∧ e ∈ t.current := by
  cases o with
  | arm k after => simp [accepts]
  | cancel k => simp [accepts]
  | pass duration => simp [accepts]
  | accept e' =>
    rcases accept_eq t e' with ⟨hmem, heq⟩ | ⟨hmem, heq⟩
    · simp only [accepts, heq, Option.map_some, Option.some.injEq, Operation.accept.injEq]
      exact ⟨fun h => ⟨h, h ▸ hmem⟩, And.left⟩
    · simp only [accepts, heq, Option.map_none, Operation.accept.injEq]
      exact ⟨nofun, fun h => absurd (h.1 ▸ h.2) hmem⟩

theorem InOrder.accept (h : t.InOrder) (e : Expiry) : (t.accept e).1.InOrder := by
  rcases accept_eq t e with ⟨-, heq⟩ | ⟨-, heq⟩
  · rw [heq]
    exact ⟨h.single.sublist (List.erase_sublist.map _),
      fun e' he' => h.numbered e' (List.mem_of_mem_erase he'), h.asleep⟩
  · rw [heq]
    exact h

theorem InOrder.step (h : t.InOrder) (o : Operation) : (t.step o).InOrder := by
  cases o with
  | arm k after => exact h.arm k after
  | cancel k => exact h.cancel k
  | pass duration => exact h.pass duration
  | accept e => exact h.accept e

theorem InOrder.after (h : t.InOrder) (ops : List Operation) : (t.after ops).InOrder :=
  List.foldlRecOn ops SleepTimers.step h fun _ h o _ => h.step o

/-! ### Current expiries -/

/-- The operation makes the arming that the expiry comes from. -/
def Arms (e : Expiry) (t : SleepTimers) (o : Operation) : Prop :=
  ∃ after, o = .arm e.kind after ∧ e.number = t.armings + 1

/-- The operation arms the kind of the expiry again, cancels it, or is the expiry accepted. -/
def Voids (e : Expiry) (t : SleepTimers) (o : Operation) : Prop :=
  (∃ after, o = .arm e.kind after) ∨ o = .cancel e.kind ∨ t.accepts o = some e

theorem InOrder.mem_current_step (h : t.InOrder) (e : Expiry) (o : Operation) :
    e ∈ (t.step o).current ↔ Arms e t o ∨ e ∈ t.current ∧ ¬Voids e t o := by
  obtain ⟨kind, number⟩ := e
  simp only [Voids, accepts_eq_some_iff]
  cases o with
  | arm k after =>
    rw [SleepTimers.step, mem_current_arm]
    simp [Arms, eq_comm, or_comm]
  | cancel k =>
    rw [SleepTimers.step, mem_current_cancel]
    simp [Arms, eq_comm]
  | pass duration => simp [SleepTimers.step, SleepTimers.pass, Arms]
  | accept e' =>
    rw [SleepTimers.step]
    rcases accept_eq t e' with ⟨hmem, heq⟩ | ⟨hmem, heq⟩
    · rw [heq, h.single.of_map.mem_erase_iff]
      simp only [Arms, reduceCtorEq, false_and, exists_false, false_or, Operation.accept.injEq]
      constructor
      · exact fun ⟨hne, hcurrent⟩ => ⟨hcurrent, fun hsame => hne hsame.1.symm⟩
      · exact fun ⟨hcurrent, hdiffer⟩ => ⟨fun hsame => hdiffer ⟨hsame.symm, hcurrent⟩, hcurrent⟩
    · rw [heq]
      simp only [Arms, reduceCtorEq, false_and, exists_false, false_or, Operation.accept.injEq]
      exact ⟨fun hcurrent => ⟨hcurrent, fun hsame => hmem (hsame.1 ▸ hcurrent)⟩, And.left⟩

theorem mem_current_iff_lasts (e : Expiry) (ops : List Operation) :
    e ∈ (after {} ops).current ↔ Lasts step (Arms e) (Voids e) {} ops :=
  holds_iff_lasts InOrder (fun t => e ∈ t.current) inOrder_empty (fun _ o h => h.step o) nofun
    (fun _ o h => h.mem_current_step e o) ops

/-! ### Spent expiries -/

/-- The arming was made, and its expiry is no longer to be accepted. -/
def Spent (e : Expiry) (t : SleepTimers) : Prop := e.number ≤ t.armings ∧ e ∉ t.current

theorem armings_le_step (t : SleepTimers) (o : Operation) : t.armings ≤ (t.step o).armings := by
  cases o with
  | arm k after => exact Nat.le_succ _
  | cancel k => exact Nat.le_refl _
  | pass duration => exact Nat.le_refl _
  | accept e =>
    rcases accept_eq t e with ⟨-, heq⟩ | ⟨-, heq⟩
    · exact Nat.le_of_eq (congrArg (·.1.armings) heq.symm)
    · exact Nat.le_of_eq (congrArg (·.1.armings) heq.symm)

theorem armings_le_after (t : SleepTimers) (ops : List Operation) :
    t.armings ≤ (t.after ops).armings := count_le_foldl armings_le_step t ops

/-- Later armings have numbers of their own, so what is spent stays so. -/
theorem Spent.step (ht : t.InOrder) (h : Spent e t) (o : Operation) : Spent e (t.step o) := by
  refine ⟨Nat.le_trans h.1 (armings_le_step t o), fun hmem => ?_⟩
  rcases (ht.mem_current_step e o).mp hmem with ⟨after, -, hnumber⟩ | ⟨hmem, -⟩
  · exact Nat.not_succ_le_self _ (hnumber ▸ h.1)
  · exact h.2 hmem

theorem Spent.after (ht : t.InOrder) (h : Spent e t) (ops : List Operation) : Spent e (t.after ops) :=
  (List.foldlRecOn (motive := fun t => t.InOrder ∧ Spent e t) ops SleepTimers.step ⟨ht, h⟩
    fun _ h o _ => ⟨h.1.step o, h.2.step h.1 o⟩).2

/-- Whatever voids the expiry of an arming that was made spends it. -/
theorem InOrder.spent_of_voids (h : t.InOrder) (hnumber : e.number ≤ t.armings) {o : Operation}
    (hvoids : Voids e t o) : Spent e (t.step o) := by
  refine ⟨Nat.le_trans hnumber (armings_le_step t o), fun hmem => ?_⟩
  rcases (h.mem_current_step e o).mp hmem with ⟨after, -, hnew⟩ | ⟨-, hvalid⟩
  · exact Nat.not_succ_le_self _ (hnew ▸ hnumber)
  · exact hvalid hvoids

theorem InOrder.spent_of_accepts (h : t.InOrder) {o : Operation} (haccepts : t.accepts o = some e) :
    ¬Spent e t ∧ Spent e (t.step o) := by
  have hcurrent : e ∈ t.current := (accepts_eq_some_iff.mp haccepts).2
  exact ⟨fun hspent => hspent.2 hcurrent,
    h.spent_of_voids (h.numbered e hcurrent) (Or.inr (Or.inr haccepts))⟩

/-! ### Expiries in the queue -/

theorem InOrder.number_le_of_sends (h : t.InOrder) {o : Operation} (he : e ∈ t.sends o) :
    e.number ≤ t.armings := by
  cases o with
  | arm k after => cases he
  | cancel k => cases he
  | accept e' => cases he
  | pass duration =>
    simp only [sends, SleepTimers.pass, List.partition_eq_filter_filter, List.mem_map,
      List.mem_mergeSort, List.mem_filter] at he
    obtain ⟨a, ⟨ha, -⟩, rfl⟩ := he
    exact h.asleep a ha

theorem InOrder.number_le_of_arrived (h : t.InOrder) {ops : List Operation}
    (he : e ∈ t.arrived ops) : e.number ≤ (t.after ops).armings := by
  induction ops generalizing t with
  | nil => cases he
  | cons o rest ih =>
    rcases List.mem_append.mp he with he | he
    · exact Nat.le_trans (h.number_le_of_sends he) (armings_le_after t (o :: rest))
    · exact ih (h.step o) he

/-! ### What is accepted -/

/-- After any operations an expiry is accepted just when it comes from the latest arming of its kind
and that has been neither cancelled nor accepted.  So no expiry is accepted twice, and one that has
arrived is never accepted once its kind has been cancelled or armed again. -/
theorem accepts_latest (ops : List Operation) :
    let t := after {} ops
    (∀ e k, (t.accept e).2 = some k ↔ e.kind = k ∧ Lasts step (Arms e) (Voids e) {} ops) ∧
      (handed step accepts {} ops).Nodup ∧
      ∀ e ∈ arrived {} ops, ∀ o, (o = .cancel e.kind ∨ ∃ after, o = .arm e.kind after) →
        ∀ later, (((t.step o).after later).accept e).2 = none := by
  intro t
  have ht : t.InOrder := inOrder_empty.after ops
  refine ⟨fun e k => ?_, ?_, fun e he o ho later => ?_⟩
  · rw [accept_eq_some_iff, mem_current_iff_lasts]
  · exact (nodup_handed Spent (fun _ o h => h.step o) (fun _ _ o ht h => h.step ht o)
      (fun _ _ _ h haccepts => h.spent_of_accepts haccepts) inOrder_empty ops).1
  · have hvoids : Voids e t o := ho.elim (fun hcancel => Or.inr (Or.inl hcancel)) Or.inl
    have hspent : Spent e (t.step o) :=
      ht.spent_of_voids (inOrder_empty.number_le_of_arrived he) hvoids
    rw [Option.eq_none_iff_forall_ne_some]
    intro k haccepted
    exact (hspent.after (ht.step o) later).2 (accept_eq_some_iff.mp haccepted).2

/-- The timer expires, and is armed again before its expiry is looked at. -/
theorem accepts_latest_overtaken :
    let ops : List Operation := [.arm .gainPoll 10, .pass 10]
    let e : Expiry := ⟨.gainPoll, 1⟩
    e ∈ arrived {} ops ∧ ((after {} ops).accept e).2 = some .gainPoll ∧
      ((((after {} ops).step (.arm .gainPoll 5)).after [.pass 5]).accept e).2 = none := by
  intro ops e
  have harrived : e ∈ arrived {} ops := by decide +kernel
  exact ⟨harrived, by decide,
    (accepts_latest ops).2.2 e harrived _ (Or.inr ⟨5, rfl⟩) [.pass 5]⟩

end NoiseControl.SleepTimers
