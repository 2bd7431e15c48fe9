import Mathlib.Data.List.Nodup
import NoiseControl.Proofs.Timer.Order
import NoiseControl.Proofs.Trace

/-!
# The timer queue as an agenda

An agenda says of each kind of timer when it is due and by which arming, if it is pending at all.
Arming a kind overwrites its slot, cancelling it clears the slot, and of the kinds that are due the
one that stands first is taken out.  The queue keeps such an agenda, whatever is done to it and in
whatever order.
-/

namespace NoiseControl

/-! ### Agendas -/

/-- When a timer is due, and which of all armings it comes from. -/
structure Slot where
  deadline : Nat
  number : Nat
deriving DecidableEq

def Slot.Before (a b : Slot) : Prop :=
  a.deadline < b.deadline ∨ a.deadline = b.deadline ∧ a.number < b.number

namespace TimerQueue

inductive Operation where
  | arm (k : TimerKind) (after : Nat)
  | cancel (k : TimerKind)
  | advanceTo (t : Nat)
  | pop

end TimerQueue

@[ext]
structure Agenda where
  now : Nat := 0
  armings : Nat := 0
  slot? : TimerKind → Option Slot := fun _ => none

namespace Agenda

def arm (m : Agenda) (k : TimerKind) (after : Nat) : Agenda :=
  { m with
    armings := m.armings + 1
    slot? := fun k' => if k' = k then some ⟨m.now + after, m.armings + 1⟩ else m.slot? k' }

def cancel (m : Agenda) (k : TimerKind) : Agenda :=
  { m with slot? := fun k' => if k' = k then none else m.slot? k' }

def advanceTo (m : Agenda) (t : Nat) : Agenda := { m with now := max m.now t }

def Due (m : Agenda) (k : TimerKind) : Prop := ∃ s, m.slot? k = some s ∧ s.deadline ≤ m.now

/-- The kind is due, and its slot stands before that of every other kind that is due. -/
def First (m : Agenda) (k : TimerKind) : Prop :=
  ∃ s, m.slot? k = some s ∧ s.deadline ≤ m.now ∧
    ∀ k' s', k' ≠ k → m.slot? k' = some s' → s'.deadline ≤ m.now → s.Before s'

def deadlines (m : Agenda) : List Nat :=
  TimerKind.all.filterMap fun k => (m.slot? k).map Slot.deadline

/-- What an operation does to the agenda, and what it answers. -/
inductive Step (m : Agenda) : TimerQueue.Operation → Option TimerKind → Agenda → Prop where
  | arm (k : TimerKind) (after : Nat) : Step m (.arm k after) none (m.arm k after)
  | cancel (k : TimerKind) : Step m (.cancel k) none (m.cancel k)
  | advanceTo (t : Nat) : Step m (.advanceTo t) none (m.advanceTo t)
  | pop {k : TimerKind} (h : m.First k) : Step m .pop (some k) (m.cancel k)
  | idle (h : ∀ k, ¬m.Due k) : Step m .pop none m

inductive Runs : Agenda → List TimerQueue.Operation → List (Option TimerKind) → Agenda → Prop where
  | nil (m : Agenda) : Runs m [] [] m
  | cons {m m' m'' : Agenda} {o : TimerQueue.Operation} {ops : List TimerQueue.Operation}
      {answer : Option TimerKind} {answers : List (Option TimerKind)} (first : m.Step o answer m')
      (rest : Runs m' ops answers m'') : Runs m (o :: ops) (answer :: answers) m''

end Agenda

def ArmedTimer.slot (a : ArmedTimer) : Slot := ⟨a.deadline, a.number⟩

theorem ArmedTimer.slot_before {a b : ArmedTimer} (h : b.before a = false)
    (hnumber : a.number ≠ b.number) : a.slot.Before b.slot := by
  rcases before_eq_false.mp h with hlt | ⟨heq, hle⟩
  · exact Or.inl hlt
  · exact Or.inr ⟨heq, Nat.lt_of_le_of_ne hle hnumber⟩

theorem ArmedTimer.not_slot_before {a b : ArmedTimer} (h : b.before a = false) :
    ¬b.slot.Before a.slot := by
  rcases before_eq_false.mp h with hlt | ⟨heq, hle⟩
  · rintro (hgt | ⟨heq, -⟩)
    · exact Nat.lt_asymm hlt hgt
    · exact Nat.ne_of_gt hlt heq
  · rintro (hgt | ⟨-, hgt⟩)
    · exact Nat.ne_of_gt hgt heq
    · exact Nat.not_lt_of_le hle hgt

namespace TimerQueue

/-- The agenda that a queue keeps. -/
def agenda (q : TimerQueue) : Agenda where
  now := q.now
  armings := q.armings
  slot? k := (q.find? k).map ArmedTimer.slot

variable {q : TimerQueue} {k : TimerKind}

theorem agenda_arm (q : TimerQueue) (k : TimerKind) (after : Nat) :
    (q.arm k after).agenda = q.agenda.arm k after := by
  refine Agenda.ext rfl rfl (funext fun k' => ?_)
  simp only [agenda, Agenda.arm, find?_arm]
  split <;> rfl

theorem agenda_cancel (q : TimerQueue) (k : TimerKind) : (q.cancel k).agenda = q.agenda.cancel k := by
  refine Agenda.ext rfl rfl (funext fun k' => ?_)
  simp only [agenda, Agenda.cancel, find?_cancel]
  split <;> rfl

theorem agenda_advanceTo (q : TimerQueue) (t : Nat) :
    (q.advanceTo t).agenda = q.agenda.advanceTo t := rfl

theorem slot?_eq_some {s : Slot} (h : q.agenda.slot? k = some s) :
    ∃ a, q.find? k = some a ∧ a.slot = s := Option.map_eq_some_iff.mp h

/-! ### Good order with distinct numbers -/

/-- No two of the pending timers come from the same arming. -/
structure Serial (q : TimerQueue) : Prop extends q.InOrder where
  distinct : (q.pending.map ArmedTimer.number).Nodup

theorem serial_empty : Serial {} where
  toInOrder := inOrder_empty
  distinct := List.nodup_nil

theorem Serial.cancel (h : q.Serial) (k : TimerKind) : (q.cancel k).Serial where
  toInOrder := h.toInOrder.cancel k
  distinct := h.distinct.sublist (List.filter_sublist.map _)

theorem Serial.arm (h : q.Serial) (k : TimerKind) (after : Nat) : (q.arm k after).Serial where
  toInOrder := h.toInOrder.arm k after
  distinct := by
    have hnew : q.armings + 1 ∉ (q.cancel k).pending.map ArmedTimer.number := by
      intro hmem
      obtain ⟨a, ha, heq⟩ := List.mem_map.mp hmem
      have hle : a.number ≤ q.armings := (h.cancel k).numbered a ha
      omega
    simpa [TimerQueue.arm] using (h.cancel k).distinct.concat hnew

theorem Serial.advanceTo (h : q.Serial) (t : Nat) : (q.advanceTo t).Serial :=
  ⟨h.toInOrder.advanceTo t, h.distinct⟩

/-! ### What is taken out -/

theorem InOrder.due_iff (h : q.InOrder) : q.agenda.Due k ↔ ∃ a ∈ q.due, a.kind = k := by
  constructor
  · rintro ⟨s, hs, hdue⟩
    obtain ⟨a, hfind, rfl⟩ := slot?_eq_some hs
    obtain ⟨hmem, hkind⟩ := mem_of_find? hfind
    exact ⟨a, List.mem_filter.mpr ⟨hmem, decide_eq_true hdue⟩, hkind⟩
  · rintro ⟨a, ha, rfl⟩
    obtain ⟨hmem, hdue⟩ := List.mem_filter.mp ha
    exact ⟨a.slot, by simp [agenda, h.find?_eq hmem], of_decide_eq_true hdue⟩

theorem InOrder.popDue?_eq_none_iff (h : q.InOrder) :
    q.popDue? = none ↔ ∀ k, ¬q.agenda.Due k := by
  rw [popDue?, Option.map_eq_none_iff, ArmedTimer.first?_eq_none, List.eq_nil_iff_forall_not_mem]
  constructor
  · intro hnone k hdue
    obtain ⟨a, ha, -⟩ := h.due_iff.mp hdue
    exact hnone a ha
  · intro hnone a ha
    exact hnone a.kind (h.due_iff.mpr ⟨a, ha, rfl⟩)

theorem Serial.first_of_popDue? (h : q.Serial) {q' : TimerQueue} (hp : q.popDue? = some (k, q')) :
    q.agenda.First k := by
  obtain ⟨a, hfind, hdue, -, hfirst⟩ := h.popDue?_eq_some hp
  obtain ⟨hmem, hkind⟩ := mem_of_find? hfind
  refine ⟨a.slot, by simp [agenda, hfind], hdue, fun k' s' hne hs' hdue' => ?_⟩
  obtain ⟨b, hfind', rfl⟩ := slot?_eq_some hs'
  obtain ⟨hmem', hkind'⟩ := mem_of_find? hfind'
  refine ArmedTimer.slot_before (hfirst k' b hfind' hdue') fun hnumber => hne ?_
  -- Timers of one number are one timer.
  have heq : a = b := List.inj_on_of_nodup_map h.distinct hmem hmem' hnumber
  rw [← hkind', ← heq, hkind]

theorem Serial.popDue?_eq_some_iff (h : q.Serial) {q' : TimerQueue} :
    q.popDue? = some (k, q') ↔ q.agenda.First k ∧ q' = q.cancel k := by
  constructor
  · intro hp
    obtain ⟨-, -, -, hq', -⟩ := h.popDue?_eq_some hp
    exact ⟨h.first_of_popDue? hp, hq'⟩
  · rintro ⟨⟨s, hs, hdue, hfirst⟩, rfl⟩
    cases hp : q.popDue? with
    | none => exact absurd ⟨s, hs, hdue⟩ (h.popDue?_eq_none_iff.mp hp k)
    | some popped =>
      obtain ⟨k', q'⟩ := popped
      obtain ⟨a, hfind, hadue, rfl, hbefore⟩ := h.popDue?_eq_some hp
      obtain ⟨b, hfind', rfl⟩ := slot?_eq_some hs
      by_cases hk : k' = k
      · rw [hk]
      · have hslot : q.agenda.slot? k' = some a.slot := by simp [agenda, hfind]
        exact absurd (hfirst k' a.slot hk hslot hadue)
          (ArmedTimer.not_slot_before (hbefore k b hfind' hdue))

/-! ### Operations -/

def operate (q : TimerQueue) : Operation → TimerQueue × Option TimerKind
  | .arm k after => (q.arm k after, none)
  | .cancel k => (q.cancel k, none)
  | .advanceTo t => (q.advanceTo t, none)
  | .pop =>
    match q.popDue? with
    | some (k, q') => (q', some k)
    | none => (q, none)

def step (q : TimerQueue) (o : Operation) : TimerQueue := (q.operate o).1

/-- Taking a timer out is cancelling the kind that stands first. -/
theorem Serial.operate_pop (h : q.Serial) :
    (∃ k, q.agenda.First k ∧ q.operate .pop = (q.cancel k, some k)) ∨
      (∀ k, ¬q.agenda.Due k) ∧ q.operate .pop = (q, none) := by
  cases hp : q.popDue? with
  | none => exact Or.inr ⟨h.popDue?_eq_none_iff.mp hp, by simp [operate, hp]⟩
  | some popped =>
    obtain ⟨k, q'⟩ := popped
    obtain ⟨hfirst, rfl⟩ := h.popDue?_eq_some_iff.mp hp
    exact Or.inl ⟨k, hfirst, by simp [operate, hp]⟩

theorem Serial.operate_pop_eq_some_iff (h : q.Serial) :
    (q.operate .pop).2 = some k ↔ q.agenda.First k := by
  rw [operate]
  constructor
  · intro hk
    split at hk
    · rename_i hp
      cases hk
      exact h.first_of_popDue? hp
    · cases hk
  · intro hfirst
    rw [h.popDue?_eq_some_iff.mpr ⟨hfirst, rfl⟩]

theorem Serial.step (h : q.Serial) (o : Operation) : (q.step o).Serial := by
  cases o with
  | arm k after => exact h.arm k after
  | cancel k => exact h.cancel k
  | advanceTo t => exact h.advanceTo t
  | pop =>
    rw [TimerQueue.step]
    rcases h.operate_pop with ⟨k, -, heq⟩ | ⟨-, heq⟩
    · rw [heq]
      exact h.cancel k
    · rw [heq]
      exact h

theorem now_le_step (q : TimerQueue) (o : Operation) : q.now ≤ (q.step o).now := by
  cases o with
  | arm k after => exact Nat.le_refl _
  | cancel k => exact Nat.le_refl _
  | advanceTo t => exact Nat.le_max_left _ _
  | pop =>
    rw [step, operate, popDue?]
    cases ArmedTimer.first? q.due with
    | none => exact Nat.le_refl _
    | some a => exact Nat.le_refl _

/-- On the agenda an operation does what it does on the queue, and nothing else. -/
theorem Serial.step_iff (h : q.Serial) (o : Operation) (answer : Option TimerKind) (m : Agenda) :
    q.agenda.Step o answer m ↔ answer = (q.operate o).2 ∧ m = (q.operate o).1.agenda := by
  constructor
  · intro hstep
    cases hstep with
    | arm k after => exact ⟨rfl, (agenda_arm q k after).symm⟩
    | cancel k => exact ⟨rfl, (agenda_cancel q k).symm⟩
    | advanceTo t => exact ⟨rfl, rfl⟩
    | pop hfirst =>
      rename_i k
      have hp := h.popDue?_eq_some_iff.mpr ⟨hfirst, rfl⟩
      simp [operate, hp, agenda_cancel]
    | idle hnone =>
      have hp := h.popDue?_eq_none_iff.mpr hnone
      simp [operate, hp]
  · rintro ⟨rfl, rfl⟩
    cases o with
    | arm k after => exact agenda_arm q k after ▸ .arm k after
    | cancel k => exact agenda_cancel q k ▸ .cancel k
    | advanceTo t => exact .advanceTo t
    | pop =>
      rcases h.operate_pop with ⟨k, hfirst, heq⟩ | ⟨hnone, heq⟩
      · rw [heq, agenda_cancel]
        exact .pop hfirst
      · rw [heq]
        exact .idle hnone

/-! ### Runs -/

def after (q : TimerQueue) (ops : List Operation) : TimerQueue := ops.foldl step q

/-- What the operations answer, one by one. -/
def answers : TimerQueue → List Operation → List (Option TimerKind)
  | _, [] => []
  | q, o :: rest => (q.operate o).2 :: answers (q.step o) rest

theorem Serial.after (h : q.Serial) (ops : List Operation) : (q.after ops).Serial :=
  List.foldlRecOn ops TimerQueue.step h fun _ h o _ => h.step o

theorem now_le_after (q : TimerQueue) (ops : List Operation) : q.now ≤ (q.after ops).now :=
  count_le_foldl now_le_step q ops

theorem Serial.runs_iff (h : q.Serial) (ops : List Operation) (answered : List (Option TimerKind))
    (m : Agenda) :
    Agenda.Runs q.agenda ops answered m ↔ answered = q.answers ops ∧ m = (q.after ops).agenda := by
  induction ops generalizing q answered with
  | nil =>
    constructor
    · rintro ⟨-⟩
      exact ⟨rfl, rfl⟩
    · rintro ⟨rfl, rfl⟩
      exact .nil _
  | cons o rest ih =>
    constructor
    · intro hruns
      cases hruns with
      | cons hfirst hrest =>
        obtain ⟨rfl, rfl⟩ := (h.step_iff o _ _).mp hfirst
        obtain ⟨rfl, rfl⟩ := (ih (h.step o) _).mp hrest
        exact ⟨rfl, rfl⟩
    · rintro ⟨rfl, rfl⟩
      exact .cons ((h.step_iff o _ _).mpr ⟨rfl, rfl⟩) ((ih (h.step o) _).mpr ⟨rfl, rfl⟩)

/-! ### Where a slot comes from -/

/-- The operation arms the kind, into the slot. -/
def Arms (k : TimerKind) (s : Slot) (q : TimerQueue) (o : Operation) : Prop :=
  ∃ after, o = .arm k after ∧ s = ⟨q.now + after, q.armings + 1⟩

/-- The operation arms the kind again, cancels it or takes it out. -/
def Settles (k : TimerKind) (q : TimerQueue) (o : Operation) : Prop :=
  (∃ after, o = .arm k after) ∨ o = .cancel k ∨ o = .pop ∧ (q.operate .pop).2 = some k

theorem cancel_slot?_eq_some_iff {m : Agenda} {k k' : TimerKind} {s : Slot} :
    (m.cancel k').slot? k = some s ↔ m.slot? k = some s ∧ k ≠ k' := by
  simp only [Agenda.cancel]
  split <;> simp_all

theorem Serial.slot?_step (h : q.Serial) (k : TimerKind) (s : Slot) (o : Operation) :
    (q.step o).agenda.slot? k = some s ↔ Arms k s q o ∨ q.agenda.slot? k = some s ∧ ¬Settles k q o := by
  cases o with
  | arm k' after =>
    rw [TimerQueue.step, operate, agenda_arm]
    by_cases hk : k = k'
    · subst hk
      simp [Agenda.arm, Arms, Settles, agenda, eq_comm]
    · simp [Agenda.arm, Arms, Settles, hk, Ne.symm hk]
  | cancel k' =>
    rw [TimerQueue.step, operate, agenda_cancel, cancel_slot?_eq_some_iff]
    simp [Arms, Settles, eq_comm]
  | advanceTo t =>
    simp [TimerQueue.step, operate, agenda_advanceTo, Agenda.advanceTo, Arms, Settles]
  | pop =>
    rw [TimerQueue.step]
    rcases h.operate_pop with ⟨k', -, heq⟩ | ⟨-, heq⟩
    · rw [heq, agenda_cancel, cancel_slot?_eq_some_iff]
      simp [Arms, Settles, heq, eq_comm]
    · rw [heq]
      simp [Arms, Settles, heq]

theorem slot?_iff_lasts (k : TimerKind) (s : Slot) (ops : List Operation) :
    (after {} ops).agenda.slot? k = some s ↔ Lasts step (Arms k s) (Settles k) {} ops :=
  holds_iff_lasts Serial (fun q => q.agenda.slot? k = some s) serial_empty (fun _ o h => h.step o)
    nofun (fun _ o h => h.slot?_step k s o) ops

/-! ### No arming is handed over twice -/

/-- The number of the arming that an operation hands over. -/
def hands (q : TimerQueue) (o : Operation) : Option Nat :=
  (q.operate o).2.bind fun k => (q.agenda.slot? k).map Slot.number

/-- The arming was made, and what it armed is pending no more. -/
def Spent (number : Nat) (q : TimerQueue) : Prop :=
  number ≤ q.armings ∧ ∀ a ∈ q.pending, a.number ≠ number

theorem Spent.cancel {number : Nat} (h : Spent number q) (k : TimerKind) : Spent number (q.cancel k) :=
  ⟨h.1, fun a ha => h.2 a (List.mem_filter.mp ha).1⟩

theorem Serial.spent_step (hq : q.Serial) {number : Nat} (h : Spent number q) (o : Operation) :
    Spent number (q.step o) := by
  cases o with
  | arm k after =>
    refine ⟨Nat.le_succ_of_le h.1, fun a ha => ?_⟩
    rcases List.mem_append.mp ha with ha | ha
    · exact (h.cancel k).2 a ha
    · rw [List.mem_singleton.mp ha]
      exact Nat.ne_of_gt (Nat.lt_succ_of_le h.1)
  | cancel k => exact h.cancel k
  | advanceTo t => exact h
  | pop =>
    rw [TimerQueue.step]
    rcases hq.operate_pop with ⟨k, -, heq⟩ | ⟨-, heq⟩
    · rw [heq]
      exact h.cancel k
    · rw [heq]
      exact h

theorem Serial.spent_of_hands (h : q.Serial) {o : Operation} {number : Nat}
    (hhands : q.hands o = some number) : ¬Spent number q ∧ Spent number (q.step o) := by
  cases o with
  | arm k after => cases hhands
  | cancel k => cases hhands
  | advanceTo t => cases hhands
  | pop =>
    rcases h.operate_pop with ⟨k, ⟨s, hs, -⟩, heq⟩ | ⟨-, heq⟩
    · obtain ⟨a, hfind, rfl⟩ := slot?_eq_some hs
      obtain ⟨hmem, hkind⟩ := mem_of_find? hfind
      rw [hands, heq, Option.bind_some, hs] at hhands
      obtain rfl : a.number = number := Option.some.inj hhands
      refine ⟨fun hspent => hspent.2 a hmem rfl, ?_⟩
      rw [TimerQueue.step, heq]
      refine ⟨h.numbered a hmem, fun b hb hnumber => ?_⟩
      obtain ⟨hmem', hkind'⟩ := List.mem_filter.mp hb
      have hsame : b = a := List.inj_on_of_nodup_map h.distinct hmem' hmem hnumber
      simp [hsame, hkind] at hkind'
    · rw [hands, heq] at hhands
      cases hhands

theorem nodup_handed_over (ops : List Operation) : (handed step hands {} ops).Nodup :=
  (nodup_handed Spent (fun _ o h => h.step o) (fun _ _ o hq h => hq.spent_step h o)
    (fun _ _ _ h hhands => h.spent_of_hands hhands) serial_empty ops).1

/-! ### Taking out all that is due -/

/-- Timers are taken out until none is due: each that was due, by deadline and then by arming. -/
theorem Serial.drain (h : q.Serial) :
    ∃ kinds : List TimerKind,
      q.answers (List.replicate kinds.length .pop ++ [.pop]) = kinds.map some ++ [none] ∧
        (∀ k, k ∈ kinds ↔ q.agenda.Due k) ∧
        kinds.Pairwise fun k k' => ∃ s s', q.agenda.slot? k = some s ∧ q.agenda.slot? k' = some s' ∧
          s.Before s' := by
  induction hn : q.due.length using Nat.strongRecOn generalizing q with
  | ind n ih =>
    rcases h.operate_pop with ⟨k, hfirst, heq⟩ | ⟨hnone, heq⟩
    · obtain ⟨s, hs, hdue, hbefore⟩ := hfirst
      have hless : (q.cancel k).due.length < n := by
        obtain ⟨a, hfind, rfl⟩ := slot?_eq_some hs
        obtain ⟨hmem, rfl⟩ := mem_of_find? hfind
        exact hn ▸ length_due_cancel q hmem hdue
      obtain ⟨kinds, hanswers, hmem, hsorted⟩ := ih _ hless (h.cancel k) rfl
      simp only [agenda_cancel] at hmem hsorted
      have hother : ∀ {k' s'}, (q.agenda.cancel k).slot? k' = some s' →
          q.agenda.slot? k' = some s' ∧ k' ≠ k := cancel_slot?_eq_some_iff.mp
      refine ⟨k :: kinds, ?_, fun k' => ?_, List.pairwise_cons.mpr ⟨fun k' hk' => ?_, ?_⟩⟩
      · rw [List.length_cons, List.replicate_succ, List.cons_append, answers, TimerQueue.step, heq,
          hanswers]
        rfl
      · rw [List.mem_cons, hmem]
        constructor
        · rintro (rfl | ⟨s', hs', hdue'⟩)
          · exact ⟨s, hs, hdue⟩
          · exact ⟨s', (hother hs').1, hdue'⟩
        · rintro ⟨s', hs', hdue'⟩
          by_cases hk : k' = k
          · exact Or.inl hk
          · exact Or.inr ⟨s', cancel_slot?_eq_some_iff.mpr ⟨hs', hk⟩, hdue'⟩
      · obtain ⟨s', hs', hdue'⟩ := (hmem k').mp hk'
        obtain ⟨hs', hk⟩ := hother hs'
        exact ⟨s, s', hs, hs', hbefore k' s' hk hs' hdue'⟩
      · exact hsorted.imp fun ⟨s, s', hs, hs', hlt⟩ => ⟨s, s', (hother hs).1, (hother hs').1, hlt⟩
    · exact ⟨[], by simp [answers, heq], fun k => iff_of_false nofun (hnone k), .nil⟩

/-! ### What the queue tells of itself -/

/-- The queue tells of itself what its agenda says. -/
structure Tells (q : TimerQueue) (m : Agenda) : Prop where
  single : (q.pending.map ArmedTimer.kind).Nodup
  isArmed (k : TimerKind) : q.isArmed k = (m.slot? k).isSome
  remaining? (k : TimerKind) : q.remaining? k = (m.slot? k).map fun s => s.deadline - m.now
  nextDeadline? : q.nextDeadline? = m.deadlines.min?
  count : q.count = m.deadlines.length

theorem InOrder.deadlines_perm (h : q.InOrder) :
    (q.pending.map ArmedTimer.deadline).Perm q.agenda.deadlines := by
  have hkinds : TimerKind.all.Nodup := by decide
  have hfound : (TimerKind.all.filterMap q.find?).Nodup := by
    refine hkinds.filterMap fun k k' a ha ha' => ?_
    exact (mem_of_find? ha).2.symm.trans (mem_of_find? ha').2
  have hperm : q.pending.Perm (TimerKind.all.filterMap q.find?) := by
    refine (List.perm_ext_iff_of_nodup h.single.of_map hfound).mpr fun a => ?_
    rw [List.mem_filterMap]
    constructor
    · intro ha
      exact ⟨a.kind, a.kind.mem_all, h.find?_eq ha⟩
    · rintro ⟨k, -, hk⟩
      exact (mem_of_find? hk).1
  have hdeadlines : q.agenda.deadlines = (TimerKind.all.filterMap q.find?).map ArmedTimer.deadline := by
    simp only [Agenda.deadlines, agenda, List.map_filterMap, Option.map_map]
    rfl
  rw [hdeadlines]
  exact hperm.map _

theorem nextDeadline?_eq_min? {deadlines : List Nat}
    (h : (q.pending.map ArmedTimer.deadline).Perm deadlines) : q.nextDeadline? = deadlines.min? := by
  cases hnext : q.nextDeadline? with
  | none =>
    rw [pending_of_nextDeadline?_none hnext] at h
    rw [← h.nil_eq]
    rfl
  | some d =>
    obtain ⟨a, hfirst, rfl⟩ := Option.map_eq_some_iff.mp hnext
    symm
    rw [List.min?_eq_some_iff]
    refine ⟨h.mem_iff.mp (List.mem_map_of_mem (ArmedTimer.mem_of_first? hfirst)), fun d hd => ?_⟩
    obtain ⟨b, hb, rfl⟩ := List.mem_map.mp (h.mem_iff.mpr hd)
    exact ArmedTimer.deadline_le_of_first? hfirst hb

theorem InOrder.tells (h : q.InOrder) : q.Tells q.agenda where
  single := h.single
  isArmed k := by simp [TimerQueue.isArmed, agenda]
  remaining? k := by
    simp only [TimerQueue.remaining?, deadline?, agenda, Option.map_map]
    rfl
  nextDeadline? := nextDeadline?_eq_min? h.deadlines_perm
  count := by simpa [TimerQueue.count] using h.deadlines_perm.length_eq

/-! ### The agenda is kept -/

/-- After any operations the queue stands as its agenda does, has answered as the agenda allows and
in no other way, and tells of itself what the agenda says.  What it hands over next is what stands
first among all that is due, armed and since then neither armed again, cancelled nor handed over,
and leaves the rest as it is.  No arming is handed over twice, all that is due comes out in order,
and the clock never goes back. -/
theorem kept_as_agenda (ops : List Operation) :
    let q := after {} ops
    let m := q.agenda
    (∀ answered m', Agenda.Runs {} ops answered m' ↔ answered = answers {} ops ∧ m' = m) ∧
      q.Tells m ∧
      (∀ k, (q.operate .pop).2 = some k ↔ m.First k) ∧
      (∀ k, (q.operate .pop).2 = some k → (q.step .pop).agenda = m.cancel k ∧
        ∃ s, s.deadline ≤ q.now ∧ Lasts step (Arms k s) (Settles k) {} ops) ∧
      (handed step hands {} ops).Nodup ∧
      (∃ kinds : List TimerKind,
        q.answers (List.replicate kinds.length .pop ++ [.pop]) = kinds.map some ++ [none] ∧
          (∀ k, k ∈ kinds ↔ m.Due k) ∧
          kinds.Pairwise fun k k' => ∃ s s', m.slot? k = some s ∧ m.slot? k' = some s' ∧
            s.Before s') ∧
      ∀ later, q.now ≤ (q.after later).now := by
  intro q m
  have hq : q.Serial := serial_empty.after ops
  refine ⟨serial_empty.runs_iff ops, hq.toInOrder.tells, fun k => hq.operate_pop_eq_some_iff,
    fun k hk => ?_, nodup_handed_over ops, hq.drain, now_le_after q⟩
  obtain ⟨s, hs, hdue, -⟩ := hq.operate_pop_eq_some_iff.mp hk
  refine ⟨?_, s, hdue, (slot?_iff_lasts k s ops).mp hs⟩
  rcases hq.operate_pop with ⟨k', -, heq⟩ | ⟨-, heq⟩
  · rw [step, heq, agenda_cancel]
    rw [heq] at hk
    obtain rfl := Option.some.inj hk
    rfl
  · rw [heq] at hk
    cases hk

/-- Two timers come due together and the one armed before the other comes first, a third was armed
before both and is due later. -/
theorem kept_as_agenda_tie :
    let ops : List Operation := [.arm .pathGainSettle 50, .arm .configSettle 10, .arm .gainPoll 10,
      .advanceTo 60]
    let q := after {} ops
    (q.operate .pop).2 = some .configSettle ∧ q.agenda.First .configSettle ∧
      (q.step .pop).agenda = q.agenda.cancel .configSettle ∧
      ∃ s, s.deadline ≤ q.now ∧ Lasts step (Arms .configSettle s) (Settles .configSettle) {} ops := by
  intro ops q
  have hpop : (q.operate .pop).2 = some .configSettle := by decide
  obtain ⟨-, -, hfirst, htaken, -⟩ := kept_as_agenda ops
  exact ⟨hpop, (hfirst _).mp hpop, htaken _ hpop⟩

end TimerQueue

end NoiseControl
