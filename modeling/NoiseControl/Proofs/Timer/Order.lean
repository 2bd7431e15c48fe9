import NoiseControl.Timer.Queue

/-!
# The order in which timers come out

A queue in good order has at most one timer of each kind, and the numbers of its timers are those
of armings made so far.  Every operation keeps the order.  The timer that is taken out is the
pending one of its kind, it is due, and no due timer comes before it.
-/

namespace NoiseControl

namespace ArmedTimer

theorem before_eq_false {a b : ArmedTimer} :
    b.before a = false ↔ a.deadline < b.deadline ∨ a.deadline = b.deadline ∧ a.number ≤ b.number := by
  simp only [before, Bool.or_eq_false_iff, decide_eq_false_iff_not, Bool.and_eq_false_iff,
    beq_eq_false_iff_ne]
  omega

theorem not_before_first? {l : List ArmedTimer} {a : ArmedTimer} (h : first? l = some a) :
    ∀ b ∈ l, b.before a = false := by
  induction l generalizing a with
  | nil => simp [first?] at h
  | cons c rest ih =>
    intro b hb
    simp only [first?] at h
    cases hr : first? rest with
    | none =>
      have hrest : rest = [] := by
        cases rest with
        | nil => rfl
        | cons d rest =>
          simp only [first?] at hr
          split at hr
          · cases hr
          · split at hr <;> cases hr
      simp only [hr, Option.some.injEq] at h
      subst h hrest
      simp only [List.mem_singleton] at hb
      simp [hb, before_eq_false]
    | some d =>
      have hd := ih hr
      simp only [hr] at h
      split at h <;> rename_i hcd <;> cases h
      · rcases List.mem_cons.mp hb with rfl | hb
        · simp only [before, Bool.or_eq_true, decide_eq_true_eq, Bool.and_eq_true,
            beq_iff_eq] at hcd
          exact before_eq_false.mpr (by omega)
        · exact hd b hb
      · rcases List.mem_cons.mp hb with rfl | hb
        · exact before_eq_false.mpr (Or.inr ⟨rfl, Nat.le_refl _⟩)
        · have h1 := before_eq_false.mp (Bool.eq_false_iff.mpr hcd)
          have h2 := before_eq_false.mp (hd b hb)
          exact before_eq_false.mpr (by omega)

theorem first?_eq_none {l : List ArmedTimer} : first? l = none ↔ l = [] := by
  cases l with
  | nil => simp [first?]
  | cons a rest =>
    simp only [first?, reduceCtorEq, iff_false]
    split
    · simp
    · split <;> simp

theorem deadline_le_of_first? {l : List ArmedTimer} {a b : ArmedTimer} (h : first? l = some a)
    (hb : b ∈ l) : a.deadline ≤ b.deadline := by
  have hbefore := before_eq_false.mp (not_before_first? h b hb)
  omega

/-- The first of all timers is also the first of those among which it is counted. -/
theorem first?_filter {l : List ArmedTimer} {a : ArmedTimer} {p : ArmedTimer → Bool}
    (h : first? l = some a) (ha : p a = true) : first? (l.filter p) = some a := by
  induction l generalizing a with
  | nil => cases h
  | cons c rest ih =>
    simp only [first?] at h
    cases hr : first? rest with
    | none =>
      rw [first?_eq_none.mp hr] at h ⊢
      obtain rfl := Option.some.inj h
      simp [ha, first?]
    | some d =>
      rw [hr] at h
      dsimp only at h
      split at h <;> rename_i hcd <;> obtain rfl := Option.some.inj h
      · have hrest := ih hr ha
        rw [List.filter_cons]
        split
        · rw [first?, hrest]
          exact if_pos hcd
        · exact hrest
      · rw [List.filter_cons_of_pos ha, first?]
        cases he : first? (rest.filter p) with
        | none => rfl
        | some e =>
          have hlater := not_before_first? (l := c :: rest) (a := c)
            (by rw [first?, hr]; exact if_neg hcd) e
            (List.mem_cons_of_mem c (List.mem_filter.mp (mem_of_first? he)).1)
          exact if_neg (by simp [hlater])

end ArmedTimer

namespace TimerQueue

variable {q : TimerQueue}

/-! ### Lookup of deadlines -/

theorem deadline?_arm (k k' : TimerKind) (after : Nat) :
    (q.arm k after).deadline? k' = if k' = k then some (q.now + after) else q.deadline? k' := by
  simp only [deadline?, find?_arm]
  split <;> rfl

theorem deadline?_cancel (k k' : TimerKind) :
    (q.cancel k).deadline? k' = if k' = k then none else q.deadline? k' := by
  simp only [deadline?, find?_cancel]
  split <;> rfl

/-! ### Good order -/

structure InOrder (q : TimerQueue) : Prop where
  single : (q.pending.map ArmedTimer.kind).Nodup
  /-- Each was armed by one of the armings made so far. -/
  numbered : ∀ a ∈ q.pending, a.number ≤ q.armings

theorem inOrder_empty : InOrder {} where
  single := List.nodup_nil
  numbered := by simp

theorem InOrder.cancel (h : q.InOrder) (k : TimerKind) : (q.cancel k).InOrder where
  single := h.single.sublist (List.filter_sublist.map _)
  numbered a ha := h.numbered a (List.mem_filter.mp ha).1

theorem InOrder.arm (h : q.InOrder) (k : TimerKind) (after : Nat) : (q.arm k after).InOrder where
  single := by
    have hk : k ∉ (q.cancel k).pending.map ArmedTimer.kind := by
      simp [TimerQueue.cancel]
    simp only [TimerQueue.arm, List.map_append, List.map_cons, List.map_nil]
    exact (List.nodup_append.mpr ⟨(h.cancel k).single, by simp, by
      intro a ha b hb
      simp only [List.mem_singleton] at hb
      rintro rfl
      exact hk (hb ▸ ha)⟩)
  numbered a ha := by
    simp only [TimerQueue.arm, List.mem_append, List.mem_singleton] at ha ⊢
    rcases ha with ha | rfl
    · exact Nat.le_succ_of_le ((h.cancel k).numbered a ha)
    · exact Nat.le_refl _

theorem InOrder.advanceTo (h : q.InOrder) (t : Nat) : (q.advanceTo t).InOrder := ⟨h.single, h.numbered⟩

theorem mem_of_find? {k : TimerKind} {a : ArmedTimer} (h : q.find? k = some a) :
    a ∈ q.pending ∧ a.kind = k := by
  refine ⟨List.mem_of_find?_eq_some h, ?_⟩
  simpa using List.find?_some h

theorem InOrder.find?_eq (h : q.InOrder) {a : ArmedTimer} (ha : a ∈ q.pending) :
    q.find? a.kind = some a := by
  -- The kinds are all different, so no timer before `a` has its kind.
  have hsingle := h.single
  simp only [find?]
  induction hp : q.pending generalizing q with
  | nil => simp [hp] at ha
  | cons b rest ih =>
    rw [hp] at ha hsingle
    simp only [List.map_cons, List.nodup_cons] at hsingle
    rcases List.mem_cons.mp ha with rfl | ha
    · simp
    · have hb : b.kind ≠ a.kind := fun e => hsingle.1 (e ▸ List.mem_map_of_mem ha)
      have := ih (q := { q with pending := rest }) ⟨hsingle.2, fun c hc =>
        h.numbered c (by rw [hp]; exact List.mem_cons_of_mem _ hc)⟩ ha hsingle.2 rfl
      simpa [List.find?_cons, hb] using this

/-! ### Taking a timer out -/

/-- The timer that is taken out is the pending one of its kind, it is due, and no due timer comes
before it. -/
theorem InOrder.popDue?_eq_some (h : q.InOrder) {k : TimerKind} {q' : TimerQueue}
    (hp : q.popDue? = some (k, q')) :
    ∃ a, q.find? k = some a ∧ a.deadline ≤ q.now ∧ q' = q.cancel k ∧
      ∀ k' b, q.find? k' = some b → b.deadline ≤ q.now → b.before a = false := by
  simp only [popDue?, Option.map_eq_some_iff, Prod.mk.injEq] at hp
  obtain ⟨a, hfirst, rfl, rfl⟩ := hp
  have hmem := ArmedTimer.mem_of_first? hfirst
  simp only [due, List.mem_filter, decide_eq_true_eq] at hmem
  refine ⟨a, h.find?_eq hmem.1, hmem.2, rfl, fun k' b hb hdue => ?_⟩
  refine ArmedTimer.not_before_first? hfirst b ?_
  simp only [due, List.mem_filter, decide_eq_true_eq]
  exact ⟨(mem_of_find? hb).1, hdue⟩

theorem InOrder.nextDeadline?_eq_some (h : q.InOrder) {t : Nat} (ht : q.nextDeadline? = some t) :
    ∃ k, q.deadline? k = some t := by
  simp only [nextDeadline?, Option.map_eq_some_iff] at ht
  obtain ⟨a, hfirst, rfl⟩ := ht
  exact ⟨a.kind, by simp [deadline?, h.find?_eq (ArmedTimer.mem_of_first? hfirst)]⟩

theorem nextDeadline?_le {d : Nat} (h : q.nextDeadline? = some d) {timer : ArmedTimer}
    (ht : timer ∈ q.pending) : d ≤ timer.deadline := by
  obtain ⟨first, hfirst, rfl⟩ := Option.map_eq_some_iff.mp h
  exact ArmedTimer.deadline_le_of_first? hfirst ht

theorem pending_of_nextDeadline?_none (h : q.nextDeadline? = none) : q.pending = [] :=
  ArmedTimer.first?_eq_none.mp (Option.map_eq_none_iff.mp h)

/-! ### What is due -/

/-- What is due first is the first of all that is pending. -/
theorem first?_of_due {timer : ArmedTimer} (h : ArmedTimer.first? q.due = some timer) :
    ArmedTimer.first? q.pending = some timer := by
  obtain ⟨hmem, hdue⟩ := List.mem_filter.mp (ArmedTimer.mem_of_first? h)
  cases hfirst : ArmedTimer.first? q.pending with
  | none =>
    rw [ArmedTimer.first?_eq_none.mp hfirst] at hmem
    cases hmem
  | some first =>
    have hle := ArmedTimer.deadline_le_of_first? hfirst hmem
    have hnow : timer.deadline ≤ q.now := of_decide_eq_true hdue
    exact (ArmedTimer.first?_filter hfirst (decide_eq_true (Nat.le_trans hle hnow))).symm.trans h

theorem due_cancel (q : TimerQueue) (k : TimerKind) :
    (q.cancel k).due = q.due.filter fun a => a.kind != k := by
  simp only [due, cancel, List.filter_filter, Bool.and_comm]
  rfl

theorem cancel_cancel (q : TimerQueue) (k : TimerKind) : (q.cancel k).cancel k = q.cancel k := by
  simp [cancel, List.filter_filter]

theorem cancel_eq_self {k : TimerKind} (h : q.isArmed k = false) : q.cancel k = q := by
  rw [isArmed, Option.isSome_eq_false_iff, Option.isNone_iff_eq_none] at h
  have hother : q.pending.filter (fun a => a.kind != k) = q.pending := by
    refine List.filter_eq_self.mpr fun a ha => ?_
    simpa using List.find?_eq_none.mp h a ha
  rw [cancel, hother]

theorem due_arm (q : TimerQueue) (k : TimerKind) {after : Nat} (h : 0 < after) :
    (q.arm k after).due = (q.cancel k).due := by
  have hlater : ∀ a ∈ [(⟨k, q.now + after, q.armings + 1⟩ : ArmedTimer)],
      ¬decide (a.deadline ≤ q.now) = true := by
    intro a ha
    obtain rfl := List.mem_singleton.mp ha
    have hgt : ¬q.now + after ≤ q.now := by omega
    simpa using hgt
  simp only [due, arm, List.filter_append]
  exact (congrArg _ (List.filter_eq_nil_iff.mpr hlater)).trans (List.append_nil _)

theorem length_due_cancel (q : TimerQueue) {a : ArmedTimer} (ha : a ∈ q.pending)
    (hdue : a.deadline ≤ q.now) : (q.cancel a.kind).due.length < q.due.length := by
  have hmem : a ∈ q.due := by simp [due, ha, hdue]
  rw [due_cancel, List.length_filter_lt_length_iff_exists]
  exact ⟨a, hmem, by simp⟩

theorem now_lt_of_popDue?_eq_none (h : q.popDue? = none) {k : TimerKind} {t : Nat}
    (ht : q.deadline? k = some t) : q.now < t := by
  simp only [deadline?, Option.map_eq_some_iff] at ht
  obtain ⟨a, ha, rfl⟩ := ht
  have hnone : q.due = [] := by
    simpa [popDue?, ArmedTimer.first?_eq_none] using h
  rcases Nat.lt_or_ge q.now a.deadline with hlt | hdue
  · exact hlt
  · have hmem : a ∈ q.due := by
      simp only [due, List.mem_filter, decide_eq_true_eq]
      exact ⟨(mem_of_find? ha).1, hdue⟩
    rw [hnone] at hmem
    cases hmem

end TimerQueue

end NoiseControl
