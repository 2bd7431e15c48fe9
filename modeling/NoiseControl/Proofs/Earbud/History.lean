import NoiseControl.Proofs.Earbud.Course
import NoiseControl.Proofs.Earbud.Run
import NoiseControl.Proofs.Trace

/-!
# What the history tells

The history of an earbud only grows.  Of the commands in it some bear on a matter, such as whether a
link is attached; the last of them says how the matter stands, and while no more of them are given
it stands as it did.
-/

namespace NoiseControl

/-- What a command says on a matter, given whether it was carried out; nothing if it does not bear
on it. -/
abbrev Matter (α : Type) := AudioCommand → Bool → Option α

def Activity.tells {α : Type} (matter : Matter α) : Activity → Option α
  | .audio c done => matter c done
  | _ => none

namespace Earbud

variable {α : Type} {x : Extent} {a b : Earbud} {matter : Matter α}

def latest? (b : Earbud) (matter : Matter α) : Option α := b.history.findSome? (Activity.tells matter)

/-- How many commands bore on a matter. -/
def tally (b : Earbud) (matter : Matter α) : Nat :=
  b.history.countP fun activity => (activity.tells matter).isSome

/-! ### Growth -/

theorem Touch.history (t : Touch x a b) :
    ∃ newer, b.history = newer ++ a.history ∧
      ∀ c done, Activity.audio c done ∈ newer → x.audio c = true := by
  have hsame : a.history = [] ++ a.history ∧
      ∀ c done, Activity.audio c done ∈ ([] : List Activity) → x.audio c = true :=
    ⟨rfl, fun _ _ h => nomatch h⟩
  cases t with
  | command c hc =>
    refine ⟨[.audio c true], rfl, fun c' done h => ?_⟩
    obtain ⟨rfl, -⟩ : c' = c ∧ done = true := by simpa using h
    exact hc
  | attempt c hc =>
    have hadded : ∃ done, (a.attempt c).1.history = [.audio c done] ++ a.history := by
      rcases attempt_fst a c with h | h <;> rw [h]
      · exact ⟨false, rfl⟩
      · exact ⟨true, rfl⟩
    obtain ⟨done, hadded⟩ := hadded
    refine ⟨_, hadded, fun c' done' h => ?_⟩
    obtain ⟨rfl, -⟩ : c' = c ∧ done' = done := by simpa using h
    exact hc
  | save s =>
    have hadded : ∃ done, (a.saveSession s).history = [.saved s done] ++ a.history := by
      unfold saveSession
      split
      · exact ⟨false, rfl⟩
      · exact ⟨true, rfl⟩
    obtain ⟨done, hadded⟩ := hadded
    exact ⟨_, hadded, fun c done' h => by simp at h⟩
  | send r => exact ⟨[.sent r], rfl, fun c done h => by simp at h⟩
  | _ => exact ⟨[], hsame⟩

/-- Work adds to the history, and no commands but those of its extent. -/
theorem Work.history (w : Work x a b) :
    ∃ newer, b.history = newer ++ a.history ∧
      ∀ c done, Activity.audio c done ∈ newer → x.audio c = true := by
  induction w with
  | refl => exact ⟨[], rfl, fun _ _ h => nomatch h⟩
  | tail _ t ih =>
    obtain ⟨newer, he, hin⟩ := ih
    obtain ⟨newest, he', hin'⟩ := t.history
    refine ⟨newest ++ newer, by rw [he', he, List.append_assoc], fun c done h => ?_⟩
    rcases List.mem_append.mp h with h | h
    · exact hin' c done h
    · exact hin c done h

theorem Touch.unsaved (t : Touch x a b) (hx : x.saves = false) :
    b.store = a.store ∧
      ∃ newer, b.history = newer ++ a.history ∧ ∀ s done, Activity.saved s done ∉ newer := by
  cases t with
  | command c => exact ⟨rfl, [.audio c true], rfl, by simp⟩
  | attempt c =>
    rcases attempt_fst a c with he | he <;> rw [he]
    · exact ⟨rfl, [.audio c false], rfl, by simp⟩
    · exact ⟨rfl, [.audio c true], rfl, by simp⟩
  | save s hsaves => exact nomatch hx.symm.trans hsaves
  | send r => exact ⟨rfl, [.sent r], rfl, by simp⟩
  | _ => exact ⟨rfl, [], rfl, by simp⟩

/-- Work that does not save the session leaves the session that was saved. -/
theorem Work.unsaved (w : Work x a b) (hx : x.saves = false) :
    b.store = a.store ∧
      ∃ newer, b.history = newer ++ a.history ∧ ∀ s done, Activity.saved s done ∉ newer := by
  induction w with
  | refl => exact ⟨rfl, [], rfl, by simp⟩
  | tail _ t ih =>
    obtain ⟨hstore, newer, he, hnone⟩ := ih
    obtain ⟨hstore', newest, he', hnone'⟩ := t.unsaved hx
    refine ⟨hstore'.trans hstore, newest ++ newer, by rw [he', he, List.append_assoc], ?_⟩
    intro s done h
    rcases List.mem_append.mp h with h | h
    · exact hnone' s done h
    · exact hnone s done h

theorem Work.history_suffix (w : Work x a b) : a.history <:+ b.history := by
  obtain ⟨newer, he, -⟩ := w.history
  exact ⟨newer, he.symm⟩

theorem tally_le (h : a.history <:+ b.history) (matter : Matter α) :
    a.tally matter ≤ b.tally matter :=
  h.sublist.countP_le

theorem latest?_eq_of_tally_eq (h : a.history <:+ b.history) (hn : b.tally matter = a.tally matter) :
    b.latest? matter = a.latest? matter := by
  obtain ⟨newer, he⟩ := h
  unfold tally at hn
  rw [← he, List.countP_append, Nat.add_eq_right, List.countP_eq_zero] at hn
  have hnone : newer.findSome? (Activity.tells matter) = none :=
    List.findSome?_eq_none_iff.mpr fun activity hmem => by simpa using hn activity hmem
  unfold latest?
  rw [← he, List.findSome?_append, hnone, Option.none_or]

/-- Work whose commands do not bear on a matter leaves it as it stands. -/
theorem Work.tally (w : Work x a b) (h : ∀ c done, x.audio c = true → matter c done = none) :
    b.tally matter = a.tally matter := by
  obtain ⟨newer, he, hin⟩ := w.history
  have hzero : newer.countP (fun activity => (activity.tells matter).isSome) = 0 := by
    refine List.countP_eq_zero.mpr fun activity hmem => ?_
    cases activity with
    | audio c done => simp [Activity.tells, h c done (hin c done hmem)]
    | sent r => simp [Activity.tells]
    | saved s done => simp [Activity.tells]
  unfold Earbud.tally
  rw [he, List.countP_append, hzero, Nat.zero_add]

theorem Work.latest? (w : Work x a b) (h : ∀ c done, x.audio c = true → matter c done = none) :
    b.latest? matter = a.latest? matter :=
  latest?_eq_of_tally_eq w.history_suffix (w.tally h)

theorem history_attempt (b : Earbud) (c : AudioCommand) :
    (b.attempt c).1.history = .audio c (b.attempt c).2 :: b.history := by
  rcases attempt_cases b c with h | h
  · rw [h]
  · rw [h]
    rfl

theorem tally_attempt (b : Earbud) (c : AudioCommand) :
    (b.attempt c).1.tally matter =
      b.tally matter + if (matter c (b.attempt c).2).isSome then 1 else 0 := by
  unfold Earbud.tally
  rw [history_attempt, List.countP_cons]
  rfl

/-- Initialisation starts the hardware and gives it no other command. -/
theorem tally_start (b : Earbud)
    (h : ∀ microphones mode done, matter (.start microphones mode) done = none) :
    b.start.1.tally matter = b.tally matter := by
  have hprobe : ∀ microphones mode,
      (b.loadSession.1.attempt (.start microphones mode)).1.tally matter = b.tally matter := by
    intro microphones mode
    rw [tally_attempt, h]
    rfl
  rcases start_fst b with ⟨he, -⟩ | ⟨microphones, mode, ⟨he, -⟩ | ⟨enabled, he, -⟩⟩ <;> rw [he]
  · exact hprobe microphones mode
  · exact ((parts_enter _ .powerOff).tally fun _ _ hc => nomatch hc).trans (hprobe microphones mode)

/-- What work cannot have said was said before, and nothing was said since. -/
theorem Work.unsaid {v : α} (w : Work x a b) (h : ∀ c done, x.audio c = true → matter c done ≠ some v)
    (hb : b.latest? matter = some v) : b.tally matter = a.tally matter := by
  obtain ⟨newer, he, hin⟩ := w.history
  unfold Earbud.latest? at hb
  rw [he, List.findSome?_append] at hb
  have hnone : newer.findSome? (Activity.tells matter) = none := by
    cases hnew : newer.findSome? (Activity.tells matter) with
    | none => rfl
    | some v' =>
      rw [hnew, Option.some_or, Option.some.injEq] at hb
      obtain ⟨activity, hmem, htells⟩ := List.exists_of_findSome?_eq_some hnew
      rw [hb] at htells
      cases activity with
      | audio c done => exact absurd htells (h c done (hin c done hmem))
      | sent r => cases htells
      | saved s done => cases htells
  have hzero : newer.countP (fun activity => (activity.tells matter).isSome) = 0 := by
    refine List.countP_eq_zero.mpr fun activity hmem => ?_
    simp [List.findSome?_eq_none_iff.mp hnone activity hmem]
  unfold Earbud.tally
  rw [he, List.countP_append, hzero, Nat.zero_add]

theorem activitiesSince_eq {newer : List Activity} (h : b.history = newer ++ a.history) :
    b.activitiesSince a = newer.reverse := by
  unfold activitiesSince
  rw [h, List.length_append, Nat.add_sub_cancel, List.take_left]

/-- The count of the commands that bear on a matter grew exactly if there is one among what was done. -/
theorem tally_lt_iff (h : a.history <:+ b.history) (matter : Matter α) :
    a.tally matter < b.tally matter ↔
      ∃ activity ∈ b.activitiesSince a, (activity.tells matter).isSome = true := by
  obtain ⟨newer, he⟩ := h
  rw [activitiesSince_eq he.symm]
  simp only [List.mem_reverse]
  unfold Earbud.tally
  rw [← he, List.countP_append, Nat.lt_add_left_iff_pos, List.countP_pos_iff]

/-! ### All that an event does -/

def anything : Extent where
  keeps _ := {}
  timer _ := true
  audio _ := true
  talks := true

theorem within_anything (x : Extent) : x.Within anything where
  keeps _ _ _ := rfl
  timer _ _ := rfl
  audio _ _ := rfl
  talks _ := rfl
  tells _ _ := rfl
  saves _ := rfl

theorem Work.anything (w : Work x a b) : Work anything a b := w.mono (within_anything x)

theorem Demand.work (d : Demand a b) : Work anything a b := by
  cases d with
  | beside t => exact Work.anything (.single t)
  | enable => exact (work_requestEnable a).anything
  | disable => exact (work_requestDisable a).anything
  | mode m => exact (work_requestMode a m).anything
  | remember => exact .single (.runtime _ rfl)

theorem Demands.work (ds : Demands a b) : Work anything a b := by
  induction ds with
  | refl => exact .refl
  | tail _ d ih => exact ih.trans d.work

theorem Course.work {e : Event} {y : Earbud × Outcome} (course : Course b e y) :
    Work anything b y.1 := by
  cases course with
  | demands ds => exact ds.work
  | start => exact (work_start b).anything
  | powerOn => exact (work_switchPowerOn b).anything
  | powerOffDisabled => exact .trans (.single (.runtime _ rfl)) (work_enter _ _).anything
  | powerOffEnabled => exact (work_powerOffEnabled b).anything
  | tune kind => exact (work_enterTuning b kind).anything
  | host kind rate => exact (Relation.ReflTransGen.single (.runtime _ rfl)).tail (.command _ rfl)
  | leaveTuning kind next => exact (work_leaveTuning b kind next).anything
  | startAdaptive => exact (work_startAdaptive b).anything
  | switchOff => exact (work_switchOff b _).anything
  | applyPending => exact (work_applyPending b).anything
  | applyGains => exact .single (.command .applyPathGains rfl)

theorem work_dispatch (b : Earbud) (e : Event) : Work anything b (b.dispatch e).1 :=
  (course_handle b e).work.trans (work_finishFollowUps _).anything

theorem config_run (b : Earbud) (moves : List Move) : (b.run moves).config = b.config :=
  run_invariant (P := fun x => x.config = b.config) (fun x e _ h => (work_dispatch x e).config.trans h)
    (fun x k timers _ h => (work_dispatch { x with timers := timers } (.timerExpired k)).config.trans h)
    (fun _ _ h => h) (fun _ _ h => h) rfl moves

theorem history_perform (b : Earbud) (m : Move) : b.history <:+ (b.perform m).history := by
  rw [perform_eq]
  cases m with
  | event e he => exact (work_dispatch b e).history_suffix
  | wait t => exact List.suffix_rfl
  | surround s => exact List.suffix_rfl
  | expiry =>
    simp only [dispatched?]
    cases b.timers.popDue? with
    | none => exact List.suffix_rfl
    | some p => exact (work_dispatch { b with timers := p.2 } _).history_suffix

theorem history_run (b : Earbud) (moves : List Move) : b.history <:+ (b.run moves).history := by
  induction moves generalizing b with
  | nil => exact List.suffix_rfl
  | cons m rest ih => exact (history_perform b m).trans (ih (b.perform m))

end Earbud

end NoiseControl
