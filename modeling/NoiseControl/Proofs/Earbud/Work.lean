import Mathlib.Logic.Relation
import NoiseControl.Earbud.Dispatch
import NoiseControl.Proofs.Timer.Order

/-!
# Work and its extent

Whatever an earbud does is made of elementary touches: a change of the runtime state, a timer armed
or cancelled, a command to the audio chain, a notification, an access to the session store, a step
of the negotiation.  An extent bounds them, and work of an extent is any number of touches within
it.  What lies outside the extent stays as it was, so each function is followed once, to find its
extent.
-/

namespace NoiseControl.Earbud

/-- How far a piece of work may reach. -/
structure Extent where
  /-- The part of the runtime state that is left alone; the rest of it is blanked. -/
  keeps : Runtime → Runtime
  timer : TimerKind → Bool
  audio : AudioCommand → Bool
  /-- Whether the negotiation may go on. -/
  talks : Bool
  /-- What the clients may be told. -/
  tells : Notification → Bool := fun _ => true
  /-- Whether the session may be saved. -/
  saves : Bool := true

inductive Touch (x : Extent) : Earbud → Earbud → Prop where
  | runtime {b : Earbud} (change : Runtime → Runtime)
      (h : x.keeps (change b.runtime) = x.keeps b.runtime) : Touch x b (b.setRuntime change)
  | arm {b : Earbud} (k : TimerKind) (after : Nat) (h : x.timer k = true) : Touch x b (b.arm k after)
  | cancel {b : Earbud} (k : TimerKind) (h : x.timer k = true) : Touch x b (b.cancel k)
  | announce {b : Earbud} (n : Notification) (h : x.tells n = true := by rfl) :
      Touch x b (b.announce n)
  | command {b : Earbud} (c : AudioCommand) (h : x.audio c = true) : Touch x b (b.command c)
  | attempt {b : Earbud} (c : AudioCommand) (h : x.audio c = true) : Touch x b (b.attempt c).1
  | load {b : Earbud} : Touch x b b.loadSession.1
  | save {b : Earbud} (s : Session) (h : x.saves = true := by rfl) : Touch x b (b.saveSession s)
  | negotiate {b : Earbud} (q : QuietMode.Synchronizer) (h : x.talks = true) :
      Touch x b { b with quietMode := q }
  | defer {b : Earbud} (ds : List QuietMode.Direction) (h : x.talks = true) :
      Touch x b { b with followUps := ds }
  | send {b : Earbud} (r : QuietMode.Record) (h : x.talks = true) : Touch x b (b.sendRecord r)

abbrev Work (x : Extent) : Earbud → Earbud → Prop := Relation.ReflTransGen (Touch x)

variable {x y : Extent} {a b : Earbud}

theorem attempt_cases (b : Earbud) (c : AudioCommand) :
    b.attempt c = ({ b with calls := b.calls + 1, history := .audio c false :: b.history }, false) ∨
      b.attempt c = ({ b.command c with calls := b.calls + 1 }, true) := by
  unfold attempt
  split
  · exact Or.inl rfl
  · exact Or.inr rfl

theorem attempt_fst (b : Earbud) (c : AudioCommand) :
    (b.attempt c).1 = { b with calls := b.calls + 1, history := .audio c false :: b.history } ∨
      (b.attempt c).1 = { b.command c with calls := b.calls + 1 } :=
  (attempt_cases b c).imp (congrArg Prod.fst) (congrArg Prod.fst)

@[simp]
theorem runtime_attempt (b : Earbud) (c : AudioCommand) : (b.attempt c).1.runtime = b.runtime := by
  rcases attempt_fst b c with h | h
  · rw [h]
  · rw [h]
    rfl

@[simp]
theorem runtime_saveSession (b : Earbud) (s : Session) : (b.saveSession s).runtime = b.runtime := by
  unfold saveSession
  split <;> rfl

theorem audio_attempt (b : Earbud) (c : AudioCommand) :
    (b.attempt c).1.audio = b.audio ∨ (b.attempt c).1.audio = b.audio.perform c := by
  rcases attempt_fst b c with h | h <;> rw [h]
  · exact Or.inl rfl
  · exact Or.inr rfl

@[simp]
theorem audio_saveSession (b : Earbud) (s : Session) : (b.saveSession s).audio = b.audio := by
  unfold saveSession
  split <;> rfl

theorem timers_saveSession (b : Earbud) (s : Session) : (b.saveSession s).timers = b.timers := by
  unfold saveSession
  split <;> rfl

theorem isArmed_arm (b : Earbud) (k : TimerKind) (after : Nat) :
    (b.arm k after).timers.isArmed k = true := by
  simp [arm, TimerQueue.isArmed, TimerQueue.find?_arm]

theorem not_isArmed_cancel (b : Earbud) (k : TimerKind) : (b.cancel k).timers.isArmed k = false := by
  simp [cancel, TimerQueue.isArmed, TimerQueue.find?_cancel]

theorem cancel_eq_self {k : TimerKind} (h : b.timers.isArmed k = false) : b.cancel k = b := by
  rw [cancel, TimerQueue.cancel_eq_self h]

/-- What is armed after a timer was cancelled was armed before. -/
theorem isArmed_of_cancel {k k' : TimerKind} (h : (b.cancel k').timers.isArmed k = true) :
    b.timers.isArmed k = true := by
  simp only [cancel, TimerQueue.isArmed, TimerQueue.find?_cancel] at h ⊢
  split at h
  · cases h
  · exact h

/-! ### What work leaves alone -/

theorem Touch.only (h : Touch x a b) :
    b = { a with
      runtime := b.runtime, quietMode := b.quietMode, followUps := b.followUps, timers := b.timers,
      audio := b.audio, store := b.store, calls := b.calls, outbox := b.outbox,
      clients := b.clients, history := b.history } := by
  cases h with
  | attempt c =>
    rcases attempt_fst a c with h | h
    · rw [h]
    · rw [h]
      rfl
  | save s =>
    unfold saveSession
    split <;> rfl
  | _ => rfl

/-- No work reaches what the earbud was set up with. -/
theorem Work.only (w : Work x a b) :
    b = { a with
      runtime := b.runtime, quietMode := b.quietMode, followUps := b.followUps, timers := b.timers,
      audio := b.audio, store := b.store, calls := b.calls, outbox := b.outbox,
      clients := b.clients, history := b.history } := by
  induction w with
  | refl => rfl
  | tail _ h ih =>
    have h := h.only
    rw [ih] at h
    exact h

theorem Work.config (w : Work x a b) : b.config = a.config :=
  (congrArg Earbud.config w.only).trans rfl

theorem Work.clockOrigin (w : Work x a b) : b.clockOrigin = a.clockOrigin :=
  (congrArg Earbud.clockOrigin w.only).trans rfl

theorem Work.failures (w : Work x a b) : b.failures = a.failures :=
  (congrArg Earbud.failures w.only).trans rfl

theorem Touch.silent (h : Touch x a b) (hx : x.talks = false) :
    b.quietMode = a.quietMode ∧ b.followUps = a.followUps ∧ b.outbox = a.outbox := by
  cases h with
  | attempt c => rcases attempt_fst a c with h | h <;> rw [h] <;> exact ⟨rfl, rfl, rfl⟩
  | save s =>
    unfold saveSession
    split <;> exact ⟨rfl, rfl, rfl⟩
  | negotiate q h => simp [hx] at h
  | defer ds h => simp [hx] at h
  | send r h => simp [hx] at h
  | _ => exact ⟨rfl, rfl, rfl⟩

/-- Work that does not negotiate leaves the records, what is to be done later and the link alone. -/
theorem Work.silent (w : Work x a b) (hx : x.talks = false) :
    b.quietMode = a.quietMode ∧ b.followUps = a.followUps ∧ b.outbox = a.outbox := by
  induction w with
  | refl => exact ⟨rfl, rfl, rfl⟩
  | tail _ h ih =>
    have h := h.silent hx
    exact ⟨h.1.trans ih.1, h.2.1.trans ih.2.1, h.2.2.trans ih.2.2⟩

theorem Touch.timers (h : Touch x a b) :
    b.timers = a.timers ∨ ∃ k, x.timer k = true ∧
      (b.timers = a.timers.cancel k ∨ ∃ after, b.timers = a.timers.arm k after) := by
  cases h with
  | arm k after h => exact Or.inr ⟨k, h, Or.inr ⟨after, rfl⟩⟩
  | cancel k h => exact Or.inr ⟨k, h, Or.inl rfl⟩
  | attempt c => rcases attempt_fst a c with h | h <;> rw [h] <;> exact Or.inl rfl
  | save s =>
    unfold saveSession
    split <;> exact Or.inl rfl
  | _ => exact Or.inl rfl

theorem Work.now (w : Work x a b) : b.timers.now = a.timers.now := by
  induction w with
  | refl => rfl
  | tail _ h ih =>
    rw [← ih]
    rcases h.timers with h | ⟨k, -, h | ⟨after, h⟩⟩ <;> rw [h] <;> rfl

theorem Work.find? (w : Work x a b) {k : TimerKind} (hk : x.timer k = false) :
    b.timers.find? k = a.timers.find? k := by
  induction w with
  | refl => rfl
  | tail _ h ih =>
    rw [← ih]
    rcases h.timers with h | ⟨k', hk', h | ⟨after, h⟩⟩
    · rw [h]
    all_goals
      have hne : k ≠ k' := by
        rintro rfl
        simp [hk] at hk'
      simp [h, TimerQueue.find?_cancel, TimerQueue.find?_arm, hne]

theorem Work.isArmed (w : Work x a b) {k : TimerKind} (hk : x.timer k = false) :
    b.timers.isArmed k = a.timers.isArmed k :=
  congrArg Option.isSome (w.find? hk)

theorem Work.deadline? (w : Work x a b) {k : TimerKind} (hk : x.timer k = false) :
    b.timers.deadline? k = a.timers.deadline? k := congrArg (Option.map _) (w.find? hk)

theorem Work.inOrder (w : Work x a b) (h : a.timers.InOrder) : b.timers.InOrder := by
  induction w with
  | refl => exact h
  | tail _ ht ih =>
    rcases ht.timers with ht | ⟨k, -, ht | ⟨after, ht⟩⟩ <;> rw [ht]
    · exact ih
    · exact ih.cancel k
    · exact ih.arm k after

theorem Work.keeps (w : Work x a b) : x.keeps b.runtime = x.keeps a.runtime := by
  induction w with
  | refl => rfl
  | tail _ h ih =>
    rw [← ih]
    cases h with
    | runtime change h => exact h
    | attempt c => rw [runtime_attempt]
    | save s => rw [runtime_saveSession]
    | _ => rfl

theorem Work.audio {α : Type} (w : Work x a b) (part : AudioChain → α)
    (h : ∀ chain c, x.audio c = true → part (chain.perform c) = part chain) :
    part b.audio = part a.audio := by
  induction w with
  | refl => rfl
  | tail _ ht ih =>
    rw [← ih]
    cases ht with
    | command c hc => exact h _ c hc
    | attempt c hc =>
      rcases audio_attempt _ c with e | e <;> rw [e]
      exact h _ c hc
    | save s => rw [audio_saveSession]
    | _ => rfl

theorem Work.adaptive (w : Work x a b) (hon : ∀ inEar path m, x.audio (.adaptiveOn inEar path m) = false)
    (hoff : x.audio .adaptiveOff = false) (hexit : ∀ kind, x.audio (.exitTuning kind) = false) :
    b.audio.adaptive = a.audio.adaptive := by
  refine w.audio AudioChain.adaptive fun chain c hc => ?_
  cases c with
  | setGain ch p g => cases ch <;> rfl
  | adaptiveOn inEar path m => simp [hon] at hc
  | adaptiveOff => simp [hoff] at hc
  | exitTuning kind => simp [hexit] at hc
  | _ => rfl

theorem clients_saveSession (b : Earbud) (s : Session) : (b.saveSession s).clients = b.clients := by
  unfold saveSession
  split <;> rfl

/-- Work tells the clients nothing but what its extent has them told. -/
theorem Work.sent (w : Work x a b) :
    ∃ newer, b.clients.sent = newer ++ a.clients.sent ∧ ∀ n ∈ newer, x.tells n = true := by
  induction w with
  | refl => exact ⟨[], rfl, fun _ h => nomatch h⟩
  | @tail c d _ t ih =>
    obtain ⟨newer, he, hin⟩ := ih
    have hsame : d.clients = c.clients →
        ∃ newer, d.clients.sent = newer ++ a.clients.sent ∧ ∀ n ∈ newer, x.tells n = true := by
      intro hclients
      exact ⟨newer, by rw [hclients, he], hin⟩
    cases t with
    | announce n hn =>
      refine ⟨n :: newer, congrArg (n :: ·) he, fun n' hmem => ?_⟩
      rcases List.mem_cons.mp hmem with rfl | hmem
      · exact hn
      · exact hin n' hmem
    | attempt command =>
      refine hsame ?_
      rcases attempt_fst c command with h | h
      · rw [h]
      · rw [h]
        rfl
    | save s => exact hsame (clients_saveSession c s)
    | _ => exact hsame rfl

/-- Adaptive processing does not start unless it is commanded to. -/
theorem Touch.idle (t : Touch x a b) (hon : ∀ inEar path m, x.audio (.adaptiveOn inEar path m) = false)
    (h : a.audio.adaptive = false) : b.audio.adaptive = false := by
  have hperform : ∀ c, x.audio c = true → (a.audio.perform c).adaptive = false := by
    intro c hc
    cases c with
    | adaptiveOn inEar path m => simp [hon] at hc
    | exitTuning kind => cases kind <;> first | rfl | exact h
    | setGain c => cases c <;> exact h
    | adaptiveOff => rfl
    | _ => exact h
  cases t with
  | command c hc => exact hperform c hc
  | attempt c hc =>
    rcases audio_attempt a c with he | he <;> rw [he]
    · exact h
    · exact hperform c hc
  | save s => rw [audio_saveSession]; exact h
  | _ => exact h

theorem Work.idle (w : Work x a b) (hon : ∀ inEar path m, x.audio (.adaptiveOn inEar path m) = false)
    (h : a.audio.adaptive = false) : b.audio.adaptive = false := by
  induction w with
  | refl => exact h
  | tail _ t ih => exact t.idle hon ih

/-! ### Wider extents -/

structure Extent.Within (x y : Extent) : Prop where
  keeps : ∀ r r', x.keeps r' = x.keeps r → y.keeps r' = y.keeps r
  timer : ∀ k, x.timer k = true → y.timer k = true
  audio : ∀ c, x.audio c = true → y.audio c = true
  talks : x.talks = true → y.talks = true
  tells : ∀ n, x.tells n = true → y.tells n = true
  saves : x.saves = true → y.saves = true

theorem Extent.Within.trans {z : Extent} (hxy : x.Within y) (hyz : y.Within z) : x.Within z where
  keeps r r' h := hyz.keeps r r' (hxy.keeps r r' h)
  timer k h := hyz.timer k (hxy.timer k h)
  audio c h := hyz.audio c (hxy.audio c h)
  talks h := hyz.talks (hxy.talks h)
  tells n h := hyz.tells n (hxy.tells n h)
  saves h := hyz.saves (hxy.saves h)

theorem Touch.mono (hxy : x.Within y) (h : Touch x a b) : Touch y a b := by
  cases h with
  | runtime change h => exact .runtime change (hxy.keeps _ _ h)
  | arm k after h => exact .arm k after (hxy.timer k h)
  | cancel k h => exact .cancel k (hxy.timer k h)
  | announce n h => exact .announce n (hxy.tells n h)
  | command c h => exact .command c (hxy.audio c h)
  | attempt c h => exact .attempt c (hxy.audio c h)
  | load => exact .load
  | save s h => exact .save s (hxy.saves h)
  | negotiate q h => exact .negotiate q (hxy.talks h)
  | defer ds h => exact .defer ds (hxy.talks h)
  | send r h => exact .send r (hxy.talks h)

theorem Work.mono (w : Work x a b) (hxy : x.Within y) : Work y a b :=
  Relation.ReflTransGen.mono (fun _ _ => Touch.mono hxy) _ _ w

theorem Work.foldl {α : Type} {f : Earbud → α → Earbud} (hf : ∀ b e, Work x b (f b e)) (l : List α)
    (b : Earbud) : Work x b (l.foldl f b) := by
  induction l generalizing b with
  | nil => exact .refl
  | cons e rest ih => exact (hf b e).trans (ih (f b e))

/-! ### Negotiating -/

theorem work_adopt (b : Earbud) (decision : QuietMode.Synchronizer.Decision) (hx : x.talks = true)
    (ht : ∀ d, x.timer (.quietMode d) = true) (hon : x.audio .quietModeOn = true)
    (hoff : x.audio .quietModeOff = true)
    (hrecord : ∀ r, x.tells (.quietModeUpdated r) = true := by exact fun _ => rfl)
    (hquiet : x.tells .quietModeOn = true ∧ x.tells .quietModeOff = true := by exact ⟨rfl, rfl⟩) :
    Work x b (b.adopt decision) := by
  have hcarry : ∀ b e, Work x b (carryOut b e) := by
    intro b e
    cases e with
    | arm d after => exact .single (.arm _ _ (ht d))
    | fireNow d => exact .single (.defer _ hx)
    | cancel d => exact .single (.cancel _ (ht d))
    | publish r => exact (Relation.ReflTransGen.single (.announce _ (hrecord r))).tail (.send _ hx)
    | switchOn => exact (Relation.ReflTransGen.single (.command _ hon)).tail (.announce _ hquiet.1)
    | switchOff => exact (Relation.ReflTransGen.single (.command _ hoff)).tail (.announce _ hquiet.2)
  exact (Relation.ReflTransGen.single (.negotiate decision.1 hx)).trans (Work.foldl hcarry _ _)

@[simp]
theorem runtime_adopt (b : Earbud) (decision : QuietMode.Synchronizer.Decision) :
    (b.adopt decision).runtime = b.runtime := by
  have hcarry : ∀ x e, (carryOut x e).runtime = x.runtime := fun x e => by cases e <;> rfl
  refine List.foldlRecOn (motive := fun x => x.runtime = b.runtime) decision.2 carryOut ?_
    fun x h e _ => (hcarry x e).trans h
  rfl

theorem quietMode_adopt (b : Earbud) (decision : QuietMode.Synchronizer.Decision) :
    (b.adopt decision).quietMode = decision.1 := by
  have hcarry : ∀ x e, (carryOut x e).quietMode = x.quietMode := fun x e => by cases e <;> rfl
  refine List.foldlRecOn (motive := fun x => x.quietMode = decision.1) decision.2 carryOut ?_
    fun x h e _ => (hcarry x e).trans h
  rfl

end NoiseControl.Earbud
