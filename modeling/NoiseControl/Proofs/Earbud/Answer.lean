import NoiseControl.Proofs.Earbud.Expiry
import NoiseControl.Proofs.Earbud.Reticence
import NoiseControl.Proofs.QuietMode.Answer

/-!
# Records that answer records

An earbud sends at most one record on account of one that it is handed, and what it sends goes with
the requests in its own record.  Between two events its own record asks only for the transition that
leaves its present state, and nothing is left to be done.
-/

namespace NoiseControl

open QuietMode (Direction Record Synchronizer Effect)

namespace Earbud

variable {x : Extent} {a b : Earbud} {e : Event}

/-! ### The link -/

/-- A touch sends one record or leaves the link and what was sent alone. -/
theorem Touch.link (t : Touch x a b) :
    (b.outbox = a.outbox ∧ b.recordsSent = a.recordsSent) ∨
      ∃ r, b.outbox = a.outbox.send r ∧ b.recordsSent = r :: a.recordsSent := by
  cases t with
  | send r => exact Or.inr ⟨r, rfl, rfl⟩
  | attempt c =>
    refine Or.inl ?_
    rcases attempt_fst a c with he | he <;> rw [he] <;> exact ⟨rfl, rfl⟩
  | save s =>
    refine Or.inl ?_
    unfold saveSession
    split <;> exact ⟨rfl, rfl⟩
  | _ => exact Or.inl ⟨rfl, rfl⟩

theorem waiting?_send {r : Record} (h : b.outbox = a.outbox.send r) :
    b.waiting? = if a.outbox.connected then some r else none := by
  unfold waiting?
  rw [h]
  cases hc : a.outbox.connected <;> simp [PeerLink.send, PeerLink.take, hc]

theorem outbox_carryOut (effects : List Effect) (b : Earbud) :
    (effects.foldl carryOut b).outbox =
      (effects.filterMap Effect.record?).foldl PeerLink.send b.outbox := by
  induction effects generalizing b with
  | nil => rfl
  | cons e rest ih =>
    rw [List.foldl_cons, ih]
    cases e <;> rfl

theorem outbox_adopt_silent {y : Synchronizer.Decision} (h : ∀ r, .publish r ∉ y.2) :
    (b.adopt y).outbox = b.outbox := by
  have hnone : y.2.filterMap Effect.record? = [] := by
    refine List.filterMap_eq_nil_iff.mpr fun e he => ?_
    cases e with
    | publish r => exact absurd he (h r)
    | _ => rfl
  have hsent := outbox_carryOut y.2 { b with quietMode := y.1 }
  rwa [hnone] at hsent

theorem outbox_adopt_fire (b : Earbud) (d : Direction) :
    (b.adopt (b.quietMode.fire d)).outbox = b.outbox := by
  refine outbox_adopt_silent fun r hr => ?_
  rcases b.quietMode.effects_fire d with hnone | ⟨e, he, hswitch⟩
  · rw [hnone] at hr
    cases hr
  · rw [he, List.mem_singleton] at hr
    rcases hswitch with rfl | rfl <;> cases hr

theorem outbox_finishFollowUps (b : Earbud) : b.finishFollowUps.outbox = b.outbox :=
  finishFollowUps_induction (P := fun x => x.outbox = b.outbox) b rfl fun x d h =>
    (outbox_adopt_fire x d).trans h

/-! ### Between two events -/

/-- Nothing is left to do, the own record is coherent, and a record that counts as new on the link is
there. -/
structure Tidy (b : Earbud) : Prop where
  done : b.followUps = []
  coherent : b.quietMode.own.Coherent
  link : b.outbox.fresh = true → b.outbox.latest.isSome = true

theorem Work.link (w : Work x a b) (h : a.outbox.fresh = true → a.outbox.latest.isSome = true) :
    b.outbox.fresh = true → b.outbox.latest.isSome = true := by
  induction w with
  | refl => exact h
  | tail _ t ih =>
    rcases t.link with ⟨ho, -⟩ | ⟨r, ho, -⟩ <;> rw [ho]
    · exact ih
    · exact fun _ => rfl

theorem coherent_handle (h : b.quietMode.own.Coherent) (e : Event) :
    (b.handle e).1.quietMode.own.Coherent := by
  cases hafresh : b.startsAfresh e with
  | true =>
    rw [(handle_afresh hafresh).own]
    exact Synchronizer.coherent_clear
  | false =>
    rcases handle_operation hafresh with hw | ⟨o, ho⟩
    · rw [(hw.silent rfl).1]
      exact h
    · rw [ho, quietMode_adopt]
      exact Synchronizer.coherent_operate h o

theorem Tidy.dispatch (h : Tidy b) (e : Event) : Tidy (b.dispatch e).1 where
  done := followUps_finishFollowUps _
  coherent :=
    finishFollowUps_induction (P := fun x => x.quietMode.own.Coherent) _ (coherent_handle h.coherent e)
      fun x d hx => by
        rw [quietMode_adopt]
        exact Synchronizer.coherent_fire hx d
  link := (work_dispatch b e).link h.link

theorem Tidy.taken (h : Tidy b) : Tidy b.taken where
  done := h.done
  coherent := h.coherent
  link := by
    show b.outbox.take.1.fresh = true → b.outbox.take.1.latest.isSome = true
    unfold PeerLink.take
    split
    · exact nofun
    · exact h.link

theorem Tidy.timers (h : Tidy b) (q : TimerQueue) : Tidy { b with timers := q } :=
  ⟨h.done, h.coherent, h.link⟩

/-- Where nothing waits there is nothing to take. -/
theorem Tidy.taken_eq (h : Tidy b) (hw : b.waiting? = none) : b.taken = b := by
  have htake : b.outbox.take.1 = b.outbox := by
    unfold waiting? PeerLink.take at hw
    unfold PeerLink.take
    split at hw <;> rename_i hfresh
    · have hnone : b.outbox.latest = none := hw
      have hsome := h.link (Bool.and_eq_true_iff.mp hfresh).2
      rw [hnone] at hsome
      cases hsome
    · rw [if_neg hfresh]
  unfold Earbud.taken
  rw [htake]

/-! ### Answers -/

/-- Whether the earbud has a request of its own. -/
def busy (b : Earbud) : Bool := b.quietMode.own.hasRequest

/-- On a record that it is handed an earbud sends nothing or an answer. -/
theorem Tidy.answers (h : Tidy b) (hw : b.waiting? = none) (r : Record) :
    let after := (b.dispatch (.peerRecord r)).1
    after.waiting? = none ∨ ∃ r', after.waiting? = some r' ∧ Record.Answer b.busy r after.busy r' := by
  intro after
  have hafter : after = (b.receiveRecord r).finishFollowUps := rfl
  have hsends : ∀ r', after.outbox = b.outbox.send r' → Record.Answer b.busy r after.busy r' →
      after.waiting? = none ∨
        ∃ r', after.waiting? = some r' ∧ Record.Answer b.busy r after.busy r' := by
    intro r' hsent hanswer
    rw [waiting?_send hsent]
    split
    · exact Or.inr ⟨r', rfl, hanswer⟩
    · exact Or.inl rfl
  unfold receiveRecord at hafter
  split at hafter
  · rw [finishFollowUps_eq_self b h.done] at hafter
    exact Or.inl (hafter ▸ hw)
  · have hanswers := b.quietMode.peerRecord_answers r b.wallNow
    generalize b.quietMode.peerRecord r b.wallNow = y at hanswers hafter
    have houtbox : after.outbox = (b.adopt y).outbox := by
      rw [hafter, outbox_finishFollowUps]
    cases hanswers with
    | silently hsilent =>
      refine Or.inl ?_
      rw [waiting?, houtbox, outbox_adopt_silent hsilent]
      exact hw
    | elected d free plain =>
      have hsame : after = b.adopt ((b.quietMode.hearing r).schedule d b.wallNow) :=
        hafter.trans (finishFollowUps_eq_self _ h.done)
      have hbusy : after.busy = true := by
        rw [hsame, busy, quietMode_adopt]
        exact Synchronizer.hasRequest_schedule _ d _
      exact hsends _ houtbox (.election free plain (Synchronizer.hasRequest_schedule _ d _) hbusy)
    | telling free plain silent unaware =>
      have hsame : after = b.adopt (b.quietMode.hearing r, [.publish b.quietMode.own]) :=
        hafter.trans (finishFollowUps_eq_self _ h.done)
      have hfree : after.busy = false := by
        rw [hsame]
        exact free
      exact hsends _ houtbox (.greeting free plain unaware silent free hfree)
    | yielding d asked request =>
      have hplain := Synchronizer.hasRequest_yieldRequest h.coherent asked r
      have hbusy : b.busy = true := by
        cases hfree : b.busy with
        | true => rfl
        | false =>
          exact absurd ((Record.plain_of_hasRequest hfree d).symm.trans asked) Bool.false_ne_true
      -- A transition that is due at once takes no request back up.
      have hfree : after.busy = false := by
        rw [hafter]
        refine finishFollowUps_induction (P := fun x => x.busy = false) _ ?_ fun x d' hx => ?_
        · rw [busy]
          exact (congrArg (fun s : Synchronizer => s.own.hasRequest) (quietMode_adopt b _)).trans hplain
        · rw [busy, quietMode_adopt]
          exact Synchronizer.hasRequest_fire hx d'
      have hsent : (b.adopt ((b.quietMode.hearing r).yieldRequest d,
          [.publish ((b.quietMode.hearing r).yieldRequest d).own, Synchronizer.follow d r b.wallNow])).outbox =
            b.outbox.send ((b.quietMode.hearing r).yieldRequest d).own := by
        unfold Synchronizer.follow
        split <;> rfl
      exact hsends _ (houtbox.trans hsent) (.surrender hbusy request hplain hfree)

end Earbud

end NoiseControl
