import NoiseControl.Proofs.Earbud.Ordinary
import NoiseControl.Proofs.Earbud.Run

/-!
# A peer in its case

While the peer is in its case nothing is negotiated: there is no request on either side and no agreed
instant to wait for.  The earbud goes on to note whether it observes silence itself, and that is all
there is of quiet mode until the peer is back.
-/

namespace NoiseControl

open QuietMode (Direction Record Synchronizer Effect)

/-! ### A synchronizer without a peer -/

namespace QuietMode.Synchronizer

variable {s : Synchronizer}

/-- Nothing is known of the peer, and nothing of this side but whether it observes silence. -/
structure Alone (s : Synchronizer) : Prop where
  own : s.own = { Record.clear with detected := s.own.detected }
  peer : s.peer = .clear

theorem alone_of_clear (hown : s.own = .clear) (hpeer : s.peer = .clear) : s.Alone :=
  ⟨by rw [hown], hpeer⟩

theorem Alone.noting (h : s.Alone) (silent : Bool) :
    Alone { s with own := { s.own with detected := silent } } where
  own := by rw [h.own]
  peer := h.peer

theorem Alone.requested (h : s.Alone) (d : Direction) :
    s.own.requested d = false ∧ s.peer.requested d = false := by
  rw [h.own, h.peer]
  cases d <;> exact ⟨rfl, rfl⟩

theorem Alone.tryEnable (h : s.Alone) (now : WallClock) :
    s.tryEnable now = (s, if s.own.detected then [.publish s.own] else []) := by
  have hfree : (s.own.enabled || s.own.hasRequest) = false := by
    rw [h.own]
    rfl
  have helects : s.electsEnable = false := by
    simp [electsEnable, h.peer, Record.clear]
  unfold Synchronizer.tryEnable
  rw [hfree, helects]
  cases s.own.detected <;> rfl

theorem Alone.tryDisable (h : s.Alone) (now : WallClock) : s.tryDisable now = (s, []) := by
  have hoff : s.own.enabled = false := by
    rw [h.own]
    rfl
  unfold Synchronizer.tryDisable
  rw [hoff]
  rfl

theorem Alone.fire (h : s.Alone) (d : Direction) : s.fire d = (s, []) := by
  unfold Synchronizer.fire
  rw [(h.requested d).1, (h.requested d).2]
  rfl

/-- Without the peer's records a synchronizer at most tells what it observes. -/
theorem Alone.operate (h : s.Alone) {o : Operation} (ho : ∀ r now, o ≠ .peerRecord r now) :
    (s.operate o).1.Alone ∧ ∀ e ∈ (s.operate o).2, ∃ r, e = .publish r := by
  cases o with
  | detected now =>
    have hnoted := h.noting true
    rw [show s.operate (.detected now) = _ from hnoted.tryEnable now]
    exact ⟨hnoted, fun e he => ⟨_, List.mem_singleton.mp he⟩⟩
  | cleared now =>
    have hnoted := h.noting false
    rw [show s.operate (.cleared now) = _ from hnoted.tryDisable now]
    exact ⟨hnoted, nofun⟩
  | peerRecord r now => exact absurd rfl (ho r now)
  | fire d =>
    rw [show s.operate (.fire d) = _ from h.fire d]
    exact ⟨h, nofun⟩

end QuietMode.Synchronizer

namespace Earbud

variable {a b : Earbud} {e : Event}

/-! ### An earbud whose peer is in its case -/

/-- No negotiation is under way, and none is due to begin. -/
structure Alone (b : Earbud) : Prop where
  records : b.quietMode.Alone
  timers : ∀ d, b.timers.isArmed (.quietMode d) = false

theorem Alone.work (h : Alone a) (w : Work apart a b) : Alone b where
  records := by
    rw [(w.silent rfl).1]
    exact h.records
  timers d := (w.isArmed rfl).trans (h.timers d)

theorem timers_publish {effects : List Effect} (h : ∀ e ∈ effects, ∃ r, e = .publish r) (b : Earbud) :
    (effects.foldl carryOut b).timers = b.timers := by
  induction effects generalizing b with
  | nil => rfl
  | cons e rest ih =>
    obtain ⟨r, rfl⟩ := h e List.mem_cons_self
    exact ih (fun e he => h e (List.mem_cons_of_mem _ he)) _

theorem Alone.operate (h : Alone b) {o : Synchronizer.Operation}
    (ho : ∀ r now, o ≠ .peerRecord r now) : Alone (b.adopt (b.quietMode.operate o)) := by
  obtain ⟨hrecords, htells⟩ := h.records.operate ho
  have htimers : (b.adopt (b.quietMode.operate o)).timers = b.timers := timers_publish htells _
  refine ⟨?_, fun d => ?_⟩
  · rw [quietMode_adopt]
    exact hrecords
  · rw [htimers]
    exact h.timers d

theorem Alone.finishFollowUps (h : Alone b) : Alone b.finishFollowUps :=
  finishFollowUps_induction b ⟨h.records, h.timers⟩ fun _ d h => h.operate (o := .fire d) (by simp)

theorem alone_resetQuietMode (b : Earbud) : Alone b.resetQuietMode where
  records := by
    have hreset : b.resetQuietMode.quietMode = b.quietMode.reset.1 := quietMode_adopt b _
    rw [hreset]
    exact Synchronizer.alone_of_clear rfl rfl
  timers d := by
    cases d with
    | enable =>
      cases harmed : b.resetQuietMode.timers.isArmed (.quietMode .enable) with
      | false => rfl
      | true =>
        have hstill := isArmed_of_cancel
          (b := ({ b with quietMode := b.quietMode.reset.1 } : Earbud).cancel (.quietMode .enable)) harmed
        rw [not_isArmed_cancel] at hstill
        cases hstill
    | disable => exact not_isArmed_cancel _ _

/-- An event that makes the negotiation start afresh arms no agreed instant. -/
theorem Alone.restart (h : Alone b) (hafresh : b.startsAfresh e = true) : Alone (b.handle e).1 := by
  obtain ⟨x, y, hbefore, hrestart, hafter⟩ := handle_restart hafresh
  have hx := h.work hbefore
  refine Alone.work ?_ hafter
  cases hrestart with
  | reset => exact alone_resetQuietMode x
  | initialise runtime => exact ⟨Synchronizer.alone_of_clear rfl rfl, hx.timers⟩

theorem Alone.handle (h : Alone b) (hcase : b.runtime.peerInCase = true) : Alone (b.handle e).1 := by
  cases hafresh : b.startsAfresh e with
  | true => exact h.restart hafresh
  | false =>
    rcases handle_gated hafresh with hw | ⟨-, hrecord, o, ho, he⟩
    · exact h.work hw
    · rw [he]
      refine h.operate ?_
      rintro r now rfl
      cases e with
      | peerRecord r' =>
        rw [hrecord ⟨r', rfl⟩] at hcase
        cases hcase
      | timerExpired k => cases k <;> cases ho
      | _ => cases ho

/-- The peer enters its case, or was in it before. -/
theorem alone_peerPlaced {p : Placement} (h : b.runtime.peerInCase = true → Alone b)
    (hcase : (b.peerPlaced p).runtime.peerInCase = true) : Alone (b.peerPlaced p) := by
  unfold peerPlaced at hcase ⊢
  dsimp only at hcase ⊢
  split <;> rename_i hentered
  · have hreset := alone_resetQuietMode (b.setRuntime fun r => { r with peerInCase := p == .inCase })
    split
    · exact hreset.work (((work_announceBothGains _ _).mono gains_within_apart).tail (.arm _ _ rfl))
    · exact hreset
  · rw [if_neg hentered] at hcase
    rw [hcase, Bool.true_and, Bool.not_eq_true', Bool.not_eq_false] at hentered
    obtain ⟨hrecords, htimers⟩ := h hentered
    exact ⟨hrecords, htimers⟩

/-- With the peer in its case after an event, the negotiation rests if it rested before with the peer
in its case. -/
theorem alone_dispatch (h : b.runtime.peerInCase = true → Alone b)
    (hcase : (b.dispatch e).1.runtime.peerInCase = true) : Alone (b.dispatch e).1 := by
  by_cases hplaced : ∃ p, e = .placed .peer p
  · obtain ⟨p, rfl⟩ := hplaced
    rw [runtime_dispatch] at hcase
    exact (alone_peerPlaced h hcase).finishFollowUps
  · have hbefore : b.runtime.peerInCase = true := by
      rwa [peerInCase_dispatch b fun p he => hplaced ⟨p, he⟩] at hcase
    exact ((h hbefore).handle hbefore).finishFollowUps

/-! ### Every run -/

/-- What can happen to an earbud: any move, and an event of any kind, even that of a timer which is
not armed. -/
inductive Incident where
  | move (m : Move)
  | event (e : Event)

def undergo (b : Earbud) : Incident → Earbud
  | .move m => b.perform m
  | .event e => (b.dispatch e).1

theorem Alone.popped {k : TimerKind} {timers : TimerQueue} (h : Alone b)
    (hpop : b.timers.popDue? = some (k, timers)) : Alone { b with timers := timers } := by
  obtain ⟨armed, -, hpopped⟩ := Option.map_eq_some_iff.mp hpop
  obtain ⟨-, rfl⟩ := Prod.mk.inj hpopped
  refine ⟨h.records, fun d => Bool.eq_false_iff.mpr fun harmed => ?_⟩
  have hbefore := isArmed_of_cancel (b := b) harmed
  rw [h.timers d] at hbefore
  cases hbefore

theorem alone_undergo (incident : Incident) (h : b.runtime.peerInCase = true → Alone b) :
    (b.undergo incident).runtime.peerInCase = true → Alone (b.undergo incident) := by
  cases incident with
  | event e => exact alone_dispatch h
  | move m =>
    show (b.perform m).runtime.peerInCase = true → Alone (b.perform m)
    rw [perform_eq]
    cases m with
    | event e he => exact alone_dispatch h
    | wait t => exact fun hcase => ⟨(h hcase).records, (h hcase).timers⟩
    | surround s => exact fun hcase => ⟨(h hcase).records, (h hcase).timers⟩
    | expiry =>
      simp only [dispatched?]
      cases hpop : b.timers.popDue? with
      | none => exact h
      | some popped => exact alone_dispatch fun hcase => (h hcase).popped hpop

/-- Once an event leaves the peer in its case, the peer's record is blank, so is the own record but
for what is observed here, and no agreed instant is waited for. -/
theorem alone_while_peer_in_case (c : Config) (clockOrigin : Option WallClock) (store : SessionStore)
    (incidents : List Incident) :
    let b := incidents.foldl undergo (Earbud.new c clockOrigin store)
    b.runtime.peerInCase = true →
      b.quietMode.own = { Record.clear with detected := b.quietMode.own.detected } ∧
        b.quietMode.peer = .clear ∧ ∀ d, b.timers.isArmed (.quietMode d) = false := by
  have hrun : ∀ b : Earbud, (b.runtime.peerInCase = true → Alone b) →
      (incidents.foldl undergo b).runtime.peerInCase = true → Alone (incidents.foldl undergo b) := by
    induction incidents with
    | nil => exact fun _ h => h
    | cons incident rest ih => exact fun b h => ih _ (alone_undergo incident h)
  intro b hcase
  obtain ⟨⟨hown, hpeer⟩, htimers⟩ := hrun (.new c clockOrigin store) nofun hcase
  exact ⟨hown, hpeer, htimers⟩

theorem alone_while_peer_in_case_negotiating :
    let incidents : List Incident :=
      [.move (.event .initialise), .move (.event .powerOn), .move (.event .enable), .move .expiry,
        .move (.event .silenceDetected), .event (.peerRecord { detected := true }),
        .event (.placed .peer .inCase), .move (.event .silenceDetected),
        .event (.peerRecord { enableRequested := true }), .event (.quietModeFire .disable)]
    let b := incidents.foldl undergo (Earbud.new (.standard "") none {})
    b.runtime.peerInCase = true ∧
      b.quietMode.own = { Record.clear with detected := b.quietMode.own.detected } ∧
        b.quietMode.peer = .clear ∧ ∀ d, b.timers.isArmed (.quietMode d) = false :=
  ⟨by decide, alone_while_peer_in_case (.standard "") none {} _ (by decide)⟩

end Earbud

end NoiseControl
