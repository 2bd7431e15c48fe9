import NoiseControl.Proofs.QuietMode.Operation
import NoiseControl.Proofs.QuietMode.Stance

/-!
# What a side decides

A stance covers the records of a side in a regular negotiation.  Here the two records may be any.
A report of silence or a record without a request elects the side, makes it tell, or changes nothing
else; a request of the peer is followed unless an own request stands against it; and an agreed
instant is carried out when either record asks for it.
-/

namespace NoiseControl.QuietMode

namespace Record

variable {r : Record} {d : Direction}

theorem plain_of_hasRequest (h : r.hasRequest = false) : r.Plain := by
  obtain ⟨hon, hoff⟩ := Bool.or_eq_false_iff.mp h
  intro d
  cases d
  · exact hon
  · exact hoff

/-- A record that a side sent tells of its own record: of the silence and of the requests in it. -/
structure Voices (r own : Record) : Prop where
  detected : r.detected = own.detected
  requested : ∀ d, r.requested d = own.requested d

theorem voices_self (r : Record) : r.Voices r := ⟨rfl, fun _ => rfl⟩

end Record

namespace Synchronizer

variable {s : Synchronizer} {now : WallClock} {r : Record} {d : Direction}

/-! ### Elections -/

/-- The elections elect a side for one of the transitions, or nobody. -/
inductive Elects (s : Synchronizer) (now : WallClock) : Decision → Prop where
  | nobody : Elects s now (s, [])
  | on (plain : s.own.Plain) (silent : s.own.detected = true) (mirrored : s.peer.detected = true) :
      Elects s now (s.schedule .enable now)
  | off (plain : s.own.Plain) (enabled : s.own.enabled = true)
      (alone : s.peer.disableRequested = false) : Elects s now (s.schedule .disable now)

theorem hasRequest_schedule (s : Synchronizer) (d : Direction) (now : WallClock) :
    (s.schedule d now).1.own.hasRequest = true := by
  cases d with
  | enable => rfl
  | disable => exact Bool.or_true _

theorem carries_schedule (hs : s.own.Plain) (d : Direction) (now : WallClock) :
    (s.schedule d now).1.own.Carries d (now.add s.delay) := by
  refine ⟨fun d' => ?_, rfl⟩
  have hnone := hs d'
  cases d <;> cases d' <;> first | rfl | exact hnone

/-- A side tells the peer of silence when its copy of the peer's record does not elect it. -/
inductive Tells (s : Synchronizer) : Decision → Prop where
  | intro (plain : s.own.Plain) (silent : s.own.detected = true)
      (unsure : s.peer.detected = true → s.peer.enableRequested = true) :
      Tells s (s, [.publish s.own])

theorem tryEnable_decides (s : Synchronizer) (now : WallClock) :
    s.Elects now (s.tryEnable now) ∨ s.Tells (s.tryEnable now) := by
  unfold tryEnable
  split
  · exact Or.inl .nobody
  · rename_i hfree
    simp only [Bool.or_eq_true, not_or, Bool.not_eq_true] at hfree
    have hplain := Record.plain_of_hasRequest hfree.2
    split
    · rename_i helect
      simp only [electsEnable, Bool.and_eq_true] at helect
      exact Or.inl (.on hplain helect.1.2 helect.2)
    · rename_i helect
      split
      · rename_i hsilent
        refine Or.inr (.intro hplain hsilent fun hpeer => ?_)
        have hown : s.own.enableRequested = false := hplain .enable
        simpa [electsEnable, hown, hsilent, hpeer] using helect
      · exact Or.inl .nobody

theorem tryDisable_elects (s : Synchronizer) (now : WallClock) : s.Elects now (s.tryDisable now) := by
  unfold tryDisable
  split
  · exact .nobody
  · rename_i hfree
    simp only [Bool.or_eq_true, not_or, Bool.not_eq_true, Bool.not_eq_false'] at hfree
    split
    · rename_i helect
      simp only [electsDisable, Bool.and_eq_true, Bool.not_eq_true'] at helect
      exact .off (Record.plain_of_hasRequest hfree.2) hfree.1 helect.1.2
    · exact .nobody

/-- Electing and telling leave the peer's record, and whether quiet mode is on or silence observed,
as they are. -/
theorem Elects.kept {y : Decision} (h : s.Elects now y) :
    y.1.peer = s.peer ∧ y.1.own.enabled = s.own.enabled ∧ y.1.own.detected = s.own.detected := by
  cases h <;> exact ⟨rfl, rfl, rfl⟩

theorem kept_of_decides {y : Decision} (h : s.Elects now y ∨ s.Tells y) :
    y.1.peer = s.peer ∧ y.1.own.enabled = s.own.enabled ∧ y.1.own.detected = s.own.detected := by
  rcases h with helects | htells
  · exact helects.kept
  · cases htells
    exact ⟨rfl, rfl, rfl⟩

theorem kept_tryEnable (s : Synchronizer) (now : WallClock) :
    (s.tryEnable now).1.peer = s.peer ∧ (s.tryEnable now).1.own.enabled = s.own.enabled ∧
      (s.tryEnable now).1.own.detected = s.own.detected :=
  kept_of_decides (s.tryEnable_decides now)

theorem report_decides (s : Synchronizer) (silent : Bool) (now : WallClock) :
    (s.noting silent).Elects now (s.report silent now) ∨
      (s.noting silent).Tells (s.report silent now) := by
  rw [report_eq]
  split
  · exact tryEnable_decides _ now
  · exact Or.inl (tryDisable_elects _ now)

theorem peerRecord_decides (s : Synchronizer) (hr : r.Plain) (now : WallClock) :
    (s.hearing r).Elects now (s.peerRecord r now) ∨ (s.hearing r).Tells (s.peerRecord r now) := by
  rw [peerRecord_plain s hr]
  dsimp only
  cases hon : (s.hearing r).own.enabled with
  | true =>
    rw [tryEnable_on _ hon]
    exact Or.inl (tryDisable_elects _ now)
  | false =>
    have hoff : ((s.hearing r).tryEnable now).1.own.enabled = false :=
      (kept_tryEnable _ now).2.1.trans hon
    rw [tryDisable_off _ hoff, List.append_nil]
    exact (s.hearing r).tryEnable_decides now

/-- News of silence are not answered by news: the side that hears them elects itself. -/
theorem peerRecord_elects (s : Synchronizer) (hr : r.Plain) (hsilent : r.detected = true)
    (now : WallClock) : (s.hearing r).Elects now (s.peerRecord r now) := by
  have h := s.peerRecord_decides hr now
  generalize s.peerRecord r now = decision at h ⊢
  rcases h with h | h
  · exact h
  · cases h with
    | intro plain silent unsure =>
      have hnone : r.enableRequested = false := hr .enable
      cases hnone.symm.trans (unsure hsilent)

/-- A side with a request of its own takes a record without one as it is. -/
theorem peerRecord_of_hasRequest (hs : s.own.hasRequest = true) (hr : r.Plain) (now : WallClock) :
    s.peerRecord r now = (s.hearing r, []) := by
  have hasked : (s.hearing r).own.hasRequest = true := hs
  rw [peerRecord_plain s hr, tryEnable_requested _ hasked]
  dsimp only
  rw [tryDisable_requested _ hasked]
  rfl

/-! ### Requests of the peer -/

/-- What a side makes of a request of its peer. -/
inductive Reply (s : Synchronizer) (r : Record) (d : Direction) (now : WallClock) :
    Decision → Prop where
  | keeps (asked : s.own.requested d = true) : Reply s r d now (s.hearing r, [])
  | yields (asked : s.own.requested d = true) :
      Reply s r d now ((s.hearing r).yieldRequest d,
        [.publish ((s.hearing r).yieldRequest d).own, follow d r now])
  | follows (free : s.own.requested d = false) :
      Reply s r d now (s.hearing r, [follow d r now])

theorem peerRecord_reply (s : Synchronizer) {instant : WallClock} (hr : r.Carries d instant)
    (now : WallClock) : s.Reply r d now (s.peerRecord r now) := by
  rw [peerRecord_request s hr]
  split
  · rename_i hasked
    split
    · exact .keeps hasked
    · exact .yields hasked
  · rename_i hfree
    exact .follows (Bool.eq_false_iff.mpr hfree)

/-- A request of the peer changes nothing in the own record but the request it meets. -/
theorem heard_peerRecord (s : Synchronizer) (hr : r.pending? = some d) (now : WallClock) :
    (s.peerRecord r now).1.peer = r ∧ (s.peerRecord r now).1.own.enabled = s.own.enabled ∧
      (s.peerRecord r now).1.own.detected = s.own.detected ∧
      (s.own.requested d = false → (s.peerRecord r now).1.own = s.own) := by
  rw [peerRecord_asking s hr]
  split
  · rename_i hasked
    split
    · exact ⟨rfl, rfl, rfl, fun _ => rfl⟩
    · refine ⟨rfl, ?_, ?_, fun hfree => nomatch hfree.symm.trans hasked⟩ <;> cases d <;> rfl
  · exact ⟨rfl, rfl, rfl, fun _ => rfl⟩

theorem plain_of_pending? (hr : r.pending? = none) : r.Plain :=
  Record.plain_of_hasRequest (by rw [← Record.isSome_pending?, hr]; rfl)

theorem peer_peerRecord (s : Synchronizer) (r : Record) (now : WallClock) :
    (s.peerRecord r now).1.peer = r := by
  rcases hr : r.pending? with _ | d
  · exact (kept_of_decides (s.peerRecord_decides (plain_of_pending? hr) now)).1
  · exact (s.heard_peerRecord hr now).1

/-! ### Agreed instants -/

theorem fire_unasked (hown : s.own.requested d = false) (hpeer : s.peer.requested d = false) :
    s.fire d = (s, []) := by
  unfold fire
  rw [if_pos (by simp [hown, hpeer])]

theorem fire_enable (h : s.own.enableRequested = true ∨ s.peer.enableRequested = true) :
    s.fire .enable =
      ({ s with
          own := { s.own with enableRequested := false, enabled := true, timestamp := .zero }
          peer := { s.peer with enableRequested := false } }, [.switchOn]) := by
  have hasked : ¬(!s.own.requested .enable && !s.peer.requested .enable) = true := by
    rcases h with h | h <;> simp [Record.requested, h]
  unfold fire
  rw [if_neg hasked]

theorem fire_disable (h : s.own.disableRequested = true ∨ s.peer.disableRequested = true) :
    s.fire .disable = ({ s with own := .clear, peer := .clear }, [.switchOff]) := by
  have hasked : ¬(!s.own.requested .disable && !s.peer.requested .disable) = true := by
    rcases h with h | h <;> simp [Record.requested, h]
  unfold fire
  rw [if_neg hasked]

theorem fire_asked (h : s.own.requested d = true ∨ s.peer.requested d = true) :
    (s.fire d).2 = [d.switch] ∧ (s.fire d).1.own.enabled = decide (d = .enable) ∧
      (s.fire d).1.own.requested d = false ∧ (s.fire d).1.peer.requested d = false := by
  cases d with
  | enable =>
    rw [fire_enable h]
    exact ⟨rfl, rfl, rfl, rfl⟩
  | disable =>
    rw [fire_disable h]
    exact ⟨rfl, rfl, rfl, rfl⟩

/-- To a side without such a request of its own, switching on changes nothing that it would tell. -/
theorem voices_fire_enable (h : s.own.enableRequested = false) :
    s.own.Voices (s.fire .enable).1.own := by
  by_cases hasked : s.own.enableRequested = true ∨ s.peer.enableRequested = true
  · rw [fire_enable hasked]
    refine ⟨rfl, fun d => ?_⟩
    cases d
    · exact h
    · rfl
  · simp only [not_or, Bool.not_eq_true] at hasked
    rw [fire_unasked (d := .enable) hasked.1 hasked.2]
    exact Record.voices_self _

/-- Carrying a transition out leaves nothing to be done later and nothing to tell. -/
theorem effects_fire (s : Synchronizer) (d : Direction) :
    (s.fire d).2 = [] ∨ ∃ e, (s.fire d).2 = [e] ∧ (e = .switchOn ∨ e = .switchOff) := by
  unfold fire
  split
  · exact Or.inl rfl
  · cases d with
    | enable => exact Or.inr ⟨_, rfl, Or.inl rfl⟩
    | disable => exact Or.inr ⟨_, rfl, Or.inr rfl⟩

/-! ### Requests -/

theorem Elects.schedules {y : Decision} (h : s.Elects now y) (hfree : s.own.requested d = false)
    (hasked : y.1.own.requested d = true) : s.own.Plain ∧ y = s.schedule d now := by
  cases h with
  | nobody => exact nomatch hfree.symm.trans hasked
  | on plain =>
    cases d with
    | enable => exact ⟨plain, rfl⟩
    | disable => exact nomatch hfree.symm.trans hasked
  | off plain =>
    cases d with
    | enable => exact nomatch hfree.symm.trans hasked
    | disable => exact ⟨plain, rfl⟩

theorem schedules_of_decides {y : Decision} (h : s.Elects now y ∨ s.Tells y)
    (hfree : s.own.requested d = false) (hasked : y.1.own.requested d = true) :
    s.own.Plain ∧ y = s.schedule d now := by
  rcases h with helects | htells
  · exact helects.schedules hfree hasked
  · cases htells
    exact nomatch hfree.symm.trans hasked

theorem requested_noting (s : Synchronizer) (silent : Bool) (d : Direction) :
    (s.noting silent).own.requested d = s.own.requested d := by
  cases d <;> rfl

/-- A request of the peer takes a request away at most. -/
theorem requested_peerRecord (hr : r.pending? = some d) {d' : Direction}
    (hasked : (s.peerRecord r now).1.own.requested d' = true) : s.own.requested d' = true := by
  rw [peerRecord_asking s hr] at hasked
  split at hasked
  · split at hasked
    · exact hasked
    · rw [requested_yieldRequest] at hasked
      split at hasked
      · cases hasked
      · exact hasked
  · exact hasked

theorem requested_fire (s : Synchronizer) (d d' : Direction)
    (h : (s.fire d').1.own.requested d = true) : d ≠ d' ∧ s.own.requested d = true := by
  unfold fire at h
  split at h <;> rename_i hnone
  · refine ⟨?_, h⟩
    rintro rfl
    simp [h] at hnone
  · cases d' <;> cases d <;> simp_all [Record.requested, Record.clear]

/-- A request comes about in an election alone, at a side without any. -/
theorem operate_schedules {o : Operation} (hfree : s.own.requested d = false)
    (hasked : (s.operate o).1.own.requested d = true) :
    ∃ (now : WallClock) (s' : Synchronizer), o.reading? = some now ∧ s'.delay = s.delay ∧
      s'.own.Plain ∧ s.operate o = s'.schedule d now := by
  cases o with
  | detected now =>
    have hdecides := s.report_decides true now
    exact ⟨now, s.noting true, rfl, rfl,
      schedules_of_decides hdecides ((s.requested_noting true d).trans hfree) hasked⟩
  | cleared now =>
    have hdecides := s.report_decides false now
    exact ⟨now, s.noting false, rfl, rfl,
      schedules_of_decides hdecides ((s.requested_noting false d).trans hfree) hasked⟩
  | peerRecord r now =>
    rcases hr : r.pending? with _ | d'
    · exact ⟨now, s.hearing r, rfl, rfl,
        schedules_of_decides (s.peerRecord_decides (plain_of_pending? hr) now) hfree hasked⟩
    · exact nomatch hfree.symm.trans (requested_peerRecord hr hasked)
  | fire d' => exact nomatch hfree.symm.trans (s.requested_fire d d' hasked).2

theorem operate_eq_schedule {o : Operation} (hfree : s.own.requested d = false)
    (hasked : (s.operate o).1.own.requested d = true) :
    ∃ (now : WallClock) (s' : Synchronizer), o.reading? = some now ∧ s'.delay = s.delay ∧
      s.operate o = s'.schedule d now := by
  obtain ⟨now, s', hnow, hdelay, -, heq⟩ := operate_schedules hfree hasked
  exact ⟨now, s', hnow, hdelay, heq⟩

/-! ### Leaving quiet mode -/

/-- Quiet mode is off at this side, and the negotiation forgotten. -/
structure Gone (s : Synchronizer) : Prop where
  off : s.own.enabled = false
  plain : s.own.Plain
  forgot : s.peer = .clear

theorem gone_clear (hown : s.own = .clear) (hpeer : s.peer = .clear) : s.Gone where
  off := by rw [hown]; rfl
  plain := hown ▸ Record.plain_clear
  forgot := hpeer

theorem Gone.noting (h : s.Gone) (silent : Bool) : (s.noting silent).Gone :=
  ⟨h.off, h.plain.detected silent, h.forgot⟩

theorem Gone.fire (h : s.Gone) (d : Direction) : s.fire d = (s, []) := by
  refine fire_unasked (h.plain d) ?_
  rw [h.forgot]
  exact Record.plain_clear d

/-- What the timers that expire up to `now` make of a side: it leaves quiet mode, or nothing becomes
of a request to leave.  The last two arguments are the instants of leaving before and after. -/
inductive Expires (now : Nat) (s s' : Synchronizer) (leave leave' : Option Nat) : Prop where
  | left (asked : s.own.disableRequested = true ∨ s.peer.disableRequested = true)
      (due : ∃ t, leave = some t ∧ t ≤ now) (own : s'.own = .clear) (peer : s'.peer = .clear)
  | stays (detected : s'.own.detected = s.own.detected)
      (leaving : s'.own.disableRequested = s.own.disableRequested)
      (heard : s'.peer.detected = s.peer.detected)
      (following : s'.peer.disableRequested = s.peer.disableRequested)
      (asks : s'.own.enableRequested = true → s.own.enableRequested = true)
      (gone : s.Gone → s'.Gone)
      (later : s.own.disableRequested = true ∨ s.peer.disableRequested = true → leave' = leave)

namespace Expires

variable {time : Nat} {s' : Synchronizer} {leave leave' : Option Nat}

theorem refl (time : Nat) (s : Synchronizer) (leave : Option Nat) : Expires time s s leave leave :=
  .stays rfl rfl rfl rfl id id fun _ => rfl

theorem fires_enable (h : Expires time s s' leave leave') :
    Expires time s (s'.fire .enable).1 leave leave' := by
  cases h with
  | left asked due own peer =>
    rw [(gone_clear own peer).fire]
    exact .left asked due own peer
  | stays detected leaving heard following asks gone later =>
    by_cases hasked : s'.own.enableRequested = true ∨ s'.peer.enableRequested = true
    · rw [fire_enable hasked]
      refine .stays detected leaving heard following nofun (fun hgone => ?_) later
      have hfire := (gone hgone).fire .enable
      rw [fire_enable hasked] at hfire
      exact nomatch congrArg Prod.snd hfire
    · simp only [not_or, Bool.not_eq_true] at hasked
      rw [fire_unasked (d := .enable) hasked.1 hasked.2]
      exact .stays detected leaving heard following asks gone later

theorem fires_disable (h : Expires time s s' leave leave') {t : Nat} (ht : leave' = some t)
    (hdue : t ≤ time) (leave'' : Option Nat) :
    Expires time s (s'.fire .disable).1 leave leave'' := by
  cases h with
  | left asked due own peer =>
    rw [(gone_clear own peer).fire]
    exact .left asked due own peer
  | stays detected leaving heard following asks gone later =>
    by_cases hasked : s.own.disableRequested = true ∨ s.peer.disableRequested = true
    · rw [fire_disable (by rw [leaving, following]; exact hasked)]
      exact .left hasked ⟨t, (later hasked).symm.trans ht, hdue⟩ rfl rfl
    · have hnone := hasked
      simp only [not_or, Bool.not_eq_true] at hnone
      rw [fire_unasked (d := .disable) (leaving.trans hnone.1) (following.trans hnone.2)]
      exact .stays detected leaving heard following asks gone fun h => absurd h hasked

end Expires

end Synchronizer

end NoiseControl.QuietMode
