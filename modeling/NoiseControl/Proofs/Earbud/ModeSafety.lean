import NoiseControl.Proofs.Earbud.Refusal

/-!
# No mode out of range

A mode comes from the configuration, the saved session, the user, the peer or a call.  Wherever it
comes from, it is checked before it is asked for, so the audio chain is never given a mode that there
is not, and the check that is made when a mode is applied never fails.
-/

namespace NoiseControl

/-- The mode that a command gives the audio chain. -/
def AudioCommand.mode? : AudioCommand → Option Mode
  | .start _ m | .setMode m | .setModeIdentifier m | .swapModeLive m | .adaptiveOn _ _ m => some m
  | _ => none

theorem Config.numModes_range {c : Config} (h : c.check = .ok ()) :
    1 ≤ c.numModes.toNat ∧ c.numModes.toNat ≤ Mode.limit := by
  unfold check at h
  split at h <;> rename_i hcount
  · cases h
  · simp only [Bool.or_eq_true, decide_eq_true_eq, not_or, Nat.not_lt] at hcount
    exact hcount

namespace Earbud

variable {a b : Earbud} {count : UInt8}

/-- The modes that the audio chain is given are below a count. -/
def ranging (count : UInt8) : Extent where
  keeps _ := {}
  timer _ := true
  audio c := c.mode?.all fun m => m.index < count
  talks := true

/-- What gives the audio chain no modes gives it none out of range. -/
theorem within_ranging {x : Extent} (h : ∀ c, x.audio c = true → c.mode? = none) :
    x.Within (ranging count) where
  keeps _ _ _ := rfl
  timer _ _ := rfl
  audio c hc := by
    show c.mode?.all _ = true
    rw [h c hc]
    rfl
  talks _ := rfl
  tells _ _ := rfl
  saves _ := rfl

theorem dormant_within_ranging : dormant.Within (ranging count) :=
  within_ranging fun c hc => by cases c <;> first | rfl | cases hc

theorem between_within_ranging : between.Within (ranging count) :=
  within_ranging fun c hc => by cases c <;> first | rfl | cases hc

theorem switching_within_ranging (on : Bool) : (switching on).Within (ranging count) :=
  within_ranging fun c hc => by cases c <;> first | rfl | cases hc

theorem beside_within_ranging : beside.Within (ranging count) :=
  beside_within_between.trans between_within_ranging

theorem parting_within_ranging : parting.Within (ranging count) :=
  parting_within_between.trans between_within_ranging

theorem gains_within_ranging : gains.Within (ranging count) :=
  gains_within_between.trans between_within_ranging

theorem loading_within_ranging : (loading fun m => m.index < count).Within (ranging count) where
  keeps _ _ _ := rfl
  timer _ _ := rfl
  audio c hc := by cases c <;> first | exact hc | rfl | cases hc
  talks _ := rfl
  tells _ _ := rfl
  saves _ := rfl

/-! ### Reconfigurations -/

theorem ranging_reconfigure (hcurrent : b.runtime.currentMode.index < count) (on : Bool) {m : Mode}
    (hm : m.index < count) : Work (ranging count) b (b.reconfigure on m).1 := by
  have hmoded := (work_boost b true (fun _ => rfl) rfl).trans
    ((work_inMode (b.boost true) (fun m => m.index < count) (decide_eq_true hm)
      (decide_eq_true hcurrent)).mono loading_within_ranging)
  have hpowered := hmoded.trans ((work_inPower _ on).mono (switching_within_ranging on))
  have htold := hpowered.trans ((work_tellAdaptive _ b.runtime.actualEnabled
    b.runtime.currentMode).mono gains_within_ranging)
  rw [reconfigure_stages]
  exact htold.trans (work_boost _ false (fun _ => rfl) rfl)

theorem Passage.ranging {l : List Reconfiguration} (p : Passage a l b) (h : Ranged a) :
    Work (ranging a.config.numModes) a b := by
  have hcurrent : ∀ {l : List Reconfiguration} {x : Earbud}, Passage a l x →
      Work (Earbud.ranging a.config.numModes) a x →
        x.runtime.currentMode.index < a.config.numModes ∧
          x.runtime.requestedMode.index < a.config.numModes := by
    intro l x p w
    have hranged := (p.ranged h).1
    rw [← w.config, ← hranged.numModes]
    exact ⟨hranged.current, hranged.requested⟩
  induction p with
  | start => exact .refl
  | touch _ t ih => exact ih.tail (t.mono between_within_ranging)
  | ask _ m hm ih => exact ih.tail (.runtime _ rfl)
  | remember _ ih => exact ih.tail (.runtime _ rfl)
  | adapt p ih => exact ih.trans (attempts_startAdaptive _ (decide_eq_true (hcurrent p ih).1))
  | reconfigure p on ih =>
    exact ih.trans (ranging_reconfigure (hcurrent p ih).1 on (hcurrent p ih).2)

/-! ### Initialisation -/

theorem ranging_start (b : Earbud) : Work (ranging b.config.numModes) b b.start.1 := by
  rcases start_cases b with ⟨fault, he⟩ | he | ⟨-, enabled, m, hm, he⟩
  · rw [he]
  · rw [he]
  · rw [he]
    have hprobed : Work (ranging b.config.numModes) b
        (b.loadSession.1.attempt (.start b.loadSession.1.config.microphones m)).1 :=
      (Relation.ReflTransGen.single .load).tail (.attempt _ (decide_eq_true hm))
    unfold probe
    split <;> rename_i heq <;> rw [heq] at hprobed
    · exact hprobed
    · refine .trans ?_ ((parts_enter _ _).mono parting_within_ranging)
      exact (hprobed.tail (.runtime _ rfl)).tail (.negotiate _ rfl)

theorem ranging_dispatch (h : b.runtime.state ≠ .uninitialised → Ranged b) (e : Event) :
    Work (ranging b.config.numModes) b (b.dispatch e).1 := by
  by_cases hs : b.runtime.state = .uninitialised
  · refine Relation.ReflTransGen.trans (b := (b.handle e).1) ?_
      ((work_finishFollowUps _).mono beside_within_ranging)
    rcases (course_handle b e).uninitialised hs with w | he
    · exact w.mono dormant_within_ranging
    · rw [he]
      exact ranging_start b
  · exact (passage_dispatch hs e).ranging (h hs)

/-! ### Runs -/

structure ModeSafe (b : Earbud) : Prop where
  given : ∀ c done m, .audio c done ∈ b.history → c.mode? = some m → m.index < b.config.numModes
  ranged : b.runtime.state ≠ .uninitialised → Ranged b

theorem ModeSafe.given_work (h : ModeSafe a) (w : Work (ranging a.config.numModes) a b) :
    ∀ c done m, .audio c done ∈ b.history → c.mode? = some m → m.index < b.config.numModes := by
  obtain ⟨newer, he, hin⟩ := w.history
  intro c done m hmem hm
  rw [he] at hmem
  rw [w.config]
  rcases List.mem_append.mp hmem with hmem | hmem
  · have hrange : c.mode?.all (fun m => m.index < a.config.numModes) = true := hin c done hmem
    rw [hm] at hrange
    exact of_decide_eq_true hrange
  · exact h.given c done m hmem hm

theorem ModeSafe.dispatch (h : ModeSafe b) (e : Event) : ModeSafe (b.dispatch e).1 :=
  ⟨h.given_work (ranging_dispatch h.ranged e), ranged_dispatch h.ranged e⟩

theorem modeSafe_after (config : Config) (clockOrigin : Option WallClock) (store : SessionStore)
    (turns : List Turn) : ModeSafe ((Earbud.new config clockOrigin store).after turns) := by
  refine after_induction (fun b e h => h.dispatch e) (fun b q h => ?_) (fun b s h => ?_) ?_ turns
  · exact ⟨h.given, fun hs => (h.ranged hs).same rfl rfl⟩
  · exact ⟨h.given, fun hs => (h.ranged hs).same rfl rfl⟩
  · exact ⟨fun c done m hmem => absurd hmem List.not_mem_nil, fun hs => absurd rfl hs⟩

/-- Whatever happens to an earbud, and whatever fails: once it is initialised, all modes it tracks
and all modes its audio chain was ever given are below the number of modes, which is one to ten.
Only setting a mode that there is not is refused for the range of modes; no mode is applied out of
range. -/
theorem modes_never_out_of_range (config : Config) (clockOrigin : Option WallClock)
    (store : SessionStore) (earlier later : List Turn)
    (hstarted : (((Earbud.new config clockOrigin store).after earlier).dispatch .initialise).2 =
      .ok ()) :
    let b := (Earbud.new config clockOrigin store).after (earlier ++ .event .initialise :: later)
    let count := b.runtime.numModes
    (1 ≤ count.toNat ∧ count.toNat ≤ 10) ∧
      (b.runtime.currentMode.index < count ∧ b.runtime.requestedMode.index < count ∧
        b.runtime.previousMode.index < count) ∧
      (∀ c done m, .audio c done ∈ b.history → c.mode? = some m → m.index < count) ∧
      (∀ e m limit, (b.dispatch e).2 = .error (.modeOutOfRange m limit) →
        e = .setMode m ∧ limit = count ∧ count ≤ m.index) ∧
      ∀ e, Passage b (b.reconfigurations e) (b.dispatch e).1 ∧
        ∀ r ∈ b.reconfigurations e, r.mode.index < r.before.runtime.numModes := by
  intro b count
  have hsafe : ModeSafe b := modeSafe_after config clockOrigin store _
  have hs : b.runtime.state ≠ .uninitialised := by
    show ((Earbud.new config clockOrigin store).after (earlier ++ _)).runtime.state ≠ _
    rw [after_append]
    exact initialised_of_ok hstarted later
  have hranged := hsafe.ranged hs
  have hcount : count = b.config.numModes := hranged.numModes
  refine ⟨?_, ⟨hranged.current, hranged.requested, hranged.previous⟩, ?_, ?_, ?_⟩
  · rw [hcount]
    exact Config.numModes_range hranged.checked
  · rw [hcount]
    exact hsafe.given
  · intro e m limit hout
    exact (verdict_handle hsafe.ranged e).mode hout
  · intro e
    have hpassage := passage_dispatch hs e
    refine ⟨hpassage, fun r hr => ?_⟩
    exact ((hpassage.ranged hranged).2 r hr).requested

theorem modes_never_out_of_range_met :
    let fresh := Earbud.new (.standard "") none {}
    let b := fresh.after [.event .initialise, .event .powerOn, .event (.setMode ⟨3⟩), .event .enable]
    (fresh.dispatch .initialise).2 = .ok () ∧
      (b.dispatch (.setMode ⟨200⟩)).2 = .error (.modeOutOfRange ⟨200⟩ 10) ∧
      b.runtime.currentMode.index < b.runtime.numModes ∧ b.runtime.numModes ≤ 200 := by
  intro fresh b
  have hstarted : (fresh.dispatch .initialise).2 = .ok () := by decide
  have hrefused : (b.dispatch (.setMode ⟨200⟩)).2 = .error (.modeOutOfRange ⟨200⟩ 10) := by decide
  have hsafe := fun (later : List Turn) (b : Earbud)
    (hb : fresh.after (.event .initialise :: later) = b) =>
      hb ▸ modes_never_out_of_range (.standard "") none {} [] later hstarted
  have hb := hsafe _ b rfl
  -- The earbud need not be worked out again.
  clear_value b
  exact ⟨hstarted, hrefused, hb.2.1.1, (hb.2.2.2.1 _ _ _ hrefused).2.2⟩

end Earbud

end NoiseControl
