import NoiseControl.Proofs.Earbud.Initialised
import NoiseControl.Proofs.Earbud.Passage

/-!
# The mode that is loaded

Adaptive processing is told of a mode before its filters are loaded, and told of the former one again
when they cannot be.  So when an event is done the audio chain has the current mode loaded, adaptive
processing goes by it if it runs, and the clients were told of it.
-/

namespace NoiseControl

def loads : Matter Mode
  | .start _ m, true | .setMode m, true => some m
  | _, _ => none

/-- The mode that a command tells adaptive processing. -/
def identifies : Matter Mode
  | .adaptiveOn _ _ m, true | .setModeIdentifier m, _ => some m
  | _, _ => none

def Notification.mode? : Notification → Option Mode
  | .modeChanged m => some m
  | _ => none

/-- The values that differ from the one before them. -/
def changes (former : Mode) : List Mode → List Mode
  | [] => []
  | m :: rest => if m = former then changes former rest else m :: changes m rest

theorem getLastD_append {α : Type} (l l' : List α) (a : α) :
    (l ++ l').getLastD a = l'.getLastD (l.getLastD a) := by
  cases l' with
  | nil => simp
  | cons a' rest => simp [List.getLastD_eq_getLast?]

theorem changes_append (former : Mode) (ms ms' : List Mode) :
    changes former (ms ++ ms') = changes former ms ++ changes (ms.getLastD former) ms' := by
  induction ms generalizing former with
  | nil => rfl
  | cons m rest ih =>
    rw [List.cons_append, changes, changes, List.getLastD_cons]
    split <;> rename_i hm
    · rw [ih, hm]
    · rw [ih, List.cons_append]

namespace Earbud

variable {a b c : Earbud} {m m' : Mode}

/-- The modes that the clients were told of, oldest first. -/
def modesTold (b : Earbud) : List Mode := (b.clients.sent.filterMap Notification.mode?).reverse

def along {α : Type} (f : Earbud → Event → List α) (b : Earbud) : List Turn → List α
  | [] => []
  | .event e :: rest => f b e ++ along f (b.take (.event e)) rest
  | turn :: rest => along f (b.take turn) rest

def toldAlong : Earbud → List Turn → List Mode :=
  along fun b e => (b.dispatch e).1.modesTold.drop b.modesTold.length

/-- The mode that is current after each reconfiguration of a run. -/
def modesAlong : Earbud → List Turn → List Mode :=
  along fun b e => (b.reconfigurations e).map fun r => r.after.runtime.currentMode

/-- The filters of one mode are loaded, and adaptive processing, if it runs, was told another. -/
structure Holds (m m' : Mode) (b : Earbud) : Prop where
  loaded : b.latest? loads = some m
  identified : b.audio.adaptive = true → b.latest? identifies = some m'

def Coherent (b : Earbud) : Prop := Holds b.runtime.currentMode b.runtime.currentMode b

/-! ### Work that does not bear on it -/

def steady : Extent where
  keeps r := { currentMode := r.currentMode }
  timer _ := true
  audio
    | .start .. | .setMode _ | .setModeIdentifier _ | .adaptiveOn .. => false
    | _ => true
  talks := true
  tells
    | .modeChanged _ => false
    | _ => true

theorem between_within_steady : between.Within steady where
  keeps _ _ h := (congrArg steady.keeps h :)
  timer _ _ := rfl
  audio c h := by cases c <;> first | rfl | cases h
  talks _ := rfl
  tells n h := by cases n <;> first | rfl | cases h
  saves _ := rfl

theorem switching_within_steady (on : Bool) : (switching on).Within steady where
  keeps _ _ h := (congrArg steady.keeps h :)
  timer _ _ := rfl
  audio c h := by cases c <;> first | rfl | cases h
  talks _ := rfl
  tells n h := by cases n <;> first | rfl | cases h
  saves _ := rfl

theorem gains_within_steady : gains.Within steady :=
  gains_within_between.trans between_within_steady

theorem Work.currentMode_steady (w : Work steady a b) :
    b.runtime.currentMode = a.runtime.currentMode :=
  (congrArg Runtime.currentMode w.keeps :)

theorem Work.modesTold_steady (w : Work steady a b) : b.modesTold = a.modesTold := by
  obtain ⟨newer, he, hin⟩ := w.sent
  have hnone : newer.filterMap Notification.mode? = [] := by
    refine List.filterMap_eq_nil_iff.mpr fun n hn => ?_
    have htells := hin n hn
    cases n <;> first | rfl | cases htells
  unfold modesTold
  rw [he, List.filterMap_append, hnone, List.nil_append]

theorem modesTold_announce (b : Earbud) (m : Mode) :
    (b.announce (.modeChanged m)).modesTold = b.modesTold ++ [m] := by
  simp [modesTold, announce, Broadcast.send, Notification.mode?]

theorem Holds.work (h : Holds m m' a) (w : Work steady a b) : Holds m m' b where
  loaded := by
    rw [w.latest? fun c done hc => by cases c <;> first | rfl | cases hc]
    exact h.loaded
  identified hruns := by
    have hran : a.audio.adaptive = true := by
      cases hidle : a.audio.adaptive with
      | true => rfl
      | false => exact nomatch (w.idle (fun _ _ _ => rfl) hidle).symm.trans hruns
    rw [w.latest? fun c done hc => by cases c <;> first | rfl | cases hc]
    exact h.identified hran

theorem Coherent.work (h : Coherent a) (w : Work steady a b) : Coherent b := by
  unfold Coherent
  rw [w.currentMode_steady]
  exact Holds.work h w

/-! ### Loading a mode -/

/-- Between `a` and `b` filters were loaded and adaptive processing was told a mode, no more. -/
structure Amid (a : Earbud) (m m' : Mode) (b : Earbud) : Prop extends Holds m m' b where
  runtime : b.runtime = a.runtime
  adaptive : b.audio.adaptive = a.audio.adaptive
  told : b.modesTold = a.modesTold

theorem Amid.identifyMode (h : Amid a m m' b) (next : Mode) :
    Amid a m next (b.identifyMode next a.audio.adaptive) := by
  unfold Earbud.identifyMode
  split <;> rename_i hruns
  · exact ⟨⟨h.loaded, fun _ => rfl⟩, h.runtime, h.adaptive, h.told⟩
  · have hidle : b.audio.adaptive = true → False := fun hadaptive =>
      hruns (h.adaptive.symm.trans hadaptive)
    exact ⟨⟨h.loaded, fun hadaptive => (hidle hadaptive).elim⟩, h.runtime, h.adaptive, h.told⟩

theorem Amid.loadMode (h : Amid a m m' b) (next : Mode) :
    Amid a (if (b.loadMode next).2 then next else m) m' (b.loadMode next).1 := by
  unfold Earbud.loadMode
  have hsettled : Amid a m m' (if b.audio.adaptive then b else b.cancel .pathGainSettle) := by
    split
    · exact h
    · exact ⟨⟨h.loaded, h.identified⟩, h.runtime, h.adaptive, h.told⟩
  generalize (if b.audio.adaptive then b else b.cancel .pathGainSettle) = settled at hsettled ⊢
  obtain ⟨⟨hloaded, hidentified⟩, hruntime, hadaptive, htold⟩ := hsettled
  rcases attempt_cases settled (.setMode next) with he | he <;> rw [he]
  · exact ⟨⟨hloaded, hidentified⟩, hruntime, hadaptive, htold⟩
  · exact ⟨⟨rfl, hidentified⟩, hruntime, hadaptive, htold⟩

/-- A mode was loaded and the clients were told, or all is as before. -/
structure Reloads (next : Mode) (a b : Earbud) : Prop where
  coherent : Coherent b
  told : b.runtime.currentMode = a.runtime.currentMode ∧ b.modesTold = a.modesTold ∨
    b.runtime.currentMode = next ∧ b.modesTold = a.modesTold ++ [next]

theorem Reloads.work {next : Mode} (h : Reloads next a b) (w : Work steady b c) : Reloads next a c where
  coherent := h.coherent.work w
  told := by
    rw [w.currentMode_steady, w.modesTold_steady]
    exact h.told

theorem Amid.abandonMode (h : Amid a a.runtime.currentMode m' b) (next : Mode) :
    Reloads next a (b.abandonMode a.audio.adaptive) := by
  have hcurrent : b.runtime.currentMode = a.runtime.currentMode := by rw [h.runtime]
  -- The mode asked for is given up first, which leaves the runtime state of `a` behind.
  have hgiven : Amid (b.setRuntime fun r => { r with requestedMode := r.currentMode })
      a.runtime.currentMode m' (b.setRuntime fun r => { r with requestedMode := r.currentMode }) :=
    ⟨⟨h.loaded, h.identified⟩, rfl, rfl, rfl⟩
  have hended : Amid _ a.runtime.currentMode b.runtime.currentMode
      (b.abandonMode b.audio.adaptive) := hgiven.identifyMode b.runtime.currentMode
  rw [← h.adaptive]
  have hstill : (b.abandonMode b.audio.adaptive).runtime.currentMode = a.runtime.currentMode :=
    (congrArg Runtime.currentMode hended.runtime).trans hcurrent
  refine ⟨?_, Or.inl ⟨hstill, hended.told.trans h.told⟩⟩
  unfold Coherent
  rw [hstill]
  exact ⟨hended.loaded, fun hruns => hcurrent ▸ hended.identified hruns⟩

theorem Coherent.applyMode (h : Coherent b) (next : Mode) : Reloads next b (b.applyMode next).1 := by
  have hstart : Amid b b.runtime.currentMode b.runtime.currentMode b := ⟨h, rfl, rfl, rfl⟩
  have hid := hstart.identifyMode next
  unfold Earbud.applyMode
  dsimp only
  split
  · exact hid.abandonMode next
  · have hload := hid.loadMode next
    split <;> rename_i x heq <;> rw [heq] at hload
    · exact hload.abandonMode next
    · refine Reloads.work ?_ ((work_announceLeakthrough _).mono gains_within_steady)
      refine Reloads.work ?_ ((work_refreshLeakthrough _).mono gains_within_steady)
      have hended : ∀ y : Earbud, Holds next next y → y.runtime.currentMode = next →
          y.modesTold = b.modesTold → Reloads next b (y.announce (.modeChanged next)) := by
        intro y hy hcurrent htold
        refine ⟨?_, Or.inr ⟨hcurrent, ?_⟩⟩
        · unfold Coherent
          rw [show (y.announce _).runtime.currentMode = next from hcurrent]
          exact ⟨hy.loaded, hy.identified⟩
        · rw [modesTold_announce, htold]
      split
      · exact hended _ ⟨hload.loaded, hload.identified⟩ rfl hload.told
      · exact hended _ ⟨hload.loaded, hload.identified⟩ rfl hload.told

/-! ### Reconfigurations -/

/-- From `a` to `b` the current mode took these values in turn, and the clients were told of those
that were new. -/
structure Runs (modes : List Mode) (a b : Earbud) : Prop where
  coherent : Coherent b
  told : b.modesTold = a.modesTold ++ changes a.runtime.currentMode modes
  current : modes.getLastD a.runtime.currentMode = b.runtime.currentMode

variable {modes modes' : List Mode}

theorem Runs.refl (h : Coherent a) : Runs [] a a := ⟨h, (List.append_nil _).symm, rfl⟩

theorem Runs.trans (h : Runs modes a b) (h' : Runs modes' b c) : Runs (modes ++ modes') a c where
  coherent := h'.coherent
  told := by rw [h'.told, h.told, changes_append, h.current, List.append_assoc]
  current := by rw [getLastD_append, h.current, h'.current]

theorem Runs.steady (h : Runs modes a b) (w : Work steady b c) : Runs modes a c where
  coherent := h.coherent.work w
  told := w.modesTold_steady.trans h.told
  current := h.current.trans w.currentMode_steady.symm

theorem Runs.to_current (h : Coherent b) (htold : b.modesTold = a.modesTold)
    (hcurrent : b.runtime.currentMode = a.runtime.currentMode) :
    Runs [b.runtime.currentMode] a b where
  coherent := h
  told := by simp [changes, hcurrent, htold]
  current := rfl

theorem Reloads.runs {next : Mode} (h : Reloads next a b) (hnext : next ≠ a.runtime.currentMode) :
    Runs [b.runtime.currentMode] a b := by
  rcases h.told with ⟨hcurrent, htold⟩ | ⟨hcurrent, htold⟩
  · exact .to_current h.coherent htold hcurrent
  · refine ⟨h.coherent, ?_, rfl⟩
    rw [htold, hcurrent, changes, if_neg hnext]
    rfl

theorem Coherent.reconfigure (h : Coherent b) (on : Bool) (next : Mode) :
    Runs [(b.reconfigure on next).1.runtime.currentMode] b (b.reconfigure on next).1 := by
  have hmoded : Runs [((b.boost true).inMode next).1.runtime.currentMode] (b.boost true)
      ((b.boost true).inMode next).1 := by
    have hraised := h.work (work_boost b true (fun _ => rfl) rfl)
    unfold Earbud.inMode
    split <;> rename_i hnext
    · exact .to_current hraised rfl rfl
    · exact (hraised.applyMode next).runs hnext
  rw [reconfigure_stages]
  generalize ((b.boost true).inMode next).1 = moded at hmoded ⊢
  have hrest : Work Earbud.steady moded
      (((moded.inPower on).1.tellAdaptive b.runtime.actualEnabled b.runtime.currentMode).boost false) :=
    (((work_inPower moded on).mono (switching_within_steady on)).trans
      ((work_tellAdaptive _ _ _).mono gains_within_steady)).trans
        (work_boost _ false (fun _ => rfl) rfl)
  have hrun := hmoded.steady hrest
  rw [← hrest.currentMode_steady] at hrun
  exact ⟨hrun.coherent, hrun.told, hrun.current⟩

theorem Coherent.startAdaptive (h : Coherent b) : Runs [] b b.startAdaptive := by
  have hadded : ∀ x : Earbud, Coherent x → x.runtime = b.runtime → x.modesTold = b.modesTold →
      Runs [] b x := by
    intro x hx hruntime htold
    exact ⟨hx, by rw [htold]; exact (List.append_nil _).symm, by rw [hruntime]; rfl⟩
  unfold Earbud.startAdaptive
  split
  · generalize hc : AudioCommand.adaptiveOn _ _ b.runtime.currentMode = command
    rcases attempt_fst b command with he | he <;> rw [he] <;> subst hc
    · exact hadded _ ⟨h.loaded, h.identified⟩ rfl rfl
    · exact hadded _ ⟨h.loaded, fun _ => rfl⟩ rfl rfl
  · exact .refl h

/-! ### Events -/

theorem Passage.runs {l : List Reconfiguration} (p : Passage a l b) (h : Coherent a) :
    Runs (l.map fun r => r.after.runtime.currentMode) a b := by
  induction p with
  | start => exact .refl h
  | touch _ t ih => exact ih.steady (.single (t.mono between_within_steady))
  | ask _ m hm ih => exact ih.steady (.single (.runtime _ rfl))
  | remember _ ih => exact ih.steady (.single (.runtime _ rfl))
  | adapt _ ih =>
    have hrun := ih.trans ih.coherent.startAdaptive
    rwa [List.append_nil] at hrun
  | reconfigure _ on ih =>
    rw [List.map_append]
    exact ih.trans (ih.coherent.reconfigure on _)

theorem Coherent.along (h : Coherent b) (hs : b.runtime.state ≠ .uninitialised) (later : List Turn) :
    Coherent (b.after later) ∧
      b.toldAlong later = changes b.runtime.currentMode (b.modesAlong later) ∧
      (b.modesAlong later).getLastD b.runtime.currentMode = (b.after later).runtime.currentMode := by
  induction later generalizing b with
  | nil => exact ⟨h, rfl, rfl⟩
  | cons turn rest ih =>
    cases turn with
    | event e =>
      have hrun := (passage_dispatch hs e).runs h
      obtain ⟨hcoherent, htold, hcurrent⟩ := ih hrun.coherent (initialised_dispatch hs e)
      refine ⟨hcoherent, ?_, ?_⟩
      · show (b.dispatch e).1.modesTold.drop b.modesTold.length ++ (b.dispatch e).1.toldAlong rest =
          changes _ (_ ++ (b.dispatch e).1.modesAlong rest)
        rw [changes_append, hrun.current, hrun.told, List.drop_left, htold]
      · show (_ ++ (b.dispatch e).1.modesAlong rest).getLastD _ = _
        rw [getLastD_append, hrun.current]
        exact hcurrent
    | timers q => exact ih (b := { b with timers := q }) ⟨h.loaded, h.identified⟩ hs
    | surround s => exact ih (b := b.surround s) ⟨h.loaded, h.identified⟩ hs

/-! ### Initialisation -/

theorem idle_after (config : Config) (clockOrigin : Option WallClock) (store : SessionStore)
    (turns : List Turn) :
    let b := (Earbud.new config clockOrigin store).after turns
    b.runtime.state = .uninitialised → b.audio.adaptive = false := by
  refine after_induction (P := fun b => b.runtime.state = .uninitialised → b.audio.adaptive = false)
    (fun b e h hs => ?_) (fun _ _ h => h) (fun _ _ h => h) (fun _ => rfl) turns
  by_cases hu : b.runtime.state = .uninitialised
  · exact idle_dispatch hu (h hu) e
  · exact absurd hs (initialised_dispatch hu e)

theorem coherent_initialise (h : (b.dispatch .initialise).2 = .ok ())
    (hidle : b.runtime.state = .uninitialised → b.audio.adaptive = false) :
    Coherent (b.dispatch .initialise).1 := by
  obtain ⟨hs, hok, hend⟩ := initialise_ok h
  have hbegun := begun_start hs hok
  have hloaded : b.start.1.latest? loads = some b.start.1.runtime.currentMode := by
    unfold latest?
    rw [hbegun.probed]
    rfl
  have hstart : Coherent b.start.1 := by
    refine ⟨hloaded, fun hruns => ?_⟩
    rw [hbegun.adaptive, hidle hs] at hruns
    cases hruns
  rw [hend]
  exact hstart.work (((work_finishFollowUps _).mono beside_within_between).mono between_within_steady)

/-- Whatever happens to an earbud once it is initialised, and whatever fails: its audio chain has the
current mode loaded, adaptive processing goes by the current mode if it runs, and the clients are told
of each value that the current mode changes to, in turn, and of no other.  An event changes the
current mode in its reconfigurations only. -/
theorem current_mode_coherent (config : Config) (clockOrigin : Option WallClock) (store : SessionStore)
    (earlier later : List Turn)
    (hstarted : (((Earbud.new config clockOrigin store).after earlier).dispatch .initialise).2 =
      .ok ()) :
    let ready := (Earbud.new config clockOrigin store).after (earlier ++ [.event .initialise])
    let b := ready.after later
    b.latest? loads = some b.runtime.currentMode ∧
      (b.audio.adaptive = true → b.latest? identifies = some b.runtime.currentMode) ∧
      ready.toldAlong later = changes ready.runtime.currentMode (ready.modesAlong later) ∧
      (ready.modesAlong later).getLastD ready.runtime.currentMode = b.runtime.currentMode ∧
      ∀ e, Passage b (b.reconfigurations e) (b.dispatch e).1 := by
  intro ready b
  have hready : ready =
      (((Earbud.new config clockOrigin store).after earlier).dispatch .initialise).1 :=
    after_append _ _ _
  have hs : ready.runtime.state ≠ .uninitialised := by
    rw [hready]
    exact initialised_of_ok hstarted []
  have hcoherent : Coherent ready := by
    rw [hready]
    exact coherent_initialise hstarted (idle_after config clockOrigin store earlier)
  obtain ⟨hend, htold, hcurrent⟩ := hcoherent.along hs later
  exact ⟨hend.loaded, hend.identified, htold, hcurrent,
    passage_dispatch (initialised_after hs later)⟩

theorem current_mode_coherent_on :
    let ready := (Earbud.new (.standard "") none {}).after [.event .initialise]
    let later : List Turn := [.event .powerOn, .event (.setMode ⟨1⟩), .event .enable,
      .event (.timerExpired .configSettle), .event (.setMode ⟨0⟩),
      .event (.timerExpired .muteBeforeMode)]
    (((Earbud.new (.standard "") none {}).after []).dispatch .initialise).2 = .ok () ∧
      (ready.after later).audio.adaptive = true ∧
      (ready.after later).latest? identifies = some (ready.after later).runtime.currentMode ∧
      ready.toldAlong later = [⟨1⟩, ⟨0⟩] ∧
      ready.toldAlong later = changes ready.runtime.currentMode (ready.modesAlong later) := by
  intro ready later
  have hstarted : (((Earbud.new (.standard "") none {}).after []).dispatch .initialise).2 = .ok () := by
    decide
  have hruns : (ready.after later).audio.adaptive = true := by decide
  have htold : ready.toldAlong later = [⟨1⟩, ⟨0⟩] := by decide
  have hall := fun (later : List Turn) (ready : Earbud)
    (h : (Earbud.new (.standard "") none {}).after [.event .initialise] = ready) =>
      h ▸ current_mode_coherent (.standard "") none {} [] later hstarted
  have hcoherent := hall later ready rfl
  -- The earbud need not be worked out again.
  clear_value ready later
  exact ⟨hstarted, hruns, hcoherent.2.1 hruns, htold, hcoherent.2.2.1⟩

end Earbud

end NoiseControl
