import NoiseControl.Console
import NoiseControl.Proofs.Text.Numerals
import NoiseControl.Proofs.Text.Words

/-!
# The language of the console

A line asks for what its words say, whatever white space stands around and between them.  Most
commands are fixed words; a mode, a gain and a sample rate are given as numbers, and only numbers in
their range are taken.  What is no command is named in the error, without the white space around it.
-/

namespace NoiseControl

namespace Console

/-! ### Events -/

/-- The commands that are fixed words. -/
def fixedCommands : List (List String × Event) :=
  [(["enable"], .enable), (["on"], .enable), (["disable"], .disable), (["off"], .disable),
    (["next"], .setNextMode),
    (["call", "start"], .callStarted), (["call", "end"], .callEnded), (["call", "stop"], .callEnded),
    (["quiet", "on"], .silenceDetected), (["quiet", "off"], .silenceCleared),
    (["tune"], .enterTuning), (["untune"], .exitTuning),
    (["tune", "adaptive"], .enterAdaptiveTuning), (["untune", "adaptive"], .exitAdaptiveTuning),
    (["usb", "detach"], .tuningLinkDetached),
    (["power", "on"], .powerOn), (["power", "off"], .powerOff),
    (["ear", "in"], .placed .own .inEar), (["ear", "out"], .placed .own .outOfEar),
    (["case"], .placed .own .inCase), (["peer", "case"], .placed .peer .inCase),
    (["peer", "lost"], .peerLinkLost)]

/-- The words are a command for the event. -/
inductive Names : List String → Event → Prop where
  | fixed {ws : List String} {e : Event} (listed : (ws, e) ∈ fixedCommands) : Names ws e
  | mode {w : String} {m : Mode} (number : Text.Denotes w.toList m.number)
      (range : m.number ≤ Mode.limit) : Names ["mode", w] (.setMode m)
  | gain {w : String} {g : UInt8} (number : Text.Denotes w.toList g.toNat) :
      Names ["gain", w] (.setLeakthroughGain g)
  | rate {w : String} {r : UInt32} (number : Text.Denotes w.toList r.toNat) :
      Names ["usb", "attach", w] (.tuningLinkAttached r)

theorem number?_eq_some_iff {max : Nat} {w : String} {n : Nat} :
    number? max w = some n ↔ Text.Denotes w.toList n ∧ n ≤ max :=
  Text.number?_eq_some_iff max w.toList n

theorem ofNumber?_eq_some_iff {n : Nat} {m : Mode} :
    Mode.ofNumber? n = some m ↔ n = m.number ∧ m.number ≤ Mode.limit := by
  constructor
  · intro h
    unfold Mode.ofNumber? at h
    split at h
    · rename_i hrange
      cases h
      have hnumber : (Mode.mk (UInt8.ofNat (n - 1))).number = n := by
        have hlimit : Mode.limit = 10 := rfl
        simp only [Mode.number, UInt8.toNat_ofNat']
        omega
      exact ⟨hnumber.symm, hnumber.symm ▸ hrange.2⟩
    · cases h
  · rintro ⟨rfl, hrange⟩
    exact m.ofNumber?_number (Nat.lt_of_succ_le hrange)

theorem names_of_eventOfWords? {ws : List String} {e : Event} (h : eventOfWords? ws = some e) :
    Names ws e := by
  unfold eventOfWords? at h
  split at h
  case h_6 n =>
    obtain ⟨m, hm, rfl⟩ := Option.map_eq_some_iff.mp h
    obtain ⟨k, hk, hm⟩ := Option.bind_eq_some_iff.mp hm
    obtain ⟨rfl, hrange⟩ := ofNumber?_eq_some_iff.mp hm
    exact .mode (number?_eq_some_iff.mp hk).1 hrange
  case h_7 g =>
    obtain ⟨n, hn, rfl⟩ := Option.map_eq_some_iff.mp h
    obtain ⟨hdenotes, hmax⟩ := number?_eq_some_iff.mp hn
    refine .gain ?_
    rwa [UInt8.toNat_ofNat_of_lt' (Nat.lt_succ_of_le hmax)]
  case h_17 rate =>
    obtain ⟨n, hn, rfl⟩ := Option.map_eq_some_iff.mp h
    obtain ⟨hdenotes, hmax⟩ := number?_eq_some_iff.mp hn
    refine .rate ?_
    rwa [UInt32.toNat_ofNat_of_lt' (Nat.lt_succ_of_le hmax)]
  case h_26 => cases h
  all_goals
    cases h
    exact .fixed (by decide)

theorem eventOfWords?_of_names {ws : List String} {e : Event} (h : Names ws e) :
    eventOfWords? ws = some e := by
  cases h with
  | fixed listed =>
    have hall : ∀ p ∈ fixedCommands, eventOfWords? p.1 = some p.2 := by decide
    exact hall _ listed
  | @mode w m number range =>
    have hlimit : Mode.limit = 10 := rfl
    have hread : number? 255 w = some m.number := number?_eq_some_iff.mpr ⟨number, by omega⟩
    have hmode : Mode.ofNumber? m.number = some m := ofNumber?_eq_some_iff.mpr ⟨rfl, range⟩
    simp only [eventOfWords?, hread, Option.bind_some, hmode, Option.map_some]
  | @gain w g number =>
    have hread : number? 255 w = some g.toNat :=
      number?_eq_some_iff.mpr ⟨number, Nat.le_of_lt_succ g.toNat_lt⟩
    simp only [eventOfWords?, hread, Option.map_some, UInt8.ofNat_toNat]
  | @rate w r number =>
    have hread : number? 4294967295 w = some r.toNat :=
      number?_eq_some_iff.mpr ⟨number, Nat.le_of_lt_succ r.toNat_lt⟩
    simp only [eventOfWords?, hread, Option.map_some, UInt32.ofNat_toNat]

/-! ### Lines -/

/-- The words are those of a line that asks for a command, or for nothing. -/
inductive Reads : List String → Option ConsoleCommand → Prop where
  | blank : Reads [] none
  | status : Reads ["status"] (some .status)
  | quit : Reads ["quit"] (some .quit)
  | exit : Reads ["exit"] (some .quit)
  | event {ws : List String} {e : Event} (names : Names ws e) : Reads ws (some (.event e))

/-- What a line of these words asks for. -/
def commandOfWords? : List String → Option (Option ConsoleCommand)
  | [] => some none
  | ["status"] => some (some .status)
  | ["quit"] | ["exit"] => some (some .quit)
  | ws => (eventOfWords? ws).map fun e => some (.event e)

theorem commandOfWords?_of_ne {ws : List String} (hempty : ws ≠ []) (hstatus : ws ≠ ["status"])
    (hquit : ws ≠ ["quit"]) (hexit : ws ≠ ["exit"]) :
    commandOfWords? ws = (eventOfWords? ws).map fun e => some (.event e) := by
  unfold commandOfWords?
  split
  · exact absurd rfl hempty
  · exact absurd rfl hstatus
  · exact absurd rfl hquit
  · exact absurd rfl hexit
  · rfl

theorem commandOfWords?_of_reads {ws : List String} {r : Option ConsoleCommand} (h : Reads ws r) :
    commandOfWords? ws = some r := by
  cases h with
  | blank | status | quit | exit => rfl
  | event names =>
    have hread := eventOfWords?_of_names names
    have hne : ∀ ws', eventOfWords? ws' = none → ws ≠ ws' := by
      rintro ws' hnone rfl
      exact nomatch hnone.symm.trans hread
    rw [commandOfWords?_of_ne (hne _ rfl) (hne _ rfl) (hne _ rfl) (hne _ rfl), hread]
    rfl

theorem commandOfWords?_eq_some_iff (ws : List String) (r : Option ConsoleCommand) :
    commandOfWords? ws = some r ↔ Reads ws r := by
  refine ⟨fun h => ?_, commandOfWords?_of_reads⟩
  unfold commandOfWords? at h
  split at h
  · cases h
    exact .blank
  · cases h
    exact .status
  · cases h
    exact .quit
  · cases h
    exact .exit
  · obtain ⟨e, he, rfl⟩ := Option.map_eq_some_iff.mp h
    exact .event (names_of_eventOfWords? he)

theorem words_eq_iff {line : String} {ws : List String} :
    words line = ws ↔ Text.Spaced line.toList (ws.map String.toList) := by
  rw [← Text.words_eq_iff, words]
  constructor
  · rintro rfl
    simp [List.map_map, Function.comp_def]
  · intro h
    simp [h, List.map_map, Function.comp_def]

theorem words_trimString (line : String) : words (Text.trimString line) = words line := by
  simp only [words, Text.trimString, String.toList_ofList, Text.words_trim]

theorem trimString_trimString (line : String) :
    Text.trimString (Text.trimString line) = Text.trimString line := by
  simp only [Text.trimString, String.toList_ofList, Text.trim_trim]

theorem trimString_eq_empty_iff (line : String) : Text.trimString line = "" ↔ words line = [] := by
  constructor
  · intro h
    rw [← words_trimString, h]
    rfl
  · intro h
    have hbare := (Text.trims_trim line.toList).bare.eq_of_words
    rw [Text.words_trim, List.map_eq_nil_iff.mp h] at hbare
    rw [Text.trimString, hbare]

/-- A line is one word with white space around it, or it is not. -/
theorem trimString_eq_iff (line : String) {w : String} (hw : words w = [w]) :
    Text.trimString line = w ↔ words line = [w] := by
  constructor
  · intro h
    rw [← words_trimString, h, hw]
  · intro h
    have hwords : Text.words line.toList = [w.toList] :=
      Text.words_eq_iff.mpr (words_eq_iff.mp h)
    have hbare := (Text.trims_trim line.toList).bare.eq_of_words
    rw [Text.words_trim, hwords] at hbare
    rw [Text.trimString, hbare]
    exact String.ofList_toList

theorem parseEvent_trimString (line : String) :
    parseEvent (Text.trimString line) = parseEvent line := by
  unfold parseEvent
  rw [words_trimString, trimString_trimString]

/-- The whole of a line is compared first and its words after that, but only the words count. -/
theorem parseLine_eq (line : String) :
    parseLine line = match commandOfWords? (words line) with
      | some r => .ok r
      | none => .error ⟨Text.trimString line⟩ := by
  have hempty := trimString_eq_empty_iff line
  have hword : ∀ w, words w = [w] → (Text.trimString line = w ↔ words line = [w]) := fun w =>
    trimString_eq_iff line
  unfold parseLine
  split
  · rename_i h
    rw [hempty.mp h]
    rfl
  · rename_i h
    rw [(hword _ (by decide)).mp h]
    rfl
  · rename_i h
    rw [(hword _ (by decide)).mp h]
    rfl
  · rename_i h
    rw [(hword _ (by decide)).mp h]
    rfl
  · rename_i hnotEmpty hnotStatus hnotQuit hnotExit
    rw [parseEvent_trimString, commandOfWords?_of_ne (fun h => hnotEmpty (hempty.mpr h))
      (fun h => hnotStatus ((hword _ (by decide)).mpr h))
      (fun h => hnotQuit ((hword _ (by decide)).mpr h))
      (fun h => hnotExit ((hword _ (by decide)).mpr h)), parseEvent]
    cases eventOfWords? (words line) <;> rfl

theorem parseLine_eq_ok_iff (line : String) (r : Option ConsoleCommand) :
    parseLine line = .ok r ↔ Reads (words line) r := by
  rw [parseLine_eq, ← commandOfWords?_eq_some_iff]
  cases commandOfWords? (words line) <;> simp

/-- What is no command is an error, which names the line. -/
theorem parseLine_of_not_reads {line : String} (h : ∀ r, ¬Reads (words line) r) :
    parseLine line = .error ⟨Text.trimString line⟩ := by
  have hnone : commandOfWords? (words line) = none := by
    rw [Option.eq_none_iff_forall_ne_some]
    exact fun r hr => h r ((commandOfWords?_eq_some_iff _ r).mp hr)
  rw [parseLine_eq, hnone]

/-- The name of a mode is the command that sets it. -/
theorem reads_display {m : Mode} (h : m.index.toNat < Mode.limit) :
    Reads (words m.display) (some (.event (.setMode m))) := by
  have hall : ∀ i : Fin 10,
      words (Mode.display ⟨UInt8.ofNat i⟩) = ["mode", toString (i.val + 1)] ∧
        Text.number? 255 (toString (i.val + 1)).toList = some (i.val + 1) := by decide
  obtain ⟨hwords, hnumber⟩ := hall ⟨m.index.toNat, h⟩
  dsimp only at hwords hnumber
  rw [UInt8.ofNat_toNat] at hwords
  rw [show m.display = Mode.display ⟨m.index⟩ from rfl, hwords]
  exact .event (.mode (Text.number?_eq_some_iff _ _ _ |>.mp hnumber).1 h)

theorem reads_none_iff {ws : List String} : Reads ws none ↔ ws = [] :=
  ⟨fun | .blank => rfl, fun h => h ▸ .blank⟩

theorem reads_status_iff {ws : List String} : Reads ws (some .status) ↔ ws = ["status"] :=
  ⟨fun | .status => rfl, fun h => h ▸ .status⟩

theorem reads_quit_iff {ws : List String} :
    Reads ws (some .quit) ↔ ws = ["quit"] ∨ ws = ["exit"] := by
  constructor
  · intro h
    cases h with
    | quit => exact Or.inl rfl
    | exit => exact Or.inr rfl
  · rintro (rfl | rfl)
    · exact .quit
    · exact .exit

theorem reads_event_iff {ws : List String} {e : Event} : Reads ws (some (.event e)) ↔ Names ws e :=
  ⟨fun | .event names => names, .event⟩

theorem trims_iff {line text : String} :
    Text.Trims line.toList text.toList ↔ text = Text.trimString line := by
  constructor
  · intro h
    rw [Text.trimString, h.trim_eq, String.ofList_toList]
  · rintro rfl
    rw [Text.trimString, String.toList_ofList]
    exact Text.trims_trim line.toList

/-- Every line has its words, whatever white space is around them.  It is blank, asks for the status
or the end, or names an event exactly when they say so, and is else refused by its text without the
white space at the ends.  The name of a mode is the command for it. -/
theorem parseLine_grammar :
    (∀ line : String, ∃ (ws : List String) (text : String),
      (∀ ws', Text.Spaced line.toList (ws'.map String.toList) ↔ ws' = ws) ∧
        (∀ text', Text.Trims line.toList (String.toList text') ↔ text' = text) ∧
        (parseLine line = .ok none ↔ ws = []) ∧
        (parseLine line = .ok (some .status) ↔ ws = ["status"]) ∧
        (parseLine line = .ok (some .quit) ↔ ws = ["quit"] ∨ ws = ["exit"]) ∧
        (∀ e, parseLine line = .ok (some (.event e)) ↔ Names ws e) ∧
        ((∀ r, ¬Reads ws r) → ∃ fault, parseLine line = .error fault ∧
          fault.message = "unrecognised command: " ++ text) ∧
        ∀ line' : String, Text.Spaced line'.toList (ws.map String.toList) →
          (parseLine line').toOption = (parseLine line).toOption) ∧
      ∀ m : Mode, m.index.toNat < 10 → parseLine m.display = .ok (some (.event (.setMode m))) := by
  refine ⟨fun line => ⟨words line, Text.trimString line, fun ws' => ?_, fun text' => trims_iff,
    ?_, ?_, ?_, fun e => ?_, fun h => ?_, fun line' h => ?_⟩, fun m h => ?_⟩
  · rw [← words_eq_iff, eq_comm]
  · rw [parseLine_eq_ok_iff, reads_none_iff]
  · rw [parseLine_eq_ok_iff, reads_status_iff]
  · rw [parseLine_eq_ok_iff, reads_quit_iff]
  · rw [parseLine_eq_ok_iff, reads_event_iff]
  · exact ⟨_, parseLine_of_not_reads h, rfl⟩
  · have hsame : words line' = words line := words_eq_iff.mpr h
    rw [parseLine_eq, parseLine_eq, hsame]
    cases commandOfWords? (words line) <;> rfl
  · exact (parseLine_eq_ok_iff _ _).mpr (reads_display h)

/-- Leading zeros do not count and the range of modes does. -/
theorem parseLine_grammar_refused :
    (∃ fault, parseLine "\u00a0 mode\t011 " = .error fault ∧
        fault.message = "unrecognised command: mode\t011") ∧
      parseLine (Mode.display ⟨9⟩) = .ok (some (.event (.setMode ⟨9⟩))) := by
  obtain ⟨hline, hdisplay⟩ := parseLine_grammar
  obtain ⟨ws, text, hwords, htext, -, -, -, -, herror, -⟩ := hline "\u00a0 mode\t011 "
  obtain rfl : ["mode", "011"] = ws := (hwords _).mp (words_eq_iff.mp (by decide))
  obtain rfl : "mode\t011" = text := (htext _).mp (trims_iff.mpr (by decide))
  have hnone : commandOfWords? ["mode", "011"] = none := by decide
  refine ⟨herror fun r hr => ?_, hdisplay ⟨9⟩ (by decide)⟩
  exact nomatch hnone.symm.trans (commandOfWords?_of_reads hr)

end Console

end NoiseControl
