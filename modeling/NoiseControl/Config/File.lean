import NoiseControl.Config
import NoiseControl.Files
import NoiseControl.Toml.Parser

/-!
# Configuration files

A configuration file is a TOML document of five tables, each of which may be missing or hold only
some of its values.  What it gives takes the place of what the configuration had; entries it does
not know are left aside.  Modes are given by the number a person reads and lengths of time in
milliseconds.
-/

namespace NoiseControl

structure GeneralEntries where
  numModes : Option UInt8 := none
  defaultMode : Option UInt8 := none
  layout : Option FilterLayout := none
  adaptive : Option Bool := none
  side : Option Side := none
deriving DecidableEq

structure CallEntries where
  implicitEnable : Option Bool := none
  mode : Option UInt8 := none
deriving DecidableEq

/-- The table `timing`, in milliseconds. -/
structure TimingEntries where
  quietModeDelay : Option Nat := none
  gentleMute : Option Nat := none
  configSettle : Option Nat := none
  gainPoll : Option Nat := none
  pathGainSettle : Option Nat := none
deriving DecidableEq

structure PersistEntries where
  enabled : Option Bool := none
  mode : Option Bool := none
  path : Option String := none
deriving DecidableEq

structure ConfigFile where
  general : GeneralEntries := {}
  microphones : Microphones := {}
  call : CallEntries := {}
  timing : TimingEntries := {}
  persist : PersistEntries := {}
deriving DecidableEq

namespace ConfigFile

/-! ### Reading -/

/-- A value that may be missing; one that is there has to be readable. -/
def optional {α : Type} (read : Toml → Option α) : Option Toml → Option (Option α)
  | none => some none
  | some v => (read v).map some

def byte? (v : Toml) : Option UInt8 := (v.nat? 255).map UInt8.ofNat

def millis? (v : Toml) : Option Nat := v.nat? 18446744073709551615

def layout? (v : Toml) : Option FilterLayout := v.choice?.bind FilterLayout.ofName?

def side? (v : Toml) : Option Side :=
  match v.choice? with
  | some "left" => some .left
  | some "right" => some .right
  | _ => none

/-- The values of one of the tables, none of them given if the table is missing. -/
def table? (entries : Toml.Entries) (name : String) (names : List String) :
    Option (List (Option Toml)) :=
  match Toml.get? entries name with
  | none => some (names.map fun _ => none)
  | some v => v.fields? names

def general? (entries : Toml.Entries) : Option GeneralEntries := do
  match ← table? entries "anc" ["num_modes", "default_mode", "path", "adaptive", "side"] with
  | [numModes, defaultMode, path, adaptive, side] =>
    some {
      numModes := ← optional byte? numModes
      defaultMode := ← optional byte? defaultMode
      layout := ← optional layout? path
      adaptive := ← optional Toml.bool? adaptive
      side := ← optional side? side }
  | _ => none

def microphones? (entries : Toml.Entries) : Option Microphones := do
  let names := ["feed_forward_left", "feed_forward_right", "feed_back_left", "feed_back_right"]
  match ← table? entries "microphones" names with
  | [feedForwardLeft, feedForwardRight, feedBackLeft, feedBackRight] =>
    some {
      feedForwardLeft := ← optional byte? feedForwardLeft
      feedForwardRight := ← optional byte? feedForwardRight
      feedBackLeft := ← optional byte? feedBackLeft
      feedBackRight := ← optional byte? feedBackRight }
  | _ => none

def call? (entries : Toml.Entries) : Option CallEntries := do
  match ← table? entries "call" ["implicit_enable", "mode"] with
  | [implicitEnable, mode] =>
    some {
      implicitEnable := ← optional Toml.bool? implicitEnable
      mode := ← optional byte? mode }
  | _ => none

def timing? (entries : Toml.Entries) : Option TimingEntries := do
  let names := ["quiet_mode_delay_ms", "gentle_mute_ms", "config_settle_ms", "ff_gain_poll_ms",
    "path_gain_settle_ms"]
  match ← table? entries "timing" names with
  | [quietModeDelay, gentleMute, configSettle, gainPoll, pathGainSettle] =>
    some {
      quietModeDelay := ← optional millis? quietModeDelay
      gentleMute := ← optional millis? gentleMute
      configSettle := ← optional millis? configSettle
      gainPoll := ← optional millis? gainPoll
      pathGainSettle := ← optional millis? pathGainSettle }
  | _ => none

def persist? (entries : Toml.Entries) : Option PersistEntries := do
  match ← table? entries "persist" ["enabled", "mode", "path"] with
  | [enabled, mode, path] =>
    some {
      enabled := ← optional Toml.bool? enabled
      mode := ← optional Toml.bool? mode
      path := ← optional Toml.string? path }
  | _ => none

def ofEntries? (entries : Toml.Entries) : Option ConfigFile := do
  some {
    general := ← general? entries
    microphones := ← microphones? entries
    call := ← call? entries
    timing := ← timing? entries
    persist := ← persist? entries }

def parse (text : String) : Except Error ConfigFile :=
  match (Toml.parse? text).bind ofEntries? with
  | some file => .ok file
  | none => .error .toml

def load (p : Place) : Except Error ConfigFile :=
  match p.read with
  | .ok text => parse text
  | .error e => .error e

end ConfigFile

namespace Config

/-! ### Overlaying -/

/-- The mode of a number in a file.  A number that no mode has is left aside. -/
def modeOf? (number : Option UInt8) : Option Mode := number.bind fun n => Mode.ofNumber? n.toNat

/-- Adopt what a file gives.  Microphones are replaced together as soon as one is given. -/
def overlay (c : Config) (file : ConfigFile) : Config where
  numModes := file.general.numModes.getD c.numModes
  defaultMode := (modeOf? file.general.defaultMode).getD c.defaultMode
  microphones := if file.microphones.fitted then file.microphones else c.microphones
  layout := file.general.layout.getD c.layout
  adaptive := file.general.adaptive.getD c.adaptive
  call :=
    { implicitEnable := file.call.implicitEnable.getD c.call.implicitEnable
      mode := (modeOf? file.call.mode).getD c.call.mode }
  timing :=
    { quietModeDelay := (file.timing.quietModeDelay.map millis).getD c.timing.quietModeDelay
      gentleMute := (file.timing.gentleMute.map millis).getD c.timing.gentleMute
      configSettle := (file.timing.configSettle.map millis).getD c.timing.configSettle
      gainPoll := (file.timing.gainPoll.map millis).getD c.timing.gainPoll
      pathGainSettle := (file.timing.pathGainSettle.map millis).getD c.timing.pathGainSettle }
  persist :=
    { enabled := file.persist.enabled.getD c.persist.enabled
      mode := file.persist.mode.getD c.persist.mode
      path := file.persist.path.getD c.persist.path }
  side := file.general.side.getD c.side

end Config

end NoiseControl
