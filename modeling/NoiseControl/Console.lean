import NoiseControl.Event
import NoiseControl.Text.Blank
import NoiseControl.Text.Decimal

/-!
# Console commands

A line of the console is read as its words.  No words are a blank line, a few lines speak to the
console itself, and all others name an event.
-/

namespace NoiseControl

inductive ConsoleCommand where
  | event (event : Event)
  | status
  | quit
deriving DecidableEq

structure UnknownCommand where
  text : String
deriving DecidableEq

namespace UnknownCommand

def message (e : UnknownCommand) : String := s!"unrecognised command: {e.text}"

end UnknownCommand

namespace Console

def number? (max : Nat) (word : String) : Option Nat := Text.number? max word.toList

/-- The event that a list of words names.  Modes are given by the number a person reads. -/
def eventOfWords? : List String → Option Event
  | ["enable"] | ["on"] => some .enable
  | ["disable"] | ["off"] => some .disable
  | ["next"] => some .setNextMode
  | ["mode", n] => ((number? 255 n).bind Mode.ofNumber?).map .setMode
  | ["gain", g] => (number? 255 g).map fun n => .setLeakthroughGain (UInt8.ofNat n)
  | ["call", "start"] => some .callStarted
  | ["call", "end"] | ["call", "stop"] => some .callEnded
  | ["quiet", "on"] => some .silenceDetected
  | ["quiet", "off"] => some .silenceCleared
  | ["tune"] => some .enterTuning
  | ["untune"] => some .exitTuning
  | ["tune", "adaptive"] => some .enterAdaptiveTuning
  | ["untune", "adaptive"] => some .exitAdaptiveTuning
  | ["usb", "attach", rate] =>
    (number? 4294967295 rate).map fun n => .tuningLinkAttached (UInt32.ofNat n)
  | ["usb", "detach"] => some .tuningLinkDetached
  | ["power", "on"] => some .powerOn
  | ["power", "off"] => some .powerOff
  | ["ear", "in"] => some (.placed .own .inEar)
  | ["ear", "out"] => some (.placed .own .outOfEar)
  | ["case"] => some (.placed .own .inCase)
  | ["peer", "case"] => some (.placed .peer .inCase)
  | ["peer", "lost"] => some .peerLinkLost
  | _ => none

def words (line : String) : List String := (Text.words line.toList).map String.ofList

def parseEvent (line : String) : Except UnknownCommand Event :=
  match eventOfWords? (words line) with
  | some e => .ok e
  | none => .error ⟨Text.trimString line⟩

/-- Read a line of the console; a blank line asks for nothing. -/
def parseLine (line : String) : Except UnknownCommand (Option ConsoleCommand) :=
  match Text.trimString line with
  | "" => .ok none
  | "status" => .ok (some .status)
  | "quit" | "exit" => .ok (some .quit)
  | command => (parseEvent command).map fun e => some (.event e)

end Console

end NoiseControl
