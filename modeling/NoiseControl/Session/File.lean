import NoiseControl.Files
import NoiseControl.Json.Parser
import NoiseControl.Json.Printer
import NoiseControl.Session

/-!
# Session files

A session is written as an indented JSON object of its two fields, and read from such an object
or from an array of the two values.  A file that is missing holds no session; one that cannot be
read, or holds something else, is an error.
-/

namespace NoiseControl.Session

def fieldNames : List String := ["enabled", "mode"]

def toJson (s : Session) : Json :=
  .record [("enabled", .bool s.enabled), ("mode", .byte s.mode.index)]

def ofFields? : List Json → Option Session
  | [enabled, mode] => do
    let enabled ← enabled.bool?
    let index ← mode.nat? 255
    some { enabled, mode := ⟨UInt8.ofNat index⟩ }
  | _ => none

def parse? (text : String) : Option Session := do
  let json ← Json.parse? text
  let fields ← json.fields? fieldNames
  ofFields? fields

def render (s : Session) : String := s.toJson.indented

def load (p : Place) : Except Error (Option Session) :=
  if p.isPresent then
    match p.read with
    | .error e => .error e
    | .ok text =>
      match parse? text with
      | some s => .ok (some s)
      | none => .error .serialization
  else .ok none

def saveTo (s : Session) (p : Place) : Place × Outcome := p.write s.render

end NoiseControl.Session
