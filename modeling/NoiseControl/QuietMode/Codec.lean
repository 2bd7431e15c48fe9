import NoiseControl.Json.Parser
import NoiseControl.Json.Printer
import NoiseControl.QuietMode.Record

/-!
# Written quiet-mode records

A record is written as a JSON object of its five fields, and read from such an object, with the
fields in any order and others beside them, or from an array of the five values.
-/

namespace NoiseControl.QuietMode.Record

/-- The names of the fields, in the order in which they are written. -/
def fieldNames : List String :=
  ["detected", "enabled", "enable_requested", "disable_requested", "timestamp"]

def fieldValues (r : Record) : List Json :=
  [.bool r.detected, .bool r.enabled, .bool r.enableRequested, .bool r.disableRequested,
    .nat r.timestamp.micros.toNat]

def members (r : Record) : List (String × Json) := fieldNames.zip r.fieldValues

def toJson (r : Record) : Json := .record r.members

def ofFields? : List Json → Option Record
  | [detected, enabled, enableRequested, disableRequested, timestamp] => do
    let detected ← detected.bool?
    let enabled ← enabled.bool?
    let enableRequested ← enableRequested.bool?
    let disableRequested ← disableRequested.bool?
    let micros ← timestamp.nat? 4294967295
    some { detected, enabled, enableRequested, disableRequested, timestamp := ⟨UInt32.ofNat micros⟩ }
  | _ => none

def ofJson? (j : Json) : Option Record := (j.fields? fieldNames).bind ofFields?

def parse? (text : String) : Option Record := (Json.parse? text).bind ofJson?

def render (r : Record) : String := r.toJson.compact

theorem ofFields?_fieldValues (r : Record) : ofFields? r.fieldValues = some r := by
  obtain ⟨_, _, _, _, ⟨micros⟩⟩ := r
  have h : micros.toNat ≤ 4294967295 := Nat.le_of_lt_succ micros.toNat_lt
  simp [ofFields?, fieldValues, Json.bool?, Json.nat?_nat h]

end NoiseControl.QuietMode.Record
