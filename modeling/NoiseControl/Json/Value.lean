import NoiseControl.Text.Decimal

/-!
# JSON values

A JSON value keeps the members of an object in order, repeated names included.  A number is its
numeral; the plain natural ones, without sign, fraction or exponent, are the only ones that are
read as a value.  A string whose escapes name half a surrogate pair denotes no text.
-/

namespace NoiseControl

inductive Json where
  | null
  | bool (value : Bool)
  | number (numeral : List Char)
  /-- A string, none if it denotes no text. -/
  | string (text : Option String)
  | array (items : List Json)
  | object (members : List (Option String × Json))
deriving Inhabited

namespace Json

def text (s : String) : Json := .string (some s)

def record (members : List (String × Json)) : Json :=
  .object (members.map fun m => (some m.1, m.2))

def nat (n : Nat) : Json := .number (Text.numeral n)

def byte (b : UInt8) : Json := .nat b.toNat

def ofOption {α : Type} (f : α → Json) : Option α → Json
  | some a => f a
  | none => .null

/-! ### Reading members -/

/-- The value of an object under the only member of a name.  None if it has no such member or
several. -/
def member? (members : List (Option String × Json)) (name : String) : Option Json :=
  match members.filter fun m => m.1 == some name with
  | [m] => some m.2
  | _ => none

/-- The fields of a record, by name from an object or by place from an array.  An object must
have each name once and may have others, an array nothing else. -/
def fields? (names : List String) : Json → Option (List Json)
  | .object members =>
    if members.all fun m => m.1.isSome then names.mapM (member? members) else none
  | .array items => if items.length = names.length then some items else none
  | _ => none

def bool? : Json → Option Bool
  | .bool b => some b
  | _ => none

def nat? (max : Nat) : Json → Option Nat
  | .number numeral => (Text.digits? numeral).filter fun n => decide (n ≤ max)
  | _ => none

theorem nat?_nat {n max : Nat} (h : n ≤ max) : (nat n).nat? max = some n := by
  simp [nat?, nat, Text.digits?_numeral, h]

/-- A choice among names: the name itself, or an object of one member that has the name and a
null value. -/
def choice? : Json → Option String
  | .string s => s
  | .object [(name, .null)] => name
  | _ => none

end Json

end NoiseControl
