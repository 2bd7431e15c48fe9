import NoiseControl.Json.Value

/-!
# Writing JSON

The compact form has no white space.  The indented form puts each item of an array and each
member of an object on a line of its own, two spaces deeper than the line before.
-/

namespace NoiseControl.Json

def hexDigit (d : Nat) : Char := if d < 10 then Char.ofNat (48 + d) else Char.ofNat (87 + d)

/-- A character of a string.  Quotes, backslashes and control characters are escaped, the latter
by their short form where there is one. -/
def escaped (c : Char) : List Char :=
  match c with
  | '"' => ['\\', '"']
  | '\\' => ['\\', '\\']
  | '\n' => ['\\', 'n']
  | '\r' => ['\\', 'r']
  | '\t' => ['\\', 't']
  | '\x08' => ['\\', 'b']
  | '\x0c' => ['\\', 'f']
  | c =>
    if c.toNat < 32 then ['\\', 'u', '0', '0', hexDigit (c.toNat / 16), hexDigit (c.toNat % 16)]
    else [c]

def quoted (s : String) : List Char := '"' :: (s.toList.flatMap escaped ++ ['"'])

/-- The text of a string value; one that denotes no text is written as the replacement
character. -/
def quotedText : Option String → List Char
  | some s => quoted s
  | none => quoted "\ufffd"

def scalar : Json → List Char
  | .null => "null".toList
  | .bool true => "true".toList
  | .bool false => "false".toList
  | .number numeral => numeral
  | .string s => quotedText s
  | .array _ => []
  | .object _ => []

def commaSeparated (parts : List (List Char)) : List Char := (parts.intersperse [',']).flatten

mutual

def compactChars : Json → List Char
  | .array items => '[' :: (commaSeparated (compactItems items) ++ [']'])
  | .object members => '\x7b' :: (commaSeparated (compactMembers members) ++ ['\x7d'])
  | .null => scalar .null
  | .bool b => scalar (.bool b)
  | .number numeral => scalar (.number numeral)
  | .string s => scalar (.string s)

def compactItems : List Json → List (List Char)
  | [] => []
  | j :: rest => compactChars j :: compactItems rest

def compactMembers : List (Option String × Json) → List (List Char)
  | [] => []
  | (name, j) :: rest => (quotedText name ++ ':' :: compactChars j) :: compactMembers rest

end

def newLine (depth : Nat) : List Char := '\n' :: List.replicate (2 * depth) ' '

/-- Parts on lines of their own between two brackets; nothing at all between them without
parts. -/
def block (opening closing : Char) (depth : Nat) (parts : List (List Char)) : List Char :=
  if parts.isEmpty then [opening, closing]
  else
    opening :: (commaSeparated (parts.map (newLine (depth + 1) ++ ·)) ++ newLine depth ++ [closing])

mutual

/-- The indented form of a value whose first line lies at a depth. -/
def indentedChars (depth : Nat) : Json → List Char
  | .array items => block '[' ']' depth (indentedItems (depth + 1) items)
  | .object members => block '\x7b' '\x7d' depth (indentedMembers (depth + 1) members)
  | .null => scalar .null
  | .bool b => scalar (.bool b)
  | .number numeral => scalar (.number numeral)
  | .string s => scalar (.string s)

def indentedItems (depth : Nat) : List Json → List (List Char)
  | [] => []
  | j :: rest => indentedChars depth j :: indentedItems depth rest

def indentedMembers (depth : Nat) : List (Option String × Json) → List (List Char)
  | [] => []
  | (name, j) :: rest =>
    (quotedText name ++ ':' :: ' ' :: indentedChars depth j) :: indentedMembers depth rest

end

def compact (j : Json) : String := String.ofList j.compactChars

def indented (j : Json) : String := String.ofList (indentedChars 0 j)

end NoiseControl.Json
