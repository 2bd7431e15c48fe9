import NoiseControl.Json.Token

/-!
# Reading JSON

A text is one value; nothing but white space may go before or after it.
-/

namespace NoiseControl.Json

mutual

def value? : Nat → List Token → Option (Json × List Token)
  | 0, _ => none
  | fuel + 1, tokens =>
    match tokens with
    | .null :: rest => some (.null, rest)
    | .bool b :: rest => some (.bool b, rest)
    | .number n :: rest => some (.number n, rest)
    | .string s :: rest => some (.string s, rest)
    | .leftBracket :: .rightBracket :: rest => some (.array [], rest)
    | .leftBracket :: rest => (items? fuel rest).map fun (items, rest) => (.array items, rest)
    | .leftBrace :: .rightBrace :: rest => some (.object [], rest)
    | .leftBrace :: rest =>
      (members? fuel rest).map fun (members, rest) => (.object members, rest)
    | _ => none

/-- Read the items of an array, at least one, and its end. -/
def items? : Nat → List Token → Option (List Json × List Token)
  | 0, _ => none
  | fuel + 1, tokens => do
    let (item, rest) ← value? fuel tokens
    match rest with
    | .rightBracket :: rest => some ([item], rest)
    | .comma :: rest =>
      let (items, rest) ← items? fuel rest
      some (item :: items, rest)
    | _ => none

/-- Read the members of an object, at least one, and its end. -/
def members? : Nat → List Token → Option (List (Option String × Json) × List Token)
  | 0, _ => none
  | fuel + 1, tokens =>
    match tokens with
    | .string name :: .colon :: rest => do
      let (value, rest) ← value? fuel rest
      match rest with
      | .rightBrace :: rest => some ([(name, value)], rest)
      | .comma :: rest =>
        let (members, rest) ← members? fuel rest
        some ((name, value) :: members, rest)
      | _ => none
    | _ => none

end

/-- Read the value that a list of tokens is.  Each level of reading takes a token or is the last
one before a token is taken, so twice their number is enough. -/
def ofTokens? (tokens : List Token) : Option Json := do
  let (value, rest) ← value? (2 * tokens.length + 1) tokens
  if rest.isEmpty then some value else none

def parse? (text : String) : Option Json := (tokens? text.toList).bind ofTokens?

end NoiseControl.Json
