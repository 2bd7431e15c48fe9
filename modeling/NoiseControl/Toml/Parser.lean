import NoiseControl.Toml.Scalar
import NoiseControl.Toml.Value

/-!
# Reading TOML

A document is a list of lines: headers, keys with values, comments and empty lines.
-/

namespace NoiseControl.Toml

/-- Arrays and inline tables may be nested less deep than this, and a dotted key has fewer
parts. -/
def depthLimit : Nat := 80

/-! ### Keys -/

def isBare (c : Char) : Bool :=
  ('a' ≤ c && c ≤ 'z') || ('A' ≤ c && c ≤ 'Z') || Text.isDigit c || c == '-' || c == '_'

/-- Read one part of a key: bare, or in quotes on one line. -/
def keyPart? (cs : List Char) : Option (String × List Char) :=
  match cs with
  | '"' :: rest => (basicString? (rest.length + 1) rest).map fun (s, r) => (String.ofList s, r)
  | '\x27' :: rest => (literalString? rest).map fun (s, r) => (String.ofList s, r)
  | cs =>
    let (bare, rest) := cs.span isBare
    if bare.isEmpty then none else some (String.ofList bare, rest)

/-- Read the parts of a key, with points between them and spaces around each. -/
def keyParts? : Nat → List Char → Option (List String × List Char)
  | 0, _ => none
  | fuel + 1, cs => do
    let (part, rest) ← keyPart? (skipSpace cs)
    match skipSpace rest with
    | '.' :: rest => do
      let (parts, rest) ← keyParts? fuel rest
      some (part :: parts, rest)
    | rest => some ([part], rest)

/-- Read a key: the parts before the last, and the last. -/
def key? (cs : List Char) : Option (List String × String × List Char) := do
  let (parts, rest) ← keyParts? (cs.length + 1) cs
  let last ← parts.getLast?
  if parts.length < depthLimit then some (parts.dropLast, last, rest) else none

def keyBefore? (cs : List Char) : Option (List String × String × List Char) := do
  let (path, key, rest) ← key? cs
  let rest ← oneOf? ['='] rest
  some (path, key, skipSpace rest)

/-! ### Values -/

/-- Leave out spaces, line breaks and comments. -/
def skipFiller (inComment : Bool) : List Char → List Char
  | '\n' :: rest => skipFiller false rest
  | '\r' :: '\n' :: rest => skipFiller false rest
  | c :: rest =>
    if inComment then if isPlain c then skipFiller true rest else c :: rest
    else if isSpace c then skipFiller false rest
    else if c = '#' then skipFiller true rest
    else c :: rest
  | [] => []

/-- Read the items of an array and its end, given a reader of values.  Spaces, line breaks and
comments may stand around them, and a comma after the last. -/
def items? (value? : List Char → Option (Toml × List Char)) :
    Nat → List Char → Option (List Toml × List Char)
  | 0, _ => none
  | fuel + 1, cs =>
    match skipFiller false cs with
    | ']' :: rest => some ([], rest)
    | cs => do
      let (item, rest) ← value? cs
      match skipFiller false rest with
      | ']' :: rest => some ([item], rest)
      | ',' :: rest => do
        let (items, rest) ← items? value? fuel rest
        some (item :: items, rest)
      | _ => none

/-- Read the entries of an inline table, at least one, and its end, given a reader of values and
the entries before. -/
def inlineEntries? (value? : List Char → Option (Toml × List Char)) :
    Nat → Entries → List Char → Option (Entries × List Char)
  | 0, _, _ => none
  | fuel + 1, entries, cs => do
    let (path, key, rest) ← keyBefore? cs
    let (value, rest) ← value? rest
    let entries ← assign? entries path key value
    match skipSpace rest with
    | '\x7d' :: rest => some (entries, rest)
    | ',' :: rest => inlineEntries? value? fuel entries rest
    | _ => none

def scalarValue? (cs : List Char) : Option (Toml × List Char) :=
  match cs with
  | 't' :: 'r' :: 'u' :: 'e' :: rest => some (.boolean true, rest)
  | 'f' :: 'a' :: 'l' :: 's' :: 'e' :: rest => some (.boolean false, rest)
  | cs =>
    match stringValue? cs with
    | some (text, rest) => some (.string (String.ofList text), rest)
    | none =>
      match dateTime? cs with
      | some rest => some (.dateTime, rest)
      | none =>
        match float? cs with
        | some rest => some (.float, rest)
        | none => (integer? cs).map fun (n, rest) => (.integer n, rest)

/-- Read a value, with room for a number of nested arrays and inline tables. -/
def value? : Nat → List Char → Option (Toml × List Char)
  | 0, '[' :: _ => none
  | 0, '\x7b' :: _ => none
  | room + 1, '[' :: rest =>
    (items? (value? room) (rest.length + 1) rest).map fun (items, rest) => (.array items, rest)
  | room + 1, '\x7b' :: rest =>
    match skipSpace rest with
    | '\x7d' :: rest => some (.table .inline [], rest)
    | rest =>
      (inlineEntries? (value? room) (rest.length + 1) [] rest).map fun (entries, rest) =>
        (.table .inline entries, rest)
  | _, cs => scalarValue? cs

/-! ### Documents -/

/-- Read the end of a line: spaces, a comment or none, and a line break or the end of the
text. -/
def lineEnd? (cs : List Char) : Option (List Char) :=
  let rest := match skipSpace cs with
    | '#' :: rest => rest.dropWhile isPlain
    | rest => rest
  if rest.isEmpty then some [] else newline? rest

/-- Read one line that is not empty: the tables so far and the path of the one that is open,
before and after. -/
def line? (root : Entries) (current : List String) (cs : List Char) :
    Option (Entries × List String × List Char) :=
  match cs with
  | '#' :: _ => (lineEnd? cs).map fun rest => (root, current, rest)
  | '[' :: '[' :: rest => do
    let (path, key, rest) ← key? rest
    let rest ← oneOf? [']'] rest
    let rest ← oneOf? [']'] rest
    let rest ← lineEnd? rest
    let root ← openItem? root path key
    some (root, path ++ [key], rest)
  | '[' :: rest => do
    let (path, key, rest) ← key? rest
    let rest ← oneOf? [']'] rest
    let rest ← lineEnd? rest
    let root ← openTable? root path key
    some (root, path ++ [key], rest)
  | cs => do
    let (path, key, rest) ← keyBefore? cs
    let (value, rest) ← value? (depthLimit - 1) rest
    let rest ← lineEnd? rest
    let root ← assignAt? root current path key value
    some (root, current, rest)

def lines? : Nat → Entries → List String → List Char → Option Entries
  | 0, _, _, _ => none
  | fuel + 1, root, current, cs =>
    let cs := skipSpace cs
    if cs.isEmpty then some root
    else
      match newline? cs with
      | some rest => lines? fuel root current rest
      | none => do
        let (root, current, rest) ← line? root current cs
        lines? fuel root current rest

/-- Read a document.  A byte order mark at its start is left out. -/
def parse? (text : String) : Option Entries :=
  let cs := match text.toList with
    | '\ufeff' :: rest => rest
    | cs => cs
  lines? (cs.length + 1) [] [] cs

end NoiseControl.Toml
