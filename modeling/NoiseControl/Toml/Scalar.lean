import NoiseControl.Json.Token

/-!
# TOML strings, numbers and dates

Each reader takes what it reads from the front of a list of characters and returns the rest, or
nothing if the front is not of its kind.
-/

namespace NoiseControl.Toml

def isSpace (c : Char) : Bool := c == ' ' || c == '\t'

/-- A character that may stand in a comment: a tab, or any that is not a control character of
ASCII. -/
def isPlain (c : Char) : Bool := c == '\t' || (32 ≤ c.toNat && c.toNat != 127)

def skipSpace (cs : List Char) : List Char := cs.dropWhile isSpace

def newline? : List Char → Option (List Char)
  | '\n' :: rest => some rest
  | '\r' :: '\n' :: rest => some rest
  | _ => none

def skipNewline (cs : List Char) : List Char := (newline? cs).getD cs

/-! ### Strings -/

def scalar? (n : Nat) : Option Char :=
  if n < 0xD800 ∨ (0xE000 ≤ n ∧ n < 0x110000) then some (Char.ofNat n) else none

def hexScalar? (digits : List Char) : Option Char := do
  let values ← digits.mapM Json.hexValue?
  scalar? (values.foldl (fun n d => 16 * n + d) 0)

/-- Read what follows a backslash: a letter, or four or eight digits of base sixteen after
theirs. -/
def escape? : List Char → Option (Char × List Char)
  | 'b' :: rest => some ('\x08', rest)
  | 't' :: rest => some ('\t', rest)
  | 'n' :: rest => some ('\n', rest)
  | 'f' :: rest => some ('\x0c', rest)
  | 'r' :: rest => some ('\r', rest)
  | '"' :: rest => some ('"', rest)
  | '\\' :: rest => some ('\\', rest)
  | 'u' :: rest =>
    if rest.length < 4 then none else (hexScalar? (rest.take 4)).map fun c => (c, rest.drop 4)
  | 'U' :: rest =>
    if rest.length < 8 then none else (hexScalar? (rest.take 8)).map fun c => (c, rest.drop 8)
  | _ => none

def basicString? : Nat → List Char → Option (List Char × List Char)
  | 0, _ => none
  | _ + 1, [] => none
  | _ + 1, '"' :: rest => some ([], rest)
  | fuel + 1, '\\' :: rest => do
    let (c, rest) ← escape? rest
    let (text, rest) ← basicString? fuel rest
    some (c :: text, rest)
  | fuel + 1, c :: rest =>
    if isPlain c then do
      let (text, rest) ← basicString? fuel rest
      some (c :: text, rest)
    else none

def literalString? (cs : List Char) : Option (List Char × List Char) :=
  let (text, rest) := cs.span fun c => isPlain c && c != '\x27'
  match rest with
  | '\x27' :: rest => some (text, rest)
  | _ => none

/-- The quotes at the end of a string of several lines that belong to the string: of a run of
three to five, all but the last three. -/
def closingQuotes? (quote : Char) (cs : List Char) : Option (List Char × List Char) :=
  match cs.take 3 == [quote, quote, quote], cs.drop 3 with
  | true, rest =>
    let inner := (rest.take 2).takeWhile (· == quote)
    some (inner, rest.drop inner.length)
  | false, _ => none

def skipBlank : Nat → List Char → List Char
  | 0, cs => cs
  | fuel + 1, cs =>
    match newline? cs, cs with
    | some rest, _ => skipBlank fuel rest
    | none, c :: rest => if isSpace c then skipBlank fuel rest else cs
    | none, [] => []

/-- What follows a backslash at the end of a line: the blanks and line breaks up to the next
other character are left out. -/
def continuation? (cs : List Char) : Option (List Char) :=
  (newline? (skipSpace cs)).map fun rest => skipBlank rest.length rest

def multilineBasic? : Nat → List Char → Option (List Char × List Char)
  | 0, _ => none
  | fuel + 1, cs =>
    match closingQuotes? '"' cs with
    | some closed => some closed
    | none =>
      match newline? cs, cs with
      | some rest, _ => do
        let (text, rest) ← multilineBasic? fuel rest
        some ('\n' :: text, rest)
      | none, '\\' :: rest =>
        match continuation? rest with
        | some rest => multilineBasic? fuel rest
        | none => do
          let (c, rest) ← escape? rest
          let (text, rest) ← multilineBasic? fuel rest
          some (c :: text, rest)
      | none, c :: rest =>
        if isPlain c then do
          let (text, rest) ← multilineBasic? fuel rest
          some (c :: text, rest)
        else none
      | none, [] => none

def multilineLiteral? : Nat → List Char → Option (List Char × List Char)
  | 0, _ => none
  | fuel + 1, cs =>
    match closingQuotes? '\x27' cs with
    | some closed => some closed
    | none =>
      match newline? cs, cs with
      | some rest, _ => do
        let (text, rest) ← multilineLiteral? fuel rest
        some ('\n' :: text, rest)
      | none, c :: rest =>
        if isPlain c then do
          let (text, rest) ← multilineLiteral? fuel rest
          some (c :: text, rest)
        else none
      | none, [] => none

/-- Read a string of any of the four forms.  A line break right after three opening quotes is
left out. -/
def stringValue? (cs : List Char) : Option (List Char × List Char) :=
  match cs with
  | '"' :: '"' :: '"' :: rest => multilineBasic? (rest.length + 1) (skipNewline rest)
  | '"' :: rest => basicString? (rest.length + 1) rest
  | '\x27' :: '\x27' :: '\x27' :: rest => multilineLiteral? (rest.length + 1) (skipNewline rest)
  | '\x27' :: rest => literalString? rest
  | _ => none

/-! ### Numbers -/

/-- The digits at the front after a first one; single underscores between digits are left out. -/
def moreDigits (isDigit : Char → Bool) : List Char → List Char × List Char
  | '_' :: c :: rest =>
    if isDigit c then
      let (digits, rest) := moreDigits isDigit rest
      (c :: digits, rest)
    else ([], '_' :: c :: rest)
  | c :: rest =>
    if isDigit c then
      let (digits, rest) := moreDigits isDigit rest
      (c :: digits, rest)
    else ([], c :: rest)
  | [] => ([], [])

def digits? (isDigit : Char → Bool) : List Char → Option (List Char × List Char)
  | c :: rest =>
    if isDigit c then
      let (digits, rest) := moreDigits isDigit rest
      some (c :: digits, rest)
    else none
  | [] => none

/-- Read a sign, if there is one; whether it is a minus. -/
def sign : List Char → Bool × List Char
  | '+' :: rest => (false, rest)
  | '-' :: rest => (true, rest)
  | cs => (false, cs)

/-- Read the digits of a whole number: a zero alone, or digits that start with none. -/
def wholeDigits? : List Char → Option (List Char × List Char)
  | '0' :: rest => some (['0'], rest)
  | cs => digits? Text.isDigit cs

def valueOf (base : Nat) (digits : List Char) : Nat :=
  digits.foldl (fun n c => base * n + (Json.hexValue? c).getD 0) 0

def isDigitBelow (base : Nat) (c : Char) : Bool :=
  match Json.hexValue? c with
  | some d => decide (d < base)
  | none => false

def integer64? (n : Int) : Option Int :=
  if -9223372036854775808 ≤ n ∧ n ≤ 9223372036854775807 then some n else none

/-- Read an integer: in base sixteen, eight or two after the mark of the base, else in base ten
with a sign or none. -/
def integer? (cs : List Char) : Option (Int × List Char) :=
  match cs with
  | '0' :: 'x' :: rest => based 16 rest
  | '0' :: 'o' :: rest => based 8 rest
  | '0' :: 'b' :: rest => based 2 rest
  | cs => do
    let (negative, rest) := sign cs
    let (digits, rest) ← wholeDigits? rest
    let n ← integer64? (if negative then -(valueOf 10 digits : Int) else valueOf 10 digits)
    some (n, rest)
where
  based (base : Nat) (cs : List Char) : Option (Int × List Char) := do
    let (digits, rest) ← digits? (isDigitBelow base) cs
    let n ← integer64? (valueOf base digits)
    some (n, rest)

/-- Whether `m` times ten to the power `e` lies beyond the largest number of 64-bit floating
point, after rounding.  Numerals far from that limit are told by their length. -/
def exceedsFloat (m : Nat) (e : Int) : Bool :=
  let magnitude : Int := (Text.numeral m).length + e
  if m = 0 ∨ magnitude < 300 then false
  else if 400 < magnitude then true
  else
    decide ((Nat.pow 2 1024 - Nat.pow 2 970) * Nat.pow 10 (-e).toNat ≤ m * Nat.pow 10 e.toNat)

def fraction? : List Char → Option (List Char × List Char)
  | '.' :: rest => digits? Text.isDigit rest
  | _ => none

def exponent? : List Char → Option (Int × List Char)
  | c :: rest =>
    if c = 'e' ∨ c = 'E' then do
      let (negative, rest) := sign rest
      let (digits, rest) ← digits? Text.isDigit rest
      some (if negative then -(valueOf 10 digits : Int) else valueOf 10 digits, rest)
    else none
  | [] => none

/-- Read a float and tell where it ends.  It has a fraction or an exponent or both, or is one of
the names for infinity and for no number.  A numeral too large for a float is refused; one too
far below zero is not. -/
def float? (cs : List Char) : Option (List Char) :=
  let (negative, unsigned) := sign cs
  match unsigned with
  | 'i' :: 'n' :: 'f' :: rest => some rest
  | 'n' :: 'a' :: 'n' :: rest => some rest
  | _ => do
    let (whole, rest) ← wholeDigits? unsigned
    let (fraction, exponent, rest) ←
      match fraction? rest with
      | some (fraction, rest) =>
        match exponent? rest with
        | some (e, rest) => some (fraction, e, rest)
        | none => some (fraction, 0, rest)
      | none => (exponent? rest).map fun (e, rest) => ([], e, rest)
    if !negative && exceedsFloat (valueOf 10 (whole ++ fraction)) (exponent - fraction.length) then
      none
    else some rest

/-! ### Dates and times -/

/-- Read a number of exactly `n` digits from `low` to `high`. -/
def fixedDigits? (n low high : Nat) (cs : List Char) : Option (Nat × List Char) :=
  let digits := cs.take n
  if digits.length = n ∧ digits.all Text.isDigit = true then
    let value := valueOf 10 digits
    if low ≤ value ∧ value ≤ high then some (value, cs.drop n) else none
  else none

def oneOf? (set : List Char) : List Char → Option (List Char)
  | c :: rest => if set.contains c then some rest else none
  | [] => none

def daysIn (year month : Nat) : Nat :=
  if month = 2 then
    if year % 4 = 0 ∧ (year % 100 ≠ 0 ∨ year % 400 = 0) then 29 else 28
  else if month = 4 ∨ month = 6 ∨ month = 9 ∨ month = 11 then 30
  else 31

def date? (cs : List Char) : Option (List Char) := do
  let (year, cs) ← fixedDigits? 4 0 9999 cs
  let cs ← oneOf? ['-'] cs
  let (month, cs) ← fixedDigits? 2 1 12 cs
  let cs ← oneOf? ['-'] cs
  let (_, cs) ← fixedDigits? 2 1 (daysIn year month) cs
  some cs

def skipSecondFraction : List Char → List Char
  | '.' :: rest =>
    if (rest.head?.map Text.isDigit).getD false then rest.dropWhile Text.isDigit else '.' :: rest
  | cs => cs

/-- Read a time of the day; a minute may have sixty-one seconds. -/
def time? (cs : List Char) : Option (List Char) := do
  let (_, cs) ← fixedDigits? 2 0 23 cs
  let cs ← oneOf? [':'] cs
  let (_, cs) ← fixedDigits? 2 0 59 cs
  let cs ← oneOf? [':'] cs
  let (_, cs) ← fixedDigits? 2 0 60 cs
  some (skipSecondFraction cs)

def offset? (cs : List Char) : Option (List Char) :=
  match oneOf? ['Z', 'z'] cs with
  | some rest => some rest
  | none => do
    let cs ← oneOf? ['+', '-'] cs
    let (_, cs) ← fixedDigits? 2 0 23 cs
    let cs ← oneOf? [':'] cs
    let (_, cs) ← fixedDigits? 2 0 59 cs
    some cs

/-- Read a date, a time, or both with an offset or without, and tell where it ends. -/
def dateTime? (cs : List Char) : Option (List Char) :=
  match date? cs with
  | none => time? cs
  | some afterDate =>
    match (oneOf? ['T', 't', ' '] afterDate).bind time? with
    | none => some afterDate
    | some afterTime => some ((offset? afterTime).getD afterTime)

end NoiseControl.Toml
