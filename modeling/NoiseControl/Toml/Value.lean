/-!
# TOML values

The values of a TOML document, and how its tables grow.  A table remembers how it came to be,
because that decides what may still be added to it.  A header opens a table once, and it may open
one that so far was only named on the way to another.  A dotted key adds to tables that dotted
keys made, and passes through those that were only named.  An inline table is closed.
-/

namespace NoiseControl

/-- How a table came to be. -/
inductive TableOrigin where
  /-- A header opened it. -/
  | header
  /-- A header named it on the way to another table. -/
  | named
  /-- A dotted key made it. -/
  | dotted
  /-- It was written as an inline table. -/
  | inline
deriving DecidableEq

inductive Toml where
  | string (text : String)
  | integer (value : Int)
  | boolean (value : Bool)
  | float
  | dateTime
  | array (items : List Toml)
  | table (origin : TableOrigin) (entries : List (String × Toml))
  /-- The tables that double-bracket headers of one name opened, oldest first. -/
  | tables (items : List (List (String × Toml)))
deriving Inhabited

namespace Toml

abbrev Entries := List (String × Toml)

/-! ### Growing tables -/

def get? (entries : Entries) (key : String) : Option Toml := entries.lookup key

/-- Put a value in the place of that of a key, or at the end. -/
def putEntry : Entries → String → Toml → Entries
  | [], key, value => [(key, value)]
  | (k, v) :: rest, key, value =>
    if k = key then (k, value) :: rest else (k, v) :: putEntry rest key value

/-- Change the entries of the table at the end of a path, given how it came to be.  Tables
missing on the way are made, and of an array of tables the last is meant.  `byKey` tells a dotted
key from a header: a dotted key may not enter a table that a header opened.  No path enters an
inline table or a value that is no table. -/
def changeAt? (byKey : Bool) (change : TableOrigin → Entries → Option Entries) :
    List String → TableOrigin → Entries → Option Entries
  | [], origin, entries => change origin entries
  | key :: path, _, entries =>
    match get? entries key with
    | none => do
      let origin := if byKey then .dotted else .named
      let inner ← changeAt? byKey change path origin []
      some (entries ++ [(key, .table origin inner)])
    | some (.table origin inner) =>
      if origin = .inline ∨ (byKey = true ∧ origin = .header) then none
      else do
        let inner ← changeAt? byKey change path origin inner
        some (putEntry entries key (.table origin inner))
    | some (.tables items) => do
      let last ← items.getLast?
      let last ← changeAt? byKey change path .header last
      some (putEntry entries key (.tables (items.dropLast ++ [last])))
    | some _ => none

/-- Add a value under a key that is not there yet. -/
def insertNew? (entries : Entries) (key : String) (value : Toml) : Option Entries :=
  if (get? entries key).isSome then none else some (entries ++ [(key, value)])

/-- Add a value under a dotted key to an open table.  Unless the key is plain, the last table on
its way must be one that dotted keys made. -/
def assign? (entries : Entries) (path : List String) (key : String) (value : Toml) :
    Option Entries :=
  changeAt? true
    (fun origin entries =>
      if path.isEmpty || origin == .dotted then insertNew? entries key value else none)
    path .header entries

/-- Open the table of a header, which may be one that was only named so far. -/
def openTable? (root : Entries) (path : List String) (key : String) : Option Entries :=
  changeAt? false
    (fun _ entries =>
      match get? entries key with
      | none => some (entries ++ [(key, .table .header [])])
      | some (.table .named inner) => some (putEntry entries key (.table .header inner))
      | some _ => none)
    path .header root

def openItem? (root : Entries) (path : List String) (key : String) : Option Entries :=
  changeAt? false
    (fun _ entries =>
      match get? entries key with
      | none => some (entries ++ [(key, .tables [[]])])
      | some (.tables items) => some (putEntry entries key (.tables (items ++ [[]])))
      | some _ => none)
    path .header root

/-- Add a value under a dotted key to the table that was opened under a path. -/
def assignAt? (root : Entries) (table : List String) (path : List String) (key : String)
    (value : Toml) : Option Entries :=
  changeAt? false (fun _ entries => assign? entries path key value) table .header root

/-! ### Reading values -/

def nat? (max : Nat) : Toml → Option Nat
  | integer n => if 0 ≤ n ∧ n ≤ max then some n.toNat else none
  | _ => none

def bool? : Toml → Option Bool
  | boolean b => some b
  | _ => none

def string? : Toml → Option String
  | string s => some s
  | _ => none

/-- A choice among names: the name itself, or a table of one entry that has the name and an
empty table or array. -/
def choice? : Toml → Option String
  | string s => some s
  | table _ [(name, table _ [])] => some name
  | table _ [(name, array [])] => some name
  | _ => none

/-- The values under given names: of a table by name, each if it is there, and of an array by
place, where none may be missing.  What has no name is left aside. -/
def fields? (names : List String) : Toml → Option (List (Option Toml))
  | table _ entries => some (names.map fun name => get? entries name)
  | array items =>
    if names.length ≤ items.length then some ((items.take names.length).map some) else none
  | tables items =>
    if names.length ≤ items.length then
      some ((items.take names.length).map fun entries => some (.table .header entries))
    else none
  | _ => none

end Toml

end NoiseControl
