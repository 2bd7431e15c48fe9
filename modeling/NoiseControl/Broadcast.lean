/-!
# Broadcast channels

A channel sends each item to every reader.  It keeps the last items only: a reader that fell
behind is first told how many it lost and then goes on with the oldest one kept.
-/

namespace NoiseControl

inductive Received (α : Type) where
  | item (value : α)
  | lagged (lost : Nat)

/-- A channel remembers all it sent, newest first, and for each reader, in order of creation,
how many of the items lie behind it.  A reader that was closed has no position. -/
structure Broadcast (α : Type) where
  sent : List α := []
  readers : List (Option Nat) := []

namespace Broadcast

variable {α : Type}

def capacity : Nat := 64

def send (c : Broadcast α) (a : α) : Broadcast α := { c with sent := a :: c.sent }

/-- Add a reader of the items still to come; its number is the count of readers so far. -/
def subscribe (c : Broadcast α) : Broadcast α :=
  { c with readers := c.readers ++ [some c.sent.length] }

def close (c : Broadcast α) (reader : Nat) : Broadcast α :=
  { c with readers := c.readers.set reader none }

def subscribers (c : Broadcast α) : Nat := c.readers.countP Option.isSome

def itemAt? (c : Broadcast α) (position : Nat) : Option α :=
  if position < c.sent.length then c.sent[c.sent.length - 1 - position]? else none

/-- What a reader at a position reads and where it is afterwards; nothing if it has read all. -/
def readAt? (c : Broadcast α) (position : Nat) : Option (Received α × Nat) :=
  let oldest := c.sent.length - capacity
  if position < oldest then some (.lagged (oldest - position), oldest)
  else (c.itemAt? position).map fun a => (.item a, position + 1)

def read (c : Broadcast α) (reader : Nat) : Broadcast α × Option (Received α) :=
  match c.readers[reader]? with
  | some (some position) =>
    match c.readAt? position with
    | some (received, position') =>
      ({ c with readers := c.readers.set reader (some position') }, some received)
    | none => (c, none)
  | _ => (c, none)

def readUpTo (c : Broadcast α) (reader : Nat) : Nat → Broadcast α × List (Received α)
  | 0 => (c, [])
  | limit + 1 =>
    match c.read reader with
    | (c, some received) =>
      let (c, rest) := c.readUpTo reader limit
      (c, received :: rest)
    | (c, none) => (c, [])

/-- Read all that is waiting.  A notice of loss and the items kept are at most one more than the
capacity. -/
def readAll (c : Broadcast α) (reader : Nat) : Broadcast α × List (Received α) :=
  c.readUpTo reader (capacity + 1)

end Broadcast

end NoiseControl
