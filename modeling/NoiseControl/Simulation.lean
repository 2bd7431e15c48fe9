import NoiseControl.Pair
import NoiseControl.Reports

/-!
# Simulating a negotiation

Two earbuds are brought up, both observe silence for a while, and then the right one no longer
does.  What their clients are told and the records they end with are shown line by line.
-/

namespace NoiseControl.Simulation

/-- A number of digits after a point, without the zeros at its end, and no point without
digits. -/
def decimals (width value : Nat) : String :=
  let digits := (Nat.toDigits 10 (Nat.pow 10 width + value)).drop 1
  let kept := (digits.reverse.dropWhile (· == '0')).reverse
  if kept.isEmpty then "" else "." ++ String.ofList kept

/-- A time is shown in the largest unit of which it holds at least one. -/
def showTime (micros : Nat) : String :=
  if 1000000 ≤ micros then
    s!"{micros / 1000000}" ++ decimals 6 (micros % 1000000) ++ "s"
  else if 1000 ≤ micros then s!"{micros / 1000}" ++ decimals 3 (micros % 1000) ++ "ms"
  else if 1 ≤ micros then s!"{micros}" ++ "\u00b5s"
  else "0ns"

def showBool (b : Bool) : String := if b then "true" else "false"

def showRecord (r : QuietMode.Record) : String :=
  "QuietModeRecord \x7b detected: " ++ showBool r.detected ++ ", enabled: " ++ showBool r.enabled
    ++ ", enable_requested: " ++ showBool r.enableRequested ++ ", disable_requested: "
    ++ showBool r.disableRequested ++ ", timestamp: WallClock(" ++ toString r.timestamp.micros.toNat
    ++ ") \x7d"

/-- Read the notifications that wait for a client, up to a notice of loss. -/
def drain (clients : Broadcast Notification) : Nat → Broadcast Notification × List Notification
  | 0 => (clients, [])
  | limit + 1 =>
    match clients.read 0 with
    | (clients, some (.item n)) =>
      let (clients, rest) := drain clients limit
      (clients, n :: rest)
    | (clients, _) => (clients, [])

def isGainReport : Notification → Bool
  | .feedForwardGain _ => true
  | _ => false

def showClient (p : Pair) (s : Side) : Pair × List String :=
  let b := p.side s
  let (clients, notes) := drain b.clients (Broadcast.capacity + 1)
  (p.setSide s { b with clients := clients },
    (notes.filter fun n => !isGainReport n).map fun n => s.name ++ ": " ++ n.toJson.compact)

def showClients (p : Pair) : Pair × List String :=
  let (p, left) := showClient p .left
  let (p, right) := showClient p .right
  (p, left ++ right)

def showRecords (p : Pair) (s : Side) : String :=
  let q := (p.side s).quietMode
  s.name ++ ": local=" ++ showRecord q.own ++ " remote=" ++ showRecord q.peer

def withClients (p : Pair) : Pair where
  left := { p.left with clients := p.left.clients.subscribe }
  right := { p.right with clients := p.right.clients.subscribe }

/-- The lines shown, and the outcome.  None means that time never passed within `fuel`
steps. -/
def run? (c : Config) (quiet : Nat) (fuel : Nat) : Option (List String × Outcome) := do
  let p ← (withClients (.ofConfig c)).bringUp? fuel
  let opening := s!"t={showTime p.now} both earbuds enabled"
  let p ← (p.dispatchBoth .silenceDetected).runFor? fuel quiet
  let (p, first) := showClients p
  match p.dispatch .right .silenceCleared with
  | (_, .error e) => some (opening :: first, .error e)
  | (p, .ok ()) => do
    let p ← p.runFor? fuel (2 * c.timing.quietModeDelay)
    let (p, second) := showClients p
    some (opening :: first ++ second ++ [showRecords p .left, showRecords p .right], .ok ())

end NoiseControl.Simulation
