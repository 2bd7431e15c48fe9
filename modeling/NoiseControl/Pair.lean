import NoiseControl.Earbud.Delivery

/-!
# A pair of earbuds

Two earbuds on one virtual time, each receiving the records the other sends.  Records lie on
their links until they are delivered, so events can be given to both sides before either sees
what the other made of them.
-/

namespace NoiseControl

structure Pair where
  left : Earbud
  right : Earbud

namespace Pair

/-- What the shared clock shows at virtual time zero. -/
def clockOrigin : WallClock := ⟨1000000⟩

def maxRounds : Nat := 16

def new (left right : Config) (leftStore rightStore : SessionStore) : Pair where
  left := .new { left with side := .left } (some clockOrigin) leftStore
  right := .new { right with side := .right } (some clockOrigin) rightStore

/-- Two earbuds of one configuration with nothing saved. -/
def ofConfig (c : Config) : Pair := .new c c {} {}

def side (p : Pair) : Side → Earbud
  | .left => p.left
  | .right => p.right

def setSide (p : Pair) (s : Side) (b : Earbud) : Pair :=
  match s with
  | .left => { p with left := b }
  | .right => { p with right := b }

def now (p : Pair) : Nat := p.left.timers.now

/-! ### Events -/

def dispatch (p : Pair) (s : Side) (e : Event) : Pair × Outcome :=
  let (b, outcome) := (p.side s).dispatch e
  (p.setSide s b, outcome)

def dispatchBoth (p : Pair) (e : Event) : Pair where
  left := (p.left.dispatch e).1
  right := (p.right.dispatch e).1

/-! ### Records -/

/-- Take the record that waits for a side, from the link of the other. -/
def takeFor (p : Pair) (s : Side) : Pair × Option QuietMode.Record :=
  let sender := p.side s.other
  let (link, record) := sender.outbox.take
  (p.setSide s.other { sender with outbox := link }, record)

/-- Hand a side its record, if it has one, and count it. -/
def receive (p : Pair) (s : Side) (record : Option QuietMode.Record) : Pair × Nat :=
  match record with
  | some r => ((p.dispatch s (.peerRecord r)).1, 1)
  | none => (p, 0)

def deliverTo (p : Pair) (s : Side) : Pair × Nat :=
  let (p, record) := p.takeFor s
  p.receive s record

/-- Deliver in rounds, left before right, until nothing waits; the number of records. -/
def deliverRounds (p : Pair) : Nat → Pair × Nat
  | 0 => (p, 0)
  | rounds + 1 =>
    let (p, toLeft) := p.deliverTo .left
    let (p, toRight) := p.deliverTo .right
    if toLeft + toRight = 0 then (p, 0)
    else
      let (p, more) := p.deliverRounds rounds
      (p, toLeft + toRight + more)

def deliver (p : Pair) : Pair × Nat := p.deliverRounds maxRounds

/-- Deliver one record to each side, both taken before either is handed over. -/
def deliverCrossed (p : Pair) : Pair × Nat :=
  let (p, toLeft) := p.takeFor .left
  let (p, toRight) := p.takeFor .right
  let (p, left) := p.receive .left toLeft
  let (p, right) := p.receive .right toRight
  (p, left + right)

/-! ### Time -/

def nextDeadline? (p : Pair) : Option Nat :=
  match p.left.timers.nextDeadline?, p.right.timers.nextDeadline? with
  | some l, some r => some (min l r)
  | some l, none => some l
  | none, r => r

def advanceTo (p : Pair) (t : Nat) : Pair where
  left := p.left.advanceTo t
  right := p.right.advanceTo t

/-- Hand an earbud every timer that is due, those included that become due on the way.  None
means that `fuel` timers were not enough. -/
def fireDue? (b : Earbud) : Nat → Option Earbud
  | 0 => none
  | fuel + 1 =>
    match b.deliverDue? with
    | some (b, _) => fireDue? b fuel
    | none => some b

/-- Step from deadline to deadline up to `t`, delivering records after each.  None means that
`fuel` steps were not enough. -/
def stepUntil? (p : Pair) (t : Nat) : Nat → Option Pair
  | 0 => none
  | fuel + 1 =>
    match p.nextDeadline?.filter fun deadline => decide (deadline ≤ t) with
    | some deadline => do
      let p := p.advanceTo deadline
      let left ← fireDue? p.left fuel
      let right ← fireDue? p.right fuel
      ({ left := left, right := right : Pair }.deliver.1).stepUntil? t fuel
    | none => some (p.advanceTo t)

/-- Let time pass until `t`.  A gain poll without a pause between readings never lets it pass,
which shows as none for every fuel. -/
def runUntil? (p : Pair) (fuel t : Nat) : Option Pair := p.deliver.1.stepUntil? t fuel

def runFor? (p : Pair) (fuel duration : Nat) : Option Pair := p.runUntil? fuel (p.now + duration)

/-- Initialise both earbuds and switch them and their noise control on. -/
def bringUp? (p : Pair) (fuel : Nat) : Option Pair :=
  let p := ((p.dispatchBoth .initialise).dispatchBoth .powerOn).dispatchBoth .enable
  p.runUntil? fuel p.now

end Pair

end NoiseControl
