/-!
# Ears, channels and filter layouts

Where an earbud sits, which channels and filter paths its noise cancelling hardware has, and
which of them a layout uses.
-/

namespace NoiseControl

inductive Side where
  | left
  | right
deriving DecidableEq, Inhabited

namespace Side

def name : Side → String
  | left => "left"
  | right => "right"

def other : Side → Side
  | left => right
  | right => left

end Side

inductive Channel where
  | left
  | right
deriving DecidableEq, Inhabited

/-- A filter path of a channel: feed-forward A, feed-forward B and feedback. -/
inductive GainPath where
  | ffa
  | ffb
  | fb
deriving DecidableEq, Inhabited

namespace GainPath

def name : GainPath → String
  | ffa => "ffa"
  | ffb => "ffb"
  | fb => "fb"

end GainPath

/-- What a tuning session works on: fixed filters with the hardware off, or adaptive processing
with it on. -/
inductive TuningKind where
  | fixed
  | adaptive
deriving DecidableEq, Inhabited

inductive FilterLayout where
  | feedForward
  | feedForwardLeftOnly
  | feedForwardRightOnly
  | feedBack
  | feedBackLeftOnly
  | feedBackRightOnly
  | hybrid
  | hybridLeftOnly
  | hybridRightOnly
deriving DecidableEq, Inhabited

namespace FilterLayout

def all : List FilterLayout :=
  [feedForward, feedForwardLeftOnly, feedForwardRightOnly, feedBack, feedBackLeftOnly,
    feedBackRightOnly, hybrid, hybridLeftOnly, hybridRightOnly]

def name : FilterLayout → String
  | feedForward => "feed_forward"
  | feedForwardLeftOnly => "feed_forward_left_only"
  | feedForwardRightOnly => "feed_forward_right_only"
  | feedBack => "feed_back"
  | feedBackLeftOnly => "feed_back_left_only"
  | feedBackRightOnly => "feed_back_right_only"
  | hybrid => "hybrid"
  | hybridLeftOnly => "hybrid_left_only"
  | hybridRightOnly => "hybrid_right_only"

def ofName? (s : String) : Option FilterLayout := all.find? fun l => l.name == s

/-- The path that carries the leakthrough gain and that adaptive processing controls.  A layout
on the right channel alone has none. -/
def controlPath? : FilterLayout → Option GainPath
  | feedForward | feedForwardLeftOnly | feedBack | feedBackLeftOnly => some .ffa
  | hybrid | hybridLeftOnly => some .ffb
  | feedForwardRightOnly | feedBackRightOnly | hybridRightOnly => none

def usesLeft : FilterLayout → Bool
  | feedForwardRightOnly | feedBackRightOnly | hybridRightOnly => false
  | _ => true

def usesRight : FilterLayout → Bool
  | feedForwardLeftOnly | feedBackLeftOnly | hybridLeftOnly => false
  | _ => true

/-- The channels in use, left before right. -/
def channels (l : FilterLayout) : List Channel :=
  (if l.usesLeft then [.left] else []) ++ (if l.usesRight then [.right] else [])

/-- Where a leakthrough gain is written.  Layouts without a feed-forward microphone on the left
take none. -/
def leakthroughTargets : FilterLayout → List (Channel × GainPath)
  | hybrid => [(.left, .ffb), (.right, .ffb)]
  | hybridLeftOnly => [(.left, .ffb)]
  | feedForward => [(.left, .ffa), (.right, .ffa)]
  | feedForwardLeftOnly => [(.left, .ffa)]
  | _ => []

theorem ofName?_name (l : FilterLayout) : ofName? l.name = some l := by
  cases l <;> decide

end FilterLayout

/-- The microphones fitted to an earbud, by input number. -/
structure Microphones where
  feedForwardLeft : Option UInt8 := none
  feedForwardRight : Option UInt8 := none
  feedBackLeft : Option UInt8 := none
  feedBackRight : Option UInt8 := none
deriving DecidableEq, Inhabited

namespace Microphones

def fitted (m : Microphones) : Bool :=
  m.feedForwardLeft.isSome || m.feedForwardRight.isSome || m.feedBackLeft.isSome
    || m.feedBackRight.isSome

end Microphones

end NoiseControl
