import NoiseControl.Mode

/-!
# Sessions

What survives a power cycle: whether noise control was asked for and in which mode.
-/

namespace NoiseControl

structure Session where
  enabled : Bool := false
  mode : Mode := ⟨0⟩
deriving DecidableEq, Inhabited

/-- A store holds the session saved last and counts the saves. -/
structure SessionStore where
  data : Option Session := none
  saves : Nat := 0
deriving DecidableEq

namespace SessionStore

def save (s : SessionStore) (data : Session) : SessionStore :=
  { data := some data, saves := s.saves + 1 }

end SessionStore

end NoiseControl
