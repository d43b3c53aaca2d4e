/-!
# Screens

A screen takes bytes, all of them or only so many.  What no longer fits is cut off and refused for some reason, so what
has been written is always the beginning of what was meant to be.
-/

namespace Stockroom

/-- What a screen takes before it refuses more. -/
structure Screen.Limit where
  /-- The bytes accepted in all. -/
  bytes : Nat
  /-- What is said of the bytes that are refused. -/
  reason : String
  deriving DecidableEq, Repr

structure Screen where
  limit : Option Screen.Limit := none
  written : List UInt8 := []
  deriving DecidableEq, Repr

namespace Screen

/-- Writes what fits, and gives the reason if that was not all. -/
def write (s : Screen) (bytes : List UInt8) : Screen × Option String :=
  match s.limit with
  | none => ({ s with written := s.written ++ bytes }, none)
  | some limit =>
    let room := limit.bytes - s.written.length
    ({ s with written := s.written ++ bytes.take room }, if bytes.length ≤ room then none else some limit.reason)

theorem write_unlimited {s : Screen} (h : s.limit = none) (bytes : List UInt8) :
    s.write bytes = ({ s with written := s.written ++ bytes }, none) := by
  simp [write, h]

end Screen

end Stockroom
