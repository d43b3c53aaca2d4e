import Stockroom.Text.Decimal

/-!
# Units and stock limits

Units are counted up to `maxUnits`; `addUnits` stops there.  A `StockLimit` bounds the units that a warehouse holds
over all its products.
-/

namespace Stockroom

/-- The largest number of units that is counted. -/
def maxUnits : Nat := 0xFFFFFFFFFFFFFFFF

/-- Adds units and stops at `maxUnits`. -/
def addUnits (m n : Nat) : Nat :=
  min (m + n) maxUnits

inductive StockLimit where
  | unbounded
  | upTo (units : Nat)
  deriving DecidableEq, Repr

namespace StockLimit

/-- Whether a warehouse may hold that many units. -/
def allows : StockLimit → Nat → Bool
  | unbounded, _ => true
  | upTo units, total => total ≤ units

/-- The units that still fit, if they are bounded. -/
def room : StockLimit → Nat → Option Nat
  | unbounded, _ => none
  | upTo units, held => some (units - held)

def text : StockLimit → String
  | unbounded => "Infinity"
  | upTo units => Text.decimal units

end StockLimit

end Stockroom
