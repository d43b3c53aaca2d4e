import Stockroom.Inventory.Limit

/-!
# Warehouses and their stock

A stock lists the products held, each with its units, in the order in which they were first stocked.  `units?` is the
view through which the operations are described: `add` raises one product, `set` fixes one, and neither touches the
others.  The total stops at `maxUnits` like every count, so it is the smaller of the exact sum and `maxUnits`
(`Stock.total_eq`).
-/

namespace Stockroom

/-- The units held of one product. -/
structure StockEntry where
  sku : String
  units : Nat
  deriving DecidableEq, Repr

abbrev Stock := List StockEntry

namespace Stock

/-- The units held of a product that is in stock. -/
def units? (sku : String) : Stock → Option Nat
  | [] => none
  | e :: s => if e.sku = sku then some e.units else units? sku s

/-- Raises the units of a product; a new entry comes last, and only if there is something to add. -/
def add (sku : String) (units : Nat) : Stock → Stock
  | [] => if units = 0 then [] else [⟨sku, units⟩]
  | e :: s => if e.sku = sku then ⟨sku, addUnits e.units units⟩ :: s else e :: add sku units s

def remove (sku : String) (s : Stock) : Stock :=
  s.filter (·.sku ≠ sku)

/-- Fixes the units of a product in its place, or in a new entry at the end. -/
def put (sku : String) (units : Nat) : Stock → Stock
  | [] => [⟨sku, units⟩]
  | e :: s => if e.sku = sku then ⟨sku, units⟩ :: s else e :: put sku units s

/-- Fixes the units of a product; none at all removes it. -/
def set (sku : String) (units : Nat) (s : Stock) : Stock :=
  if units = 0 then remove sku s else put sku units s

/-- The exact number of units of all products together. -/
def exactTotal : Stock → Nat
  | [] => 0
  | e :: s => e.units + exactTotal s

/-- The units of all products together as far as they are counted. -/
def total (s : Stock) : Nat :=
  s.foldl (fun n e => addUnits n e.units) 0

/-! ### The total is the exact sum, cut at `maxUnits` -/

private theorem foldl_addUnits (s : Stock) (n : Nat) (hn : n ≤ maxUnits) :
    s.foldl (fun m e => addUnits m e.units) n = min (n + exactTotal s) maxUnits := by
  induction s generalizing n with
  | nil => simp [exactTotal, Nat.min_eq_left hn]
  | cons e s ih =>
    have hle : addUnits n e.units ≤ maxUnits := Nat.min_le_right _ _
    rw [List.foldl_cons, ih _ hle]
    simp only [addUnits, exactTotal]
    omega

theorem total_eq (s : Stock) : total s = min (exactTotal s) maxUnits := by
  rw [total, foldl_addUnits s 0 (Nat.zero_le _), Nat.zero_add]

theorem total_le (s : Stock) : total s ≤ maxUnits := by
  rw [total_eq]
  exact Nat.min_le_right _ _

/-! ### What the operations do to the view -/

theorem units?_put (sku other : String) (units : Nat) (s : Stock) :
    units? other (put sku units s) = if other = sku then some units else units? other s := by
  induction s with
  | nil => grind [put, units?]
  | cons e s ih => grind [put, units?]

theorem units?_remove (sku other : String) (s : Stock) :
    units? other (remove sku s) = if other = sku then none else units? other s := by
  induction s with
  | nil => grind [remove, units?]
  | cons e s ih => grind [remove, units?]

theorem units?_set (sku other : String) (units : Nat) (s : Stock) :
    units? other (set sku units s) =
      if other = sku then (if units = 0 then none else some units) else units? other s := by
  unfold set
  split
  · exact units?_remove sku other s
  · exact units?_put sku other units s

theorem units?_add (sku other : String) (units : Nat) (s : Stock) :
    units? other (add sku units s) =
      if other = sku then
        match units? sku s with
        | some held => some (addUnits held units)
        | none => if units = 0 then none else some units
      else units? other s := by
  induction s with
  | nil => grind [add, units?]
  | cons e s ih => grind [add, units?]

end Stock

structure Warehouse where
  number : Int
  limit : StockLimit
  stock : Stock := []
  deriving DecidableEq, Repr

namespace Warehouse

/-- The units held over all products. -/
def total (w : Warehouse) : Nat :=
  Stock.total w.stock

def units? (w : Warehouse) (sku : String) : Option Nat :=
  Stock.units? sku w.stock

def add (w : Warehouse) (sku : String) (units : Nat) : Warehouse :=
  { w with stock := Stock.add sku units w.stock }

def set (w : Warehouse) (sku : String) (units : Nat) : Warehouse :=
  { w with stock := Stock.set sku units w.stock }

end Warehouse

end Stockroom
