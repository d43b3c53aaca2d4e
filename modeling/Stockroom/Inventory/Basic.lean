import Stockroom.Inventory.Warehouse

/-!
# The inventory

The products of the catalog and the warehouses, both in the order in which they were added.
-/

namespace Stockroom

structure Product where
  sku : String
  name : String
  deriving DecidableEq, Repr

structure Inventory where
  products : List Product := []
  warehouses : List Warehouse := []
  deriving DecidableEq, Repr

namespace Inventory

def empty : Inventory := {}

def product? (inv : Inventory) (sku : String) : Option Product :=
  inv.products.find? (·.sku = sku)

def warehouse? (inv : Inventory) (number : Int) : Option Warehouse :=
  inv.warehouses.find? (·.number = number)

def addProduct (inv : Inventory) (p : Product) : Inventory :=
  { inv with products := inv.products ++ [p] }

def addWarehouse (inv : Inventory) (w : Warehouse) : Inventory :=
  { inv with warehouses := inv.warehouses ++ [w] }

/-- Changes the warehouse of that number, if there is one. -/
def updateWarehouse (inv : Inventory) (number : Int) (f : Warehouse → Warehouse) : Inventory :=
  { inv with warehouses := inv.warehouses.map fun w => if w.number = number then f w else w }

end Inventory

end Stockroom
