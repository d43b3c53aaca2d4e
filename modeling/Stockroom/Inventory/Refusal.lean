import Stockroom.Fault
import Stockroom.Inventory.Limit

/-!
# Refusals

The reasons for which the inventory refuses a command, and the sentence shown for each.
-/

namespace Stockroom

open Text

/-- Something that a `STOCK` command names and that is not there. -/
inductive Absent where
  | product (sku : String)
  | warehouse (number : Int)
  deriving DecidableEq, Repr

def Absent.sentence : Absent → String
  | product sku => "SKU [" ++ sku ++ "] not in product catalog.  Please add the product before attempting to stock."
  | warehouse number =>
    "Warehouse # [" ++ decimal number ++
      "] not found.  Please add the warehouse number before attempting to stock."

inductive Refusal where
  | skuTaken (sku : String)
  | negativeLimit (limit : Int)
  /-- The warehouse holds more than the new limit. -/
  | limitTooLow (warehouse : Int) (held : Nat) (limit : StockLimit)
  | negativeStock (quantity : Int)
  | negativeUnstock (quantity : Int)
  | absent (things : List Absent)
  /-- The units could not be counted any more. -/
  | tooMany (warehouse : Int) (quantity held : Nat)
  | full (warehouse : Int) (limit : Nat)
  | noWarehouseToUnstock (number : Int)
  | notInStock (sku : String) (warehouse : Int)
  | noWarehouseToList (number : Int)
  deriving DecidableEq, Repr

def Refusal.sentence : Refusal → String
  | skuTaken sku => "SKU " ++ sku ++ " already exists.  Product was not added."
  | negativeLimit limit => "STOCK_LIMIT [" ++ decimal limit ++ "] cannot be negative.  No changes made."
  | limitTooLow w held limit =>
    "Warehouse [" ++ decimal w ++ "] currently has [" ++ decimal held ++
      "] products stocked, more than a limit of [" ++ limit.text ++ "].  Warehouse stock limit not updated."
  | negativeStock quantity => "QTY [" ++ decimal quantity ++ "] cannot be negative.  No stock added."
  | negativeUnstock quantity => "QTY [" ++ decimal quantity ++ "] cannot be negative.  No changes made."
  | absent things => " ".intercalate (things.map Absent.sentence)
  | tooMany w quantity held =>
    "Warehouse [" ++ decimal w ++ "] cannot hold [" ++ decimal quantity ++ "] more units on top of [" ++
      decimal held ++ "].  No stock added."
  | full w limit => "Warehouse [" ++ decimal w ++ "] is at its limit of [" ++ decimal limit ++ "].  No stock added."
  | noWarehouseToUnstock number => "Warehouse # [" ++ decimal number ++ "] not found.  No changes made."
  | notInStock sku w => "SKU [" ++ sku ++ "] not in warehouse [" ++ decimal w ++ "].  No changes made."
  | noWarehouseToList number => "Warehouse [" ++ decimal number ++ "] does not exist"

def Refusal.fault (r : Refusal) : Fault :=
  .refused r.sentence

end Stockroom
