/-!
# Commands

A `Command` is one request to the inventory with its arguments; an `Operation` is the kind of request without them.
Numbers are those that were typed: whether a quantity or a limit may be negative is for the inventory to say.
-/

namespace Stockroom

inductive Operation where
  | addProduct
  | addWarehouse
  | stock
  | unstock
  | listProducts
  | listWarehouses
  | listWarehouse
  deriving DecidableEq, Repr

inductive Command where
  | addProduct (name sku : String)
  /-- Adds a warehouse, or changes the limit of an existing one; without a limit there is none. -/
  | addWarehouse (number : Int) (limit : Option Int)
  | stock (sku : String) (warehouse quantity : Int)
  | unstock (sku : String) (warehouse quantity : Int)
  | listProducts
  | listWarehouses
  | listWarehouse (warehouse : Int)
  deriving DecidableEq, Repr

end Stockroom
