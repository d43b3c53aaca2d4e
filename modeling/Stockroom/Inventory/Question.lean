import Stockroom.Inventory.Basic
import Stockroom.Text.Blank
import Stockroom.Text.Lower

/-!
# Questions and answers

Where a command cannot be carried out as it stands, the inventory proposes another change and asks first.  A
`Question` holds the proposed change together with the figures shown in its text.
-/

namespace Stockroom

open Text

inductive Question where
  /-- Change the limit of an existing warehouse. -/
  | changeLimit (warehouse : Int) (old new : StockLimit)
  /-- Stock only the units that still fit under the limit. -/
  | fillUp (sku : String) (warehouse : Int) (held limit requested room : Nat)
  /-- Take a product out of stock instead of going below zero. -/
  | clearOut (sku : String) (warehouse : Int) (held : Nat)
  deriving DecidableEq, Repr

namespace Question

/-- The warehouse that the proposed change concerns. -/
def warehouse : Question → Int
  | changeLimit w _ _ => w
  | fillUp _ w _ _ _ _ => w
  | clearOut _ w _ => w

def text : Question → String
  | changeLimit w old new =>
    "WAREHOUSE [" ++ decimal w ++ "] already exists.  Update STOCK_LIMIT from [" ++ old.text ++ "] to [" ++
      new.text ++ "]? (y/n) "
  | fillUp _ w held limit requested room =>
    "Warehouse [" ++ decimal w ++ "] currently has [" ++ decimal held ++
      "] products stocked and a limit of [" ++ decimal limit ++ "].  Would you like to add [" ++ decimal room ++
      "] instead of [" ++ decimal requested ++ "] to stay within limit? (y/n) "
  | clearOut sku w held =>
    "Warehouse [" ++ decimal w ++ "] currently has a stock of [" ++ decimal held ++ "] for SKU [" ++ sku ++
      "].  Would you like to reduce stock to 0? (y/n) "

/-- Shown when the answer is not yes. -/
def declined : Question → String
  | changeLimit .. => "Warehouse stock limit not updated."
  | fillUp .. => "No stock added."
  | clearOut .. => "No changes made."

end Question

inductive Answer where
  | yes
  | no
  /-- Anything else, which counts as no. -/
  | unrecognized
  deriving DecidableEq, Repr

/-- Reads a line as an answer: one letter, of either case, with any blanks around it. -/
def Answer.read (line : String) : Answer :=
  match lower (trim line.toList) with
  | ['y'] => .yes
  | ['n'] => .no
  | _ => .unrecognized

/-- What came of an answered question. -/
inductive Resolution where
  | applied
  | declined (message : String)
  deriving DecidableEq, Repr

namespace Inventory

/-- Makes the change that a question proposes, as it was proposed. -/
def apply (inv : Inventory) : Question → Inventory
  | .changeLimit w _ new => inv.updateWarehouse w fun wh => { wh with limit := new }
  | .fillUp sku w _ _ _ room => inv.updateWarehouse w (·.add sku room)
  | .clearOut sku w _ => inv.updateWarehouse w (·.set sku 0)

def resolve (inv : Inventory) (q : Question) : Answer → Resolution × Inventory
  | .yes => (.applied, inv.apply q)
  | .no => (.declined q.declined, inv)
  | .unrecognized => (.declined ("Please enter y or n.  " ++ q.declined), inv)

end Inventory

end Stockroom
