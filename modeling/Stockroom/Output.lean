import Stockroom.Inventory.Execute

/-!
# Output

What a line makes appear, independently of where it is printed.
-/

namespace Stockroom

open Text

inductive Output where
  | message (text : String)
  | error (text : String)
  /-- Rows whose columns are separated by tabs, under an optional header. -/
  | table (header : Option String) (rows : List String)
  /-- A question; the next line is its answer. -/
  | prompt (text : String)
  deriving DecidableEq, Repr

namespace Output

def text : Output → String
  | message s => s
  | error s => s
  | prompt s => s
  | table header rows => "\n".intercalate (header.toList ++ rows)

def isPrompt : Output → Bool
  | prompt _ => true
  | _ => false

/-- Whether there is nothing to show. -/
def isEmpty : Output → Bool
  | message s => s.isEmpty
  | error s => s.isEmpty
  | prompt s => s.isEmpty
  | table header rows => header.isNone && rows.isEmpty

theorem text_of_isEmpty {o : Output} (h : o.isEmpty = true) : o.text = "" := by
  cases o with
  | message s | error s | prompt s => exact String.isEmpty_iff.1 h
  | table header rows =>
    obtain ⟨hheader, hrows⟩ : header = none ∧ rows = [] := by simpa [isEmpty] using h
    rw [hheader, hrows]
    rfl

def ofFault (fault : Fault) : Output :=
  error fault.message

/-! ### Listings -/

def warehousesHeader : String := "WAREHOUSE #\t\t\tSTOCK LIMIT"

def stockHeader : String := "ITEM NAME\t\t\t\t\tSKU\t\t\t\t\t\tQTY"

/-- Stands for the rows of an empty warehouse. -/
def nothingInStock : String := "(Nothing in stock)"

/-- Stands for the name of a product that is not in the catalog. -/
def unknownProduct : String := "(unknown)"

def productRow (p : Product) : String :=
  p.sku ++ "\t" ++ p.name

def warehouseRow (w : Int × StockLimit) : String :=
  decimal w.1 ++ "\t\t\t\t" ++ w.2.text

def stockRow (r : StockRow) : String :=
  r.name.getD unknownProduct ++ "\t\t" ++ r.sku ++ "\t\t" ++ decimal r.units

def ofListing : Listing → Output
  | .products ps => table none (ps.map productRow)
  | .warehouses ws => table (some warehousesHeader) (ws.map warehouseRow)
  | .stock [] => table (some stockHeader) [nothingInStock]
  | .stock rows => table (some stockHeader) (rows.map stockRow)

end Output

end Stockroom
