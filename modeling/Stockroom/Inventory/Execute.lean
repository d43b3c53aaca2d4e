import Stockroom.Command.Basic
import Stockroom.Inventory.Question
import Stockroom.Inventory.Refusal

/-!
# Executing commands

`Inventory.execute` carries out one command.  The commands change the inventory step by step; one that is refused leaves
it as far as it was changed by then.  That this is not at all is not part of the definitions but a fact about them
(`Inventory.inventory_eq_of_error` in the proofs).
-/

namespace Stockroom

/-- One row of the stock of a warehouse; the name is absent if the product is not in the catalog. -/
structure StockRow where
  name : Option String
  sku : String
  units : Nat
  deriving DecidableEq, Repr

/-- The data of a list command. -/
inductive Listing where
  | products (products : List Product)
  | warehouses (warehouses : List (Int × StockLimit))
  | stock (rows : List StockRow)
  deriving DecidableEq, Repr

/-- What came of a command that was not refused. -/
inductive Outcome where
  /-- The inventory is as requested. -/
  | done
  | listing (l : Listing)
  /-- Nothing has changed yet; the answer decides. -/
  | asked (q : Question)
  deriving DecidableEq, Repr

namespace Inventory

/-! ### Changing an inventory -/

/-- A change that may be refused.  A refusal takes nothing back. -/
abbrev Transition := ExceptT Fault (StateM Inventory)

namespace Transition

variable {α β : Type} (inv : Inventory)

/-- What comes of a change of this inventory, and the inventory after it. -/
def on (t : Transition α) (inv : Inventory) : Except Fault α × Inventory :=
  t.run.run inv

theorem on_get_bind (next : Inventory → Transition α) : on (get >>= next) inv = on (next inv) inv := rfl

theorem on_ok_bind (a : α) (next : α → Transition β) :
    on (liftM (Except.ok a : Except Fault α) >>= next) inv = on (next a) inv := rfl

end Transition

/-! ### The commands -/

/-- A product is added unless its SKU is taken. -/
def executeAddProduct (name sku : String) : Transition Outcome := do
  match (← get).product? sku with
  | some _ => throw (Refusal.skuTaken sku).fault
  | none =>
    modify (·.addProduct ⟨sku, name⟩)
    return .done

/-- The limit that a typed number stands for: none and zero are no limit. -/
def readLimit : Option Int → Except Fault StockLimit
  | none => .ok .unbounded
  | some n =>
    if n = 0 then .ok .unbounded
    else if n < 0 then .error (Refusal.negativeLimit n).fault
    else .ok (.upTo n.toNat)

/-- A new warehouse is added.  For an existing one the change of its limit is asked about, unless there is none or
the stock is already too large for it. -/
def executeAddWarehouse (number : Int) (typed : Option Int) : Transition Outcome := do
  let limit ← readLimit typed
  match (← get).warehouse? number with
  | none =>
    modify (·.addWarehouse ⟨number, limit, []⟩)
    return .done
  | some w =>
    if w.limit = limit then return .done
    else if limit.allows w.total then return .asked (.changeLimit number w.limit limit)
    else throw (Refusal.limitTooLow number w.total limit).fault

/-- Units go into a warehouse if they can be counted and its limit allows them.  If some of them fit, the inventory
asks whether to stock those. -/
def stockInto (w : Warehouse) (sku : String) (units : Nat) : Transition Outcome := do
  let held := w.total
  if maxUnits < held + units then throw (Refusal.tooMany w.number units held).fault
  else if w.limit.allows (held + units) then
    modify (·.updateWarehouse w.number (·.add sku units))
    return .done
  else match w.limit with
    | .unbounded => throw (.internal "unbounded warehouse refused stock")
    | .upTo limit =>
      let room := (w.limit.room held).getD 0
      if room = 0 then throw (Refusal.full w.number limit).fault
      else return .asked (.fillUp sku w.number held limit units room)

/-- A negative quantity is refused before anything is looked up; then all that is missing is reported at once. -/
def executeStock (sku : String) (number quantity : Int) : Transition Outcome := do
  if quantity < 0 then throw (Refusal.negativeStock quantity).fault
  else
    let inv ← get
    match inv.product? sku, inv.warehouse? number with
    | some _, some w => stockInto w sku quantity.toNat
    | none, some _ => throw (Refusal.absent [.product sku]).fault
    | some _, none => throw (Refusal.absent [.warehouse number]).fault
    | none, none => throw (Refusal.absent [.product sku, .warehouse number]).fault

/-- Units leave a warehouse.  The stock decides, not the catalog; if fewer are held, the inventory asks whether to take
the product out of stock. -/
def executeUnstock (sku : String) (number quantity : Int) : Transition Outcome := do
  if quantity < 0 then throw (Refusal.negativeUnstock quantity).fault
  else match (← get).warehouse? number with
    | none => throw (Refusal.noWarehouseToUnstock number).fault
    | some w =>
      match w.units? sku with
      | none => throw (Refusal.notInStock sku number).fault
      | some held =>
        if quantity.toNat ≤ held then
          modify (·.updateWarehouse number (·.set sku (held - quantity.toNat)))
          return .done
        else return .asked (.clearOut sku number held)

/-- The stock of a warehouse with the names from the catalog. -/
def stockRows (inv : Inventory) (w : Warehouse) : List StockRow :=
  w.stock.map fun e => ⟨(inv.product? e.sku).map (·.name), e.sku, e.units⟩

def executeListWarehouse (number : Int) : Transition Outcome := do
  let inv ← get
  match inv.warehouse? number with
  | none => throw (Refusal.noWarehouseToList number).fault
  | some w => return .listing (.stock (inv.stockRows w))

def transition : Command → Transition Outcome
  | .addProduct name sku => executeAddProduct name sku
  | .addWarehouse number limit => executeAddWarehouse number limit
  | .stock sku warehouse quantity => executeStock sku warehouse quantity
  | .unstock sku warehouse quantity => executeUnstock sku warehouse quantity
  | .listProducts => do return .listing (.products (← get).products)
  | .listWarehouses => do return .listing (.warehouses ((← get).warehouses.map fun w => (w.number, w.limit)))
  | .listWarehouse warehouse => executeListWarehouse warehouse

/-- Executes a command: what comes of it, and the inventory after it. -/
def execute (inv : Inventory) (c : Command) : Except Fault Outcome × Inventory :=
  (transition c).on inv

/-! ### Every way in which a command ends -/

variable (inv : Inventory)

theorem execute_addProduct (name sku : String) : inv.execute (.addProduct name sku) =
    match inv.product? sku with
    | some _ => (.error (Refusal.skuTaken sku).fault, inv)
    | none => (.ok .done, inv.addProduct ⟨sku, name⟩) := by
  simp only [execute, transition, executeAddProduct, Transition.on_get_bind]
  split <;> rfl

theorem execute_addWarehouse (number : Int) (typed : Option Int) : inv.execute (.addWarehouse number typed) =
    match readLimit typed with
    | .error fault => (.error fault, inv)
    | .ok limit =>
      match inv.warehouse? number with
      | none => (.ok .done, inv.addWarehouse ⟨number, limit, []⟩)
      | some w =>
        if w.limit = limit then (.ok .done, inv)
        else if limit.allows w.total then (.ok (.asked (.changeLimit number w.limit limit)), inv)
        else (.error (Refusal.limitTooLow number w.total limit).fault, inv) := by
  simp only [execute, transition, executeAddWarehouse]
  cases readLimit typed with
  | error fault => rfl
  | ok limit =>
    simp only [Transition.on_ok_bind, Transition.on_get_bind]
    split
    · rfl
    · split
      · rfl
      · split <;> rfl

theorem stockInto_on (w : Warehouse) (sku : String) (units : Nat) : (stockInto w sku units).on inv =
    if maxUnits < w.total + units then (.error (Refusal.tooMany w.number units w.total).fault, inv)
    else if w.limit.allows (w.total + units) then (.ok .done, inv.updateWarehouse w.number (·.add sku units))
    else match w.limit with
      | .unbounded => (.error (.internal "unbounded warehouse refused stock"), inv)
      | .upTo limit =>
        if limit - w.total = 0 then (.error (Refusal.full w.number limit).fault, inv)
        else (.ok (.asked (.fillUp sku w.number w.total limit units (limit - w.total))), inv) := by
  simp only [stockInto]
  split
  · rfl
  · split
    · rfl
    · cases hl : w.limit with
      | unbounded => rfl
      | upTo limit =>
        have hroom : ((StockLimit.upTo limit).room w.total).getD 0 = limit - w.total := rfl
        dsimp only
        rw [hroom]
        split <;> rfl

theorem execute_stock (sku : String) (number quantity : Int) : inv.execute (.stock sku number quantity) =
    if quantity < 0 then (.error (Refusal.negativeStock quantity).fault, inv)
    else match inv.product? sku, inv.warehouse? number with
      | some _, some w => (stockInto w sku quantity.toNat).on inv
      | none, some _ => (.error (Refusal.absent [.product sku]).fault, inv)
      | some _, none => (.error (Refusal.absent [.warehouse number]).fault, inv)
      | none, none => (.error (Refusal.absent [.product sku, .warehouse number]).fault, inv) := by
  simp only [execute, transition, executeStock]
  split
  · rfl
  · simp only [Transition.on_get_bind]
    split <;> rfl

theorem execute_unstock (sku : String) (number quantity : Int) : inv.execute (.unstock sku number quantity) =
    if quantity < 0 then (.error (Refusal.negativeUnstock quantity).fault, inv)
    else match inv.warehouse? number with
      | none => (.error (Refusal.noWarehouseToUnstock number).fault, inv)
      | some w =>
        match w.units? sku with
        | none => (.error (Refusal.notInStock sku number).fault, inv)
        | some held =>
          if quantity.toNat ≤ held then
            (.ok .done, inv.updateWarehouse number (·.set sku (held - quantity.toNat)))
          else (.ok (.asked (.clearOut sku number held)), inv) := by
  simp only [execute, transition, executeUnstock]
  split
  · rfl
  · simp only [Transition.on_get_bind]
    split
    · rfl
    · split
      · rfl
      · split <;> rfl

theorem execute_listProducts : inv.execute .listProducts = (.ok (.listing (.products inv.products)), inv) := rfl

theorem execute_listWarehouses : inv.execute .listWarehouses =
    (.ok (.listing (.warehouses (inv.warehouses.map fun w => (w.number, w.limit)))), inv) := rfl

theorem execute_listWarehouse (number : Int) : inv.execute (.listWarehouse number) =
    match inv.warehouse? number with
    | none => (.error (Refusal.noWarehouseToList number).fault, inv)
    | some w => (.ok (.listing (.stock (inv.stockRows w))), inv) := by
  simp only [execute, transition, executeListWarehouse, Transition.on_get_bind]
  split <;> rfl

end Inventory

end Stockroom
