import Mathlib.Data.List.Forall2
import Stockroom.Inventory.Call
import Stockroom.Proofs.Executed
import Stockroom.Proofs.Question

/-!
# Integrity under any calls

Whatever commands are executed and whatever questions are resolved, asked or made up, with any amounts and limits, an
inventory stays well formed and every total is the exact sum cut at `maxUnits` (`calls_wellFormed`).  More cannot be
had: a made-up question may break a limit, or bring in a product that is not in the catalog.  A question changes at most
the warehouse that it names, and all products and warehouses stay in their places (`keptBut_resolve`).
-/

namespace Stockroom

namespace Inventory

/-- No product and no warehouse comes, goes or moves, and only warehouses of that number are touched. -/
structure KeptBut (number : Int) (inv inv' : Inventory) : Prop where
  products_eq : inv'.products = inv.products
  warehouses :
    List.Forall₂ (fun w w' => w'.number = w.number ∧ (w.number ≠ number → w' = w)) inv.warehouses inv'.warehouses

variable {inv inv' : Inventory} {number : Int} {f : Warehouse → Warehouse}

/-! ### Questions -/

theorem keptBut_updateWarehouse (hf : ∀ w, (f w).number = w.number) :
    KeptBut number inv (inv.updateWarehouse number f) := by
  refine ⟨rfl, ?_⟩
  rw [updateWarehouse, List.forall₂_map_right_iff, List.forall₂_same]
  intro w _
  split
  · rename_i hw
    exact ⟨hf w, fun hne => absurd hw hne⟩
  · exact ⟨rfl, fun _ => rfl⟩

private theorem keptBut_refl : KeptBut number inv inv :=
  ⟨rfl, List.forall₂_same.2 fun _ _ => ⟨rfl, fun _ => rfl⟩⟩

/-- Whatever the answer, a question touches the warehouse that it names and nothing else. -/
theorem keptBut_resolve (inv : Inventory) (q : Question) (a : Answer) :
    KeptBut q.warehouse inv (inv.resolve q a).2 := by
  cases a with
  | yes =>
    rw [resolve, apply_eq_updateWarehouse]
    exact keptBut_updateWarehouse q.number_change
  | no | unrecognized => exact keptBut_refl

/-! ### Every call keeps an inventory well formed -/

theorem WellFormed.apply (h : inv.WellFormed) (q : Question) : (inv.apply q).WellFormed := by
  rw [apply_eq_updateWarehouse]
  exact h.updateWarehouse q.number_change fun w hw => q.sound_change (h.stock_sound w hw)

theorem WellFormed.resolve (h : inv.WellFormed) (q : Question) (a : Answer) : (inv.resolve q a).2.WellFormed := by
  cases a with
  | yes => exact h.apply q
  | no | unrecognized => exact h

theorem Executed.wellFormed {c : Command} {o : Outcome} (h : Executed inv c o inv') (hi : inv.WellFormed) :
    inv'.WellFormed := by
  cases h with
  | addProduct hp => exact hi.addProduct hp
  | addWarehouse hl hw => exact hi.addWarehouse hw .nil
  | @stock sku _ quantity =>
    exact hi.updateWarehouse (fun _ => rfl) fun w hw => (hi.stock_sound w hw).add sku quantity.toNat
  | @unstock sku _ quantity _ held =>
    exact hi.updateWarehouse (fun _ => rfl) fun w hw => (hi.stock_sound w hw).set sku (held - quantity.toNat)
  | keepLimit | askLimit | askFill | askClear | listProducts | listWarehouses | listWarehouse => exact hi

theorem WellFormed.call (h : inv.WellFormed) (c : Call) : (inv.call c).2.WellFormed := by
  cases c with
  | execute c => exact call_execute_of h fun o next he => (executed_of_execute he).wellFormed h
  | resolve q a => exact h.resolve q a

/-- Whatever is called, from the empty inventory on: SKUs and numbers are distinct, stocks hold no product twice and no
empty entry, totals are exact up to `maxUnits`, and no question touches more than the warehouse that it names. -/
theorem calls_wellFormed (l : List Call) :
    let inv := empty.calls l
    inv.WellFormed ∧ (∀ w ∈ inv.warehouses, w.total = min (Stock.exactTotal w.stock) maxUnits) ∧
      ∀ q a, KeptBut q.warehouse inv (inv.resolve q a).2 := by
  intro inv
  refine ⟨calls_induction (fun _ c h => h.call c) .empty l, ?_, keptBut_resolve inv⟩
  intro w _
  exact Stock.total_eq w.stock

/-- Two made-up questions bring in more than can be counted. -/
example :
    (empty.calls [.execute (.addWarehouse 1 none), .resolve (.fillUp "W1" 1 0 0 0 maxUnits) .yes,
      .resolve (.fillUp "V1" 1 0 0 0 maxUnits) .yes]).warehouses.map (fun w => (w.total, Stock.exactTotal w.stock)) =
      [(maxUnits, maxUnits + maxUnits)] := by
  decide

end Inventory

end Stockroom
