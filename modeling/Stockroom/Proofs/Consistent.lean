import Stockroom.Command.Argument
import Stockroom.Inventory.Execute
import Stockroom.Proofs.WellFormed

/-!
# Consistent inventories

A consistent inventory is well formed, stocks only products of its catalog, and holds in every warehouse no more units
than the limit allows and than can be counted; so no total is cut at `maxUnits` (`Consistent.total_eq`).  An added
product or warehouse, an edit of one product in one warehouse (`Consistent.restock`) and a new limit
(`Consistent.relimit`) keep it consistent.
-/

namespace Stockroom

namespace StockLimit

/-- The units a warehouse of that limit can hold: without a limit, as many as are counted. -/
def capacity : StockLimit → Nat
  | unbounded => maxUnits
  | upTo units => units

/-- A limit is at least one unit, and a number that a token can hold. -/
def Legal : StockLimit → Prop
  | unbounded => True
  | upTo units => 1 ≤ units ∧ units ≤ maxNumber

theorem Legal.capacity_le {limit : StockLimit} (h : limit.Legal) : limit.capacity ≤ maxUnits := by
  cases limit with
  | unbounded => exact Nat.le_refl _
  | upTo units =>
    have hmax : maxNumber ≤ maxUnits := by decide
    exact Nat.le_trans h.2 hmax

theorem le_capacity {limit : StockLimit} {units : Nat} (ha : limit.allows units = true) (hu : units ≤ maxUnits) :
    units ≤ limit.capacity := by
  cases limit with
  | unbounded => exact hu
  | upTo n => simpa [allows, capacity] using ha

theorem allows_of_le_capacity {limit : StockLimit} {units : Nat} (h : units ≤ limit.capacity) :
    limit.allows units = true := by
  cases limit with
  | unbounded => rfl
  | upTo n => simpa [allows, capacity] using h

theorem allows_of_le {limit : StockLimit} {m n : Nat} (ha : limit.allows n = true) (hle : m ≤ n) :
    limit.allows m = true := by
  cases limit with
  | unbounded => rfl
  | upTo units =>
    have hn : n ≤ units := by simpa [allows] using ha
    simpa [allows] using Nat.le_trans hle hn

end StockLimit

namespace Inventory

structure Consistent (inv : Inventory) : Prop extends WellFormed inv where
  in_catalog : ∀ w ∈ inv.warehouses, ∀ sku ∈ Stock.skus w.stock, sku ∈ inv.skus
  fits : ∀ w ∈ inv.warehouses, Stock.exactTotal w.stock ≤ w.limit.capacity
  limit_legal : ∀ w ∈ inv.warehouses, w.limit.Legal

namespace Consistent

variable {inv inv' : Inventory} {w : Warehouse}

theorem empty : Consistent {} :=
  ⟨.empty, fun _ hw => absurd hw List.not_mem_nil, fun _ hw => absurd hw List.not_mem_nil,
    fun _ hw => absurd hw List.not_mem_nil⟩

private theorem exactTotal_le (h : inv.Consistent) (hw : w ∈ inv.warehouses) : Stock.exactTotal w.stock ≤ maxUnits :=
  Nat.le_trans (h.fits w hw) (h.limit_legal w hw).capacity_le

/-- The total of a warehouse is exact. -/
theorem total_eq (h : inv.Consistent) (hw : w ∈ inv.warehouses) : w.total = Stock.exactTotal w.stock := by
  rw [Warehouse.total, Stock.total_eq]
  exact Nat.min_eq_left (h.exactTotal_le hw)

/-- Units that can be counted on top of the total are all added. -/
theorem stock_added_exactly {number : Int} (h : inv.Consistent) (hw : inv.warehouse? number = some w) (sku : String)
    {units : Nat} (hu : w.total + units ≤ maxUnits) :
    Replaced w { w with stock := Stock.add sku units w.stock } inv (inv.updateWarehouse number (·.add sku units)) ∧
      Stock.Edit sku (Stock.held sku w.stock) (Stock.held sku w.stock + units) w.stock
        (Stock.add sku units w.stock) := by
  have hle : Stock.held sku w.stock ≤ w.total := by
    rw [h.total_eq (mem_of_warehouse? hw)]
    exact Stock.held_le_exactTotal sku w.stock
  have hsum : addUnits (Stock.held sku w.stock) units = Stock.held sku w.stock + units :=
    Nat.min_eq_left (by omega)
  have hadd := h.stock_added hw sku (Nat.le_trans (Nat.le_add_left _ _) hu)
  rwa [hsum] at hadd

theorem mem_skus_of_units? (h : inv.Consistent) (hw : w ∈ inv.warehouses) {sku : String} {n : Nat}
    (hu : w.units? sku = some n) : sku ∈ inv.skus :=
  h.in_catalog w hw sku (List.mem_map_of_mem (Stock.mem_of_units? hu))

theorem mem_skus_of_held_pos (h : inv.Consistent) {number : Int} {sku : String} (hpos : 0 < inv.held number sku) :
    sku ∈ inv.skus := by
  obtain ⟨w, hw, hu⟩ := Option.bind_eq_some_iff.1 (units?_of_held_pos hpos)
  exact h.mem_skus_of_units? (mem_of_warehouse? hw) hu

/-- Every product in stock has its name in the catalog. -/
theorem name_isSome (h : inv.Consistent) (hw : w ∈ inv.warehouses) {row : StockRow} (hr : row ∈ inv.stockRows w) :
    row.name.isSome := by
  obtain ⟨e, he, rfl⟩ := List.mem_map.1 hr
  have hs : e.sku ∈ inv.skus := h.in_catalog w hw _ (List.mem_map_of_mem he)
  cases hp : inv.product? e.sku with
  | none => exact absurd hs (product?_eq_none_iff.1 hp)
  | some p => rfl

theorem addProduct (h : inv.Consistent) {p : Product} (hp : inv.product? p.sku = none) :
    (inv.addProduct p).Consistent := by
  refine ⟨h.toWellFormed.addProduct hp, ?_, h.fits, h.limit_legal⟩
  intro w hw sku hsku
  rw [skus_addProduct]
  exact List.mem_append_left _ (h.in_catalog w hw sku hsku)

/-- A new warehouse is empty. -/
theorem addWarehouse (h : inv.Consistent) {number : Int} {limit : StockLimit}
    (hw : inv.warehouse? number = none) (hl : limit.Legal) :
    (inv.addWarehouse ⟨number, limit, []⟩).Consistent := by
  refine ⟨h.toWellFormed.addWarehouse hw .nil, ?_, ?_, ?_⟩ <;> intro x hx <;> rcases mem_addWarehouse hx with rfl | hx
  · exact fun sku hsku => absurd hsku List.not_mem_nil
  · exact h.in_catalog x hx
  · exact Nat.zero_le _
  · exact h.fits x hx
  · exact hl
  · exact h.limit_legal x hx

/-- One product of the catalog gets other units in one warehouse, and the total stays within its limit. -/
theorem restock (h : inv.Consistent) {sku : String} {m n : Nat} {stock : Stock}
    (hr : Replaced w { w with stock } inv inv') (he : Stock.Edit sku m n w.stock stock) (hsku : sku ∈ inv.skus)
    (hfit : Stock.exactTotal stock ≤ w.limit.capacity) : inv'.Consistent := by
  have hw : w ∈ inv.warehouses := hr.mem_before
  -- each part first for the edited warehouse, then for the others
  refine ⟨hr.wellFormed h.toWellFormed (he.sound (h.stock_sound w hw)), ?_, ?_, ?_⟩ <;>
    intro x hx <;> rcases hr.mem hx with rfl | hx
  · intro other hother
    rw [hr.skus_eq]
    rcases he.mem_skus hother with rfl | hother
    · exact hsku
    · exact h.in_catalog w hw other hother
  · rw [hr.skus_eq]
    exact h.in_catalog x hx
  · exact hfit
  · exact h.fits x hx
  · exact h.limit_legal w hw
  · exact h.limit_legal x hx

/-- One warehouse gets another limit that allows what it holds. -/
theorem relimit (h : inv.Consistent) {limit : StockLimit} (hr : Replaced w { w with limit } inv inv')
    (hl : limit.Legal) (ha : limit.allows (Stock.exactTotal w.stock) = true) : inv'.Consistent := by
  have hw : w ∈ inv.warehouses := hr.mem_before
  refine ⟨hr.wellFormed h.toWellFormed (h.stock_sound w hw), ?_, ?_, ?_⟩ <;>
    intro x hx <;> rcases hr.mem hx with rfl | hx
  · rw [hr.skus_eq]
    exact h.in_catalog w hw
  · rw [hr.skus_eq]
    exact h.in_catalog x hx
  · have hle : Stock.exactTotal w.stock ≤ maxUnits := h.exactTotal_le hw
    exact StockLimit.le_capacity ha hle
  · exact h.fits x hx
  · exact hl
  · exact h.limit_legal x hx

end Consistent

end Inventory

end Stockroom
