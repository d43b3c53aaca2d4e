import Stockroom.Proofs.Invariant

/-!
# Stocking and unstocking undo each other

Units that have come in can leave again, and then the inventory is the one there was, the order of every stock included
(`unstock_of_stock`).  Units that have left can come in again, as their product is in the catalog and the room they took
is free: every quantity, total and limit is what it was, and only the entry of a product that was out of stock in
between has moved to the end (`stock_of_unstock`).
-/

namespace Stockroom

namespace Inventory

variable {inv inv' : Inventory} {number quantity : Int} {sku : String}

/-- Units that came in leave, unless none did and there are none. -/
theorem unstock_of_stock (hi : inv.Consistent) (h : inv.execute (.stock sku number quantity) = (.ok .done, inv')) :
    if quantity = 0 ∧ inv.units? number sku = none then
      inv'.execute (.unstock sku number quantity) = (.error (Refusal.notInStock sku number).fault, inv') ∧ inv' = inv
    else inv'.execute (.unstock sku number quantity) = (.ok .done, inv) := by
  obtain ⟨hq, hr⟩ := (executed_of_execute h).stocked hi
  have hi' : inv'.WellFormed := hr.wellFormed hi.toWellFormed
  have hheld := hr.held_after
  have hnone := hi.units?_eq_none_iff number sku
  split
  · rename_i hempty
    obtain ⟨rfl, hunits⟩ := hempty
    rw [hnone.1 hunits] at hr hheld
    obtain ⟨w, stock, -, hw', -⟩ := hr.exists_warehouse?
    exact ⟨execute_unstock_of_held_eq_zero hi' hq hw' hheld, hr.eq_of_same⟩
  · rename_i hsome
    have hpos : 0 < inv'.held number sku := by
      rw [hnone] at hsome
      omega
    obtain ⟨inv'', hdone, hback⟩ := execute_unstock_of_le hi' hq hpos (by omega)
    rw [hheld, Nat.add_sub_cancel] at hback
    rw [hdone, hr.back hback (by omega)]

/-- Units that left come in again. -/
theorem stock_of_unstock (hi : inv.Consistent) (h : inv.execute (.unstock sku number quantity) = (.ok .done, inv')) :
    ∃ inv'', inv'.execute (.stock sku number quantity) = (.ok .done, inv'') ∧
      Restocked number sku (inv.held number sku) (inv.held number sku - quantity.toNat) inv inv' ∧
      Restocked number sku (inv.held number sku - quantity.toNat) (inv.held number sku) inv' inv'' := by
  obtain ⟨hq, hpos, hle, hr⟩ := (executed_of_execute h).unstocked hi.toWellFormed
  have hsku : sku ∈ inv.skus := hi.mem_skus_of_held_pos hpos
  have hi' : inv'.Consistent := (executed_of_execute h).consistent hi trivial
  obtain ⟨w, stock, hw, hw', he⟩ := hr.exists_warehouse?
  -- the units fitted before they left
  have hfit : Stock.exactTotal stock + quantity.toNat ≤ w.limit.capacity := by
    have hsum := he.exactTotal_eq
    have hfits := hi.fits w (mem_of_warehouse? hw)
    omega
  obtain ⟨inv'', hdone, hback⟩ := execute_stock_of_fits hi' hq (hr.skus_eq ▸ hsku) hw' hfit
  rw [hr.held_after, Nat.sub_add_cancel hle] at hback
  exact ⟨inv'', hdone, hr, hback⟩

end Inventory

namespace Session

open Inventory

/-- Each of the two commands undoes the other, in every inventory that a session can have. -/
theorem run_roundTrip (lines : List String) (sku : String) (number quantity : Int) :
    let inv := (new.run lines).inventory
    (∀ inv', inv.execute (.stock sku number quantity) = (.ok .done, inv') →
      if quantity = 0 ∧ inv.units? number sku = none then
        inv'.execute (.unstock sku number quantity) = (.error (Refusal.notInStock sku number).fault, inv') ∧ inv' = inv
      else inv'.execute (.unstock sku number quantity) = (.ok .done, inv)) ∧
    ∀ inv', inv.execute (.unstock sku number quantity) = (.ok .done, inv') →
      ∃ inv'', inv'.execute (.stock sku number quantity) = (.ok .done, inv'') ∧
        (∀ k x, inv''.units? k x = inv.units? k x) ∧
        (∀ k, (inv''.warehouse? k).map (fun w => (w.limit, w.total)) =
          (inv.warehouse? k).map fun w => (w.limit, w.total)) ∧
        if inv.units? number sku = some quantity.toNat then MovedLast number sku inv inv'' else inv'' = inv := by
  intro inv
  have hi : inv.Consistent := (sound_run lines).consistent
  refine ⟨fun inv' h => unstock_of_stock hi h, ?_⟩
  intro inv' h
  obtain ⟨inv'', hdone, hr, hback⟩ := stock_of_unstock hi h
  refine ⟨inv'', hdone, hr.units?_back hback, hr.limit_total_back hback, ?_⟩
  obtain ⟨-, hpos, hle, -⟩ := (executed_of_execute h).unstocked hi.toWellFormed
  split
  · rename_i hwhole
    have hheld : inv.held number sku = quantity.toNat := by rw [held, hwhole, Option.getD_some]
    rw [hheld] at hr hback hpos
    rw [Nat.sub_self] at hr hback
    exact hr.moved hback hpos
  · rename_i hpart
    have hne : inv.held number sku ≠ quantity.toNat := by
      intro heq
      apply hpart
      rw [← heq]
      exact units?_of_held_pos hpos
    exact hr.back hback (.inr (by omega))

/-- Two of the units go and come back without a trace; when all four do, their entry goes behind the other one. -/
theorem run_roundTrip_wholeEntry :
    let lines := ["ADD PRODUCT Widget W1", "ADD PRODUCT Valve V1", "ADD WAREHOUSE 1 10", "STOCK W1 1 4", "STOCK V1 1 3"]
    let inv := (new.run lines).inventory
    let two := (new.run (lines ++ ["UNSTOCK W1 1 2"])).inventory
    let emptied := (new.run (lines ++ ["UNSTOCK W1 1 4"])).inventory
    inv.execute (.unstock "W1" 1 2) = (.ok .done, two) ∧ two.execute (.stock "W1" 1 2) = (.ok .done, inv) ∧
      inv.execute (.unstock "W1" 1 4) = (.ok .done, emptied) ∧
      ∃ inv'', emptied.execute (.stock "W1" 1 4) = (.ok .done, inv'') ∧ MovedLast 1 "W1" inv inv'' := by
  intro lines inv two emptied
  have htwo : inv.execute (.unstock "W1" 1 2) = (.ok .done, two) := by decide
  have hfour : inv.execute (.unstock "W1" 1 4) = (.ok .done, emptied) := by decide
  have hwhole : inv.units? 1 "W1" = some (Int.toNat 4) := by decide
  have hpart : inv.units? 1 "W1" ≠ some (Int.toNat 2) := by decide
  obtain ⟨-, hback⟩ := run_roundTrip lines "W1" 1 2
  obtain ⟨-, hbackAll⟩ := run_roundTrip lines "W1" 1 4
  obtain ⟨inv₂, hdone₂, -, -, hsame⟩ := hback two htwo
  obtain ⟨inv₄, hdone₄, -, -, hmoved⟩ := hbackAll emptied hfour
  rw [if_neg hpart] at hsame
  rw [if_pos hwhole] at hmoved
  rw [hsame] at hdone₂
  exact ⟨htwo, hdone₂, hfour, inv₄, hdone₄, hmoved⟩

end Session

end Stockroom
