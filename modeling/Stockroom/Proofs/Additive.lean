import Stockroom.Proofs.Invariant

/-!
# Quantities in two parts

A quantity can be stocked in one command or in two, and either both ways are done or neither is: the room is measured
against the exact total, so what fits in two parts fits at once (`stock_add`, `stock_split`).  A quantity can leave in
two parts if there is something in the second (`unstock_add`, `unstock_split`): the first part may take all there is,
and then the product is out of stock.  Both ways leave the same inventory, the order of the stock included, since two
changes of the same units are one (`Restocked.trans`) and a change has one result (`Restocked.unique`).
-/

namespace Stockroom

namespace Inventory

variable {inv inv' inv'' : Inventory} {number a b : Int} {sku : String}

/-! ### Units that come in -/

/-- What came in by two commands comes in by one. -/
theorem stock_add (hi : inv.Consistent) (h : inv.execute (.stock sku number a) = (.ok .done, inv'))
    (h' : inv'.execute (.stock sku number b) = (.ok .done, inv'')) :
    inv.execute (.stock sku number (a + b)) = (.ok .done, inv'') := by
  have hex := executed_of_execute h
  have hex' := executed_of_execute h'
  have hi' : inv'.Consistent := hex.consistent hi trivial
  obtain ⟨ha, hr⟩ := hex.stocked hi
  obtain ⟨hb, hr'⟩ := hex'.stocked hi'
  have hab : (a + b).toNat = a.toNat + b.toNat := Int.toNat_add ha hb
  obtain ⟨w, stock, hw, hw', he⟩ := hr.exists_warehouse?
  obtain ⟨hsku, -⟩ := hex.stock_fits hi hw
  -- the second part fitted on top of the first
  have hfit : Stock.exactTotal w.stock + (a + b).toNat ≤ w.limit.capacity := by
    have hrest : Stock.exactTotal stock + b.toNat ≤ w.limit.capacity := (hex'.stock_fits hi' hw').2
    have hsum := he.exactTotal_eq
    omega
  obtain ⟨one, hone, hr''⟩ := execute_stock_of_fits hi (Int.add_nonneg ha hb) hsku hw hfit
  rw [hr.held_after] at hr'
  rw [hab, ← Nat.add_assoc] at hr''
  have hsame : one = inv'' := (hr.trans hr' fun hn => .inl (by omega)).unique hr''
  rw [hone, hsame]

/-- What comes in by one command comes in by two. -/
theorem stock_split (hi : inv.Consistent) (ha : 0 ≤ a) (hb : 0 ≤ b)
    (h : inv.execute (.stock sku number (a + b)) = (.ok .done, inv'')) :
    ∃ inv', inv.execute (.stock sku number a) = (.ok .done, inv') ∧
      inv'.execute (.stock sku number b) = (.ok .done, inv'') := by
  have hex := executed_of_execute h
  obtain ⟨w, -, hw, -, -⟩ := (hex.stocked hi).2.exists_warehouse?
  obtain ⟨hsku, hfit⟩ := hex.stock_fits hi hw
  rw [Int.toNat_add ha hb] at hfit
  obtain ⟨inv', hfirst, hr⟩ := execute_stock_of_fits hi ha hsku hw (by omega)
  have hi' : inv'.Consistent := (executed_of_execute hfirst).consistent hi trivial
  obtain ⟨w', stock, hthere, hw', he⟩ := hr.exists_warehouse?
  obtain rfl := Option.some.inj (hw.symm.trans hthere)
  have hrest : Stock.exactTotal stock + b.toNat ≤ w.limit.capacity := by
    have hsum := he.exactTotal_eq
    omega
  obtain ⟨two, hsecond, -⟩ := execute_stock_of_fits hi' hb (hr.skus_eq ▸ hsku) hw' hrest
  have hsame := h.symm.trans (stock_add hi hfirst hsecond)
  cases hsame
  exact ⟨inv', hfirst, hsecond⟩

/-! ### Units that leave -/

/-- What left by two commands leaves by one. -/
theorem unstock_add (hi : inv.WellFormed) (h : inv.execute (.unstock sku number a) = (.ok .done, inv'))
    (h' : inv'.execute (.unstock sku number b) = (.ok .done, inv'')) :
    inv.execute (.unstock sku number (a + b)) = (.ok .done, inv'') := by
  obtain ⟨ha, hpos, hle, hr⟩ := (executed_of_execute h).unstocked hi
  obtain ⟨hb, hpos', hle', hr'⟩ := (executed_of_execute h').unstocked (hr.wellFormed hi)
  rw [hr.held_after] at hpos' hle' hr'
  have hab : (a + b).toNat = a.toNat + b.toNat := Int.toNat_add ha hb
  obtain ⟨one, hone, hr''⟩ := execute_unstock_of_le hi (Int.add_nonneg ha hb) hpos (by omega)
  rw [hab, ← Nat.sub_sub] at hr''
  have hsame : one = inv'' := (hr.trans hr' fun hn => absurd hn (Nat.ne_of_gt hpos')).unique hr''
  rw [hone, hsame]

/-- What leaves by one command leaves by two, if the second one has something to take. -/
theorem unstock_split (hi : inv.WellFormed) (ha : 0 ≤ a) (hb : 0 < b)
    (h : inv.execute (.unstock sku number (a + b)) = (.ok .done, inv'')) :
    ∃ inv', inv.execute (.unstock sku number a) = (.ok .done, inv') ∧
      inv'.execute (.unstock sku number b) = (.ok .done, inv'') := by
  obtain ⟨-, hpos, hle, -⟩ := (executed_of_execute h).unstocked hi
  rw [Int.toNat_add ha (Int.le_of_lt hb)] at hle
  obtain ⟨inv', hfirst, hr⟩ := execute_unstock_of_le hi ha hpos (by omega)
  have hheld := hr.held_after
  obtain ⟨two, hsecond, -⟩ := execute_unstock_of_le (hr.wellFormed hi) (Int.le_of_lt hb)
    (show 0 < inv'.held number sku by omega) (by omega)
  have hsame := h.symm.trans (unstock_add hi hfirst hsecond)
  cases hsame
  exact ⟨inv', hfirst, hsecond⟩

end Inventory

namespace Session

open Inventory

/-- Two commands for the parts are done exactly if the one for the sum is, and leave the same inventory; parts leave
only if the second is not empty. -/
theorem run_additive (lines : List String) (sku : String) (number : Int) {a b : Int} (ha : 0 ≤ a) (hb : 0 ≤ b) :
    let inv := (new.run lines).inventory
    (∀ inv'', (∃ inv', inv.execute (.stock sku number a) = (.ok .done, inv') ∧
        inv'.execute (.stock sku number b) = (.ok .done, inv'')) ↔
      inv.execute (.stock sku number (a + b)) = (.ok .done, inv'')) ∧
    (0 < b → ∀ inv'', (∃ inv', inv.execute (.unstock sku number a) = (.ok .done, inv') ∧
        inv'.execute (.unstock sku number b) = (.ok .done, inv'')) ↔
      inv.execute (.unstock sku number (a + b)) = (.ok .done, inv'')) := by
  intro inv
  have hi : inv.Consistent := (sound_run lines).consistent
  refine ⟨?_, ?_⟩
  · intro inv''
    constructor
    · rintro ⟨inv', hfirst, hsecond⟩
      exact stock_add hi hfirst hsecond
    · exact stock_split hi ha hb
  · intro hpos inv''
    constructor
    · rintro ⟨inv', hfirst, hsecond⟩
      exact unstock_add hi.toWellFormed hfirst hsecond
    · exact unstock_split hi.toWellFormed ha hpos

/-- Four units and six fill a warehouse as ten do, and leave it as ten do; four and seven do neither. -/
theorem run_additive_upToLimit :
    let lines := ["ADD PRODUCT Widget W1", "ADD WAREHOUSE 1 10"]
    let inv := (new.run lines).inventory
    let full := (new.run (lines ++ ["STOCK W1 1 10"])).inventory
    (0 : Int) ≤ 4 ∧ (0 : Int) ≤ 6 ∧ (0 : Int) < 6 ∧ (0 : Int) ≤ 7 ∧
      (∃ inv', inv.execute (.stock "W1" 1 4) = (.ok .done, inv') ∧
        inv'.execute (.stock "W1" 1 6) = (.ok .done, full)) ∧
      (∃ inv', full.execute (.unstock "W1" 1 4) = (.ok .done, inv') ∧
        inv'.execute (.unstock "W1" 1 6) = (.ok .done, inv)) ∧
      ¬ ∃ inv' inv'', inv.execute (.stock "W1" 1 4) = (.ok .done, inv') ∧
        inv'.execute (.stock "W1" 1 7) = (.ok .done, inv'') := by
  intro lines inv full
  have hfour : (0 : Int) ≤ 4 := by decide
  have hsix : (0 : Int) ≤ 6 := by decide
  have hseven : (0 : Int) ≤ 7 := by decide
  have hpos : (0 : Int) < 6 := by decide
  have hin : inv.execute (.stock "W1" 1 (4 + 6)) = (.ok .done, full) := by decide
  have hout : full.execute (.unstock "W1" 1 (4 + 6)) = (.ok .done, inv) := by decide
  have hasked : inv.execute (.stock "W1" 1 (4 + 7)) = (.ok (.asked (.fillUp "W1" 1 0 10 11 10)), inv) := by decide
  refine ⟨hfour, hsix, hpos, hseven, ?_, ?_, ?_⟩
  · exact ((run_additive lines "W1" 1 hfour hsix).1 full).2 hin
  · exact ((run_additive (lines ++ ["STOCK W1 1 10"]) "W1" 1 hfour hsix).2 hpos inv).2 hout
  · rintro ⟨inv', inv'', hboth⟩
    have hdone := ((run_additive lines "W1" 1 hfour hseven).1 inv'').1 ⟨inv', hboth⟩
    cases hasked.symm.trans hdone

end Session

end Stockroom
