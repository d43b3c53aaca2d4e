import Stockroom.Proofs.Consistent
import Stockroom.Proofs.Executed

/-!
# Units of one product in one warehouse

`Restocked number sku m n inv inv'` says that the second inventory is the first with the units of one product in one
warehouse changed from `m` to `n`, and nothing else.  That is what both commands on the stock do when they are done
(`Executed.stocked`, `Executed.unstocked`), and the lemmas beside each say when it is done.  Two changes of the same
units make one (`Restocked.trans`), so a change and its reverse give the inventory back, up to the place of an entry
that was removed in between (`Restocked.back`, `Restocked.moved`).
-/

namespace Stockroom.Inventory

/-- The units of one product in one warehouse are changed from `m` to `n`, and nothing else. -/
def Restocked (number : Int) (sku : String) (m n : Nat) (inv inv' : Inventory) : Prop :=
  ∃ w stock, inv.warehouse? number = some w ∧ Replaced w { w with stock } inv inv' ∧ Stock.Edit sku m n w.stock stock

/-- The entry of a product that is in stock in a warehouse becomes the last one there, and nothing else changes. -/
def MovedLast (number : Int) (sku : String) (inv inv' : Inventory) : Prop :=
  ∃ w before units after, inv.warehouse? number = some w ∧ w.stock = before ++ ⟨sku, units⟩ :: after ∧
    Replaced w { w with stock := before ++ after ++ [⟨sku, units⟩] } inv inv'

variable {inv inv' inv'' : Inventory} {w : Warehouse} {number quantity : Int} {sku : String} {m n k : Nat}

/-! ### What a change keeps -/

namespace Restocked

theorem held_before (h : Restocked number sku m n inv inv') : inv.held number sku = m := by
  obtain ⟨w, stock, hw, -, he⟩ := h
  rw [held_of_warehouse? hw, he.held_before]

theorem held_eq (h : Restocked number sku m n inv inv') (other : Int) (x : String) :
    inv'.held other x = if other = number ∧ x = sku then n else inv.held other x := by
  obtain ⟨w, stock, hw, hr, he⟩ := h
  exact hr.held_edit hw he other x

theorem held_after (h : Restocked number sku m n inv inv') : inv'.held number sku = n := by
  rw [h.held_eq, if_pos ⟨rfl, rfl⟩]

theorem wellFormed (h : Restocked number sku m n inv inv') (hi : inv.WellFormed) : inv'.WellFormed := by
  obtain ⟨w, stock, hw, hr, he⟩ := h
  exact hr.wellFormed hi (he.sound (hi.stock_sound w (mem_of_warehouse? hw)))

theorem skus_eq (h : Restocked number sku m n inv inv') : inv'.skus = inv.skus := by
  obtain ⟨w, stock, -, hr, -⟩ := h
  exact hr.skus_eq

/-- The warehouse before and after. -/
theorem exists_warehouse? (h : Restocked number sku m n inv inv') :
    ∃ w stock, inv.warehouse? number = some w ∧ inv'.warehouse? number = some { w with stock } ∧
      Stock.Edit sku m n w.stock stock := by
  obtain ⟨w, stock, hw, hr, he⟩ := h
  refine ⟨w, stock, hw, ?_, he⟩
  rw [hr.warehouse?_eq, if_pos (number_of_warehouse? hw).symm]

/-- No change at all. -/
theorem eq_of_same (h : Restocked number sku m m inv inv') : inv' = inv := by
  obtain ⟨w, stock, -, hr, he⟩ := h
  obtain rfl : stock = w.stock := he.eq_of_same
  exact hr.eq_of_same

/-- Two changes of the same units, one after the other. -/
private theorem comp (h : Restocked number sku m n inv inv') (h' : Restocked number sku n k inv' inv'') :
    ∃ w s t, inv.warehouse? number = some w ∧ Replaced w { w with stock := t } inv inv'' ∧
      Stock.Edit sku m n w.stock s ∧ Stock.Edit sku n k s t := by
  obtain ⟨w, s, hw, hr, he⟩ := h
  obtain ⟨w', t, hw', hr', he'⟩ := h'
  rw [hr.warehouse?_eq, if_pos (number_of_warehouse? hw).symm] at hw'
  obtain rfl := Option.some.inj hw'
  exact ⟨w, s, t, hw, hr.trans hr', he, he'⟩

/-- They are one change, unless an entry was removed in between. -/
theorem trans (h : Restocked number sku m n inv inv') (h' : Restocked number sku n k inv' inv'')
    (hn : n = 0 → m = 0 ∨ k = 0) : Restocked number sku m k inv inv'' := by
  obtain ⟨w, s, t, hw, hr, he, he'⟩ := h.comp h'
  exact ⟨w, t, hw, hr, he.trans he' hn⟩

/-- There is one result. -/
theorem unique (h : Restocked number sku m n inv inv') (h' : Restocked number sku m n inv inv'') : inv'' = inv' := by
  obtain ⟨w, s, hw, hr, he⟩ := h
  obtain ⟨w', s', hw', hr', he'⟩ := h'
  obtain rfl := Option.some.inj (hw.symm.trans hw')
  obtain rfl := he.unique he'
  exact hr.unique hr'

/-! ### A change and its reverse -/

/-- A change that is undone leaves no trace, unless an entry was removed in between. -/
theorem back (h : Restocked number sku m n inv inv') (h' : Restocked number sku n m inv' inv'')
    (hmn : m = 0 ∨ 0 < n) : inv'' = inv :=
  (h.trans h' fun hn => .inl (by omega)).eq_of_same

/-- A product that is taken out of stock and comes back has its entry at the end. -/
theorem moved (h : Restocked number sku m 0 inv inv') (h' : Restocked number sku 0 m inv' inv'') (hm : 0 < m) :
    MovedLast number sku inv inv'' := by
  obtain ⟨w, s, t, hw, hr, he, he'⟩ := h.comp h'
  obtain ⟨before, after, hs, rfl⟩ := he.moved he' hm
  exact ⟨w, before, m, after, hw, hs, hr⟩

/-- Whatever became of the order, the units are those there were. -/
theorem units?_back (h : Restocked number sku m n inv inv') (h' : Restocked number sku n m inv' inv'') (other : Int)
    (x : String) : inv''.units? other x = inv.units? other x := by
  obtain ⟨w, s, t, hw, hr, he, he'⟩ := h.comp h'
  have hstock : Stock.units? x t = Stock.units? x w.stock := by
    by_cases hx : x = sku
    · rw [hx, he'.units?_after, he.units?_before]
    · rw [he'.units?_other hx, he.units?_other hx]
  rw [units?, units?, hr.warehouse?_eq]
  split
  · rename_i hnumber
    rw [hnumber, number_of_warehouse? hw, hw]
    exact hstock
  · rfl

/-- And so are the limits and the totals. -/
theorem limit_total_back (h : Restocked number sku m n inv inv') (h' : Restocked number sku n m inv' inv'')
    (other : Int) : (inv''.warehouse? other).map (fun w => (w.limit, w.total)) =
      (inv.warehouse? other).map fun w => (w.limit, w.total) := by
  obtain ⟨w, s, t, hw, hr, he, he'⟩ := h.comp h'
  have htotal : Stock.total t = Stock.total w.stock := by
    have hsum := he.exactTotal_eq
    have hsum' := he'.exactTotal_eq
    rw [Stock.total_eq, Stock.total_eq, show Stock.exactTotal t = Stock.exactTotal w.stock by omega]
  rw [hr.warehouse?_eq]
  split
  · rename_i hnumber
    rw [hnumber, number_of_warehouse? hw, hw, Option.map_some, Option.map_some, Warehouse.total, Warehouse.total,
      htotal]
  · rfl

/-- A product of the catalog may get other units as long as the total fits. -/
theorem consistent (h : Restocked number sku m n inv inv') (hi : inv.Consistent) (hsku : sku ∈ inv.skus)
    (hfit : ∀ w, inv.warehouse? number = some w → Stock.exactTotal w.stock + n ≤ w.limit.capacity + m) :
    inv'.Consistent := by
  obtain ⟨w, stock, hw, hr, he⟩ := h
  refine hi.restock hr he hsku ?_
  have hsum := he.exactTotal_eq
  have hle := hfit w hw
  omega

end Restocked

/-! ### Units that come in -/

/-- What is done is what was asked for. -/
theorem Executed.stocked (h : Executed inv (.stock sku number quantity) .done inv') (hi : inv.Consistent) :
    0 ≤ quantity ∧
      Restocked number sku (inv.held number sku) (inv.held number sku + quantity.toNat) inv inv' := by
  cases h with
  | @stock _ _ _ p w hq hp hw hcount ha =>
    obtain ⟨hr, he⟩ := hi.stock_added_exactly hw sku hcount
    rw [held_of_warehouse? hw]
    exact ⟨hq, w, _, hw, hr, he⟩

/-- What is done was there and fitted. -/
theorem Executed.stock_fits (h : Executed inv (.stock sku number quantity) .done inv') (hi : inv.Consistent)
    (hw : inv.warehouse? number = some w) :
    sku ∈ inv.skus ∧ Stock.exactTotal w.stock + quantity.toNat ≤ w.limit.capacity := by
  cases h with
  | @stock _ _ _ p w' hq hp hw' hcount ha =>
    obtain rfl := Option.some.inj (hw'.symm.trans hw)
    have hle := StockLimit.le_capacity ha hcount
    rw [hi.total_eq (mem_of_warehouse? hw)] at hle
    exact ⟨mem_skus_of_product? hp, hle⟩

/-- Where the product and the warehouse are there, the total and the limit decide. -/
theorem execute_stock_of_mem (hq : 0 ≤ quantity) (hsku : sku ∈ inv.skus) (hw : inv.warehouse? number = some w) :
    inv.execute (.stock sku number quantity) = (stockInto w sku quantity.toNat).on inv := by
  have hp : ∃ p, inv.product? sku = some p := by
    rw [← Option.ne_none_iff_exists']
    exact fun hnone => product?_eq_none_iff.1 hnone hsku
  obtain ⟨p, hp⟩ := hp
  simp only [execute_stock, if_neg (Int.not_lt.2 hq), hp, hw]

/-- Units that fit come in. -/
theorem execute_stock_of_fits (hi : inv.Consistent) (hq : 0 ≤ quantity) (hsku : sku ∈ inv.skus)
    (hw : inv.warehouse? number = some w)
    (hfit : Stock.exactTotal w.stock + quantity.toNat ≤ w.limit.capacity) :
    ∃ inv', inv.execute (.stock sku number quantity) = (.ok .done, inv') ∧
      Restocked number sku (inv.held number sku) (inv.held number sku + quantity.toNat) inv inv' := by
  have hcap := (hi.limit_legal w (mem_of_warehouse? hw)).capacity_le
  have hcount : ¬ maxUnits < w.total + quantity.toNat := by
    rw [hi.total_eq (mem_of_warehouse? hw)]
    omega
  have hallows : w.limit.allows (w.total + quantity.toNat) = true := by
    rw [hi.total_eq (mem_of_warehouse? hw)]
    exact StockLimit.allows_of_le_capacity hfit
  have hdone : inv.execute (.stock sku number quantity) =
      (.ok .done, inv.updateWarehouse w.number (·.add sku quantity.toNat)) := by
    rw [execute_stock_of_mem hq hsku hw]
    simp only [stockInto_on, if_neg hcount, hallows, if_true]
  exact ⟨_, hdone, ((executed_of_execute hdone).stocked hi).2⟩

/-! ### Units that leave -/

/-- What is done is what was asked for, and there were units of the product. -/
theorem Executed.unstocked (h : Executed inv (.unstock sku number quantity) .done inv') (hi : inv.WellFormed) :
    0 ≤ quantity ∧ 0 < inv.held number sku ∧ quantity.toNat ≤ inv.held number sku ∧
      Restocked number sku (inv.held number sku) (inv.held number sku - quantity.toNat) inv inv' := by
  cases h with
  | @unstock _ _ _ w held hq hw hs hle =>
    obtain ⟨hr, he⟩ := hi.stock_set hw sku (held - quantity.toNat)
    have hpos : 0 < held := (hi.stock_sound w (mem_of_warehouse? hw)).pos _ (Stock.mem_of_units? hs)
    have hheld : inv.held number sku = held := by rw [held_of_warehouse? hw, Stock.held_of_units? hs]
    rw [Stock.held_of_units? hs] at he
    rw [hheld]
    exact ⟨hq, hpos, hle, w, _, hw, hr, he⟩

/-- Units that are there leave. -/
theorem execute_unstock_of_le (hi : inv.WellFormed) (hq : 0 ≤ quantity) (hpos : 0 < inv.held number sku)
    (hle : quantity.toNat ≤ inv.held number sku) :
    ∃ inv', inv.execute (.unstock sku number quantity) = (.ok .done, inv') ∧
      Restocked number sku (inv.held number sku) (inv.held number sku - quantity.toNat) inv inv' := by
  cases hw : inv.warehouse? number with
  | none => simp [held, units?, hw] at hpos
  | some w =>
    cases hs : w.units? sku with
    | none => simp [held, units?, hw, hs] at hpos
    | some held =>
      have hheld : inv.held number sku = held := by rw [held_of_warehouse? hw, Stock.held_of_units? hs]
      rw [hheld] at hle
      have hdone : inv.execute (.unstock sku number quantity) =
          (.ok .done, inv.updateWarehouse number (·.set sku (held - quantity.toNat))) := by
        simp only [execute_unstock, if_neg (Int.not_lt.2 hq), hw, hs, hle, if_true]
      exact ⟨_, hdone, ((executed_of_execute hdone).unstocked hi).2.2.2⟩

/-- A product that is not in stock cannot leave. -/
theorem execute_unstock_of_held_eq_zero (hi : inv.WellFormed) (hq : 0 ≤ quantity)
    (hw : inv.warehouse? number = some w) (hheld : inv.held number sku = 0) :
    inv.execute (.unstock sku number quantity) = (.error (Refusal.notInStock sku number).fault, inv) := by
  have hs : w.units? sku = none := by
    have hunits := (hi.units?_eq_none_iff number sku).2 hheld
    rwa [units?, hw] at hunits
  simp only [execute_unstock, if_neg (Int.not_lt.2 hq), hw, hs]

end Stockroom.Inventory
