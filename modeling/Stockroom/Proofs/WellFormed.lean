import Stockroom.Inventory.Basic
import Stockroom.Proofs.StockEdit

/-!
# Well-formed inventories

An inventory is well formed if its SKUs and its warehouse numbers are distinct and every stock is sound.  A product or
a warehouse is added at the end, and `updateWarehouse` replaces one warehouse in its place (`Replaced`,
`replaced_updateWarehouse`); all three keep an inventory well formed, and lookups see what was added or replaced and
nothing else.  Whatever the inventory, changes under different numbers do not meet (`updateWarehouse_comm`).
-/

namespace Stockroom.Inventory

/-- The SKUs of the catalog, in order. -/
def skus (inv : Inventory) : List String :=
  inv.products.map (·.sku)

/-- The numbers of the warehouses, in order. -/
def numbers (inv : Inventory) : List Int :=
  inv.warehouses.map (·.number)

/-- The units of a product in a warehouse, if it is in stock there. -/
def units? (inv : Inventory) (number : Int) (sku : String) : Option Nat :=
  (inv.warehouse? number).bind (·.units? sku)

/-- The units of a product in a warehouse; none if it is not in stock there. -/
def held (inv : Inventory) (number : Int) (sku : String) : Nat :=
  (inv.units? number sku).getD 0

structure WellFormed (inv : Inventory) : Prop where
  skus_nodup : inv.skus.Nodup
  numbers_nodup : inv.numbers.Nodup
  stock_sound : ∀ w ∈ inv.warehouses, Stock.Sound w.stock

/-- A warehouse gives way to one of the same number in its place; no other has that number. -/
inductive Replaced (w w' : Warehouse) : Inventory → Inventory → Prop
  | intro {products : List Product} {before after : List Warehouse} (hn : w'.number = w.number)
      (hb : ∀ x ∈ before, x.number ≠ w.number) (ha : ∀ x ∈ after, x.number ≠ w.number) :
      Replaced w w' ⟨products, before ++ w :: after⟩ ⟨products, before ++ w' :: after⟩

variable {inv inv' : Inventory} {w w' : Warehouse} {number : Int} {sku : String}

/-! ### Lookups -/

theorem product?_eq_none_iff : inv.product? sku = none ↔ sku ∉ inv.skus := by
  simp [product?, skus, List.find?_eq_none]

theorem mem_skus_of_product? {p : Product} (h : inv.product? sku = some p) : sku ∈ inv.skus := by
  by_cases hs : sku ∈ inv.skus
  · exact hs
  · rw [product?_eq_none_iff.2 hs] at h
    exact absurd h (by simp)

theorem warehouse?_eq_none_iff : inv.warehouse? number = none ↔ number ∉ inv.numbers := by
  simp [warehouse?, numbers, List.find?_eq_none]

theorem mem_of_warehouse? (h : inv.warehouse? number = some w) : w ∈ inv.warehouses :=
  List.mem_of_find?_eq_some h

theorem number_of_warehouse? (h : inv.warehouse? number = some w) : w.number = number := by
  simpa using List.find?_some h

theorem mem_numbers_of_warehouse? (h : inv.warehouse? number = some w) : number ∈ inv.numbers := by
  rw [← number_of_warehouse? h]
  exact List.mem_map_of_mem (mem_of_warehouse? h)

theorem warehouse?_addWarehouse (hw : inv.warehouse? w.number = none) :
    (inv.addWarehouse w).warehouse? number = if number = w.number then some w else inv.warehouse? number := by
  unfold warehouse? at hw
  unfold warehouse? addWarehouse
  rw [List.find?_append]
  by_cases hn : number = w.number
  · subst hn
    simp [hw]
  · simp [hn, Ne.symm hn]

theorem held_of_warehouse? (hw : inv.warehouse? number = some w) (sku : String) :
    inv.held number sku = Stock.held sku w.stock := by
  rw [held, units?, hw]
  rfl

theorem units?_of_held_pos (hpos : 0 < inv.held number sku) :
    inv.units? number sku = some (inv.held number sku) := by
  unfold held at hpos ⊢
  cases hu : inv.units? number sku with
  | none => simp [hu] at hpos
  | some n => rfl

theorem held_addProduct (p : Product) : (inv.addProduct p).held number sku = inv.held number sku := rfl

/-- A new warehouse is empty, so nothing is held that was not held before. -/
theorem held_addWarehouse {limit : StockLimit} {k : Int} (hw : inv.warehouse? number = none) (sku : String) :
    (inv.addWarehouse ⟨number, limit, []⟩).held k sku = inv.held k sku := by
  rw [held, units?, warehouse?_addWarehouse hw, held, units?]
  split
  · rename_i hk
    subst hk
    rw [hw]
    rfl
  · rfl

/-- In a well-formed inventory a product is in stock exactly if units of it are held. -/
theorem WellFormed.units?_eq_none_iff (h : inv.WellFormed) (number : Int) (sku : String) :
    inv.units? number sku = none ↔ inv.held number sku = 0 := by
  unfold held units?
  cases hw : inv.warehouse? number with
  | none => simp
  | some w => exact (h.stock_sound w (mem_of_warehouse? hw)).units?_eq_none_iff_held sku

/-! ### Adding at the end -/

theorem WellFormed.empty : WellFormed {} :=
  ⟨List.nodup_nil, List.nodup_nil, fun _ hw => absurd hw List.not_mem_nil⟩

theorem skus_addProduct (p : Product) : (inv.addProduct p).skus = inv.skus ++ [p.sku] := by
  simp [skus, addProduct]

theorem numbers_addWarehouse : (inv.addWarehouse w).numbers = inv.numbers ++ [w.number] := by
  simp [numbers, addWarehouse]

theorem WellFormed.addProduct (h : inv.WellFormed) {p : Product} (hp : inv.product? p.sku = none) :
    (inv.addProduct p).WellFormed := by
  refine ⟨?_, h.numbers_nodup, h.stock_sound⟩
  rw [skus_addProduct, ← List.concat_eq_append]
  exact .concat (product?_eq_none_iff.1 hp) h.skus_nodup

theorem mem_addWarehouse {x : Warehouse} (hx : x ∈ (inv.addWarehouse w).warehouses) :
    x = w ∨ x ∈ inv.warehouses := by
  rcases List.mem_append.1 hx with hx | hx
  · exact .inr hx
  · exact .inl (List.mem_singleton.1 hx)

theorem WellFormed.addWarehouse (h : inv.WellFormed) (hw : inv.warehouse? w.number = none)
    (hs : Stock.Sound w.stock) : (inv.addWarehouse w).WellFormed := by
  refine ⟨h.skus_nodup, ?_, ?_⟩
  · rw [numbers_addWarehouse, ← List.concat_eq_append]
    exact .concat (warehouse?_eq_none_iff.1 hw) h.numbers_nodup
  · intro x hx
    rcases mem_addWarehouse hx with rfl | hx
    · exact hs
    · exact h.stock_sound x hx

/-! ### Replacing in place -/

private theorem map_update_of_ne {l : List Warehouse} (f : Warehouse → Warehouse)
    (h : ∀ x ∈ l, x.number ≠ number) : (l.map fun x => if x.number = number then f x else x) = l := by
  rw [List.map_congr_left (g := id), List.map_id]
  intro x hx
  simp [h x hx]

/-- With distinct numbers, updating a warehouse that is there replaces exactly that one. -/
theorem replaced_updateWarehouse (hnd : inv.numbers.Nodup) (hw : inv.warehouse? number = some w)
    {f : Warehouse → Warehouse} (hf : (f w).number = w.number) :
    Replaced w (f w) inv (inv.updateWarehouse number f) := by
  obtain ⟨products, warehouses⟩ := inv
  obtain ⟨-, before, after, hsplit, -⟩ := List.find?_eq_some_iff_append.1 hw
  have hn : w.number = number := number_of_warehouse? hw
  simp only at hsplit
  subst hsplit
  subst hn
  simp only [numbers, List.map_append, List.map_cons, List.nodup_append, List.nodup_cons, List.mem_map,
    List.mem_cons] at hnd
  obtain ⟨-, ⟨hafter, -⟩, hbefore⟩ := hnd
  have hb : ∀ x ∈ before, x.number ≠ w.number := fun x hx => hbefore _ ⟨x, hx, rfl⟩ _ (.inl rfl)
  have ha : ∀ x ∈ after, x.number ≠ w.number := fun x hx heq => hafter ⟨x, hx, heq⟩
  unfold updateWarehouse
  simp only [List.map_append, List.map_cons, map_update_of_ne f hb, map_update_of_ne f ha, if_true]
  exact .intro hf hb ha

/-! ### Changes that keep the number -/

variable {f g : Warehouse → Warehouse}

theorem numbers_updateWarehouse (hf : ∀ x, (f x).number = x.number) :
    (inv.updateWarehouse number f).numbers = inv.numbers := by
  rw [numbers, updateWarehouse, List.map_map, numbers]
  refine List.map_congr_left fun x _ => ?_
  simp only [Function.comp_apply]
  split
  · exact hf x
  · rfl

/-- Another number leads to the same warehouse as before. -/
theorem warehouse?_updateWarehouse_of_ne {other : Int} (hf : ∀ x, (f x).number = x.number) (hne : other ≠ number) :
    (inv.updateWarehouse number f).warehouse? other = inv.warehouse? other := by
  unfold warehouse? updateWarehouse
  induction inv.warehouses with
  | nil => rfl
  | cons x l ih =>
    rw [List.map_cons, List.find?_cons, List.find?_cons, ih]
    by_cases hx : x.number = number
    · simp [hx, hf, Ne.symm hne]
    · simp [hx]

theorem updateWarehouse_id (inv : Inventory) (number : Int) : inv.updateWarehouse number id = inv := by
  simp [updateWarehouse]

/-- Changes of warehouses with different numbers do not meet. -/
theorem updateWarehouse_comm {other : Int} (hf : ∀ x, (f x).number = x.number) (hg : ∀ x, (g x).number = x.number)
    (hne : other ≠ number) :
    (inv.updateWarehouse number f).updateWarehouse other g =
      (inv.updateWarehouse other g).updateWarehouse number f := by
  unfold updateWarehouse
  simp only [List.map_map, Inventory.mk.injEq, true_and]
  refine List.map_congr_left fun x _ => ?_
  simp only [Function.comp_apply]
  by_cases hx : x.number = number
  · have hother : x.number ≠ other := fun h => hne (h.symm.trans hx)
    simp [hx, hf, Ne.symm hne]
  · by_cases hother : x.number = other
    · simp [hother, hg, hne]
    · simp [hx, hother]

/-- Sound stocks stay sound, whichever of them the change falls on. -/
theorem WellFormed.updateWarehouse (h : inv.WellFormed) (hf : ∀ x, (f x).number = x.number)
    (hs : ∀ x ∈ inv.warehouses, Stock.Sound (f x).stock) : (inv.updateWarehouse number f).WellFormed := by
  refine ⟨h.skus_nodup, (numbers_updateWarehouse hf).symm ▸ h.numbers_nodup, ?_⟩
  intro x hx
  obtain ⟨y, hy, rfl⟩ := List.mem_map.1 hx
  split
  · exact hs y hy
  · exact h.stock_sound y hy

namespace Replaced

theorem products_eq (h : Replaced w w' inv inv') : inv'.products = inv.products := by
  cases h
  rfl

theorem skus_eq (h : Replaced w w' inv inv') : inv'.skus = inv.skus := by
  rw [skus, h.products_eq, skus]

theorem numbers_eq (h : Replaced w w' inv inv') : inv'.numbers = inv.numbers := by
  cases h with
  | intro hn => simp [numbers, hn]

theorem mem (h : Replaced w w' inv inv') {x : Warehouse} (hx : x ∈ inv'.warehouses) :
    x = w' ∨ x ∈ inv.warehouses := by
  cases h
  rcases List.mem_append.1 hx with hx | hx
  · exact .inr (List.mem_append_left _ hx)
  · rcases List.mem_cons.1 hx with hx | hx
    · exact .inl hx
    · exact .inr (List.mem_append_right _ (List.mem_cons_of_mem _ hx))

theorem mem_before (h : Replaced w w' inv inv') : w ∈ inv.warehouses := by
  cases h
  simp

theorem ne (h : Replaced w w' inv inv') (hne : w' ≠ w) : inv' ≠ inv := by
  cases h with
  | intro =>
    intro heq
    rw [Inventory.mk.injEq, List.append_cancel_left_eq, List.cons.injEq] at heq
    exact hne heq.2.1

private theorem find?_before {l : List Warehouse} (h : ∀ x ∈ l, x.number ≠ number) :
    l.find? (·.number = number) = none := by
  rw [List.find?_eq_none]
  intro x hx
  simpa using h x hx

/-- Only the lookup of that number gives another warehouse. -/
theorem warehouse?_eq (h : Replaced w w' inv inv') (number : Int) :
    inv'.warehouse? number = if number = w.number then some w' else inv.warehouse? number := by
  cases h with
  | intro hn hb ha =>
    unfold warehouse?
    simp only [List.find?_append, List.find?_cons]
    by_cases hk : number = w.number
    · subst hk
      simp [find?_before hb, hn]
    · simp [hk, hn, Ne.symm hk]

/-- A warehouse that is replaced twice. -/
theorem trans {w'' : Warehouse} {inv'' : Inventory} (h : Replaced w w' inv inv') (h' : Replaced w' w'' inv' inv'') :
    Replaced w w'' inv inv'' := by
  cases h with
  | @intro products before after hn hb ha =>
    generalize hsplit : (⟨products, before ++ w' :: after⟩ : Inventory) = inv' at h'
    cases h' with
    | @intro products' before' after' hn' hb' ha' =>
      rw [Inventory.mk.injEq] at hsplit
      obtain ⟨rfl, hsplit⟩ := hsplit
      -- no other warehouse has the number, so the list can be split at it in one way only
      have hne : ∀ {l : List Warehouse}, (∀ x ∈ l, x.number ≠ w'.number) → w' ∉ l := fun hl hmem => hl w' hmem rfl
      obtain ⟨rfl, -, rfl⟩ := (List.append_cons_inj_of_notMem (hne hb') (hne ha')).1 hsplit.symm
      exact .intro (hn'.trans hn) hb ha

theorem eq_of_same (h : Replaced w w inv inv') : inv' = inv := by
  cases h
  rfl

theorem symm (h : Replaced w w' inv inv') : Replaced w' w inv' inv := by
  cases h with
  | intro hn hb ha => exact .intro hn.symm (fun x hx => hn ▸ hb x hx) (fun x hx => hn ▸ ha x hx)

theorem unique {inv'' : Inventory} (h : Replaced w w' inv inv') (h' : Replaced w w' inv inv'') : inv'' = inv' :=
  (h.symm.trans h').eq_of_same

theorem wellFormed (h : Replaced w w' inv inv') (hi : inv.WellFormed) (hs : Stock.Sound w'.stock) :
    inv'.WellFormed := by
  refine ⟨h.skus_eq ▸ hi.skus_nodup, h.numbers_eq ▸ hi.numbers_nodup, ?_⟩
  intro x hx
  rcases h.mem hx with rfl | hx
  · exact hs
  · exact hi.stock_sound x hx

theorem held_eq (h : Replaced w w' inv inv') (number : Int) (sku : String) :
    inv'.held number sku = if number = w.number then Stock.held sku w'.stock else inv.held number sku := by
  rw [held, units?, h.warehouse?_eq, held, units?]
  split <;> rfl

/-- A new limit changes nothing that is held. -/
theorem held_relimit {limit : StockLimit} (h : Replaced w { w with limit } inv inv')
    (hw : inv.warehouse? number = some w) (k : Int) (x : String) : inv'.held k x = inv.held k x := by
  have hn : w.number = number := number_of_warehouse? hw
  rw [h.held_eq, hn]
  split
  · rename_i hk
    rw [hk, held_of_warehouse? hw]
  · rfl

/-- An edit in one warehouse changes the units of one product there. -/
theorem held_edit {stock : Stock} {m n : Nat} (h : Replaced w { w with stock } inv inv')
    (hw : inv.warehouse? number = some w) (he : Stock.Edit sku m n w.stock stock) (k : Int) (x : String) :
    inv'.held k x = if k = number ∧ x = sku then n else inv.held k x := by
  have hn : w.number = number := number_of_warehouse? hw
  rw [h.held_eq, hn]
  by_cases hk : k = number
  · subst hk
    by_cases hx : x = sku
    · subst hx
      simp [he.held_after]
    · simp [hx, he.held_other hx, held_of_warehouse? hw]
  · simp [hk]

end Replaced

/-! ### The operations on the stock of one warehouse -/

theorem WellFormed.stock_added (h : inv.WellFormed) (hw : inv.warehouse? number = some w) (sku : String)
    {units : Nat} (hu : units ≤ maxUnits) :
    Replaced w { w with stock := Stock.add sku units w.stock } inv (inv.updateWarehouse number (·.add sku units)) ∧
      Stock.Edit sku (Stock.held sku w.stock) (addUnits (Stock.held sku w.stock) units) w.stock
        (Stock.add sku units w.stock) :=
  ⟨replaced_updateWarehouse (f := (·.add sku units)) h.numbers_nodup hw rfl,
    Stock.add_edit (h.stock_sound w (mem_of_warehouse? hw)) sku units hu⟩

theorem WellFormed.stock_set (h : inv.WellFormed) (hw : inv.warehouse? number = some w) (sku : String)
    (units : Nat) :
    Replaced w { w with stock := Stock.set sku units w.stock } inv (inv.updateWarehouse number (·.set sku units)) ∧
      Stock.Edit sku (Stock.held sku w.stock) units w.stock (Stock.set sku units w.stock) :=
  ⟨replaced_updateWarehouse (f := (·.set sku units)) h.numbers_nodup hw rfl,
    Stock.set_edit (h.stock_sound w (mem_of_warehouse? hw)) sku units⟩

end Stockroom.Inventory
