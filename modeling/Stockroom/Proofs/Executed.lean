import Stockroom.Inventory.Call

/-!
# What executing a command does

`Executed inv c o inv'` lists the ways in which a command is carried out: for each, what was checked first, what comes
out and the inventory afterwards.  `executed_of_execute` says that there are no others, so that later files split on
these eleven cases instead of opening the commands.  A command that is not carried out is refused with a reason, and at
none of the places where this happens has anything been changed (`refused_of_execute`); in particular an unbounded
warehouse takes all units that can be counted.
-/

namespace Stockroom.Inventory

/-- The command is carried out with that outcome and leaves that inventory. -/
inductive Executed (inv : Inventory) : Command → Outcome → Inventory → Prop
  | addProduct {name sku : String} (hp : inv.product? sku = none) :
      Executed inv (.addProduct name sku) .done (inv.addProduct ⟨sku, name⟩)
  | addWarehouse {number : Int} {typed : Option Int} {limit : StockLimit} (hl : readLimit typed = .ok limit)
      (hw : inv.warehouse? number = none) :
      Executed inv (.addWarehouse number typed) .done (inv.addWarehouse ⟨number, limit, []⟩)
  | keepLimit {number : Int} {typed : Option Int} {w : Warehouse} (hl : readLimit typed = .ok w.limit)
      (hw : inv.warehouse? number = some w) : Executed inv (.addWarehouse number typed) .done inv
  | askLimit {number : Int} {typed : Option Int} {limit : StockLimit} {w : Warehouse}
      (hl : readLimit typed = .ok limit) (hw : inv.warehouse? number = some w) (hne : limit ≠ w.limit)
      (ha : limit.allows w.total = true) :
      Executed inv (.addWarehouse number typed) (.asked (.changeLimit number w.limit limit)) inv
  | stock {sku : String} {number quantity : Int} {p : Product} {w : Warehouse} (hq : 0 ≤ quantity)
      (hp : inv.product? sku = some p) (hw : inv.warehouse? number = some w)
      (hc : w.total + quantity.toNat ≤ maxUnits) (ha : w.limit.allows (w.total + quantity.toNat) = true) :
      Executed inv (.stock sku number quantity) .done (inv.updateWarehouse number (·.add sku quantity.toNat))
  | askFill {sku : String} {number quantity : Int} {p : Product} {w : Warehouse} {limit : Nat} (hq : 0 ≤ quantity)
      (hp : inv.product? sku = some p) (hw : inv.warehouse? number = some w) (hl : w.limit = .upTo limit)
      (hover : limit < w.total + quantity.toNat) (hroom : w.total < limit) :
      Executed inv (.stock sku number quantity)
        (.asked (.fillUp sku number w.total limit quantity.toNat (limit - w.total))) inv
  | unstock {sku : String} {number quantity : Int} {w : Warehouse} {held : Nat} (hq : 0 ≤ quantity)
      (hw : inv.warehouse? number = some w) (hs : w.units? sku = some held) (hle : quantity.toNat ≤ held) :
      Executed inv (.unstock sku number quantity) .done
        (inv.updateWarehouse number (·.set sku (held - quantity.toNat)))
  | askClear {sku : String} {number quantity : Int} {w : Warehouse} {held : Nat} (hq : 0 ≤ quantity)
      (hw : inv.warehouse? number = some w) (hs : w.units? sku = some held) (hlt : held < quantity.toNat) :
      Executed inv (.unstock sku number quantity) (.asked (.clearOut sku number held)) inv
  | listProducts : Executed inv .listProducts (.listing (.products inv.products)) inv
  | listWarehouses :
      Executed inv .listWarehouses (.listing (.warehouses (inv.warehouses.map fun w => (w.number, w.limit)))) inv
  | listWarehouse {number : Int} {w : Warehouse} (hw : inv.warehouse? number = some w) :
      Executed inv (.listWarehouse number) (.listing (.stock (inv.stockRows w))) inv

variable {inv inv' : Inventory} {o : Outcome}

/-! ### One command each -/

private theorem executed_addProduct {name sku : String} (h : inv.execute (.addProduct name sku) = (.ok o, inv')) :
    Executed inv (.addProduct name sku) o inv' := by
  rw [execute_addProduct] at h
  split at h
  · cases h
  · rename_i hp
    cases h
    exact .addProduct hp

private theorem executed_addWarehouse {number : Int} {typed : Option Int}
    (h : inv.execute (.addWarehouse number typed) = (.ok o, inv')) :
    Executed inv (.addWarehouse number typed) o inv' := by
  rw [execute_addWarehouse] at h
  split at h
  · cases h
  · rename_i limit hl
    split at h
    · rename_i hw
      cases h
      exact .addWarehouse hl hw
    · rename_i w hw
      split at h
      · rename_i heq
        cases h
        exact .keepLimit (heq ▸ hl) hw
      · rename_i hne
        split at h
        · rename_i ha
          cases h
          exact .askLimit hl hw (Ne.symm hne) ha
        · cases h

private theorem executed_stock {sku : String} {number quantity : Int}
    (h : inv.execute (.stock sku number quantity) = (.ok o, inv')) :
    Executed inv (.stock sku number quantity) o inv' := by
  rw [execute_stock] at h
  split at h
  · cases h
  · rename_i hq
    have hq : 0 ≤ quantity := Int.not_lt.1 hq
    split at h
    · rename_i p w hp hw
      have hn : w.number = number := by simpa using List.find?_some hw
      rw [stockInto_on] at h
      split at h
      · cases h
      · rename_i hc
        split at h
        · rename_i ha
          cases h
          rw [hn]
          exact .stock hq hp hw (Nat.not_lt.1 hc) ha
        · rename_i ha
          split at h
          · cases h
          · rename_i limit hl
            split at h
            · cases h
            · rename_i hroom
              cases h
              rw [hn]
              have hover : limit < w.total + quantity.toNat := by simpa [hl, StockLimit.allows] using ha
              exact .askFill hq hp hw hl hover (by omega)
    · cases h
    · cases h
    · cases h

private theorem executed_unstock {sku : String} {number quantity : Int}
    (h : inv.execute (.unstock sku number quantity) = (.ok o, inv')) :
    Executed inv (.unstock sku number quantity) o inv' := by
  rw [execute_unstock] at h
  split at h
  · cases h
  · rename_i hq
    have hq : 0 ≤ quantity := Int.not_lt.1 hq
    split at h
    · cases h
    · rename_i w hw
      split at h
      · cases h
      · rename_i held hs
        split at h
        · rename_i hle
          cases h
          exact .unstock hq hw hs hle
        · rename_i hlt
          cases h
          exact .askClear hq hw hs (Nat.not_le.1 hlt)

private theorem executed_listWarehouse {number : Int} (h : inv.execute (.listWarehouse number) = (.ok o, inv')) :
    Executed inv (.listWarehouse number) o inv' := by
  rw [execute_listWarehouse] at h
  split at h
  · cases h
  · rename_i w hw
    cases h
    exact .listWarehouse hw

/-- A command is carried out in no other way. -/
theorem executed_of_execute {c : Command} (h : inv.execute c = (.ok o, inv')) : Executed inv c o inv' := by
  cases c with
  | addProduct name sku => exact executed_addProduct h
  | addWarehouse number typed => exact executed_addWarehouse h
  | stock sku number quantity => exact executed_stock h
  | unstock sku number quantity => exact executed_unstock h
  | listProducts =>
    cases h
    exact .listProducts
  | listWarehouses =>
    cases h
    exact .listWarehouses
  | listWarehouse number => exact executed_listWarehouse h

/-- Only a command that is done can leave another inventory; a listing and a question come with the same one. -/
theorem Executed.inventory_eq {c : Command} (h : Executed inv c o inv') (ho : o ≠ .done) : inv' = inv := by
  cases h <;> first | rfl | exact absurd rfl ho

/-! ### Limits and refusals -/

/-- A limit that was typed is positive, and it is the number typed. -/
theorem readLimit_upTo {typed : Option Int} {n : Nat} (h : readLimit typed = .ok (.upTo n)) :
    0 < n ∧ typed = some (n : Int) := by
  unfold readLimit at h
  split at h
  · cases h
  · rename_i m
    split at h
    · cases h
    · split at h
      · cases h
      · cases h
        refine ⟨by omega, ?_⟩
        congr 1
        omega

/-- The command is refused for a reason, and nothing has been changed. -/
def Refused (inv : Inventory) (fault : Fault) (inv' : Inventory) : Prop :=
  inv' = inv ∧ ∃ r : Refusal, r ≠ .absent [] ∧ fault = r.fault

variable {fault : Fault}

private theorem refused_of_eq {r : Refusal} (hr : r ≠ .absent [])
    (h : ((.error r.fault, inv) : Except Fault Outcome × Inventory) = (.error fault, inv')) :
    Refused inv fault inv' := by
  cases h
  exact ⟨rfl, r, hr, rfl⟩

private theorem refusal_of_readLimit {typed : Option Int} (h : readLimit typed = .error fault) :
    ∃ r : Refusal, r ≠ .absent [] ∧ fault = r.fault := by
  unfold readLimit at h
  split at h
  · cases h
  · split at h
    · cases h
    · split at h
      · exact ⟨_, by simp, (Except.error.inj h).symm⟩
      · cases h

private theorem refused_of_stockInto {w : Warehouse} {sku : String} {units : Nat}
    (h : (stockInto w sku units).on inv = (.error fault, inv')) : Refused inv fault inv' := by
  rw [stockInto_on] at h
  split at h
  · exact refused_of_eq (by simp) h
  · split at h
    · cases h
    · rename_i ha
      split at h
      · rename_i hl
        -- without a limit every total is allowed
        exact absurd rfl (hl ▸ ha)
      · split at h
        · exact refused_of_eq (by simp) h
        · cases h

/-- A command that is not carried out is refused; if things are absent, the refusal names them.  No refusal comes after
a change. -/
theorem refused_of_execute {c : Command} (h : inv.execute c = (.error fault, inv')) : Refused inv fault inv' := by
  cases c with
  | addProduct name sku =>
    rw [execute_addProduct] at h
    split at h
    · exact refused_of_eq (by simp) h
    · cases h
  | addWarehouse number typed =>
    rw [execute_addWarehouse] at h
    split at h
    · rename_i hl
      cases h
      exact ⟨rfl, refusal_of_readLimit hl⟩
    · split at h
      · cases h
      · split at h
        · cases h
        · split at h
          · cases h
          · exact refused_of_eq (by simp) h
  | stock sku number quantity =>
    rw [execute_stock] at h
    split at h
    · exact refused_of_eq (by simp) h
    · split at h
      · exact refused_of_stockInto h
      · exact refused_of_eq (by simp) h
      · exact refused_of_eq (by simp) h
      · exact refused_of_eq (by simp) h
  | unstock sku number quantity =>
    rw [execute_unstock] at h
    split at h
    · exact refused_of_eq (by simp) h
    · split at h
      · exact refused_of_eq (by simp) h
      · split at h
        · exact refused_of_eq (by simp) h
        · split at h <;> cases h
  | listProducts | listWarehouses => cases h
  | listWarehouse number =>
    rw [execute_listWarehouse] at h
    split at h
    · exact refused_of_eq (by simp) h
    · cases h

theorem inventory_eq_of_error {c : Command} (h : inv.execute c = (.error fault, inv')) : inv' = inv :=
  (refused_of_execute h).1

/-- What holds of the inventory and of all that a command can leave holds after the call. -/
theorem call_execute_of {P : Inventory → Prop} {c : Command} (h : P inv)
    (hdone : ∀ o next, inv.execute c = (.ok o, next) → P next) : P (inv.call (.execute c)).2 := by
  rcases he : inv.execute c with ⟨fault | o, next⟩
  · rw [call_execute_error he, inventory_eq_of_error he]
    exact h
  · rw [call_execute_ok he]
    exact hdone o next he

end Stockroom.Inventory
