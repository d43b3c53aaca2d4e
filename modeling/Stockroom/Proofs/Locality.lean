import Stockroom.Inventory.Call
import Stockroom.Proofs.Question

/-!
# Calls on different warehouses

A call that names a warehouse looks at the catalog and at that warehouse, and it changes at most that warehouse: in all
inventories that agree on these two it gets the same reply and makes the same change (`Local`, `exists_local`).  So two
calls on different warehouses do not meet.  Each gets the same reply in either order, a question with all its figures
included, and the inventory after both is the same (`call_comm`).
-/

namespace Stockroom.Inventory

/-- The second inventory has the catalog of the first, and the same warehouse under that number. -/
structure Agree (number : Int) (inv inv' : Inventory) : Prop where
  products_eq : inv'.products = inv.products
  warehouse?_eq : inv'.warehouse? number = inv.warehouse? number

/-- In all inventories that agree with this one the call gets that reply and makes that change. -/
structure Local (inv : Inventory) (number : Int) (c : Call) (reply : Reply) (f : Warehouse → Warehouse) : Prop where
  number_eq : ∀ w, (f w).number = w.number
  call_eq : ∀ inv', Agree number inv inv' → inv'.call c = (reply, inv'.updateWarehouse number f)

variable {inv : Inventory} {w : Warehouse} {number : Int} {c : Command}

namespace Agree

variable {inv' : Inventory}

theorem refl (number : Int) (inv : Inventory) : Agree number inv inv :=
  ⟨rfl, rfl⟩

private theorem product?_eq (h : Agree number inv inv') (sku : String) : inv'.product? sku = inv.product? sku := by
  rw [product?, h.products_eq, product?]

theorem warehouse? (h : Agree number inv inv') (hw : inv.warehouse? number = some w) :
    inv'.warehouse? number = some w :=
  h.warehouse?_eq.trans hw

/-- A change of another warehouse is not noticed. -/
theorem updateWarehouse {other : Int} (hf : ∀ x, (f x).number = x.number) (hne : number ≠ other) :
    Agree number inv (inv.updateWarehouse other f) :=
  ⟨rfl, warehouse?_updateWarehouse_of_ne hf hne⟩

end Agree

/-! ### The three ways in which a command ends -/

private theorem local_of_refused (fault : Fault)
    (h : ∀ inv', Agree number inv inv' → inv'.execute c = (.error fault, inv')) :
    ∃ reply f, Local inv number (.execute c) reply f := by
  refine ⟨.refused fault, id, fun _ => rfl, ?_⟩
  intro inv' ha
  rw [call_execute_error (h inv' ha), updateWarehouse_id]

private theorem local_of_same (o : Outcome)
    (h : ∀ inv', Agree number inv inv' → inv'.execute c = (.ok o, inv')) :
    ∃ reply f, Local inv number (.execute c) reply f := by
  refine ⟨.outcome o, id, fun _ => rfl, ?_⟩
  intro inv' ha
  rw [call_execute_ok (h inv' ha), updateWarehouse_id]

private theorem local_of_done {f : Warehouse → Warehouse} (hf : ∀ x, (f x).number = x.number)
    (h : ∀ inv', Agree number inv inv' → inv'.execute c = (.ok .done, inv'.updateWarehouse number f)) :
    ∃ reply f, Local inv number (.execute c) reply f :=
  ⟨.outcome .done, f, hf, fun inv' ha => call_execute_ok (h inv' ha)⟩

/-! ### One command each -/

private theorem local_addWarehouse (hw : inv.warehouse? number = some w) (typed : Option Int) :
    ∃ reply f, Local inv number (.execute (.addWarehouse number typed)) reply f := by
  cases hl : readLimit typed with
  | error fault =>
    refine local_of_refused fault fun inv' _ => ?_
    simp only [execute_addWarehouse, hl]
  | ok limit =>
    have hthere : ∀ inv', Agree number inv inv' → inv'.warehouse? number = some w := fun _ ha => ha.warehouse? hw
    by_cases heq : w.limit = limit
    · refine local_of_same .done fun inv' ha => ?_
      simp only [execute_addWarehouse, hl, hthere inv' ha, if_pos heq]
    · by_cases hallows : limit.allows w.total = true
      · refine local_of_same (.asked (.changeLimit number w.limit limit)) fun inv' ha => ?_
        simp only [execute_addWarehouse, hl, hthere inv' ha, if_neg heq, if_pos hallows]
      · refine local_of_refused (Refusal.limitTooLow number w.total limit).fault fun inv' ha => ?_
        simp only [execute_addWarehouse, hl, hthere inv' ha, if_neg heq, if_neg hallows]

/-- Where the units go in, the warehouse alone decides. -/
private theorem local_stockInto {sku : String} {units : Nat} (hn : w.number = number)
    (h : ∀ inv', Agree number inv inv' → inv'.execute c = (stockInto w sku units).on inv') :
    ∃ reply f, Local inv number (.execute c) reply f := by
  by_cases hcount : maxUnits < w.total + units
  · refine local_of_refused (Refusal.tooMany w.number units w.total).fault fun inv' ha => ?_
    simp only [h inv' ha, stockInto_on, if_pos hcount]
  · by_cases hallows : w.limit.allows (w.total + units) = true
    · have hf : ∀ x : Warehouse, (x.add sku units).number = x.number := fun _ => rfl
      refine local_of_done hf fun inv' ha => ?_
      simp only [h inv' ha, stockInto_on, if_neg hcount, if_pos hallows, hn]
    · cases hl : w.limit with
      | unbounded => exact absurd rfl (hl ▸ hallows)
      | upTo limit =>
        rw [hl] at hallows
        by_cases hroom : limit - w.total = 0
        · refine local_of_refused (Refusal.full w.number limit).fault fun inv' ha => ?_
          simp only [h inv' ha, stockInto_on, if_neg hcount, hl, if_neg hallows, if_pos hroom]
        · refine local_of_same (.asked (.fillUp sku w.number w.total limit units (limit - w.total))) fun inv' ha => ?_
          simp only [h inv' ha, stockInto_on, if_neg hcount, hl, if_neg hallows, if_neg hroom]

private theorem local_stock (hw : inv.warehouse? number = some w) (sku : String) (quantity : Int) :
    ∃ reply f, Local inv number (.execute (.stock sku number quantity)) reply f := by
  by_cases hq : quantity < 0
  · refine local_of_refused (Refusal.negativeStock quantity).fault fun inv' _ => ?_
    simp only [execute_stock, if_pos hq]
  · cases hp : inv.product? sku with
    | none =>
      refine local_of_refused (Refusal.absent [.product sku]).fault fun inv' ha => ?_
      simp only [execute_stock, if_neg hq, ha.product?_eq, hp, ha.warehouse? hw]
    | some p =>
      have hinto : ∀ inv', Agree number inv inv' →
          inv'.execute (.stock sku number quantity) = (stockInto w sku quantity.toNat).on inv' := by
        intro inv' ha
        simp only [execute_stock, if_neg hq, ha.product?_eq, hp, ha.warehouse? hw]
      exact local_stockInto (number_of_warehouse? hw) hinto

private theorem local_unstock (hw : inv.warehouse? number = some w) (sku : String) (quantity : Int) :
    ∃ reply f, Local inv number (.execute (.unstock sku number quantity)) reply f := by
  by_cases hq : quantity < 0
  · refine local_of_refused (Refusal.negativeUnstock quantity).fault fun inv' _ => ?_
    simp only [execute_unstock, if_pos hq]
  · cases hs : w.units? sku with
    | none =>
      refine local_of_refused (Refusal.notInStock sku number).fault fun inv' ha => ?_
      simp only [execute_unstock, if_neg hq, ha.warehouse? hw, hs]
    | some held =>
      by_cases hle : quantity.toNat ≤ held
      · have hf : ∀ x : Warehouse, (x.set sku (held - quantity.toNat)).number = x.number := fun _ => rfl
        refine local_of_done hf fun inv' ha => ?_
        simp only [execute_unstock, if_neg hq, ha.warehouse? hw, hs, if_pos hle]
      · refine local_of_same (.asked (.clearOut sku number held)) fun inv' ha => ?_
        simp only [execute_unstock, if_neg hq, ha.warehouse? hw, hs, if_neg hle]

private theorem local_listWarehouse (hw : inv.warehouse? number = some w) :
    ∃ reply f, Local inv number (.execute (.listWarehouse number)) reply f := by
  refine local_of_same (.listing (.stock (inv.stockRows w))) fun inv' ha => ?_
  -- the names in the rows come from the catalog
  have hrows : inv'.stockRows w = inv.stockRows w := by simp only [stockRows, ha.product?_eq]
  simp only [execute_listWarehouse, ha.warehouse? hw, hrows]

/-! ### Calls -/

/-- A question is resolved in the same way everywhere. -/
private theorem local_resolve (inv : Inventory) (q : Question) (a : Answer) :
    ∃ reply f, Local inv q.warehouse (.resolve q a) reply f := by
  cases a with
  | yes =>
    refine ⟨.resolved .applied, q.change, q.number_change, fun inv' _ => ?_⟩
    rw [call, resolve, apply_eq_updateWarehouse]
  | no =>
    refine ⟨.resolved (.declined q.declined), id, fun _ => rfl, fun inv' _ => ?_⟩
    rw [call, resolve, updateWarehouse_id]
  | unrecognized =>
    refine ⟨.resolved (.declined ("Please enter y or n.  " ++ q.declined)), id, fun _ => rfl, fun inv' _ => ?_⟩
    rw [call, resolve, updateWarehouse_id]

/-- What a call does is settled by the catalog and by the warehouse that it names. -/
theorem exists_local {c : Call} (hc : c.warehouse? = some number) (hk : number ∈ inv.numbers) :
    ∃ reply f, Local inv number c reply f := by
  have hthere : inv.warehouse? number ≠ none := fun hnone => warehouse?_eq_none_iff.1 hnone hk
  obtain ⟨w, hw⟩ := Option.ne_none_iff_exists'.1 hthere
  cases c with
  | resolve q a =>
    obtain rfl := Option.some.inj hc
    exact local_resolve inv q a
  | execute c =>
    cases c with
    | addWarehouse _ typed =>
      obtain rfl := Option.some.inj hc
      exact local_addWarehouse hw typed
    | stock sku _ quantity =>
      obtain rfl := Option.some.inj hc
      exact local_stock hw sku quantity
    | unstock sku _ quantity =>
      obtain rfl := Option.some.inj hc
      exact local_unstock hw sku quantity
    | listWarehouse =>
      obtain rfl := Option.some.inj hc
      exact local_listWarehouse hw
    | addProduct | listProducts | listWarehouses => cases hc

/-- Calls on two warehouses that are there can be made in either order: each gets the same reply, and the inventory
after both is the same. -/
theorem call_comm {c d : Call} {other : Int} (hc : c.warehouse? = some number) (hd : d.warehouse? = some other)
    (hne : number ≠ other) (hk : number ∈ inv.numbers) (hl : other ∈ inv.numbers) :
    ((inv.call d).2.call c).1 = (inv.call c).1 ∧ ((inv.call c).2.call d).1 = (inv.call d).1 ∧
      ((inv.call c).2.call d).2 = ((inv.call d).2.call c).2 := by
  obtain ⟨replyC, f, hf, hcallC⟩ := exists_local hc hk
  obtain ⟨replyD, g, hg, hcallD⟩ := exists_local hd hl
  rw [hcallC inv (.refl number inv), hcallD inv (.refl other inv)]
  rw [hcallC _ (.updateWarehouse hg hne), hcallD _ (.updateWarehouse hf (Ne.symm hne))]
  exact ⟨rfl, rfl, updateWarehouse_comm hf hg (Ne.symm hne)⟩

/-- Nine units are asked for where six still fit, and a made-up question lowers the limit of the other warehouse. -/
theorem call_comm_askAndLimit :
    let inv : Inventory := ⟨[⟨"W1", "Widget"⟩], [⟨1, .upTo 10, [⟨"W1", 4⟩]⟩, ⟨2, .unbounded, [⟨"W1", 7⟩]⟩]⟩
    let ask : Call := .execute (.stock "W1" 1 9)
    let limit : Call := .resolve (.changeLimit 2 .unbounded (.upTo 3)) .yes
    ask.warehouse? = some 1 ∧ limit.warehouse? = some 2 ∧ (1 : Int) ≠ 2 ∧ 1 ∈ inv.numbers ∧ 2 ∈ inv.numbers ∧
      (inv.call ask).1 = .outcome (.asked (.fillUp "W1" 1 4 10 9 6)) ∧
      ((inv.call limit).2.call ask).1 = (inv.call ask).1 ∧ ((inv.call ask).2.call limit).1 = (inv.call limit).1 ∧
      ((inv.call ask).2.call limit).2 = ((inv.call limit).2.call ask).2 := by
  intro inv ask limit
  have hask : ask.warehouse? = some 1 := rfl
  have hlimit : limit.warehouse? = some 2 := rfl
  have hne : (1 : Int) ≠ 2 := by decide
  have hone : 1 ∈ inv.numbers := by decide
  have htwo : 2 ∈ inv.numbers := by decide
  have hasked : (inv.call ask).1 = .outcome (.asked (.fillUp "W1" 1 4 10 9 6)) := by decide
  exact ⟨hask, hlimit, hne, hone, htwo, hasked, call_comm hask hlimit hne hone htwo⟩

end Stockroom.Inventory
