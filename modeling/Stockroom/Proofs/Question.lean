import Stockroom.Inventory.Question
import Stockroom.Proofs.Consistent

/-!
# Questions and the inventory they are about

A question carries figures read from the inventory when it was asked, and the change it proposes is made later without
a second look.  `Current` says that the figures are those of the inventory at hand, and `Fulfilled` what the proposed
change is: for a current question it is made exactly (`fulfilled_apply`).  The figures may be out of date and the change
still do no harm: `Admissible` says what of the inventory matters for that (`Admissible.consistent`).
-/

namespace Stockroom

/-- The figures of the question are those of the inventory. -/
def Question.Current (inv : Inventory) : Question → Prop
  | changeLimit number old new =>
    ∃ w, inv.warehouse? number = some w ∧ w.limit = old ∧ new ≠ old ∧ new.Legal ∧
      new.allows (Stock.exactTotal w.stock) = true
  | fillUp sku number held limit requested room =>
    sku ∈ inv.skus ∧ ∃ w, inv.warehouse? number = some w ∧ w.limit = .upTo limit ∧
      Stock.exactTotal w.stock = held ∧ room = limit - held ∧ 0 < room ∧ room < requested
  | clearOut sku number held =>
    ∃ w, inv.warehouse? number = some w ∧ w.units? sku = some held ∧ 0 < held

/-- The proposed change fits the inventory, whatever the figures of the question are. -/
def Question.Admissible (inv : Inventory) : Question → Prop
  | changeLimit number _ new =>
    new.Legal ∧ ∃ w, inv.warehouse? number = some w ∧ new.allows (Stock.exactTotal w.stock) = true
  | fillUp sku number _ _ _ room =>
    sku ∈ inv.skus ∧ ∃ w, inv.warehouse? number = some w ∧ Stock.exactTotal w.stock + room ≤ w.limit.capacity
  | clearOut sku number _ => sku ∈ inv.skus ∧ ∃ w, inv.warehouse? number = some w

/-- The second inventory is the first with the proposed change and nothing else. -/
def Question.Fulfilled (inv inv' : Inventory) : Question → Prop
  | changeLimit number _ new =>
    ∃ w, inv.warehouse? number = some w ∧ Inventory.Replaced w { w with limit := new } inv inv'
  | fillUp sku number _ limit _ room =>
    ∃ w stock, inv.warehouse? number = some w ∧ Inventory.Replaced w { w with stock } inv inv' ∧
      Stock.Edit sku (Stock.held sku w.stock) (Stock.held sku w.stock + room) w.stock stock ∧
      Stock.exactTotal stock = limit
  | clearOut sku number held =>
    ∃ w stock, inv.warehouse? number = some w ∧ Inventory.Replaced w { w with stock } inv inv' ∧
      Stock.Edit sku held 0 w.stock stock

/-- What a question proposes to make of its warehouse. -/
def Question.change : Question → Warehouse → Warehouse
  | changeLimit _ _ new, w => { w with limit := new }
  | fillUp sku _ _ _ _ room, w => w.add sku room
  | clearOut sku _ _, w => w.set sku 0

theorem Inventory.apply_eq_updateWarehouse (inv : Inventory) (q : Question) :
    inv.apply q = inv.updateWarehouse q.warehouse q.change := by
  cases q <;> rfl

namespace Question

variable {inv inv' : Inventory} {q : Question}

theorem number_change (q : Question) (w : Warehouse) : (q.change w).number = w.number := by
  cases q <;> rfl

/-- Whatever the amount, no product gets two entries and no entry is left empty. -/
theorem sound_change (q : Question) {w : Warehouse} (hs : Stock.Sound w.stock) : Stock.Sound (q.change w).stock := by
  cases q with
  | changeLimit => exact hs
  | fillUp sku _ _ _ _ room => exact hs.add sku room
  | clearOut sku => exact hs.set sku 0

/-! ### A change that is made as it was proposed -/

/-- On yes, a current question changes what it proposes to change and nothing else. -/
theorem fulfilled_apply (h : inv.Consistent) (hq : q.Current inv) : q.Fulfilled inv (inv.apply q) := by
  cases q with
  | changeLimit number old new =>
    obtain ⟨w, hw, -, -, -, -⟩ := hq
    exact ⟨w, hw, Inventory.replaced_updateWarehouse (f := fun x => { x with limit := new }) h.numbers_nodup hw rfl⟩
  | fillUp sku number held limit requested room =>
    obtain ⟨-, w, hw, hl, hheld, hroom, hpos, -⟩ := hq
    have hmem : w ∈ inv.warehouses := Inventory.mem_of_warehouse? hw
    have hcap := (h.limit_legal w hmem).capacity_le
    rw [hl, StockLimit.capacity] at hcap
    have htotal := h.total_eq hmem
    obtain ⟨hr, he⟩ := h.stock_added_exactly hw sku (show w.total + room ≤ maxUnits by omega)
    refine ⟨w, _, hw, hr, he, ?_⟩
    have hsum := he.exactTotal_eq
    omega
  | clearOut sku number held =>
    obtain ⟨w, hw, hu, -⟩ := hq
    obtain ⟨hr, he⟩ := h.stock_set hw sku 0
    rw [Stock.held_of_units? hu] at he
    exact ⟨w, _, hw, hr, he⟩

/-- What a current question proposes is a change. -/
theorem Fulfilled.ne (hf : q.Fulfilled inv inv') (hq : q.Current inv) : inv' ≠ inv := by
  cases q with
  | changeLimit number old new =>
    obtain ⟨w, hw, hr⟩ := hf
    obtain ⟨w', hw', hold, hne, -, -⟩ := hq
    obtain rfl : w = w' := Option.some.inj (hw.symm.trans hw')
    refine hr.ne fun heq => hne ?_
    rw [← hold, ← heq]
  | fillUp sku number held limit requested room =>
    obtain ⟨w, stock, -, hr, he, -⟩ := hf
    obtain ⟨-, -, -, -, -, -, hpos, -⟩ := hq
    have hstock : stock ≠ w.stock := he.ne (by omega)
    exact hr.ne fun heq => hstock (congrArg Warehouse.stock heq)
  | clearOut sku number held =>
    obtain ⟨w, stock, -, hr, he⟩ := hf
    obtain ⟨-, -, -, hpos⟩ := hq
    have hstock : stock ≠ w.stock := he.ne (by omega)
    exact hr.ne fun heq => hstock (congrArg Warehouse.stock heq)

/-! ### A change that does no harm -/

theorem Current.admissible (hq : q.Current inv) (h : inv.Consistent) : q.Admissible inv := by
  cases q with
  | changeLimit number old new =>
    obtain ⟨w, hw, -, -, hlegal, ha⟩ := hq
    exact ⟨hlegal, w, hw, ha⟩
  | fillUp sku number held limit requested room =>
    obtain ⟨hsku, w, hw, hl, hheld, hroom, hpos, -⟩ := hq
    refine ⟨hsku, w, hw, ?_⟩
    rw [hl, StockLimit.capacity]
    omega
  | clearOut sku number held =>
    obtain ⟨w, hw, hu, -⟩ := hq
    exact ⟨h.mem_skus_of_units? (Inventory.mem_of_warehouse? hw) hu, w, hw⟩

theorem Admissible.consistent (hq : q.Admissible inv) (h : inv.Consistent) : (inv.apply q).Consistent := by
  cases q with
  | changeLimit number old new =>
    obtain ⟨hlegal, w, hw, ha⟩ := hq
    have hr := Inventory.replaced_updateWarehouse (f := fun x => { x with limit := new }) h.numbers_nodup hw rfl
    exact h.relimit hr hlegal ha
  | fillUp sku number held limit requested room =>
    obtain ⟨hsku, w, hw, hfit⟩ := hq
    have hmem : w ∈ inv.warehouses := Inventory.mem_of_warehouse? hw
    have hcap := (h.limit_legal w hmem).capacity_le
    have htotal := h.total_eq hmem
    obtain ⟨hr, he⟩ := h.stock_added_exactly hw sku (show w.total + room ≤ maxUnits by omega)
    refine h.restock hr he hsku ?_
    have hsum := he.exactTotal_eq
    omega
  | clearOut sku number held =>
    obtain ⟨hsku, w, hw⟩ := hq
    obtain ⟨hr, he⟩ := h.stock_set hw sku 0
    refine h.restock hr he hsku ?_
    have hsum := he.exactTotal_eq
    have hfit := h.fits w hr.mem_before
    omega

end Question

end Stockroom
