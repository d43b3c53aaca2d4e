import Stockroom.Proofs.Invariant

/-!
# What a line leaves alone

A line adds at most one product or one warehouse, each at the end, or it changes one warehouse in its place: its limit,
or the units of one product there (`Fed.step`).  Nothing else of the inventory is touched (`Step.framed`), whatever the
line is and whether it is a command or an answer.
-/

namespace Stockroom

namespace Inventory

/-- At most one warehouse of a list has changed, in its place: it got another limit, or one product got other units. -/
inductive Amended : List Warehouse → List Warehouse → Prop
  | same {warehouses : List Warehouse} : Amended warehouses warehouses
  | limit {before after : List Warehouse} {w : Warehouse} (limit : StockLimit) :
      Amended (before ++ w :: after) (before ++ { w with limit } :: after)
  | stock {before after : List Warehouse} {w : Warehouse} {sku : String} {m n : Nat} {stock : Stock}
      (he : Stock.Edit sku m n w.stock stock) : Amended (before ++ w :: after) (before ++ { w with stock } :: after)

/-- One product more, or one warehouse more, or at most one warehouse changed. -/
inductive Step (inv : Inventory) : Inventory → Prop
  | product (p : Product) : Step inv (inv.addProduct p)
  | warehouse (w : Warehouse) : Step inv (inv.addWarehouse w)
  | amended {warehouses : List Warehouse} (h : Amended inv.warehouses warehouses) :
      Step inv ⟨inv.products, warehouses⟩

/-- What is there before is there after, in the same order; at most one product or one warehouse has been added, and at
most one warehouse has changed. -/
structure Framed (inv inv' : Inventory) : Prop where
  products_kept : inv.products <+: inv'.products
  products_le : inv'.products.length ≤ inv.products.length + 1
  numbers_kept : inv.numbers <+: inv'.numbers
  numbers_le : inv'.numbers.length ≤ inv.numbers.length + 1
  /-- Not both lists have grown. -/
  one_grows : inv'.products = inv.products ∨ inv'.numbers = inv.numbers
  amended : Amended inv.warehouses (inv'.warehouses.take inv.warehouses.length)

variable {inv inv' : Inventory}

private theorem Amended.length_eq {ws ws' : List Warehouse} (h : Amended ws ws') : ws'.length = ws.length := by
  cases h with
  | same => rfl
  | limit | stock => simp

theorem Amended.numbers_eq {ws ws' : List Warehouse} (h : Amended ws ws') :
    ws'.map (·.number) = ws.map (·.number) := by
  cases h with
  | same => rfl
  | limit | stock => simp

theorem Step.framed (h : Step inv inv') : Framed inv inv' := by
  cases h with
  | product p =>
    refine ⟨List.prefix_append _ _, ?_, List.prefix_rfl, Nat.le_succ _, .inr rfl, ?_⟩
    · simp [addProduct]
    · rw [addProduct, List.take_length]
      exact .same
  | warehouse w =>
    refine ⟨List.prefix_rfl, Nat.le_succ _, ?_, ?_, .inl rfl, ?_⟩
    · rw [numbers_addWarehouse]
      exact List.prefix_append _ _
    · simp [numbers_addWarehouse]
    · rw [addWarehouse, List.take_left]
      exact .same
  | @amended warehouses h =>
    have hnumbers : numbers ⟨inv.products, warehouses⟩ = inv.numbers := h.numbers_eq
    refine ⟨List.prefix_rfl, Nat.le_succ _, ?_, ?_, .inl rfl, ?_⟩
    · exact hnumbers ▸ List.prefix_rfl
    · exact hnumbers ▸ Nat.le_succ _
    · rw [← h.length_eq, List.take_length]
      exact h

/-! ### Commands and answers -/

private theorem Replaced.relimited {w : Warehouse} {limit : StockLimit} (h : Replaced w { w with limit } inv inv') :
    Step inv inv' := by
  cases h
  exact .amended (.limit limit)

theorem Restocked.step {number : Int} {sku : String} {m n : Nat} (h : Restocked number sku m n inv inv') :
    Step inv inv' := by
  obtain ⟨w, stock, -, hr, he⟩ := h
  cases hr
  exact .amended (.stock he)

theorem Step.same : Step inv inv :=
  .amended .same

theorem Executed.step {c : Command} {o : Outcome} (h : Executed inv c o inv') (hi : inv.Consistent) :
    Step inv inv' := by
  cases h with
  | addProduct => exact .product _
  | addWarehouse => exact .warehouse _
  | stock hq hp hw hcount ha => exact ((Executed.stock hq hp hw hcount ha).stocked hi).2.step
  | unstock hq hw hs hle =>
    obtain ⟨-, -, -, hr⟩ := (Executed.unstock hq hw hs hle).unstocked hi.toWellFormed
    exact hr.step
  | keepLimit | askLimit | askFill | askClear | listProducts | listWarehouses | listWarehouse => exact .same

end Inventory

theorem Question.Fulfilled.step {inv inv' : Inventory} {q : Question} (hf : q.Fulfilled inv inv') :
    inv.Step inv' := by
  cases q with
  | changeLimit number old new =>
    obtain ⟨w, -, hr⟩ := hf
    exact hr.relimited
  | fillUp sku number held limit requested room =>
    obtain ⟨w, stock, hw, hr, he, -⟩ := hf
    exact Inventory.Restocked.step ⟨w, stock, hw, hr, he⟩
  | clearOut sku number held => exact Inventory.Restocked.step hf

theorem Session.Fed.step {s t : Session} {line : String} {shown : Option Output} (h : Fed s line shown t)
    (hs : s.Sound) : s.inventory.Step t.inventory := by
  cases h with
  | confirmed hq ha => exact (Question.fulfilled_apply hs.consistent (hs.current _ hq)).step
  | declined | unrecognized | blank | unread => exact .same
  | refused hq hc he => exact Inventory.inventory_eq_of_error he ▸ .same
  | executed hq hc he => exact (Inventory.executed_of_execute he).step hs.consistent

end Stockroom
