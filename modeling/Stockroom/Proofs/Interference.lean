import Stockroom.Inventory.Call
import Stockroom.Proofs.Invariant

/-!
# Answers that come late

Between a question and its answer other commands may be executed and other questions be declined.  A yes still does no
harm afterwards, as long as no units came into the warehouse of the question (`run_answered_late`).  `Drained` is what
such calls can do: the catalog grows, and the warehouse keeps its limit and holds no more than before
(`Call.Spares.drained`).  A question that is admissible stays so under it (`Question.Admissible.mono`), although its
figures may be out of date.
-/

namespace Stockroom

open Inventory

/-- Only what could be typed is executed. -/
def Call.Typable : Call → Prop
  | execute command => command.Typable
  | resolve .. => True

/-- The call neither brings units into the warehouse nor makes a change that was asked about. -/
def Call.Spares (number : Int) (inv : Inventory) : Call → Prop
  | execute (.stock sku warehouse quantity) =>
    ¬ (warehouse = number ∧ (inv.call (.execute (.stock sku warehouse quantity))).1 = .outcome .done)
  | execute _ => True
  | resolve _ answer => answer ≠ .yes

instance (number : Int) (inv : Inventory) : DecidablePred (Call.Spares number inv)
  | .execute (.stock ..) => inferInstanceAs (Decidable (¬ (_ ∧ _)))
  | .execute (.addProduct ..) | .execute (.addWarehouse ..) | .execute (.unstock ..) | .execute .listProducts
  | .execute .listWarehouses | .execute (.listWarehouse ..) => inferInstanceAs (Decidable True)
  | .resolve _ answer => inferInstanceAs (Decidable (answer ≠ .yes))

namespace Inventory

/-- Each call spares the warehouse, as the inventory is when the call is made. -/
def Spared (number : Int) (inv : Inventory) : List Call → Prop
  | [] => True
  | c :: l => c.Spares number inv ∧ Spared number (inv.call c).2 l

instance decidableSpared (number : Int) : ∀ inv, DecidablePred (Spared number inv)
  | _, [] => inferInstanceAs (Decidable True)
  | inv, c :: l =>
    have := decidableSpared number (inv.call c).2 l
    inferInstanceAs (Decidable (c.Spares number inv ∧ Spared number (inv.call c).2 l))

/-- No product has gone, and the warehouse is there with its limit and holds no more than before. -/
structure Drained (number : Int) (inv inv' : Inventory) : Prop where
  skus_kept : inv.skus ⊆ inv'.skus
  warehouse_kept : ∀ w, inv.warehouse? number = some w →
    ∃ w', inv'.warehouse? number = some w' ∧ w'.limit = w.limit ∧ Stock.exactTotal w'.stock ≤ Stock.exactTotal w.stock

variable {inv inv' inv'' : Inventory} {number : Int}

/-! ### What calls that spare a warehouse can do to it -/

namespace Drained

theorem refl (number : Int) (inv : Inventory) : Drained number inv inv :=
  ⟨List.Subset.refl _, fun w hw => ⟨w, hw, rfl, Nat.le_refl _⟩⟩

theorem trans (h : Drained number inv inv') (h' : Drained number inv' inv'') : Drained number inv inv'' := by
  refine ⟨List.Subset.trans h.skus_kept h'.skus_kept, ?_⟩
  intro w hw
  obtain ⟨w', hw', hlimit, hle⟩ := h.warehouse_kept w hw
  obtain ⟨w'', hw'', hlimit', hle'⟩ := h'.warehouse_kept w' hw'
  exact ⟨w'', hw'', hlimit'.trans hlimit, Nat.le_trans hle' hle⟩

end Drained

/-- Units may come in elsewhere; here they only leave. -/
theorem Restocked.drained {k : Int} {sku : String} {m n : Nat} (h : Restocked k sku m n inv inv')
    (hle : k = number → n ≤ m) : Drained number inv inv' := by
  obtain ⟨w, stock, hw, hr, he⟩ := h
  refine ⟨hr.skus_eq ▸ List.Subset.refl _, ?_⟩
  intro x hx
  rw [hr.warehouse?_eq, number_of_warehouse? hw]
  split
  · rename_i hnumber
    subst hnumber
    obtain rfl := Option.some.inj (hw.symm.trans hx)
    have hsum := he.exactTotal_eq
    have hfewer := hle rfl
    exact ⟨_, rfl, rfl, show Stock.exactTotal stock ≤ Stock.exactTotal w.stock by omega⟩
  · exact ⟨x, hx, rfl, Nat.le_refl _⟩

private theorem drained_of_execute {c : Command} {o : Outcome} (hi : inv.Consistent)
    (hs : (Call.execute c).Spares number inv) (he : inv.execute c = (.ok o, inv')) : Drained number inv inv' := by
  cases executed_of_execute he with
  | addProduct =>
    refine ⟨?_, fun w hw => ⟨w, hw, rfl, Nat.le_refl _⟩⟩
    rw [skus_addProduct]
    exact List.subset_append_left _ _
  | @addWarehouse k typed limit hl hnew =>
    refine ⟨List.Subset.refl _, ?_⟩
    intro w hw
    have hne : number ≠ k := by
      rintro rfl
      cases hnew.symm.trans hw
    refine ⟨w, ?_, rfl, Nat.le_refl _⟩
    rw [warehouse?_addWarehouse hnew, if_neg hne, hw]
  | stock =>
    obtain ⟨-, hr⟩ := (executed_of_execute he).stocked hi
    refine hr.drained fun hk => absurd ⟨hk, ?_⟩ hs
    rw [call_execute_ok he]
  | unstock =>
    obtain ⟨-, -, -, hr⟩ := (executed_of_execute he).unstocked hi.toWellFormed
    exact hr.drained fun _ => Nat.sub_le _ _
  | keepLimit | askLimit | askFill | askClear | listProducts | listWarehouses | listWarehouse => exact .refl number inv

end Inventory

variable {inv inv' : Inventory} {number : Int}

theorem Call.Spares.drained {c : Call} (hs : c.Spares number inv) (hi : inv.Consistent) (hc : c.Typable) :
    (inv.call c).2.Consistent ∧ Drained number inv (inv.call c).2 := by
  have hkept : inv.Consistent ∧ Drained number inv inv := ⟨hi, .refl number inv⟩
  cases c with
  | execute c =>
    refine call_execute_of (P := fun next => next.Consistent ∧ Drained number inv next) hkept ?_
    intro o next he
    exact ⟨(executed_of_execute he).consistent hi hc, drained_of_execute hi hs he⟩
  | resolve q a =>
    cases a with
    | yes => exact absurd rfl hs
    | no | unrecognized => exact hkept

theorem Inventory.Spared.drained {l : List Call} (hs : Spared number inv l) (hi : inv.Consistent)
    (hl : ∀ c ∈ l, c.Typable) : (inv.calls l).Consistent ∧ Drained number inv (inv.calls l) := by
  induction l generalizing inv with
  | nil => exact ⟨hi, .refl number inv⟩
  | cons c l ih =>
    obtain ⟨hc, hrest⟩ := hs
    obtain ⟨hi', hd⟩ := hc.drained hi (hl c List.mem_cons_self)
    obtain ⟨hi'', hd'⟩ := ih hrest hi' fun d hd => hl d (List.mem_cons_of_mem _ hd)
    exact ⟨hi'', hd.trans hd'⟩

/-! ### Questions outlive what spares their warehouse -/

theorem Question.Admissible.mono {q : Question} (hq : q.Admissible inv) (hd : Drained q.warehouse inv inv') :
    q.Admissible inv' := by
  cases q with
  | changeLimit number old new =>
    obtain ⟨hlegal, w, hw, ha⟩ := hq
    obtain ⟨w', hw', -, hle⟩ := hd.warehouse_kept w hw
    exact ⟨hlegal, w', hw', StockLimit.allows_of_le ha hle⟩
  | fillUp sku number held limit requested room =>
    obtain ⟨hsku, w, hw, hfit⟩ := hq
    obtain ⟨w', hw', hlimit, hle⟩ := hd.warehouse_kept w hw
    refine ⟨hd.skus_kept hsku, w', hw', ?_⟩
    rw [hlimit]
    omega
  | clearOut sku number held =>
    obtain ⟨hsku, w, hw⟩ := hq
    obtain ⟨w', hw', -, -⟩ := hd.warehouse_kept w hw
    exact ⟨hd.skus_kept hsku, w', hw'⟩

/-- Whether or not the product is still in stock, afterwards it is not. -/
private theorem Inventory.WellFormed.not_mem_skus_of_clearOut (h : inv.WellFormed) {w : Warehouse}
    (hw : inv.warehouse? number = some w) (sku : String) (held : Nat) :
    ∃ w', (inv.apply (.clearOut sku number held)).warehouse? number = some w' ∧ sku ∉ Stock.skus w'.stock := by
  obtain ⟨hr, he⟩ := h.stock_set hw sku 0
  refine ⟨_, (hr.warehouse?_eq number).trans (if_pos (number_of_warehouse? hw).symm), ?_⟩
  rw [← Stock.units?_eq_none_iff, he.units?_after, if_pos rfl]

namespace Session

/-- A question that was asked in a session is answered with yes after calls that spare its warehouse: the inventory is
consistent, and a product that was to be taken out of stock is out of stock. -/
theorem run_answered_late (lines : List String) {c : Command} {q : Question} {inv : Inventory} {l : List Call}
    (hc : c.Typable) (hq : (new.run lines).inventory.execute c = (.ok (.asked q), inv)) (hl : ∀ d ∈ l, d.Typable)
    (hs : Spared q.warehouse inv l) :
    let answered := ((inv.calls l).resolve q .yes).2
    answered.Consistent ∧ ∀ sku number held, q = .clearOut sku number held →
      ∃ w, answered.warehouse? number = some w ∧ sku ∉ Stock.skus w.stock := by
  intro answered
  have hrun : (new.run lines).inventory.Consistent := (sound_run lines).consistent
  have hex := executed_of_execute hq
  have hi : inv.Consistent := hex.consistent hrun hc
  have hasked : q.Admissible inv := (hex.current hrun hc).admissible hi
  obtain ⟨hi', hd⟩ := hs.drained hi hl
  have hlate : q.Admissible (inv.calls l) := hasked.mono hd
  refine ⟨hlate.consistent hi', ?_⟩
  rintro sku number held rfl
  obtain ⟨-, w, hw⟩ := hlate
  exact hi'.not_mem_skus_of_clearOut hw sku held

/-- Six units are offered, and four are to be taken out of stock.  Until the answers come all four have left, a larger
quantity has been asked for in vain, another warehouse has been filled and a new limit declined. -/
theorem run_answered_late_afterUnstock :
    let lines := ["ADD PRODUCT Widget W1", "ADD WAREHOUSE 1 10", "ADD WAREHOUSE 2", "STOCK W1 1 4"]
    let inv := (new.run lines).inventory
    let fill : Question := .fillUp "W1" 1 4 10 9 6
    let clear : Question := .clearOut "W1" 1 4
    let l : List Call := [.execute (.unstock "W1" 1 4), .execute (.stock "W1" 1 11), .execute (.stock "W1" 2 8),
      .resolve (.changeLimit 1 (.upTo 10) (.upTo 5)) .no]
    inv.execute (.stock "W1" 1 9) = (.ok (.asked fill), inv) ∧
      inv.execute (.unstock "W1" 1 5) = (.ok (.asked clear), inv) ∧ Spared 1 inv l ∧
      ((inv.calls l).resolve fill .yes).2.Consistent ∧ ((inv.calls l).resolve clear .yes).2.Consistent ∧
      ∃ w, ((inv.calls l).resolve clear .yes).2.warehouse? 1 = some w ∧ "W1" ∉ Stock.skus w.stock := by
  intro lines inv fill clear l
  have hfill : inv.execute (.stock "W1" 1 9) = (.ok (.asked fill), inv) := by decide
  have hclear : inv.execute (.unstock "W1" 1 5) = (.ok (.asked clear), inv) := by decide
  have hl : ∀ d ∈ l, d.Typable := by simp [l, Call.Typable, Command.Typable]
  have hs : Spared 1 inv l := by decide
  have hstock : (Command.stock "W1" 1 9).Typable := trivial
  have hunstock : (Command.unstock "W1" 1 5).Typable := trivial
  obtain ⟨hfilled, -⟩ := run_answered_late lines hstock hfill hl hs
  obtain ⟨hcleared, hgone⟩ := run_answered_late lines hunstock hclear hl hs
  exact ⟨hfill, hclear, hs, hfilled, hcleared, hgone "W1" 1 4 rfl⟩

end Session

end Stockroom
