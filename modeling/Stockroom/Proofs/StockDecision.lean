import Stockroom.Proofs.Invariant

/-!
# What becomes of units that are to be stocked

A `STOCK` command looks at the quantity, then at what it names, then at the units that are there (`run_stock_decided`).
Without a limit the units come in if they can be counted together with those; with a limit they come in if it allows
them, and otherwise the rest of it is offered, if there is a rest.  A limit is a number that can be typed and so is a
quantity, hence both together can be counted: where there is a limit it is the limit that refuses
(`execute_stock_over`).
-/

namespace Stockroom

open Text

namespace Inventory

variable {inv : Inventory} {w : Warehouse} {number quantity : Int} {sku : String} {limit : Nat}

/-- What is named and not there, the product first. -/
def missing (inv : Inventory) (sku : String) (number : Int) : List Absent :=
  (if sku ∈ inv.skus then [] else [.product sku]) ++ if number ∈ inv.numbers then [] else [.warehouse number]

/-! ### Before the stock is looked at -/

theorem execute_stock_negative (hq : quantity < 0) :
    inv.execute (.stock sku number quantity) = (.error (Refusal.negativeStock quantity).fault, inv) := by
  simp only [execute_stock, if_pos hq]

theorem execute_stock_missing (hq : 0 ≤ quantity) (hm : inv.missing sku number ≠ []) :
    inv.execute (.stock sku number quantity) = (.error (Refusal.absent (inv.missing sku number)).fault, inv) := by
  simp only [execute_stock, if_neg (Int.not_lt.2 hq)]
  cases hp : inv.product? sku with
  | none =>
    have hsku : sku ∉ inv.skus := product?_eq_none_iff.1 hp
    cases hw : inv.warehouse? number with
    | none => simp [missing, hsku, warehouse?_eq_none_iff.1 hw]
    | some w => simp [missing, hsku, mem_numbers_of_warehouse? hw]
  | some p =>
    have hsku : sku ∈ inv.skus := mem_skus_of_product? hp
    cases hw : inv.warehouse? number with
    | none => simp [missing, hsku, warehouse?_eq_none_iff.1 hw]
    | some w => simp [missing, hsku, mem_numbers_of_warehouse? hw] at hm

/-! ### Units that do not fit -/

/-- Without a limit only what cannot be counted is refused. -/
theorem execute_stock_uncounted (hi : inv.Consistent) (hq : 0 ≤ quantity) (hsku : sku ∈ inv.skus)
    (hw : inv.warehouse? number = some w) (hover : maxUnits < Stock.exactTotal w.stock + quantity.toNat) :
    inv.execute (.stock sku number quantity) =
      (.error (Refusal.tooMany number quantity.toNat (Stock.exactTotal w.stock)).fault, inv) := by
  rw [execute_stock_of_mem hq hsku hw]
  simp only [stockInto_on, hi.total_eq (mem_of_warehouse? hw), if_pos hover, number_of_warehouse? hw]

/-- Past a limit the rest of it is offered, if there is one. -/
theorem execute_stock_over (hi : inv.Consistent) (hq : 0 ≤ quantity) (hmax : quantity ≤ maxNumber)
    (hsku : sku ∈ inv.skus) (hw : inv.warehouse? number = some w) (hl : w.limit = .upTo limit)
    (hover : limit < Stock.exactTotal w.stock + quantity.toNat) :
    inv.execute (.stock sku number quantity) =
      if Stock.exactTotal w.stock = limit then (.error (Refusal.full number limit).fault, inv)
      else (.ok (.asked (.fillUp sku number (Stock.exactTotal w.stock) limit quantity.toNat
        (limit - Stock.exactTotal w.stock))), inv) := by
  have hmem : w ∈ inv.warehouses := mem_of_warehouse? hw
  have hfits := hi.fits w hmem
  have hlegal := hi.limit_legal w hmem
  rw [hl] at hfits hlegal
  have hle : Stock.exactTotal w.stock ≤ limit := hfits
  -- the limit and the quantity are numbers of 63 bits, so their sum is counted
  have hcount : ¬ maxUnits < Stock.exactTotal w.stock + quantity.toNat := by
    have hlimit : limit ≤ maxNumber := hlegal.2
    simp only [maxNumber, maxUnits] at hlimit hmax ⊢
    omega
  have hallows : (StockLimit.upTo limit).allows (Stock.exactTotal w.stock + quantity.toNat) = false := by
    simp [StockLimit.allows, hover]
  have hroom : limit - Stock.exactTotal w.stock = 0 ↔ Stock.exactTotal w.stock = limit := by omega
  rw [execute_stock_of_mem hq hsku hw]
  simp only [stockInto_on, hi.total_eq hmem, hl, if_neg hcount, hallows, number_of_warehouse? hw, hroom,
    Bool.false_eq_true, if_false]

/-! ### The two refusals for want of room are told apart -/

private theorem ne_bracket_of_mem_decimal (n : Int) : ∀ c ∈ (decimal n).toList, (c != ']') = true := by
  intro c hc
  rw [bne_iff_ne]
  rintro rfl
  exact absurd (mem_decimal hc) (by decide)

/-- What follows the number of the warehouse that a sentence begins with. -/
private theorem behind_number (n : Int) {rest : String} (hrest : rest.toList.head? = some ']') :
    (("Warehouse [" ++ (decimal n ++ rest)).toList.drop 11).dropWhile (· != ']') = rest.toList := by
  have hlength : "Warehouse [".toList.length = 11 := rfl
  rw [String.toList_append, List.drop_left' hlength, String.toList_append,
    List.dropWhile_append_of_pos (ne_bracket_of_mem_decimal n)]
  cases hr : rest.toList with
  | nil => rfl
  | cons c l =>
    rw [hr] at hrest
    obtain rfl : c = ']' := Option.some.inj hrest
    rfl

/-- Behind the number of the warehouse the sentences go on differently. -/
private theorem tooMany_ne_full (k : Int) (units held : Nat) (number : Int) (limit : Nat) :
    (Refusal.tooMany k units held).fault ≠ (Refusal.full number limit).fault := by
  intro h
  have hsentence : "Warehouse [" ++ decimal k ++ "] cannot hold [" ++ decimal units ++ "] more units on top of [" ++
        decimal held ++ "].  No stock added." =
      "Warehouse [" ++ decimal number ++ "] is at its limit of [" ++ decimal limit ++ "].  No stock added." :=
    Fault.refused.inj h
  have hrest := congrArg (fun s => (s.toList.drop 11).dropWhile (· != ']')) hsentence
  simp only [String.append_assoc] at hrest
  rw [behind_number k (by rw [String.toList_append]; rfl),
    behind_number number (by rw [String.toList_append]; rfl)] at hrest
  simp only [String.toList_append] at hrest
  have hthird : some 'c' = some 'i' := congrArg (fun l => l[2]?) hrest
  exact absurd hthird (by decide)

end Inventory

namespace Session

open Inventory

/-- What stocking a quantity comes to, for every inventory that a session can have. -/
theorem run_stock_decided (lines : List String) (sku : String) (number : Int) {quantity : Int}
    (hmax : quantity ≤ maxNumber) :
    let inv := (new.run lines).inventory
    let result := inv.execute (.stock sku number quantity)
    let units := quantity.toNat
    let stocked := ∃ inv', result = (.ok .done, inv') ∧
      Restocked number sku (inv.held number sku) (inv.held number sku + units) inv inv'
    (quantity < 0 → result = (.error (Refusal.negativeStock quantity).fault, inv)) ∧
      (0 ≤ quantity → inv.missing sku number ≠ [] →
        result = (.error (.refused (" ".intercalate ((inv.missing sku number).map Absent.sentence))), inv)) ∧
      ∀ w, 0 ≤ quantity → sku ∈ inv.skus → inv.warehouse? number = some w →
        let total := Stock.exactTotal w.stock
        (w.limit = .unbounded →
          if total + units ≤ maxUnits then stocked
          else result = (.error (Refusal.tooMany number units total).fault, inv)) ∧
        ∀ limit, w.limit = .upTo limit →
          (if total + units ≤ limit then stocked
            else if total = limit then result = (.error (Refusal.full number limit).fault, inv)
            else 0 < limit - total ∧ limit - total < units ∧
              result = (.ok (.asked (.fillUp sku number total limit units (limit - total))), inv)) ∧
          ∀ k more held, result.1 ≠ .error (Refusal.tooMany k more held).fault := by
  intro inv result units stocked
  have hi : inv.Consistent := (sound_run lines).consistent
  refine ⟨execute_stock_negative, execute_stock_missing, ?_⟩
  intro w hq hsku hw total
  refine ⟨?_, ?_⟩
  · intro hl
    have hcap : w.limit.capacity = maxUnits := by rw [hl, StockLimit.capacity]
    split
    · rename_i hfit
      exact execute_stock_of_fits hi hq hsku hw (hcap ▸ hfit)
    · rename_i hover
      exact execute_stock_uncounted hi hq hsku hw (Nat.not_le.1 hover)
  · intro limit hl
    have hcap : w.limit.capacity = limit := by rw [hl, StockLimit.capacity]
    have hle : total ≤ limit := hcap ▸ hi.fits w (mem_of_warehouse? hw)
    by_cases hfit : total + units ≤ limit
    · have hstocked : stocked := execute_stock_of_fits hi hq hsku hw (hcap ▸ hfit)
      refine ⟨by rwa [if_pos hfit], ?_⟩
      intro k more held hrefused
      obtain ⟨inv', hdone, -⟩ := hstocked
      rw [hdone] at hrefused
      cases hrefused
    · have hover : result = _ := execute_stock_over hi hq hmax hsku hw hl (Nat.not_le.1 hfit)
      rw [if_neg hfit]
      by_cases hfull : total = limit
      · rw [if_pos hfull] at hover
        refine ⟨by rwa [if_pos hfull], ?_⟩
        intro k more held hrefused
        rw [hover] at hrefused
        exact tooMany_ne_full k more held number limit (Except.error.inj hrefused).symm
      · rw [if_neg hfull] at hover
        refine ⟨?_, ?_⟩
        · rw [if_neg hfull]
          exact ⟨by omega, by omega, hover⟩
        · intro k more held hrefused
          rw [hover] at hrefused
          cases hrefused

/-- Six units fit on top of four where ten are allowed; for a seventh the six are offered, and at the limit nothing
is. -/
theorem run_stock_decided_atLimit :
    let lines := ["ADD PRODUCT Widget W1", "ADD WAREHOUSE 1 10", "STOCK W1 1 4"]
    let inv := (new.run lines).inventory
    let full := (new.run (lines ++ ["STOCK W1 1 6"])).inventory
    (6 : Int) ≤ maxNumber ∧ (7 : Int) ≤ maxNumber ∧
      (∃ inv', inv.execute (.stock "W1" 1 6) = (.ok .done, inv') ∧ Restocked 1 "W1" 4 10 inv inv') ∧
      inv.execute (.stock "W1" 1 7) = (.ok (.asked (.fillUp "W1" 1 4 10 7 6)), inv) ∧
      full.execute (.stock "W1" 1 7) = (.error (Refusal.full 1 10).fault, full) ∧
      inv.execute (.stock "W2" 2 7) = (.error (Refusal.absent [.product "W2", .warehouse 2]).fault, inv) := by
  intro lines inv full
  have hsix : (6 : Int) ≤ maxNumber := by decide
  have hseven : (7 : Int) ≤ maxNumber := by decide
  have hw : inv.warehouse? 1 = some ⟨1, .upTo 10, [⟨"W1", 4⟩]⟩ := by decide
  have hfull : full.warehouse? 1 = some ⟨1, .upTo 10, [⟨"W1", 10⟩]⟩ := by decide
  obtain ⟨-, -, hsixThere⟩ := run_stock_decided lines "W1" 1 hsix
  obtain ⟨-, -, hsevenThere⟩ := run_stock_decided lines "W1" 1 hseven
  obtain ⟨-, -, hfullThere⟩ := run_stock_decided (lines ++ ["STOCK W1 1 6"]) "W1" 1 hseven
  obtain ⟨-, habsent, -⟩ := run_stock_decided lines "W2" 2 hseven
  refine ⟨hsix, hseven, ?_, ?_, ?_, habsent (by decide) (by decide)⟩
  · exact ((hsixThere _ (by decide) (by decide) hw).2 10 rfl).1
  · exact ((hsevenThere _ (by decide) (by decide) hw).2 10 rfl).1.2.2
  · exact ((hfullThere _ (by decide) (by decide) hfull).2 10 rfl).1

end Session

end Stockroom
