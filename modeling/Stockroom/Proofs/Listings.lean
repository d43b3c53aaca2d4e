import Stockroom.Proofs.Invariant
import Stockroom.Proofs.Shown

/-!
# Listings lose nothing

A listing is a text of rows, a row a text of columns.  Rows without a line feed can be told apart again
(`intercalate_inj`), and so can columns without a tab, however many tabs stand between them (`column_inj`); what stands
in the columns are names, SKUs and numbers, no two of them written alike.  So sessions whose names and SKUs are free of
tabs and line feeds, and whose listings read the same, have the same inventory (`run_inventory_eq_of_display`).
-/

namespace Stockroom

open Text

/-- A text without tabs and line feeds. -/
def Plain (s : String) : Prop :=
  '\t' ∉ s.toList ∧ '\n' ∉ s.toList

instance : DecidablePred Plain :=
  fun s => inferInstanceAs (Decidable ('\t' ∉ s.toList ∧ '\n' ∉ s.toList))

namespace Inventory

/-- The text that a command makes appear. -/
def display (inv : Inventory) (c : Command) : String :=
  ((Session.mk inv none).perform c).1.elim "" Output.text

/-- Neither a tab nor a line feed in a SKU or a name of the catalog. -/
def PlainCatalog (inv : Inventory) : Prop :=
  ∀ p ∈ inv.products, Plain p.sku ∧ Plain p.name

instance : DecidablePred PlainCatalog :=
  fun inv => inferInstanceAs (Decidable (∀ p ∈ inv.products, Plain p.sku ∧ Plain p.name))

end Inventory

/-! ### Rows and columns -/

/-- Lists whose elements a function tells apart. -/
private theorem eq_of_map_eq {α β : Type} {f : α → β} {l m : List α} (hf : ∀ a ∈ l, ∀ b ∈ m, f a = f b → a = b)
    (h : l.map f = m.map f) : l = m := by
  induction l generalizing m with
  | nil => exact (List.map_eq_nil_iff.1 h.symm).symm
  | cons a l ih =>
    cases m with
    | nil => cases h
    | cons b m =>
      obtain ⟨hhead, htail⟩ := List.cons.inj h
      rw [hf a List.mem_cons_self b List.mem_cons_self hhead,
        ih (fun a ha b hb => hf a (List.mem_cons_of_mem _ ha) b (List.mem_cons_of_mem _ hb)) htail]

private theorem takeWhile_column {a : List Char} (ha : '\t' ∉ a) (rest : List Char) :
    (a ++ '\t' :: rest).takeWhile (· != '\t') = a := by
  have hkeep : ∀ c ∈ a, (c != '\t') = true := by
    intro c hc
    rw [bne_iff_ne]
    rintro rfl
    exact ha hc
  rw [List.takeWhile_append_of_pos hkeep]
  simp

/-- A column ends at the first tab. -/
theorem column_inj (gap : String) {a b rest rest' : String} (hgap : gap.toList.head? = some '\t') (ha : '\t' ∉ a.toList)
    (hb : '\t' ∉ b.toList) (h : a ++ gap ++ rest = b ++ gap ++ rest') : a = b ∧ rest = rest' := by
  obtain ⟨tabs, htabs⟩ := List.head?_eq_some_iff.1 hgap
  have hlist := congrArg String.toList h
  simp only [String.toList_append, htabs, List.append_assoc, List.cons_append] at hlist
  have hcolumn := congrArg (List.takeWhile (· != '\t')) hlist
  rw [takeWhile_column ha, takeWhile_column hb] at hcolumn
  rw [hcolumn, List.append_cancel_left_eq, List.cons.injEq, List.append_cancel_left_eq] at hlist
  exact ⟨String.toList_inj.1 hcolumn, String.toList_inj.1 hlist.2⟩

/-- Rows end at the line feeds. -/
theorem intercalate_inj {l m : List String} (hl : ∀ r ∈ l, '\n' ∉ r.toList) (hm : ∀ r ∈ m, '\n' ∉ r.toList)
    (hlne : l ≠ []) (hmne : m ≠ []) (h : "\n".intercalate l = "\n".intercalate m) : l = m := by
  have hsplit : ∀ {l : List String}, (∀ r ∈ l, '\n' ∉ r.toList) → l ≠ [] →
      ("\n".intercalate l).toList.splitOn '\n' = l.map String.toList := by
    intro l hl hne
    rw [String.toList_intercalate]
    refine List.splitOn_intercalate '\n' ?_ (by simpa using hne)
    simpa using hl
  have hlines : l.map String.toList = m.map String.toList := by
    rw [← hsplit hl hlne, h, hsplit hm hmne]
  exact eq_of_map_eq (fun a _ b _ hab => String.toList_inj.1 hab) hlines

/-! ### What stands in the columns -/

private theorem plain_decimal (n : Int) : Plain (decimal n) :=
  ⟨fun h => absurd (mem_decimal h) (by decide), fun h => absurd (mem_decimal h) (by decide)⟩

private theorem StockLimit.plain_text (limit : StockLimit) : Plain limit.text := by
  cases limit with
  | unbounded => decide
  | upTo units => exact plain_decimal units

/-- A number of units does not look like the word for no limit. -/
private theorem decimal_ne_unbounded (n : Int) : decimal n ≠ StockLimit.unbounded.text := by
  intro h
  have hmem : 'I' ∈ (decimal n).toList := by
    rw [h]
    decide
  exact absurd (mem_decimal hmem) (by decide)

theorem StockLimit.text_injective {a b : StockLimit} (h : a.text = b.text) : a = b := by
  cases a with
  | unbounded =>
    cases b with
    | unbounded => rfl
    | upTo units => exact absurd h.symm (decimal_ne_unbounded units)
  | upTo units =>
    cases b with
    | unbounded => exact absurd h (decimal_ne_unbounded units)
    | upTo units' => rw [Int.ofNat_inj.1 (decimal_injective h)]

/-! ### One listing each -/

namespace Output

variable {ps qs : List Product} {ws vs : List (Int × StockLimit)}

private theorem productRow_inj {p q : Product} (hp : Plain p.sku) (hq : Plain q.sku) (h : productRow p = productRow q) :
    p = q := by
  obtain ⟨hsku, hname⟩ := column_inj "\t" (by decide) hp.1 hq.1 h
  cases p
  cases q
  simp_all

private theorem products_inj (hp : ∀ p ∈ ps, Plain p.sku ∧ Plain p.name) (hq : ∀ q ∈ qs, Plain q.sku ∧ Plain q.name)
    (h : (ofListing (.products ps)).text = (ofListing (.products qs)).text) : ps = qs := by
  have hrow (p : Product) : productRow p ≠ "" := by simp [productRow]
  have hplain : ∀ {ps : List Product}, (∀ p ∈ ps, Plain p.sku ∧ Plain p.name) →
      ∀ r ∈ ps.map productRow, '\n' ∉ r.toList := by
    intro ps hp
    rw [List.forall_mem_map]
    intro p hmem
    simp [productRow, (hp p hmem).1.2, (hp p hmem).2.2]
  change "\n".intercalate (ps.map productRow) = "\n".intercalate (qs.map productRow) at h
  cases ps with
  | nil =>
    cases qs with
    | nil => rfl
    | cons q qs => exact absurd h.symm (intercalate_ne_empty "\n" (x := productRow q) List.mem_cons_self (hrow q))
  | cons p ps =>
    cases qs with
    | nil => exact absurd h (intercalate_ne_empty "\n" (x := productRow p) List.mem_cons_self (hrow p))
    | cons q qs =>
      have hlist := intercalate_inj (hplain hp) (hplain hq) (List.cons_ne_nil _ _) (List.cons_ne_nil _ _) h
      exact eq_of_map_eq (fun p hmem q hmem' => productRow_inj (hp p hmem).1 (hq q hmem').1) hlist

private theorem warehouseRow_inj {w v : Int × StockLimit} (h : warehouseRow w = warehouseRow v) : w = v := by
  obtain ⟨hnumber, hlimit⟩ := column_inj "\t\t\t\t" (by decide) (plain_decimal w.1).1 (plain_decimal v.1).1 h
  exact Prod.ext (decimal_injective hnumber) (StockLimit.text_injective hlimit)

private theorem warehouses_inj (h : (ofListing (.warehouses ws)).text = (ofListing (.warehouses vs)).text) :
    ws = vs := by
  have hplain (ws : List (Int × StockLimit)) : ∀ r ∈ warehousesHeader :: ws.map warehouseRow, '\n' ∉ r.toList := by
    rw [List.forall_mem_cons, List.forall_mem_map]
    refine ⟨by decide, fun w _ => ?_⟩
    simp [warehouseRow, (plain_decimal w.1).2, w.2.plain_text.2]
  have hlist := intercalate_inj (hplain ws) (hplain vs) (List.cons_ne_nil _ _) (List.cons_ne_nil _ _) h
  exact eq_of_map_eq (fun w _ v _ => warehouseRow_inj) (List.cons.inj hlist).2

end Output

/-- A row with a name, and neither a tab nor a line feed in its columns. -/
def StockRow.Named (r : StockRow) : Prop :=
  Plain r.sku ∧ ∃ name, r.name = some name ∧ Plain name

namespace Output

variable {rows rows' : List StockRow}

private theorem stockRow_some (name sku : String) (units : Nat) :
    stockRow ⟨some name, sku, units⟩ = name ++ "\t\t" ++ (sku ++ "\t\t" ++ decimal units) := by
  simp [stockRow, String.append_assoc]

private theorem stockRow_inj {r t : StockRow} (hr : r.Named) (ht : t.Named) (h : stockRow r = stockRow t) : r = t := by
  obtain ⟨_, sku, units⟩ := r
  obtain ⟨_, sku', units'⟩ := t
  obtain ⟨hsku, name, rfl, hname⟩ := hr
  obtain ⟨hsku', name', rfl, hname'⟩ := ht
  rw [stockRow_some, stockRow_some] at h
  obtain ⟨rfl, hrest⟩ := column_inj "\t\t" (by decide) hname.1 hname'.1 h
  obtain ⟨rfl, hunits⟩ := column_inj "\t\t" (by decide) hsku.1 hsku'.1 hrest
  rw [Int.ofNat_inj.1 (decimal_injective hunits)]

/-- What stands for the rows of an empty warehouse is no row: it has no tab. -/
private theorem stockRow_ne_nothingInStock (r : StockRow) : stockRow r ≠ nothingInStock := by
  intro h
  have htab : '\t' ∈ nothingInStock.toList := by
    rw [← h]
    simp [stockRow]
  exact absurd htab (by decide)

private theorem stock_inj (hr : ∀ r ∈ rows, r.Named) (ht : ∀ t ∈ rows', t.Named)
    (h : (ofListing (.stock rows)).text = (ofListing (.stock rows')).text) : rows = rows' := by
  have hplain : ∀ {rows : List StockRow}, (∀ r ∈ rows, r.Named) →
      ∀ line ∈ stockHeader :: rows.map stockRow, '\n' ∉ line.toList := by
    intro rows hr
    rw [List.forall_mem_cons, List.forall_mem_map]
    refine ⟨by decide, fun r hmem => ?_⟩
    obtain ⟨hsku, name, hname, hplain⟩ := hr r hmem
    simp [stockRow, hname, hplain.2, hsku.2, (plain_decimal r.units).2]
  have hempty : ∀ line ∈ [stockHeader, nothingInStock], '\n' ∉ line.toList := by decide
  cases rows with
  | nil =>
    cases rows' with
    | nil => rfl
    | cons t rows' =>
      have hlist := intercalate_inj hempty (hplain ht) (List.cons_ne_nil _ _) (List.cons_ne_nil _ _) h
      simp only [List.map_cons, List.cons.injEq] at hlist
      exact absurd hlist.2.1.symm (stockRow_ne_nothingInStock t)
  | cons r rows =>
    cases rows' with
    | nil =>
      have hlist := intercalate_inj (hplain hr) hempty (List.cons_ne_nil _ _) (List.cons_ne_nil _ _) h
      simp only [List.map_cons, List.cons.injEq] at hlist
      exact absurd hlist.2.1 (stockRow_ne_nothingInStock r)
    | cons t rows' =>
      have hlist := intercalate_inj (hplain hr) (hplain ht) (List.cons_ne_nil _ _) (List.cons_ne_nil _ _) h
      exact eq_of_map_eq (fun r hmem t hmem' => stockRow_inj (hr r hmem) (ht t hmem')) (List.cons.inj hlist).2

end Output

/-! ### What the listings of an inventory say -/

namespace Inventory

variable {inv inv' : Inventory} {w w' : Warehouse} {number : Int}

private theorem display_listing {c : Command} {l : Listing} (h : inv.execute c = (.ok (.listing l), inv)) :
    inv.display c = (Output.ofListing l).text := by
  have hshown : (Session.mk inv none).perform c =
      (if (Output.ofListing l).isEmpty then none else some (.ofListing l), ⟨inv, none⟩) := by
    simp only [Session.perform, h]
  rw [display, hshown]
  split
  · rename_i hempty
    exact (Output.text_of_isEmpty hempty).symm
  · rfl

theorem display_listProducts (inv : Inventory) :
    inv.display .listProducts = (Output.ofListing (.products inv.products)).text :=
  display_listing rfl

theorem display_listWarehouses (inv : Inventory) :
    inv.display .listWarehouses =
      (Output.ofListing (.warehouses (inv.warehouses.map fun w => (w.number, w.limit)))).text :=
  display_listing rfl

theorem display_listWarehouse (h : inv.warehouse? number = some w) :
    inv.display (.listWarehouse number) = (Output.ofListing (.stock (inv.stockRows w))).text :=
  display_listing (by simp [execute_listWarehouse, h])

theorem display_listWarehouse_of_none (h : inv.warehouse? number = none) :
    inv.display (.listWarehouse number) = (Refusal.noWarehouseToList number).sentence := by
  have hrefused : inv.execute (.listWarehouse number) = (.error (Refusal.noWarehouseToList number).fault, inv) := by
    simp [execute_listWarehouse, h]
  rw [display, Session.perform, hrefused]
  rfl

private theorem warehouse?_of_mem (h : inv.numbers.Nodup) (hw : w ∈ inv.warehouses) :
    inv.warehouse? w.number = some w := by
  cases hfound : inv.warehouse? w.number with
  | none => exact absurd (List.mem_map_of_mem hw) (warehouse?_eq_none_iff.1 hfound)
  | some x => rw [List.inj_on_of_nodup_map h (mem_of_warehouse? hfound) hw (number_of_warehouse? hfound)]

/-- In a consistent inventory every row has the name from the catalog. -/
theorem Consistent.named (h : inv.Consistent) (hplain : inv.PlainCatalog) (hw : w ∈ inv.warehouses) :
    ∀ r ∈ inv.stockRows w, r.Named := by
  intro r hr
  obtain ⟨e, he, rfl⟩ := List.mem_map.1 hr
  have hsku : e.sku ∈ inv.skus := h.in_catalog w hw _ (List.mem_map_of_mem he)
  cases hp : inv.product? e.sku with
  | none => exact absurd hsku (product?_eq_none_iff.1 hp)
  | some p =>
    have hmem : p ∈ inv.products := List.mem_of_find?_eq_some hp
    have heq : p.sku = e.sku := by simpa using List.find?_some hp
    exact ⟨heq ▸ (hplain p hmem).1, p.name, rfl, (hplain p hmem).2⟩

private theorem stock_eq_of_stockRows (h : inv.stockRows w = inv'.stockRows w') : w.stock = w'.stock := by
  have hentries : ∀ (inv : Inventory) (w : Warehouse),
      (inv.stockRows w).map (fun r => StockEntry.mk r.sku r.units) = w.stock := by
    intro inv w
    rw [stockRows, List.map_map]
    exact List.map_id _
  rw [← hentries inv w, h, hentries]

/-- The listings of the catalog, of the warehouses and of the stock of each of them leave nothing open. -/
theorem eq_of_display (h : inv.Consistent) (h' : inv'.Consistent) (hplain : inv.PlainCatalog)
    (hplain' : inv'.PlainCatalog) (hproducts : inv.display .listProducts = inv'.display .listProducts)
    (hwarehouses : inv.display .listWarehouses = inv'.display .listWarehouses)
    (hstock : ∀ n ∈ inv.numbers, inv.display (.listWarehouse n) = inv'.display (.listWarehouse n)) : inv = inv' := by
  rw [display_listProducts, display_listProducts] at hproducts
  rw [display_listWarehouses, display_listWarehouses] at hwarehouses
  have hsame : ∀ w ∈ inv.warehouses, ∀ w' ∈ inv'.warehouses, (w.number, w.limit) = (w'.number, w'.limit) → w = w' := by
    intro w hw w' hw' hkey
    obtain ⟨hnumber, hlimit⟩ := Prod.mk.inj hkey
    have hlisted := hstock w.number (List.mem_map_of_mem hw)
    have hfound : inv'.warehouse? w.number = some w' := by
      rw [hnumber]
      exact warehouse?_of_mem h'.numbers_nodup hw'
    rw [display_listWarehouse (warehouse?_of_mem h.numbers_nodup hw), display_listWarehouse hfound] at hlisted
    have hentries : w.stock = w'.stock :=
      stock_eq_of_stockRows (Output.stock_inj (h.named hplain hw) (h'.named hplain' hw') hlisted)
    cases w
    cases w'
    simp_all
  have hcatalog : inv.products = inv'.products := Output.products_inj hplain hplain' hproducts
  have hrecords : inv.warehouses = inv'.warehouses := eq_of_map_eq hsame (Output.warehouses_inj hwarehouses)
  cases inv
  cases inv'
  simp_all

/-! ### Numbers of warehouses -/

theorem Executed.mem_numbers {c : Command} {o : Outcome} (h : Executed inv c o inv') (hn : number ∈ inv'.numbers) :
    number ∈ inv.numbers ∨ number ∈ c.numbers := by
  cases h with
  | @addWarehouse k typed limit hl hw =>
    rw [numbers_addWarehouse] at hn
    exact (List.mem_append.1 hn).imp_right fun hn => by simp_all [Command.numbers]
  | @stock sku k quantity =>
    rw [numbers_updateWarehouse (f := (·.add sku quantity.toNat)) fun _ => rfl] at hn
    exact .inl hn
  | @unstock sku k quantity w held =>
    rw [numbers_updateWarehouse (f := (·.set sku (held - quantity.toNat))) fun _ => rfl] at hn
    exact .inl hn
  | addProduct | keepLimit | askLimit | askFill | askClear | listProducts | listWarehouses | listWarehouse =>
    exact .inl hn

end Inventory

namespace Session

open Inventory

variable {s t : Session} {line : String} {shown : Option Output}

theorem Fed.natAbs_le (h : Fed s line shown t) (hs : ∀ n ∈ s.inventory.numbers, n.natAbs ≤ maxNumber) :
    ∀ n ∈ t.inventory.numbers, n.natAbs ≤ maxNumber := by
  cases h with
  | @confirmed q hq ha =>
    have hnumbers : (s.inventory.apply q).numbers = s.inventory.numbers := by
      rw [apply_eq_updateWarehouse]
      exact numbers_updateWarehouse q.number_change
    rw [hnumbers]
    exact hs
  | declined | unrecognized | blank | unread => exact hs
  | refused hq hc he => exact inventory_eq_of_error he ▸ hs
  | executed hq hc he =>
    intro n hn
    rcases (executed_of_execute he).mem_numbers hn with hn | hn
    · exact hs n hn
    · exact natAbs_le_of_parse hc hn

/-- A warehouse has a number that can be typed. -/
theorem natAbs_le_run (lines : List String) : ∀ n ∈ (new.run lines).inventory.numbers, n.natAbs ≤ maxNumber :=
  run_induction (P := fun s => ∀ n ∈ s.inventory.numbers, n.natAbs ≤ maxNumber)
    (fun s line hs => (fed_feed s line).natAbs_le hs) (fun _ hn => absurd hn List.not_mem_nil) lines

/-- Sessions whose names and SKUs hold no tab and no line feed, and whose listings read the same, for every number of 64
bits that a warehouse could be listed by, have the same inventory. -/
theorem run_inventory_eq_of_display {l m : List String} (hl : (new.run l).inventory.PlainCatalog)
    (hm : (new.run m).inventory.PlainCatalog)
    (hproducts : (new.run l).inventory.display .listProducts = (new.run m).inventory.display .listProducts)
    (hwarehouses : (new.run l).inventory.display .listWarehouses = (new.run m).inventory.display .listWarehouses)
    (hstock : ∀ n : Int64, (new.run l).inventory.display (.listWarehouse n.toInt) =
      (new.run m).inventory.display (.listWarehouse n.toInt)) :
    (new.run l).inventory = (new.run m).inventory := by
  refine eq_of_display (sound_run l).consistent (sound_run m).consistent hl hm hproducts hwarehouses ?_
  intro n hn
  have hle := natAbs_le_run l n hn
  rw [maxNumber] at hle
  have hn64 : (Int64.ofInt n).toInt = n := Int64.toInt_ofInt_of_le (by omega) (by omega)
  rw [← hn64]
  exact hstock (Int64.ofInt n)

def straightLines : List String :=
  ["ADD PRODUCT Widget W1", "ADD WAREHOUSE 1 10", "ADD WAREHOUSE -2", "STOCK W1 1 4"]

/-- A detour to the same limit and the same stock. -/
def detourLines : List String :=
  ["add product Widget   W1", "ADD WAREHOUSE 1", "STOCK W1 1 3", "ADD WAREHOUSE -2 0", "ADD WAREHOUSE 1 10", "Y",
    "STOCK W1 1 1"]

theorem run_inventory_eq_of_display_detour :
    let a := (new.run straightLines).inventory
    let b := (new.run detourLines).inventory
    a.PlainCatalog ∧ b.PlainCatalog ∧ a.display .listProducts = b.display .listProducts ∧
      a.display .listWarehouses = b.display .listWarehouses ∧
      (∀ n : Int64, a.display (.listWarehouse n.toInt) = b.display (.listWarehouse n.toInt)) ∧ a = b := by
  have ha : (new.run straightLines).inventory.PlainCatalog := by decide
  have hb : (new.run detourLines).inventory.PlainCatalog := by decide
  have hproducts : (new.run straightLines).inventory.display .listProducts =
      (new.run detourLines).inventory.display .listProducts := by decide
  have hwarehouses : (new.run straightLines).inventory.display .listWarehouses =
      (new.run detourLines).inventory.display .listWarehouses := by decide +kernel
  have hnumbers : (new.run straightLines).inventory.numbers = [1, -2] := by decide
  have hnumbers' : (new.run detourLines).inventory.numbers = [1, -2] := by decide
  have hstock : ∀ n : Int64, (new.run straightLines).inventory.display (.listWarehouse n.toInt) =
      (new.run detourLines).inventory.display (.listWarehouse n.toInt) := by
    intro n
    by_cases hn : n.toInt ∈ [1, -2]
    · have hcases : n.toInt = 1 ∨ n.toInt = -2 := by simpa using hn
      rcases hcases with h | h <;> rw [h] <;> decide +kernel
    · -- no warehouse of that number, so the listing is refused
      rw [display_listWarehouse_of_none (warehouse?_eq_none_iff.2 (hnumbers ▸ hn)),
        display_listWarehouse_of_none (warehouse?_eq_none_iff.2 (hnumbers' ▸ hn))]
  exact ⟨ha, hb, hproducts, hwarehouses, hstock, run_inventory_eq_of_display ha hb hproducts hwarehouses hstock⟩

end Session

end Stockroom
