import Mathlib.Algebra.BigOperators.Group.Finset.Basic
import Mathlib.Algebra.GroupWithZero.Nat
import Mathlib.Data.List.Induction
import Mathlib.Data.Nat.Find
import Mathlib.Order.Bounds.Defs
import Stockroom.Proofs.StockEdit

/-!
# Steps on a warehouse

A new warehouse is filled step by step, each step adding units of a product or fixing them.  Its stock follows the steps
(`FollowedBy`): no product has two entries, the units of each are those that the steps leave on paper (`unitsAfter`),
and the products stand in the order of the steps by which they last came into stock (`lastEntry`).  A step is an edit of
the stock (`Warehouse.step_edit`), which keeps all this (`Stock.FollowedBy.edit`), and so does any sequence of steps
(`Warehouse.filled_followedBy`).  What the warehouse shows is read off (`Warehouse.filled_exact`).
-/

namespace Stockroom

/-- Changes the units of one product, by as many as a count can hold. -/
inductive StockStep where
  | add (sku : String) (units : UInt64)
  | set (sku : String) (units : UInt64)
  deriving DecidableEq, Repr

namespace StockStep

def sku : StockStep → String
  | add sku _ => sku
  | set sku _ => sku

/-- The units of the product after the step, if it had `held` of them. -/
def result (held : Nat) : StockStep → Nat
  | add _ units => min (held + units.toNat) maxUnits
  | set _ units => units.toNat

end StockStep

namespace Warehouse

def step (w : Warehouse) : StockStep → Warehouse
  | .add sku units => w.add sku units.toNat
  | .set sku units => w.set sku units.toNat

/-- A new warehouse after the steps. -/
def filled (number : Int) (limit : StockLimit) (l : List StockStep) : Warehouse :=
  l.foldl step ⟨number, limit, []⟩

end Warehouse

/-! ### The steps on paper -/

/-- The units of every product after steps from nothing; a product without units is absent. -/
def unitsAfter (l : List StockStep) : String → Nat :=
  l.foldl (fun units x => Function.update units x.sku (x.result (units x.sku))) fun _ => 0

/-- The product is absent before the step at `i` and present after it. -/
def EntersAt (l : List StockStep) (sku : String) (i : Nat) : Prop :=
  unitsAfter (l.take i) sku = 0 ∧ unitsAfter (l.take (i + 1)) sku ≠ 0

instance (l : List StockStep) (sku : String) (i : Nat) : Decidable (EntersAt l sku i) :=
  inferInstanceAs (Decidable (_ ∧ _))

/-- The last step by which the product went from absent to present. -/
def lastEntry (l : List StockStep) (sku : String) : Nat :=
  Nat.findGreatest (EntersAt l sku) l.length

theorem unitsAfter_concat (l : List StockStep) (x : StockStep) :
    unitsAfter (l ++ [x]) = Function.update (unitsAfter l) x.sku (x.result (unitsAfter l x.sku)) := by
  rw [unitsAfter, List.foldl_concat, unitsAfter]

section Entries

variable {l : List StockStep} {x : StockStep} {sku : String} {i : Nat}

private theorem EntersAt.lt_length (h : EntersAt l sku i) : i < l.length := by
  by_contra hle
  obtain ⟨habsent, hpresent⟩ := h
  rw [List.take_of_length_le (by omega)] at habsent hpresent
  exact hpresent habsent

private theorem entersAt_concat_of_lt (hi : i < l.length) : EntersAt (l ++ [x]) sku i ↔ EntersAt l sku i := by
  rw [EntersAt, List.take_append_of_le_length (by omega), List.take_append_of_le_length (by omega), EntersAt]

private theorem entersAt_concat_length :
    EntersAt (l ++ [x]) sku l.length ↔ unitsAfter l sku = 0 ∧ unitsAfter (l ++ [x]) sku ≠ 0 := by
  rw [EntersAt, List.take_left, List.take_of_length_le (by simp)]

/-- A product that comes into stock by the last step has its last entry there. -/
private theorem lastEntry_concat (habsent : unitsAfter l sku = 0) (hpresent : unitsAfter (l ++ [x]) sku ≠ 0) :
    lastEntry (l ++ [x]) sku = l.length := by
  refine Nat.findGreatest_eq_iff.2 ⟨by simp, fun _ => entersAt_concat_length.2 ⟨habsent, hpresent⟩, ?_⟩
  intro i hlt _ hi
  have hlength := hi.lt_length
  rw [List.length_append, List.length_singleton] at hlength
  omega

/-- A product that was in stock keeps its last entry. -/
private theorem lastEntry_concat_of_ne (hpresent : unitsAfter l sku ≠ 0) :
    lastEntry (l ++ [x]) sku = lastEntry l sku := by
  obtain ⟨hle, hentry, hlast⟩ := Nat.findGreatest_eq_iff.1 (rfl : lastEntry l sku = lastEntry l sku)
  refine Nat.findGreatest_eq_iff.2 ⟨by simp; omega, ?_, ?_⟩
  · intro hne
    exact (entersAt_concat_of_lt (hentry hne).lt_length).2 (hentry hne)
  · intro i hlt hbound hi
    rcases Nat.lt_or_ge i l.length with hold | hnew
    · exact hlast hlt (Nat.le_of_lt hold) ((entersAt_concat_of_lt hold).1 hi)
    · have hlength := hi.lt_length
      rw [List.length_append, List.length_singleton] at hlength
      obtain rfl : i = l.length := by omega
      exact hpresent (entersAt_concat_length.1 hi).1

private theorem entersAt_lastEntry (hpresent : unitsAfter l sku ≠ 0) : EntersAt l sku (lastEntry l sku) := by
  induction l using List.reverseRecOn with
  | nil => exact absurd rfl hpresent
  | append_singleton l x ih =>
    by_cases hbefore : unitsAfter l sku = 0
    · rw [lastEntry_concat hbefore hpresent]
      exact entersAt_concat_length.2 ⟨hbefore, hpresent⟩
    · rw [lastEntry_concat_of_ne hbefore]
      exact (entersAt_concat_of_lt (ih hbefore).lt_length).2 (ih hbefore)

end Entries

/-! ### One step, and all of them -/

/-- The stock is the one that the steps lead to. -/
structure Stock.FollowedBy (s : Stock) (l : List StockStep) : Prop where
  sound : Sound s
  held_eq : ∀ sku, held sku s = unitsAfter l sku
  ordered : (skus s).Pairwise (lastEntry l · < lastEntry l ·)

theorem Warehouse.step_edit {w : Warehouse} (hs : Stock.Sound w.stock) (x : StockStep) :
    Stock.Edit x.sku (Stock.held x.sku w.stock) (x.result (Stock.held x.sku w.stock)) w.stock (w.step x).stock := by
  cases x with
  | add sku units =>
    have hunits : units.toNat ≤ maxUnits := Nat.le_pred_of_lt units.toNat_lt
    exact Stock.add_edit hs sku units.toNat hunits
  | set sku units => exact Stock.set_edit hs sku units.toNat

namespace Stock

variable {s t : Stock} {l : List StockStep} {x : StockStep}

namespace FollowedBy

theorem mem_skus_iff (h : s.FollowedBy l) (sku : String) : sku ∈ skus s ↔ unitsAfter l sku ≠ 0 := by
  rw [h.sound.mem_skus_iff, h.held_eq]

/-- What is in stock came in before the next step. -/
private theorem lastEntry_eq (h : s.FollowedBy l) {sku : String} (hsku : sku ∈ skus s) :
    lastEntry (l ++ [x]) sku = lastEntry l sku :=
  lastEntry_concat_of_ne ((h.mem_skus_iff sku).1 hsku)

private theorem lastEntry_lt (h : s.FollowedBy l) {sku : String} (hsku : sku ∈ skus s) : lastEntry l sku < l.length :=
  (entersAt_lastEntry ((h.mem_skus_iff sku).1 hsku)).lt_length

/-- What is in stock is in the order it was in. -/
private theorem ordered_concat (h : s.FollowedBy l) (x : StockStep) :
    (skus s).Pairwise (lastEntry (l ++ [x]) · < lastEntry (l ++ [x]) ·) := by
  refine h.ordered.imp_of_mem ?_
  intro a b ha hb hab
  rwa [h.lastEntry_eq ha, h.lastEntry_eq hb]

theorem held_edit (h : s.FollowedBy l) (he : Edit x.sku (held x.sku s) (x.result (held x.sku s)) s t)
    (sku : String) : held sku t = unitsAfter (l ++ [x]) sku := by
  rw [unitsAfter_concat, ← h.held_eq]
  by_cases hsku : sku = x.sku
  · rw [hsku, Function.update_self, he.held_after]
  · rw [Function.update_of_ne hsku, he.held_other hsku, h.held_eq]

theorem edit (h : s.FollowedBy l) (he : Edit x.sku (held x.sku s) (x.result (held x.sku s)) s t) :
    t.FollowedBy (l ++ [x]) := by
  have hsound : Sound t := he.sound h.sound
  have hheld := h.held_edit he
  have hkept := h.ordered_concat x
  refine ⟨hsound, hheld, ?_⟩
  rcases he.skus_sublist_or with hsub | ⟨habsent, hskus⟩
  · exact hkept.sublist hsub
  · -- the product that comes into stock by this step is the last one
    have hnew : lastEntry (l ++ [x]) x.sku = l.length := by
      refine lastEntry_concat ?_ ?_
      · rw [← h.held_eq, held_of_not_mem habsent]
      · rw [← hheld, ← hsound.mem_skus_iff, hskus]
        simp
    rw [hskus, List.concat_eq_append, List.pairwise_append]
    refine ⟨hkept, List.pairwise_singleton _ _, ?_⟩
    intro a ha b hb
    obtain rfl := List.mem_singleton.1 hb
    rw [hnew, h.lastEntry_eq ha]
    exact h.lastEntry_lt ha

end FollowedBy

end Stock

theorem Warehouse.filled_followedBy (number : Int) (limit : StockLimit) (l : List StockStep) :
    (filled number limit l).stock.FollowedBy l := by
  induction l using List.reverseRecOn with
  | nil => exact ⟨Stock.Sound.nil, fun _ => rfl, List.Pairwise.nil⟩
  | append_singleton l x ih =>
    rw [filled, List.foldl_concat]
    exact ih.edit (step_edit ih.sound x)

/-! ### What the warehouse shows -/

private theorem unitsAfter_of_not_mem {l : List StockStep} {sku : String} (h : sku ∉ l.map StockStep.sku) :
    unitsAfter l sku = 0 := by
  induction l using List.reverseRecOn with
  | nil => rfl
  | append_singleton l x ih =>
    rw [List.map_append, List.mem_append, List.map_singleton, List.mem_singleton, not_or] at h
    rw [unitsAfter_concat, Function.update_of_ne h.2, ih h.1]

namespace Stock

variable {s t : Stock} {l : List StockStep}

private theorem exactTotal_eq_sum (s : Stock) : exactTotal s = (s.map (·.units)).sum := by
  induction s with
  | nil => rfl
  | cons e s ih => rw [exactTotal, ih, List.map_cons, List.sum_cons]

theorem total_perm (h : s.Perm t) : total s = total t := by
  rw [total_eq, total_eq, exactTotal_eq_sum, exactTotal_eq_sum, (h.map _).sum_eq]

namespace FollowedBy

theorem units?_eq (h : s.FollowedBy l) (sku : String) :
    units? sku s = if unitsAfter l sku = 0 then none else some (unitsAfter l sku) := by
  rw [← h.held_eq]
  exact h.sound.units?_eq sku

theorem mem_iff (h : s.FollowedBy l) (e : StockEntry) : e ∈ s ↔ e.units = unitsAfter l e.sku ∧ e.units ≠ 0 := by
  rw [h.sound.mem_iff_units?, h.units?_eq]
  split
  · rename_i h0
    simp [h0]
  · rename_i hne
    rw [Option.some_inj]
    exact ⟨fun heq => ⟨heq.symm, heq ▸ hne⟩, fun heq => heq.1.symm⟩

/-- Only products that a step names have units, and each that has some has one entry. -/
theorem exactTotal_eq (h : s.FollowedBy l) :
    exactTotal s = ∑ sku ∈ (l.map StockStep.sku).toFinset, unitsAfter l sku := by
  have hunits : s.map (·.units) = (skus s).map (unitsAfter l) := by
    rw [skus, List.map_map]
    exact List.map_congr_left fun e he => ((h.mem_iff e).1 he).1
  have hnamed : (skus s).toFinset ⊆ (l.map StockStep.sku).toFinset := by
    intro sku hsku
    rw [List.mem_toFinset] at hsku ⊢
    by_contra hnot
    exact (h.mem_skus_iff sku).1 hsku (unitsAfter_of_not_mem hnot)
  rw [exactTotal_eq_sum, hunits, ← List.sum_toFinset _ h.sound.nodup]
  refine Finset.sum_subset hnamed fun sku _ hnot => ?_
  rw [List.mem_toFinset, h.mem_skus_iff, not_not] at hnot
  exact hnot

end FollowedBy

end Stock

private theorem isGreatest_lastEntry {l : List StockStep} {sku : String} (hpresent : unitsAfter l sku ≠ 0) :
    IsGreatest {i | EntersAt l sku i} (lastEntry l sku) :=
  ⟨entersAt_lastEntry hpresent, fun _ hi => Nat.le_findGreatest (Nat.le_of_lt hi.lt_length) hi⟩

/-- The stock of a warehouse that was filled by steps is the map of the units that the steps leave, without the products
that have none.  Each product has one entry, none is empty, and the entries are in the order of the steps by which their
products last came into stock.  The total is the sum of all units, cut at `maxUnits` once, whatever the order of the
entries. -/
theorem Warehouse.filled_exact (number : Int) (limit : StockLimit) (l : List StockStep) :
    (∀ sku, (filled number limit l).units? sku = if unitsAfter l sku = 0 then none else some (unitsAfter l sku)) ∧
      (Stock.skus (filled number limit l).stock).Nodup ∧
      (∀ e, e ∈ (filled number limit l).stock ↔ e.units = unitsAfter l e.sku ∧ e.units ≠ 0) ∧
      (∀ sku ∈ Stock.skus (filled number limit l).stock, IsGreatest {i | EntersAt l sku i} (lastEntry l sku)) ∧
      (Stock.skus (filled number limit l).stock).Pairwise (lastEntry l · < lastEntry l ·) ∧
      (filled number limit l).total = min (∑ sku ∈ (l.map StockStep.sku).toFinset, unitsAfter l sku) maxUnits ∧
      ∀ s : Stock, s.Perm (filled number limit l).stock → Stock.total s = (filled number limit l).total := by
  have h := filled_followedBy number limit l
  refine ⟨h.units?_eq, h.sound.nodup, h.mem_iff, fun sku hsku => isGreatest_lastEntry ((h.mem_skus_iff sku).1 hsku),
    h.ordered, ?_, fun s hs => Stock.total_perm hs⟩
  rw [total, Stock.total_eq, h.exactTotal_eq]

/-- A product that was taken out and put back comes last. -/
example : (Warehouse.filled 1 .unbounded [.add "A" 5, .add "B" 7, .set "A" 0, .add "B" 1, .set "A" 2]).stock =
    [⟨"B", 8⟩, ⟨"A", 2⟩] := by
  decide

end Stockroom
