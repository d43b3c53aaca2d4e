import Stockroom.Proofs.Invariant

/-!
# The ledger of a session

The units of a product in a warehouse are, at every moment, what came in less what went out (`run_ledger`): what
`STOCK` commands and answers to questions about remaining room brought, less what `UNSTOCK` commands and answers to
questions about clearing took away, summed over the lines without any bound.  One line changes what is held by the
movement it makes and by nothing else (`Fed.held`); the rest is induction over the lines.
-/

namespace Stockroom

open Inventory

variable {warehouse : Int} {sku : String}

/-- The units that movements of one kind moved, of one product in one warehouse. -/
def moved (kind : MovementKind) (warehouse : Int) (sku : String) : List Movement → Int
  | [] => 0
  | m :: ms =>
    (if m.kind = kind ∧ m.warehouse = warehouse ∧ m.sku = sku then m.units else 0) + moved kind warehouse sku ms

/-- The change that a movement makes to one product in one warehouse. -/
def Movement.changeAt (warehouse : Int) (sku : String) (m : Movement) : Int :=
  if m.warehouse = warehouse ∧ m.sku = sku then m.change else 0

/-- The change that movements make together. -/
def balance (warehouse : Int) (sku : String) : List Movement → Int
  | [] => 0
  | m :: ms => m.changeAt warehouse sku + balance warehouse sku ms

private theorem balance_append (ms more : List Movement) :
    balance warehouse sku (ms ++ more) = balance warehouse sku ms + balance warehouse sku more := by
  induction ms with
  | nil => exact (Int.zero_add _).symm
  | cons m ms ih => rw [List.cons_append, balance, ih, balance, Int.add_assoc]

/-- What came in less what went out. -/
private theorem balance_eq_moved (ms : List Movement) :
    balance warehouse sku ms =
      moved .stocked warehouse sku ms + moved .filledUp warehouse sku ms -
        moved .unstocked warehouse sku ms - moved .clearedOut warehouse sku ms := by
  induction ms with
  | nil => rfl
  | cons m ms ih =>
    simp only [balance, moved, ih, Movement.changeAt]
    by_cases hat : m.warehouse = warehouse ∧ m.sku = sku
    · cases hk : m.kind <;>
        simp only [Movement.change, MovementKind.isEntry, hk, hat, and_self, if_true, reduceCtorEq, false_and,
          if_false, Bool.false_eq_true] <;> omega
    · simp only [hat, and_false, if_false]
      omega

/-! ### One line -/

/-- A change of units and the movement that stands for it. -/
private theorem held_of_restocked {inv inv' : Inventory} {mv : Movement} {m n : Nat}
    (h : Restocked mv.warehouse mv.sku m n inv inv') (hc : mv.change = (n : Int) - m) (warehouse : Int)
    (sku : String) : (inv'.held warehouse sku : Int) = inv.held warehouse sku + balance warehouse sku [mv] := by
  have hb : balance warehouse sku [mv] = mv.changeAt warehouse sku := Int.add_zero _
  rw [h.held_eq, hb, Movement.changeAt]
  -- only the product that was moved, in the warehouse where it was moved, has changed
  by_cases hat : warehouse = mv.warehouse ∧ sku = mv.sku
  · obtain ⟨rfl, rfl⟩ := hat
    rw [h.held_before, if_pos ⟨rfl, rfl⟩, if_pos ⟨rfl, rfl⟩, hc]
    omega
  · rw [if_neg hat, if_neg fun h => hat ⟨h.1.symm, h.2.symm⟩, Int.add_zero]

/-- What a question proposes moves what its movement says. -/
private theorem held_apply {inv : Inventory} {q : Question} (hi : inv.Consistent) (hq : q.Current inv)
    (warehouse : Int) (sku : String) :
    ((inv.apply q).held warehouse sku : Int) =
      inv.held warehouse sku + balance warehouse sku q.movement?.toList := by
  have hf := Question.fulfilled_apply hi hq
  cases q with
  | changeLimit number old new =>
    obtain ⟨w, hw, hr⟩ := hf
    rw [hr.held_relimit hw]
    exact (Int.add_zero _).symm
  | fillUp sku' number held limit requested room =>
    obtain ⟨w, stock, hw, hr, he, -⟩ := hf
    refine held_of_restocked ⟨w, stock, hw, hr, he⟩ ?_ warehouse sku
    simp only [Movement.change, MovementKind.isEntry, if_true]
    omega
  | clearOut sku' number held =>
    have hr : Restocked number sku' held 0 inv (inv.apply (.clearOut sku' number held)) := hf
    refine held_of_restocked hr ?_ warehouse sku
    simp only [Movement.change, MovementKind.isEntry, Bool.false_eq_true, if_false]
    omega

/-- A command that is done moves what its movement says. -/
private theorem held_done {inv inv' : Inventory} {c : Command} (hi : inv.Consistent)
    (h : Executed inv c .done inv') (warehouse : Int) (sku : String) :
    (inv'.held warehouse sku : Int) = inv.held warehouse sku + balance warehouse sku c.movement?.toList := by
  cases h with
  | addProduct hp =>
    rw [held_addProduct]
    exact (Int.add_zero _).symm
  | addWarehouse hl hw =>
    rw [held_addWarehouse hw]
    exact (Int.add_zero _).symm
  | keepLimit hl hw => exact (Int.add_zero _).symm
  | stock hq hp hw hcount ha =>
    obtain ⟨-, hr⟩ := (Executed.stock hq hp hw hcount ha).stocked hi
    refine held_of_restocked hr ?_ warehouse sku
    simp only [Movement.change, MovementKind.isEntry, if_true]
    omega
  | unstock hq hw hs hle =>
    obtain ⟨-, -, hheld, hr⟩ := (Executed.unstock hq hw hs hle).unstocked hi.toWellFormed
    refine held_of_restocked hr ?_ warehouse sku
    simp only [Movement.change, MovementKind.isEntry, Bool.false_eq_true, if_false]
    omega

namespace Session

variable {s t : Session} {line : String} {shown : Option Output}

/-- A line changes what is held by the movement it makes. -/
theorem Fed.held (h : Fed s line shown t) (hs : s.Sound) (warehouse : Int) (sku : String) :
    (t.inventory.held warehouse sku : Int) =
      s.inventory.held warehouse sku + balance warehouse sku (s.movement? line).toList := by
  -- where the inventory stays, it is enough that nothing is moved
  have still : s.movement? line = none → (s.inventory.held warehouse sku : Int) =
      s.inventory.held warehouse sku + balance warehouse sku (s.movement? line).toList := by
    intro hm
    rw [hm]
    exact (Int.add_zero _).symm
  cases h with
  | confirmed hq ha =>
    rw [movement?_confirmed hq ha]
    exact held_apply hs.consistent (hs.current _ hq) warehouse sku
  | declined hq ha | unrecognized hq ha => exact still (movement?_not_confirmed hq (by simp [ha]))
  | blank hq hb => exact still (movement?_blank hq hb)
  | unread hq hc => exact still (movement?_unread hq hc)
  | refused hq hc he =>
    rw [show (⟨_, none⟩ : Session) = s from eq_of_refused hq he]
    exact still (movement?_refused hq hc he)
  | @executed c o inv hq hc he =>
    have hex := executed_of_execute he
    by_cases ho : o = .done
    · subst ho
      rw [movement?_executed hq hc he, if_pos rfl]
      exact held_done hs.consistent hex warehouse sku
    · have hm : s.movement? line = none := by rw [movement?_executed hq hc he, if_neg ho]
      rw [show (⟨inv, o.question?⟩ : Session).inventory = s.inventory from hex.inventory_eq ho]
      exact still hm

/-- Over any lines, what is held changes by the balance of the movements. -/
theorem held_run (hs : s.Sound) (lines : List String) (warehouse : Int) (sku : String) :
    ((s.run lines).inventory.held warehouse sku : Int) =
      s.inventory.held warehouse sku + balance warehouse sku (s.movements lines) := by
  induction lines generalizing s with
  | nil => exact (Int.add_zero _).symm
  | cons line lines ih =>
    rw [run_cons, ih (hs.feed line), (fed_feed s line).held hs, movements, balance_append]
    omega

/-- The units held are what came in less what went out, and a product is in stock unless this is zero.  A line that
makes something appear adds nothing to the account, and an answer adds what its question proposes, if it is yes. -/
theorem run_ledger (lines : List String) (warehouse : Int) (sku : String) :
    let ms := new.movements lines
    let units? := (new.run lines).inventory.units? warehouse sku
    let expected := moved .stocked warehouse sku ms + moved .filledUp warehouse sku ms -
      moved .unstocked warehouse sku ms - moved .clearedOut warehouse sku ms
    ((units?.getD 0 : Nat) : Int) = expected ∧ (units? = none ↔ expected = 0) ∧
      (∀ line, ((new.run lines).feed line).1 ≠ none → new.movements (lines ++ [line]) = ms) ∧
      ∀ q line, (new.run lines).pending = some q →
        new.movements (lines ++ [line]) = ms ++ if Answer.read line = .yes then q.movement?.toList else [] := by
  intro ms units? expected
  have hb : balance warehouse sku ms = expected := balance_eq_moved ms
  have hheld : ((new.run lines).inventory.held warehouse sku : Int) = expected := by
    rw [held_run sound_new, ← hb]
    exact Int.zero_add _
  have hnone := (sound_run lines).consistent.units?_eq_none_iff warehouse sku
  have hsnoc : ∀ line, new.movements (lines ++ [line]) = ms ++ ((new.run lines).movement? line).toList := by
    intro line
    rw [movements_append, movements, movements, List.append_nil]
  refine ⟨hheld, ?_, ?_, ?_⟩
  · rw [hnone, ← hheld]
    omega
  · intro line hshown
    obtain ⟨output, ho⟩ := Option.ne_none_iff_exists'.1 hshown
    rw [hsnoc, movement?_of_shown (ho ▸ fed_feed (new.run lines) line)]
    exact List.append_nil ms
  · intro q line hq
    rw [hsnoc]
    split
    · rename_i ha
      rw [movement?_confirmed hq ha]
    · rename_i ha
      rw [movement?_not_confirmed hq ha]
      rfl

/-- Four units come in and six more on `y`; three are taken out and the other seven on `y`. -/
theorem run_ledger_cleared :
    let lines := ["ADD PRODUCT Widget W1", "ADD WAREHOUSE 1 10", "STOCK W1 1 4", "STOCK W1 1 15", "y", "UNSTOCK W1 1 3",
      "UNSTOCK W1 1 8", "y"]
    new.movements lines = [⟨.stocked, "W1", 1, 4⟩, ⟨.filledUp, "W1", 1, 6⟩, ⟨.unstocked, "W1", 1, 3⟩,
      ⟨.clearedOut, "W1", 1, 7⟩] ∧ (new.run lines).inventory.units? 1 "W1" = none := by
  intro lines
  have hmoved : new.movements lines = [⟨.stocked, "W1", 1, 4⟩, ⟨.filledUp, "W1", 1, 6⟩, ⟨.unstocked, "W1", 1, 3⟩,
      ⟨.clearedOut, "W1", 1, 7⟩] := by decide +kernel
  obtain ⟨-, habsent, -⟩ := run_ledger lines 1 "W1"
  rw [hmoved] at habsent
  exact ⟨hmoved, habsent.mpr (by decide)⟩

end Session

end Stockroom
