import Stockroom.Proofs.Movement
import Stockroom.Proofs.Question
import Stockroom.Proofs.Restocked

/-!
# The invariant of a session

A session is sound if its inventory is consistent and the question that waits, if one does, is current.  The second
half is what makes the first one last: a question is answered without a second look at the inventory.  Every line
keeps a session sound (`Sound.feed`), so all sessions that start new are (`sound_run`): their totals and additions are
never cut (`run_consistent`), and a question is always about the inventory as it is (`run_current`).
-/

namespace Stockroom

open Inventory

/-! ### Commands -/

/-- A limit that could be typed is legal. -/
private theorem legal_of_readLimit {number : Int} {typed : Option Int} {limit : StockLimit}
    (hl : readLimit typed = .ok limit) (hc : (Command.addWarehouse number typed).Typable) : limit.Legal := by
  cases limit with
  | unbounded => trivial
  | upTo n =>
    obtain ⟨hpos, rfl⟩ := readLimit_upTo hl
    have hle : (n : Int) ≤ maxNumber := hc
    exact ⟨hpos, Int.ofNat_le.1 hle⟩

namespace Inventory.Executed

variable {inv inv' : Inventory} {c : Command} {o : Outcome}

/-- A command that could be typed keeps the inventory consistent. -/
theorem consistent (h : Executed inv c o inv') (hi : inv.Consistent) (hc : c.Typable) : inv'.Consistent := by
  cases h with
  | addProduct hp => exact hi.addProduct hp
  | addWarehouse hl hw => exact hi.addWarehouse hw (legal_of_readLimit hl hc)
  | stock hq hp hw hcount ha =>
    have hex := Executed.stock hq hp hw hcount ha
    refine (hex.stocked hi).2.consistent hi (mem_skus_of_product? hp) fun w hw => ?_
    have hfit := (hex.stock_fits hi hw).2
    omega
  | unstock hq hw hs hle =>
    obtain ⟨-, hpos, -, hr⟩ := (Executed.unstock hq hw hs hle).unstocked hi.toWellFormed
    -- the catalog was not looked at, but only its products are in stock
    refine hr.consistent hi (hi.mem_skus_of_held_pos hpos) fun w hw => ?_
    have hfit := hi.fits w (mem_of_warehouse? hw)
    omega
  | keepLimit | askLimit | askFill | askClear | listProducts | listWarehouses | listWarehouse => exact hi

/-- A question is asked about the inventory as it is. -/
theorem current {q : Question} (h : Executed inv c (.asked q) inv') (hi : inv.Consistent) (hc : c.Typable) :
    q.Current inv' := by
  cases h with
  | @askLimit number typed limit w hl hw hne ha =>
    rw [hi.total_eq (mem_of_warehouse? hw)] at ha
    exact ⟨w, hw, rfl, hne, legal_of_readLimit hl hc, ha⟩
  | @askFill sku number quantity p w limit hq hp hw hl hover hroom =>
    have htotal := hi.total_eq (mem_of_warehouse? hw)
    exact ⟨mem_skus_of_product? hp, w, hw, hl, htotal.symm, rfl, by omega, by omega⟩
  | @askClear sku number quantity w held hq hw hs hlt =>
    have hmem : w ∈ inv.warehouses := mem_of_warehouse? hw
    exact ⟨w, hw, hs, (hi.stock_sound w hmem).pos _ (Stock.mem_of_units? hs)⟩

end Inventory.Executed

/-! ### Sessions -/

namespace Session

structure Sound (s : Session) : Prop where
  consistent : s.inventory.Consistent
  current : ∀ q, s.pending = some q → q.Current s.inventory

theorem sound_new : Sound new :=
  ⟨.empty, fun _ hq => absurd hq (by simp [new])⟩

theorem Fed.sound {s t : Session} {line : String} {shown : Option Output} (h : Fed s line shown t) (hs : s.Sound) :
    t.Sound := by
  have settled : ∀ {inv : Inventory}, inv.Consistent → Sound ⟨inv, none⟩ :=
    fun hi => ⟨hi, fun _ hq => absurd hq (by simp)⟩
  cases h with
  | confirmed hq ha =>
    have hok := (hs.current _ hq).admissible hs.consistent
    exact settled (hok.consistent hs.consistent)
  | declined | unrecognized => exact settled hs.consistent
  | blank | unread => exact hs
  | refused hq hc he => exact eq_of_refused hq he ▸ hs
  | @executed c o inv hq hc he =>
    have htyped : c.Typable := typable_of_parse hc
    have hex := executed_of_execute he
    refine ⟨hex.consistent hs.consistent htyped, ?_⟩
    intro q hpending
    cases o with
    | done | listing l => cases hpending
    | asked q' =>
      cases hpending
      exact hex.current hs.consistent htyped

theorem Sound.feed {s : Session} (hs : s.Sound) (line : String) : (s.feed line).2.Sound :=
  (fed_feed s line).sound hs

theorem sound_run (lines : List String) : (new.run lines).Sound :=
  run_induction (fun _ line hs => hs.feed line) sound_new lines

/-- Units that go in can be counted on top of those that are there. -/
theorem Sound.entry_le {s : Session} (hs : s.Sound) {line : String} {m : Movement} (hm : s.movement? line = some m)
    (hk : m.kind.isEntry = true) : s.inventory.held m.warehouse m.sku + m.units.toNat ≤ maxUnits := by
  have hi := hs.consistent
  rcases movement?_eq_some hm with ⟨q, hq, hm⟩ | ⟨c, inv, -, he, hm⟩
  · have hcur := hs.current q hq
    cases q with
    | changeLimit number old new => cases hm
    | fillUp sku number held limit requested room =>
      cases hm
      -- the total and the room make the limit, and a limit can be counted
      obtain ⟨-, w, hw, hl, hheld, hroom, hpos, -⟩ := hcur
      have hle := Stock.held_le_exactTotal sku w.stock
      have hcap := (hi.limit_legal w (mem_of_warehouse? hw)).capacity_le
      rw [hl, StockLimit.capacity] at hcap
      show s.inventory.held number sku + (room : Int).toNat ≤ maxUnits
      rw [held_of_warehouse? hw, Int.toNat_natCast]
      omega
    | clearOut sku number held =>
      cases hm
      cases hk
  · have hex := executed_of_execute he
    cases hex with
    | @stock sku number quantity p w hq hp hw hc ha =>
      cases hm
      have hle := Stock.held_le_exactTotal sku w.stock
      rw [hi.total_eq (mem_of_warehouse? hw)] at hc
      show s.inventory.held number sku + quantity.toNat ≤ maxUnits
      rw [held_of_warehouse? hw]
      omega
    | unstock =>
      cases hm
      cases hk
    | addProduct | addWarehouse | keepLimit => cases hm

/-- Whatever the lines, the inventory is consistent, its totals are exact, its listings name every product, and no
addition to it is cut. -/
theorem run_consistent (lines : List String) :
    let s := new.run lines
    s.inventory.Consistent ∧
      (∀ w ∈ s.inventory.warehouses, w.total = Stock.exactTotal w.stock ∧
        ∀ row ∈ s.inventory.stockRows w, row.name.isSome) ∧
      ∀ line m, s.movement? line = some m → m.kind.isEntry = true →
        addUnits (s.inventory.held m.warehouse m.sku) m.units.toNat =
          s.inventory.held m.warehouse m.sku + m.units.toNat := by
  intro s
  have hs : s.Sound := sound_run lines
  refine ⟨hs.consistent, ?_, ?_⟩
  · intro w hw
    exact ⟨hs.consistent.total_eq hw, fun row hr => hs.consistent.name_isSome hw hr⟩
  · intro line m hm hk
    exact Nat.min_eq_left (hs.entry_le hm hk)

/-- A question that waits is about the inventory as it is, and yes makes the change it proposes and no other. -/
theorem run_current {lines : List String} {q : Question} (hq : (new.run lines).pending = some q) :
    q.Current (new.run lines).inventory ∧
      ∀ line, Answer.read line = .yes → ∃ inv, (new.run lines).feed line = (none, ⟨inv, none⟩) ∧
        q.Fulfilled (new.run lines).inventory inv := by
  have hs := sound_run lines
  have hcur := hs.current q hq
  refine ⟨hcur, ?_⟩
  intro line ha
  refine ⟨(new.run lines).inventory.apply q, ?_, Question.fulfilled_apply hs.consistent hcur⟩
  simp [feed, answer, hq, ha, resolve]

/-- Fifteen units are asked for where six still fit; `y` stocks the six. -/
theorem run_current_fillUp :
    let s := new.run ["ADD PRODUCT Widget W1", "ADD WAREHOUSE 1 10", "STOCK W1 1 4", "STOCK W1 1 15"]
    let q := Question.fillUp "W1" 1 4 10 15 6
    s.pending = some q ∧ q.Current s.inventory ∧ Answer.read "y" = .yes ∧
      ∃ inv, s.feed "y" = (none, ⟨inv, none⟩) ∧ q.Fulfilled s.inventory inv := by
  intro s q
  have hq : s.pending = some q := by decide
  have hy : Answer.read "y" = .yes := by decide
  obtain ⟨hcur, hyes⟩ := run_current hq
  exact ⟨hq, hcur, hy, hyes "y" hy⟩

end Session

end Stockroom
