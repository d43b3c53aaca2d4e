import Stockroom.Proofs.Frame

/-!
# The catalog in order of introduction

The catalog lists the products that lines offered to it, each SKU once, with the name of the first offer and in the
order of the first offers (`products_run`).  One line adds the product it offers unless the SKU is taken
(`Fed.products`), and nothing else touches the catalog; together with what a line leaves alone this is `run_frame`.
-/

namespace Stockroom

open Text Inventory

/-- Of several products with one SKU the first. -/
def firstPerSku : List Product → List Product
  | [] => []
  | p :: ps => p :: (firstPerSku ps).filter (·.sku ≠ p.sku)

/-! ### The first product of each SKU -/

variable {p : Product} {ps qs : List Product}

private theorem nodup_firstPerSku (ps : List Product) : ((firstPerSku ps).map (·.sku)).Nodup := by
  induction ps with
  | nil => exact List.nodup_nil
  | cons p ps ih =>
    have hrest : (((firstPerSku ps).filter (·.sku ≠ p.sku)).map (·.sku)).Nodup :=
      ih.sublist (List.filter_sublist.map _)
    refine List.nodup_cons.2 ⟨?_, hrest⟩
    intro hmem
    obtain ⟨q, hq, heq⟩ := List.mem_map.1 hmem
    exact absurd heq (by simpa using (List.mem_filter.1 hq).2)

/-- Every product that is kept is the first of its SKU. -/
private theorem find?_of_mem_firstPerSku (h : p ∈ firstPerSku ps) : ps.find? (·.sku = p.sku) = some p := by
  induction ps with
  | nil => exact absurd h List.not_mem_nil
  | cons q ps ih =>
    rcases List.mem_cons.1 h with rfl | h
    · simp
    · obtain ⟨h, hne⟩ := List.mem_filter.1 h
      have hne : p.sku ≠ q.sku := by simpa using hne
      rw [List.find?_cons_of_neg (by simpa using Ne.symm hne)]
      exact ih h

private theorem firstPerSku_of_nodup (h : (ps.map (·.sku)).Nodup) : firstPerSku ps = ps := by
  induction ps with
  | nil => rfl
  | cons p ps ih =>
    obtain ⟨hp, h⟩ := List.nodup_cons.1 h
    rw [firstPerSku, ih h, List.filter_eq_self.2]
    intro q hq
    have hne : q.sku ≠ p.sku := fun heq => hp (List.mem_map.2 ⟨q, hq, heq⟩)
    simpa using hne

private theorem filter_firstPerSku (ps : List Product) (sku : String) :
    (firstPerSku ps).filter (·.sku ≠ sku) = firstPerSku (ps.filter (·.sku ≠ sku)) := by
  induction ps with
  | nil => rfl
  | cons p ps ih =>
    by_cases hp : p.sku = sku
    · subst hp
      rw [firstPerSku, List.filter_cons_of_neg (by simp), List.filter_cons_of_neg (by simp), ← ih,
        List.filter_filter]
      simp
    · rw [firstPerSku, List.filter_cons_of_pos (by simpa using hp), List.filter_cons_of_pos (by simpa using hp),
        firstPerSku, ← ih, List.filter_comm]

/-- A product whose SKU came before is not kept. -/
private theorem firstPerSku_append_of_mem (h : p.sku ∈ ps.map (·.sku)) :
    firstPerSku (ps ++ p :: qs) = firstPerSku (ps ++ qs) := by
  induction ps with
  | nil => exact absurd h List.not_mem_nil
  | cons q ps ih =>
    simp only [List.cons_append, firstPerSku]
    congr 1
    rcases List.mem_cons.1 h with heq | h
    · -- the first of this SKU stands in front
      rw [filter_firstPerSku, filter_firstPerSku, List.filter_append, List.filter_append,
        List.filter_cons_of_neg (by simpa using heq)]
    · rw [ih h]

/-! ### What a line offers -/

/-- The product that a command offers to the catalog. -/
def Command.product? : Command → Option Product
  | addProduct name sku => some ⟨sku, name⟩
  | _ => none

namespace Session

/-- The product that a line offers to the catalog: an answer offers none. -/
def offer? (s : Session) (line : String) : Option Product :=
  match s.pending with
  | some _ => none
  | none =>
    match Command.parse line with
    | .ok c => c.product?
    | .error _ => none

/-- The products that a sequence of lines offers, in order. -/
def offers (s : Session) : List String → List Product
  | [] => []
  | line :: lines => (s.offer? line).toList ++ (s.feed line).2.offers lines

variable {s t : Session} {line : String} {shown : Option Output}

private theorem offer?_of_pending {q : Question} (hq : s.pending = some q) : s.offer? line = none := by
  simp [offer?, hq]

private theorem offer?_of_unread {fault : Fault} (hc : Command.parse line = .error fault) : s.offer? line = none := by
  unfold offer?
  split
  · rfl
  · rw [hc]

private theorem offer?_of_parse {c : Command} (hq : s.pending = none) (hc : Command.parse line = .ok c) :
    s.offer? line = c.product? := by
  simp [offer?, hq, hc]

end Session

/-! ### What a line does to the catalog -/

namespace Inventory

variable {inv inv' : Inventory} {c : Command}

/-- A product that is refused has a SKU that is taken. -/
private theorem mem_skus_of_refused {fault : Fault} (he : inv.execute c = (.error fault, inv'))
    (hc : c.product? = some p) : p.sku ∈ inv.skus := by
  cases c with
  | addProduct name sku =>
    obtain rfl := Option.some.inj hc
    rw [execute_addProduct] at he
    split at he
    · rename_i hp
      exact mem_skus_of_product? hp
    · cases he
  | addWarehouse | stock | unstock | listProducts | listWarehouses | listWarehouse => cases hc

/-- A product that is not refused has a new SKU and comes last; no other command touches the catalog. -/
theorem Executed.products {o : Outcome} (h : Executed inv c o inv') :
    inv'.products = inv.products ++ c.product?.toList ∧ ∀ p, c.product? = some p → p.sku ∉ inv.skus := by
  cases h with
  | addProduct hp =>
    refine ⟨rfl, ?_⟩
    rintro p ⟨⟩
    exact product?_eq_none_iff.1 hp
  | addWarehouse | keepLimit | askLimit | stock | askFill | unstock | askClear | listProducts | listWarehouses |
      listWarehouse => exact ⟨(List.append_nil _).symm, fun p hp => absurd hp (by simp [Command.product?])⟩

end Inventory

namespace Session

variable {s t : Session} {line : String} {shown : Option Output}

/-- The product that a line offers is added if its SKU is new, and nothing else happens to the catalog. -/
theorem Fed.products (h : Fed s line shown t) :
    t.inventory.products = s.inventory.products ++ (s.offer? line).toList.filter (·.sku ∉ s.inventory.skus) := by
  have still : s.offer? line = none → s.inventory.products =
      s.inventory.products ++ (s.offer? line).toList.filter (·.sku ∉ s.inventory.skus) := by
    intro ho
    rw [ho]
    exact (List.append_nil _).symm
  cases h with
  | @confirmed q hq ha =>
    have happly : (s.inventory.apply q).products = s.inventory.products := by cases q <;> rfl
    rw [happly]
    exact still (offer?_of_pending hq)
  | declined hq | unrecognized hq => exact still (offer?_of_pending hq)
  | blank hq hb =>
    obtain ⟨fault, hc⟩ := parse_of_blank hb
    exact still (offer?_of_unread hc)
  | unread hq hc => exact still (offer?_of_unread hc)
  | @refused c fault inv hq hc he =>
    rw [inventory_eq_of_error he, offer?_of_parse hq hc, List.filter_eq_nil_iff.2, List.append_nil]
    intro p hp
    simpa using mem_skus_of_refused he (Option.mem_toList.1 hp)
  | @executed c o inv hq hc he =>
    obtain ⟨hproducts, hnew⟩ := (executed_of_execute he).products
    rw [offer?_of_parse hq hc, List.filter_eq_self.2]
    · exact hproducts
    · intro p hp
      simpa using hnew p (Option.mem_toList.1 hp)

theorem products_run (hs : s.Sound) (lines : List String) :
    (s.run lines).inventory.products = firstPerSku (s.inventory.products ++ s.offers lines) := by
  induction lines generalizing s with
  | nil => rw [offers, List.append_nil, firstPerSku_of_nodup hs.consistent.skus_nodup, run, List.foldl_nil]
  | cons line lines ih =>
    rw [run_cons, ih (hs.feed line), (fed_feed s line).products, offers]
    cases s.offer? line with
    | none => simp
    | some p =>
      rw [Option.toList_some, List.append_assoc, List.singleton_append]
      by_cases hp : p.sku ∈ s.inventory.skus
      · rw [firstPerSku_append_of_mem hp, List.filter_cons_of_neg (by simpa using hp), List.filter_nil, List.nil_append]
      · rw [List.filter_cons_of_pos (by simpa using hp), List.filter_nil, List.singleton_append]

/-- A command that is typed while no question waits is performed. -/
private theorem feed_of_parse {c : Command} (hq : s.pending = none) (hc : Command.parse line = .ok c) :
    s.feed line = s.perform c := by
  have hb : (trim line.toList).isEmpty = false := by
    rw [List.isEmpty_eq_false_iff]
    intro hb
    obtain ⟨fault, hf⟩ := parse_of_blank hb
    rw [hc] at hf
    cases hf
  simp [feed, hq, command, hb, hc]

private theorem perform_listProducts (hq : s.pending = none) :
    s.perform .listProducts = (if s.inventory.products = [] then none
      else some (.table none (s.inventory.products.map Output.productRow)), s) := by
  have hs : (⟨s.inventory, none⟩ : Session) = s := by rw [← hq]
  simp [perform, execute_listProducts, Output.ofListing, Output.isEmpty, hs]

/-- A line keeps all that is there in its order, adds at most one product or one warehouse at the end, and changes at
most one warehouse, in its limit or in one product.  So the listing of the products shows each SKU once, with the name
under which it was first offered, in the order of the first offers. -/
theorem run_frame (lines : List String) :
    let s := new.run lines
    let listed := firstPerSku (new.offers lines)
    (∀ line, Framed s.inventory (s.feed line).2.inventory) ∧
      s.inventory.products = listed ∧ (listed.map (·.sku)).Nodup ∧
      (∀ p ∈ listed, (new.offers lines).find? (·.sku = p.sku) = some p) ∧
      ∀ line, s.pending = none → Command.parse line = .ok .listProducts →
        s.feed line = (if listed = [] then none else some (.table none (listed.map Output.productRow)), s) := by
  intro s listed
  have hs : s.Sound := sound_run lines
  have hproducts : s.inventory.products = listed := products_run sound_new lines
  refine ⟨fun line => ((fed_feed s line).step hs).framed, hproducts, nodup_firstPerSku _,
    fun p hp => find?_of_mem_firstPerSku hp, ?_⟩
  intro line hq hc
  rw [feed_of_parse hq hc, perform_listProducts hq, hproducts]

/-- A SKU is offered twice, and listed once with its first name. -/
theorem run_frame_offers :
    let lines := ["ADD PRODUCT \"Blue Widget\" W1", "ADD WAREHOUSE 1", "ADD PRODUCT Bolt B2", "ADD PRODUCT Other W1"]
    new.offers lines = [⟨"W1", "Blue Widget"⟩, ⟨"B2", "Bolt"⟩, ⟨"W1", "Other"⟩] ∧
      (new.run lines).inventory.products = [⟨"W1", "Blue Widget"⟩, ⟨"B2", "Bolt"⟩] ∧
      Framed (new.run lines).inventory ((new.run lines).feed "STOCK W1 1 3").2.inventory := by
  intro lines
  have hoffers : new.offers lines = [⟨"W1", "Blue Widget"⟩, ⟨"B2", "Bolt"⟩, ⟨"W1", "Other"⟩] := by decide +kernel
  obtain ⟨hframed, hproducts, -⟩ := run_frame lines
  rw [hoffers] at hproducts
  exact ⟨hoffers, hproducts, hframed "STOCK W1 1 3"⟩

end Session

end Stockroom
