import Mathlib.Data.List.Basic
import Mathlib.Data.List.Nodup
import Stockroom.Inventory.Warehouse

/-!
# Edits of a stock

A stock is sound if no product has two entries and no entry is empty, so that a product without units has no entry.
`Edit sku m n s t` says that `t` is `s` with the units of one product changed from `m` to `n` and every other entry
kept in its place.  Both operations on a stock are edits (`add_edit`, `set_edit`), and what an edit does to the
entries, the units and the total is proved once, from its four cases.  The units before and after determine an edit
(`Edit.unique`), and two edits of one product make one (`Edit.trans`).
-/

namespace Stockroom.Stock

/-- The products of a stock, in their order. -/
def skus (s : Stock) : List String :=
  s.map (·.sku)

/-- The units of a product; none if it is not in stock. -/
def held (sku : String) (s : Stock) : Nat :=
  (units? sku s).getD 0

/-- No product has two entries, and no entry is empty. -/
structure Sound (s : Stock) : Prop where
  nodup : (skus s).Nodup
  pos : ∀ e ∈ s, 0 < e.units

/-- Changes the units of one product from `m` to `n`; a new entry comes last, and an empty one is left out. -/
inductive Edit (sku : String) : Nat → Nat → Stock → Stock → Prop
  | absent {s : Stock} (hs : sku ∉ skus s) : Edit sku 0 0 s s
  | added {s : Stock} {n : Nat} (hs : sku ∉ skus s) (hn : 0 < n) : Edit sku 0 n s (s ++ [⟨sku, n⟩])
  | changed {s t : Stock} {m n : Nat} (hs : sku ∉ skus s) (ht : sku ∉ skus t) (hm : 0 < m) (hn : 0 < n) :
      Edit sku m n (s ++ ⟨sku, m⟩ :: t) (s ++ ⟨sku, n⟩ :: t)
  | removed {s t : Stock} {m : Nat} (hs : sku ∉ skus s) (ht : sku ∉ skus t) (hm : 0 < m) :
      Edit sku m 0 (s ++ ⟨sku, m⟩ :: t) (s ++ t)

/-! ### Products, units and totals of a list of entries -/

private theorem skus_cons (e : StockEntry) (s : Stock) : skus (e :: s) = e.sku :: skus s := rfl

private theorem skus_append (s t : Stock) : skus (s ++ t) = skus s ++ skus t :=
  List.map_append

private theorem units?_append (sku : String) (s t : Stock) :
    units? sku (s ++ t) = (units? sku s).or (units? sku t) := by
  induction s with
  | nil => rfl
  | cons e s ih =>
    rw [List.cons_append, units?, units?, ih]
    split <;> rfl

theorem units?_eq_none_iff {sku : String} {s : Stock} : units? sku s = none ↔ sku ∉ skus s := by
  induction s with
  | nil => simp [units?, skus]
  | cons e s ih =>
    unfold units?
    rw [skus_cons, List.mem_cons, not_or]
    split
    · rename_i h
      simp [h]
    · rename_i h
      rw [ih]
      exact ⟨fun hs => ⟨Ne.symm h, hs⟩, fun hs => hs.2⟩

theorem mem_of_units? {sku : String} {s : Stock} {n : Nat} (h : units? sku s = some n) : ⟨sku, n⟩ ∈ s := by
  induction s with
  | nil => simp [units?] at h
  | cons e s ih =>
    unfold units? at h
    split at h
    · rename_i he
      obtain rfl := Option.some.inj h
      subst he
      exact List.mem_cons_self
    · exact List.mem_cons_of_mem _ (ih h)

private theorem exactTotal_append (s t : Stock) : exactTotal (s ++ t) = exactTotal s + exactTotal t := by
  induction s with
  | nil => simp [exactTotal]
  | cons e s ih =>
    rw [List.cons_append, exactTotal, exactTotal, ih]
    omega

theorem held_le_exactTotal (sku : String) (s : Stock) : held sku s ≤ exactTotal s := by
  induction s with
  | nil => simp [held, units?, exactTotal]
  | cons e s ih =>
    unfold held units? exactTotal
    split
    · simp
    · exact Nat.le_trans ih (Nat.le_add_left _ _)

theorem held_of_not_mem {sku : String} {s : Stock} (h : sku ∉ skus s) : held sku s = 0 := by
  rw [held, units?_eq_none_iff.2 h]
  rfl

theorem held_of_units? {sku : String} {s : Stock} {n : Nat} (h : units? sku s = some n) : held sku s = n := by
  rw [held, h]
  rfl

private theorem held_cons_self (sku : String) (n : Nat) (s : Stock) : held sku (⟨sku, n⟩ :: s) = n := by
  simp [held, units?]

private theorem held_cons_of_ne {sku : String} {e : StockEntry} (h : e.sku ≠ sku) (s : Stock) :
    held sku (e :: s) = held sku s := by
  simp [held, units?, h]

namespace Sound

theorem nil : Sound [] :=
  ⟨List.nodup_nil, fun _ he => absurd he List.not_mem_nil⟩

theorem tail {e : StockEntry} {s : Stock} (h : Sound (e :: s)) : Sound s :=
  ⟨(List.nodup_cons.1 h.nodup).2, fun x hx => h.pos x (List.mem_cons_of_mem _ hx)⟩

private theorem head_not_mem {e : StockEntry} {s : Stock} (h : Sound (e :: s)) : e.sku ∉ skus s :=
  (List.nodup_cons.1 h.nodup).1

private theorem head_pos {e : StockEntry} {s : Stock} (h : Sound (e :: s)) : 0 < e.units :=
  h.pos e List.mem_cons_self

/-- A product is in stock exactly if it has units. -/
theorem units?_eq_none_iff_held {s : Stock} (h : Sound s) (sku : String) :
    units? sku s = none ↔ held sku s = 0 := by
  constructor
  · intro hn
    simp [held, hn]
  · intro h0
    cases hu : units? sku s with
    | none => rfl
    | some n =>
      have hpos : 0 < n := h.pos _ (mem_of_units? hu)
      rw [held, hu] at h0
      exact absurd h0 (Nat.ne_of_gt hpos)

theorem mem_skus_iff {s : Stock} (h : Sound s) (sku : String) : sku ∈ skus s ↔ held sku s ≠ 0 := by
  rw [ne_eq, ← h.units?_eq_none_iff_held, units?_eq_none_iff, not_not]

theorem units?_eq {s : Stock} (h : Sound s) (sku : String) :
    units? sku s = if held sku s = 0 then none else some (held sku s) := by
  split
  · rename_i h0
    exact (h.units?_eq_none_iff_held sku).2 h0
  · rename_i hne
    obtain ⟨n, hn⟩ := Option.ne_none_iff_exists'.1 (mt (h.units?_eq_none_iff_held sku).1 hne)
    rw [hn, held_of_units? hn]

/-- The entries are the view. -/
theorem mem_iff_units? {s : Stock} (h : Sound s) (e : StockEntry) : e ∈ s ↔ units? e.sku s = some e.units := by
  refine ⟨fun he => ?_, mem_of_units?⟩
  induction s with
  | nil => exact absurd he List.not_mem_nil
  | cons a s ih =>
    rcases List.mem_cons.1 he with rfl | he
    · exact if_pos rfl
    · have hne : a.sku ≠ e.sku := fun heq => h.head_not_mem (heq ▸ List.mem_map_of_mem he)
      rw [units?, if_neg hne]
      exact ih h.tail he

end Sound

/-! ### What an edit does -/

namespace Edit

variable {sku other : String} {m n : Nat} {s t : Stock}

/-- An edit below another product's entry. -/
theorem cons {e : StockEntry} (he : e.sku ≠ sku) (h : Edit sku m n s t) : Edit sku m n (e :: s) (e :: t) := by
  have hcons : ∀ {l : Stock}, sku ∉ skus l → sku ∉ skus (e :: l) := by
    intro l hl
    rw [skus_cons, List.mem_cons, not_or]
    exact ⟨Ne.symm he, hl⟩
  cases h with
  | absent hs => exact .absent (hcons hs)
  | added hs hn => exact .added (hcons hs) hn
  | changed hs ht hm hn => exact .changed (s := e :: _) (hcons hs) ht hm hn
  | removed hs ht hm => exact .removed (s := e :: _) (hcons hs) ht hm

theorem held_before (h : Edit sku m n s t) : held sku s = m := by
  cases h with
  | absent hs | added hs => exact held_of_not_mem hs
  | changed hs | removed hs => simp [held, units?_append, units?_eq_none_iff.2 hs, units?]

theorem held_after (h : Edit sku m n s t) : held sku t = n := by
  cases h with
  | absent hs => exact held_of_not_mem hs
  | added hs | changed hs => simp [held, units?_append, units?_eq_none_iff.2 hs, units?]
  | removed hs ht => simp [held, units?_append, units?_eq_none_iff.2 hs, units?_eq_none_iff.2 ht]

theorem units?_before (h : Edit sku m n s t) : units? sku s = if m = 0 then none else some m := by
  cases h with
  | absent hs | added hs => simp [units?_eq_none_iff.2 hs]
  | changed hs _ hm | removed hs _ hm => simp [units?_append, units?_eq_none_iff.2 hs, units?, Nat.ne_of_gt hm]

theorem units?_after (h : Edit sku m n s t) : units? sku t = if n = 0 then none else some n := by
  cases h with
  | absent hs => simp [units?_eq_none_iff.2 hs]
  | added hs hn | changed hs _ _ hn => simp [units?_append, units?_eq_none_iff.2 hs, units?, Nat.ne_of_gt hn]
  | removed hs ht => simp [units?_append, units?_eq_none_iff.2 hs, units?_eq_none_iff.2 ht]

/-- An edit that changes the units changes the stock. -/
theorem ne (h : Edit sku m n s t) (hmn : m ≠ n) : t ≠ s := by
  rintro rfl
  exact hmn (h.held_before.symm.trans h.held_after)

/-- No other product is touched. -/
theorem units?_other (h : Edit sku m n s t) (hne : other ≠ sku) : units? other t = units? other s := by
  cases h <;> simp [units?_append, units?, Ne.symm hne]

theorem held_other (h : Edit sku m n s t) (hne : other ≠ sku) : held other t = held other s := by
  rw [held, h.units?_other hne, held]

theorem exactTotal_eq (h : Edit sku m n s t) : exactTotal t + m = exactTotal s + n := by
  cases h <;> simp only [exactTotal_append, exactTotal] <;> omega

/-- The products keep their order: at most the one is left out, or it is new and comes last. -/
theorem skus_sublist_or (h : Edit sku m n s t) :
    (skus t).Sublist (skus s) ∨ sku ∉ skus s ∧ skus t = (skus s).concat sku := by
  cases h with
  | absent => exact .inl (List.Sublist.refl _)
  | added hs => exact .inr ⟨hs, by simp [skus]⟩
  | changed =>
    rw [skus_append, skus_append, skus_cons, skus_cons]
    exact .inl (List.Sublist.refl _)
  | removed =>
    rw [skus_append, skus_append, skus_cons]
    exact .inl (List.Sublist.append_left (List.sublist_cons_self _ _) _)

theorem mem_skus (h : Edit sku m n s t) (hx : other ∈ skus t) : other = sku ∨ other ∈ skus s := by
  rcases h.skus_sublist_or with hsub | ⟨-, hnew⟩
  · exact .inr (hsub.subset hx)
  · rw [hnew, List.concat_eq_append, List.mem_append, List.mem_singleton] at hx
    exact hx.symm

theorem sound (h : Edit sku m n s t) (hs : Sound s) : Sound t := by
  obtain ⟨hnd, hpos⟩ := hs
  refine ⟨?_, ?_⟩
  · rcases h.skus_sublist_or with hsub | ⟨hsku, hnew⟩
    · exact hnd.sublist hsub
    · rw [hnew]
      exact .concat hsku hnd
  · intro e he
    cases h with
    | absent => exact hpos e he
    | added _ hn =>
      rcases List.mem_append.1 he with he | he
      · exact hpos e he
      · rw [List.mem_singleton.1 he]
        exact hn
    | changed _ _ _ hn =>
      rcases List.mem_append.1 he with he | he
      · exact hpos e (List.mem_append_left _ he)
      · rcases List.mem_cons.1 he with rfl | he
        · exact hn
        · exact hpos e (List.mem_append_right _ (List.mem_cons_of_mem _ he))
    | removed =>
      rcases List.mem_append.1 he with he | he
      · exact hpos e (List.mem_append_left _ he)
      · exact hpos e (List.mem_append_right _ (List.mem_cons_of_mem _ he))

/-- The units before and after say which edit it was. -/
theorem unique {u : Stock} (h : Edit sku m n s t) (h' : Edit sku m n s u) : u = t := by
  have hne : ∀ {l : Stock} {k : Nat}, sku ∉ skus l → ⟨sku, k⟩ ∉ l := fun hl hmem => hl (List.mem_map_of_mem hmem)
  cases h with
  | absent hs =>
    cases h' with
    | absent => rfl
    | added _ hpos | changed _ _ hpos | removed _ _ hpos => exact absurd hpos (Nat.lt_irrefl 0)
  | added hs hn =>
    cases h' with
    | absent => exact absurd hn (Nat.lt_irrefl 0)
    | added => rfl
    | changed _ _ hpos | removed _ _ hpos => exact absurd hpos (Nat.lt_irrefl 0)
  | @changed before after m n hb ha hm hn =>
    -- the product has one entry, so the stock can be split at it in one way only
    generalize hsplit : before ++ ⟨sku, m⟩ :: after = l at h'
    cases h' with
    | absent | added => exact absurd hm (Nat.lt_irrefl 0)
    | changed hb' ha' =>
      obtain ⟨rfl, -, rfl⟩ := (List.append_cons_inj_of_notMem (hne hb) (hne ha)).1 hsplit
      rfl
    | removed => exact absurd hn (Nat.lt_irrefl 0)
  | @removed before after m hb ha hm =>
    generalize hsplit : before ++ ⟨sku, m⟩ :: after = l at h'
    cases h' with
    | absent | added => exact absurd hm (Nat.lt_irrefl 0)
    | changed _ _ _ hpos => exact absurd hpos (Nat.lt_irrefl 0)
    | removed hb' ha' =>
      obtain ⟨rfl, -, rfl⟩ := (List.append_cons_inj_of_notMem (hne hb) (hne ha)).1 hsplit
      rfl

theorem eq_of_same (h : Edit sku m m s t) : t = s := by
  cases h with
  | absent | changed => rfl
  | added _ hpos | removed _ _ hpos => exact absurd hpos (Nat.lt_irrefl 0)

/-- Two edits of one product are one, unless an entry is removed and added again: that one would come last. -/
theorem trans {k : Nat} {u : Stock} (h : Edit sku m n s t) (h' : Edit sku n k t u) (hn : n = 0 → m = 0 ∨ k = 0) :
    Edit sku m k s u := by
  -- the second edit finds the entry where the first one left it, so its result is known
  cases h with
  | absent => exact h'
  | @added _ n hs hpos =>
    have hnil : sku ∉ skus [] := List.not_mem_nil
    rcases Nat.eq_zero_or_pos k with rfl | hk
    · have hback : Edit sku n 0 (s ++ [⟨sku, n⟩]) s := by simpa using Edit.removed hs hnil hpos
      obtain rfl := hback.unique h'
      exact .absent hs
    · obtain rfl := (Edit.changed hs hnil hpos hk).unique h'
      exact .added hs hk
  | changed hs ht hm hpos =>
    rcases Nat.eq_zero_or_pos k with rfl | hk
    · obtain rfl := (Edit.removed hs ht hpos).unique h'
      exact .removed hs ht hm
    · obtain rfl := (Edit.changed hs ht hpos hk).unique h'
      exact .changed hs ht hm hk
  | removed hs ht hm =>
    obtain rfl : k = 0 := (hn rfl).resolve_left (Nat.ne_of_gt hm)
    obtain rfl := h'.eq_of_same
    exact .removed hs ht hm

/-- An entry that is removed and added again is the last one. -/
theorem moved {u : Stock} (h : Edit sku m 0 s t) (h' : Edit sku 0 m t u) (hm : 0 < m) :
    ∃ before after, s = before ++ ⟨sku, m⟩ :: after ∧ u = before ++ after ++ [⟨sku, m⟩] := by
  cases h with
  | absent => exact absurd hm (Nat.lt_irrefl 0)
  | added _ hn | changed _ _ _ hn => exact absurd hn (Nat.lt_irrefl 0)
  | @removed before after m hb ha hm =>
    have hrest : sku ∉ skus (before ++ after) := by
      rw [skus_append, List.mem_append, not_or]
      exact ⟨hb, ha⟩
    exact ⟨before, after, rfl, (Edit.added hrest hm).unique h'⟩

end Edit

/-! ### The operations are edits -/

/-- Adding units raises one product, up to `maxUnits`; a new entry takes them as they are. -/
theorem add_edit_any {s : Stock} (hs : Sound s) (sku : String) (units : Nat) :
    Edit sku (held sku s) (if held sku s = 0 then units else addUnits (held sku s) units) s (add sku units s) := by
  induction s with
  | nil =>
    have hnil : sku ∉ skus [] := List.not_mem_nil
    rw [held_of_not_mem hnil, if_pos rfl]
    unfold add
    split
    · rename_i h0
      subst h0
      exact .absent hnil
    · rename_i h0
      exact .added hnil (Nat.pos_of_ne_zero h0)
  | cons e s ih =>
    obtain ⟨name, n⟩ := e
    by_cases he : name = sku
    · subst he
      have hpos : 0 < n := hs.head_pos
      rw [add, if_pos rfl, held_cons_self, if_neg (Nat.ne_of_gt hpos)]
      refine .changed (s := []) List.not_mem_nil hs.head_not_mem hpos ?_
      simp only [addUnits, maxUnits]
      omega
    · rw [add, if_neg he, held_cons_of_ne he]
      exact (ih hs.tail).cons he

/-- With units that can be counted a new entry is no exception. -/
theorem add_edit {s : Stock} (hs : Sound s) (sku : String) (units : Nat) (hu : units ≤ maxUnits) :
    Edit sku (held sku s) (addUnits (held sku s) units) s (add sku units s) := by
  have hadd := add_edit_any hs sku units
  split at hadd
  · rename_i h0
    have hsum : addUnits (held sku s) units = units := by rw [h0, addUnits, Nat.zero_add, Nat.min_eq_left hu]
    rwa [hsum]
  · exact hadd

private theorem remove_of_not_mem {sku : String} {s : Stock} (h : sku ∉ skus s) : remove sku s = s := by
  rw [remove, List.filter_eq_self]
  intro e he
  have hne : e.sku ≠ sku := fun heq => h (heq ▸ List.mem_map_of_mem he)
  simpa using hne

private theorem remove_edit {s : Stock} (hs : Sound s) (sku : String) :
    Edit sku (held sku s) 0 s (remove sku s) := by
  induction s with
  | nil => exact .absent List.not_mem_nil
  | cons e s ih =>
    obtain ⟨name, n⟩ := e
    by_cases he : name = sku
    · subst he
      have hpos : 0 < n := hs.head_pos
      -- no product has two entries, so nothing is removed from the rest
      have hrest : remove name (⟨name, n⟩ :: s) = s := by
        rw [remove, List.filter_cons_of_neg (by simp)]
        exact remove_of_not_mem hs.head_not_mem
      rw [held_cons_self, hrest]
      exact .removed (s := []) List.not_mem_nil hs.head_not_mem hpos
    · rw [held_cons_of_ne he, remove, List.filter_cons_of_pos (by simpa using he)]
      exact (ih hs.tail).cons he

private theorem put_edit {s : Stock} (hs : Sound s) (sku : String) {units : Nat} (hu : 0 < units) :
    Edit sku (held sku s) units s (put sku units s) := by
  induction s with
  | nil => exact .added List.not_mem_nil hu
  | cons e s ih =>
    obtain ⟨name, n⟩ := e
    unfold put
    split
    · rename_i he
      simp only at he
      subst he
      rw [held_cons_self]
      exact .changed (s := []) List.not_mem_nil hs.head_not_mem hs.head_pos hu
    · rename_i he
      rw [held_cons_of_ne he]
      exact (ih hs.tail).cons he

/-- Fixing the units of a product touches no other. -/
theorem set_edit {s : Stock} (hs : Sound s) (sku : String) (units : Nat) :
    Edit sku (held sku s) units s (set sku units s) := by
  unfold set
  split
  · rename_i h0
    subst h0
    exact remove_edit hs sku
  · rename_i h0
    exact put_edit hs sku (Nat.pos_of_ne_zero h0)

theorem Sound.add {s : Stock} (hs : Sound s) (sku : String) (units : Nat) : Sound (add sku units s) :=
  (add_edit_any hs sku units).sound hs

theorem Sound.set {s : Stock} (hs : Sound s) (sku : String) (units : Nat) : Sound (set sku units s) :=
  (set_edit hs sku units).sound hs

end Stockroom.Stock
