import Stockroom.Proofs.Fed
import Stockroom.Proofs.Validated

/-!
# What is shown has changed nothing

A line that makes something appear, be it a fault, a question, a listing or a message, leaves the inventory as it was,
and what appears is not empty (`feed_shown`).  So the inventory changes silently.  That nothing changes is seen from
the cases of `Session.Fed`; that the text is not empty goes back to the sentences of the refusals and to the rows of
the listings.
-/

namespace Stockroom

/-! ### Texts that are not empty -/

theorem intercalate_ne_empty (separator : String) {l : List String} {x : String} (hx : x ∈ l) (hne : x ≠ "") :
    separator.intercalate l ≠ "" := by
  induction l with
  | nil => exact absurd hx List.not_mem_nil
  | cons y l ih =>
    rcases List.mem_cons.1 hx with rfl | hx
    · cases l with
      | nil => simpa using hne
      | cons z l => simp [String.intercalate_cons_cons, hne]
    · have hl : l ≠ [] := List.ne_nil_of_mem hx
      rw [String.intercalate_cons_of_ne_nil hl]
      have := ih hx
      simp [this]

private theorem Absent.sentence_ne (a : Absent) : a.sentence ≠ "" := by
  unfold Absent.sentence
  split <;> simp

private theorem Refusal.sentence_ne {r : Refusal} (hr : r ≠ .absent []) : r.sentence ≠ "" := by
  cases r with
  | absent things =>
    cases things with
    | nil => exact absurd rfl hr
    | cons a things => exact intercalate_ne_empty " " List.mem_cons_self a.sentence_ne
  | skuTaken | negativeLimit | limitTooLow | negativeStock | negativeUnstock | tooMany | full |
      noWarehouseToUnstock | notInStock | noWarehouseToList =>
    unfold Refusal.sentence
    simp

private theorem message_ne_of_parse {line : String} {fault : Fault} (h : Command.parse line = .error fault) :
    fault.message ≠ "" := by
  rcases parse_cases line with ⟨c, hc⟩ | ⟨words, hwords⟩ | ⟨reasons, -, hreasons⟩
  · rw [hc] at h
    cases h
  · rw [hwords] at h
    obtain rfl := Except.error.inj h
    show "ERROR: Command not found [" ++ words ++ "]" ≠ ""
    simp
  · rw [hreasons] at h
    obtain rfl := Except.error.inj h
    show "ERROR: " ++ " ".intercalate reasons ≠ ""
    simp

private theorem message_ne_of_execute {inv : Inventory} {c : Command} {fault : Fault}
    {inv' : Inventory} (h : inv.execute c = (.error fault, inv')) : fault.message ≠ "" := by
  obtain ⟨-, r, hr, rfl⟩ := Inventory.refused_of_execute h
  exact Refusal.sentence_ne hr

private theorem Question.text_ne (q : Question) : q.text ≠ "" := by
  unfold Question.text
  split <;> simp

private theorem Question.declined_ne (q : Question) : q.declined ≠ "" := by
  unfold Question.declined
  split <;> simp

/-- A table has a text if it has a header or a row, as every row is separated by tabs. -/
private theorem Output.text_ne_of_listing {l : Listing} (h : (ofListing l).isEmpty = false) :
    (ofListing l).text ≠ "" := by
  have header : ∀ (title : String) (rows : List String), title ≠ "" → (table (some title) rows).text ≠ "" :=
    fun title rows ht => intercalate_ne_empty "\n" List.mem_cons_self ht
  cases l with
  | products ps =>
    cases ps with
    | nil => cases h
    | cons p ps =>
      have hrow : productRow p ≠ "" := by simp [productRow]
      exact intercalate_ne_empty "\n" (x := productRow p) List.mem_cons_self hrow
  | warehouses ws => exact header _ _ (by simp [warehousesHeader])
  | stock rows => cases rows <;> exact header _ _ (by simp [stockHeader])

/-! ### Lines that make something appear -/

private theorem Outcome.text_ne_of_shown {o : Outcome} {output : Output} (h : o.shown = some output) :
    output.text ≠ "" := by
  cases o with
  | done => cases h
  | listing l =>
    simp only [Outcome.shown] at h
    split at h
    · cases h
    · rename_i hempty
      obtain rfl := Option.some.inj h
      exact Output.text_ne_of_listing (by simpa using hempty)
  | asked q =>
    obtain rfl := Option.some.inj h
    exact q.text_ne

namespace Session

variable {s t : Session} {line : String} {output : Output}

theorem Fed.inventory_eq (h : Fed s line (some output) t) : t.inventory = s.inventory := by
  generalize hs : some output = shown at h
  cases h with
  | confirmed => cases hs
  | declined | unrecognized | blank | unread => rfl
  | refused hq hc he => exact Inventory.inventory_eq_of_error he
  | @executed c o inv hq hc he =>
    refine (Inventory.executed_of_execute he).inventory_eq ?_
    rintro rfl
    cases hs

theorem Fed.text_ne (h : Fed s line (some output) t) : output.text ≠ "" := by
  generalize hs : some output = shown at h
  cases h with
  | confirmed | blank => cases hs
  | @declined q =>
    obtain rfl := Option.some.inj hs
    exact q.declined_ne
  | @unrecognized q =>
    obtain rfl := Option.some.inj hs
    simp [Output.text]
  | unread hq hc =>
    obtain rfl := Option.some.inj hs
    exact message_ne_of_parse hc
  | refused hq hc he =>
    obtain rfl := Option.some.inj hs
    exact message_ne_of_execute he
  | executed => exact Outcome.text_ne_of_shown hs.symm

/-- What makes something appear has changed nothing, and what appears is not empty; so only a silent line can change
the inventory. -/
theorem feed_shown (s : Session) (line : String) :
    (∀ output, (s.feed line).1 = some output →
      (s.feed line).2.inventory = s.inventory ∧ output.text ≠ "") ∧
      ((s.feed line).2.inventory ≠ s.inventory → (s.feed line).1 = none) := by
  have shown : ∀ output, (s.feed line).1 = some output →
      (s.feed line).2.inventory = s.inventory ∧ output.text ≠ "" := by
    intro output ho
    have hf := fed_feed s line
    rw [ho] at hf
    exact ⟨hf.inventory_eq, hf.text_ne⟩
  refine ⟨shown, ?_⟩
  intro hchanged
  cases ho : (s.feed line).1 with
  | none => rfl
  | some output => exact absurd (shown output ho).1 hchanged

end Session

end Stockroom
