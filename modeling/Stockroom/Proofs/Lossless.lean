import Mathlib.Data.List.Basic
import Stockroom.Proofs.Checking
import Stockroom.Proofs.Cuts

/-!
# Nothing is lost in the tokens

The tokens of a text stand in it one behind the other, and what stands between them is blanks and quotes only
(`Scattered`).  This holds of any pieces that a text is cut into, as long as the cuts take nothing but blanks and quotes
(`Segmented`), and cleaning the pieces takes nothing else either.  So a token is a part of the text without blanks
around it, and no other character is lost, doubled or moved (`tokens_lossless`).
-/

namespace Stockroom

open Text

/-! ### What may be left out -/

/-- Neither a blank nor a quote. -/
def isContent (c : Char) : Bool :=
  !isBlank c && c != '"'

/-- Nothing but blanks and quotes. -/
def Filler (l : List Char) : Prop :=
  ∀ c ∈ l, isContent c = false

/-- The texts stand in `l` one behind the other, and between them there is nothing but blanks and quotes. -/
inductive Scattered : List (List Char) → List Char → Prop
  | nil {gap : List Char} (hgap : Filler gap) : Scattered [] gap
  | cons {gap t rest : List Char} {ts : List (List Char)} (hgap : Filler gap) (hrest : Scattered ts rest) :
      Scattered (t :: ts) (gap ++ t ++ rest)

private theorem filler_nil : Filler [] :=
  List.forall_mem_nil _

theorem Filler.append {l m : List Char} (hl : Filler l) (hm : Filler m) : Filler (l ++ m) :=
  List.forall_mem_append.2 ⟨hl, hm⟩

private theorem filler_of_blank {l : List Char} (h : Blank l) : Filler l := by
  intro c hc
  simp [isContent, h c hc]

private theorem filler_of_quote {l : List Char} (h : l = [] ∨ l = ['"']) : Filler l := by
  rcases h with rfl | rfl
  · exact filler_nil
  · exact List.forall_mem_singleton.2 (by decide)

private theorem Filler.filter_eq {l : List Char} (h : Filler l) : l.filter isContent = [] := by
  rw [List.filter_eq_nil_iff]
  intro c hc
  simp [h c hc]

namespace Scattered

variable {ts : List (List Char)} {l : List Char}

private theorem prepend (h : Scattered ts l) {gap : List Char} (hgap : Filler gap) : Scattered ts (gap ++ l) := by
  cases h with
  | nil hl => exact .nil (hgap.append hl)
  | cons hl hrest =>
    rw [List.append_assoc, ← List.append_assoc, ← List.append_assoc]
    exact .cons (hgap.append hl) hrest

theorem subset (h : Scattered ts l) {t : List Char} (ht : t ∈ ts) : t ⊆ l := by
  induction h with
  | nil => cases ht
  | cons _ _ ih =>
    intro c hc
    rcases List.mem_cons.1 ht with rfl | ht
    · exact List.mem_append_left _ (List.mem_append_right _ hc)
    · exact List.mem_append_right _ (ih ht hc)

private theorem filter_flatten (h : Scattered ts l) : ts.flatten.filter isContent = l.filter isContent := by
  induction h with
  | nil hgap => exact hgap.filter_eq.symm
  | cons hgap _ ih => simp [hgap.filter_eq, ih]

end Scattered

/-! ### Cutting a text into pieces -/

/-- The text begins with the first of the pieces, and the others are scattered behind it. -/
inductive Segmented : List (List Char) → List Char → Prop
  | intro {first rest : List Char} {others : List (List Char)} (h : Scattered others rest) :
      Segmented (first :: others) (first ++ rest)

namespace Segmented

variable {ps : List (List Char)} {l : List Char}

theorem nil : Segmented [[]] [] :=
  .intro (.nil filler_nil)

private theorem scattered (h : Segmented ps l) : Scattered ps l := by
  obtain ⟨h⟩ := h
  exact .cons filler_nil h

/-- A character more for the first piece. -/
theorem cons (h : Segmented ps l) (c : Char) : Segmented (ps.modifyHead (c :: ·)) (c :: l) := by
  obtain ⟨h⟩ := h
  exact .intro h

/-- A cut in front of the pieces. -/
theorem cut (h : Segmented ps l) {gap : List Char} (hgap : Filler gap) : Segmented ([] :: ps) (gap ++ l) := by
  have hfirst : Segmented ([] :: ps) ([] ++ (gap ++ l)) := .intro (h.scattered.prepend hgap)
  exact hfirst

end Segmented

private theorem segmented_pieces (text : List Char) : Segmented (pieces (· == ' ') text) text := by
  have hspace : Filler [' '] := filler_of_blank (blank_spaces 1)
  induction text with
  | nil => exact .nil
  | cons c text ih =>
    unfold pieces
    split
    · rename_i hc
      obtain rfl := eq_of_beq hc
      exact ih.cut hspace
    · exact ih.cons c

private theorem segmented_quotedPieces (text : List Char) : Segmented (quotedPieces text) text := by
  have hspace : Filler [' '] := filler_of_blank (blank_spaces 1)
  have hquote : Filler ['"'] := filler_of_quote (.inr rfl)
  fun_induction quotedPieces text with
  | case1 => exact .nil
  | case2 text ih => exact ih.cut (hspace.append hquote)
  | case3 text ih => exact ih.cut (hquote.append hspace)
  | case4 c text _ _ ih => exact ih.cons c

-- of a quote between two spaces only the first space is cut away with it
example : quotedPieces "a \" b".toList = ["a".toList, " b".toList] := by decide

/-! ### Cleaning the pieces -/

/-- Cleaning takes away blanks and quotes around a piece. -/
private theorem exists_around_cleanPiece (p : List Char) :
    ∃ before after, p = before ++ cleanPiece p ++ after ∧ Filler before ∧ Filler after := by
  obtain ⟨opening, hopening, hopeningQuote⟩ := exists_dropOpening p
  obtain ⟨closing, hclosing, hclosingQuote⟩ := exists_dropClosing (dropOpening p)
  obtain ⟨lead, trail, hlead, htrail, htrim⟩ := exists_around_trim (dropClosing (dropOpening p))
  refine ⟨opening ++ lead, trail ++ closing, ?_, (filler_of_quote hopeningQuote).append (filler_of_blank hlead),
    (filler_of_blank htrail).append (filler_of_quote hclosingQuote)⟩
  conv_lhs => rw [hopening, hclosing, htrim]
  simp [cleanPiece]

theorem Scattered.cleanPieces {ps : List (List Char)} {l : List Char} (h : Scattered ps l) :
    Scattered (cleanPieces ps) l := by
  induction h with
  | nil hgap => exact .nil hgap
  | @cons gap p rest ps hgap _ ih =>
    obtain ⟨before, after, hp, hbefore, hafter⟩ := exists_around_cleanPiece p
    have hpiece : gap ++ p ++ rest = gap ++ before ++ cleanPiece p ++ (after ++ rest) := by
      conv_lhs => rw [hp]
      simp
    have hsplit : Stockroom.cleanPieces (p :: ps) = Stockroom.cleanPieces [p] ++ Stockroom.cleanPieces ps :=
      cleanPieces_append [p] ps
    rw [hpiece, hsplit]
    by_cases hne : cleanPiece p = []
    · -- an empty token is dropped, and all of its piece can be left out
      have hnone : Stockroom.cleanPieces [p] = [] := by simp [Stockroom.cleanPieces, hne]
      rw [hnone, hne, List.append_nil]
      exact (ih.prepend hafter).prepend (hgap.append hbefore)
    · have hone : Stockroom.cleanPieces [p] = [cleanPiece p] := by simp [Stockroom.cleanPieces, hne]
      rw [hone]
      exact .cons (hgap.append hbefore) (ih.prepend hafter)

/-! ### The tokens -/

theorem scattered_tokens (text : List Char) : Scattered (tokens text) text := by
  by_cases h : '"' ∈ text
  · rw [tokens, if_pos h]
    exact (segmented_quotedPieces text).scattered.cleanPieces
  · rw [tokens_of_not_mem h]
    exact (segmented_pieces text).scattered.cleanPieces

theorem tight_of_mem_tokens {text t : List Char} (ht : t ∈ tokens text) : Tight t := by
  obtain ⟨hmem, hne⟩ := List.mem_filter.1 ht
  obtain ⟨p, -, rfl⟩ := List.mem_map.1 hmem
  have hne : cleanPiece p ≠ [] := by simpa using hne
  exact tight_trim (mt trim_eq_nil_iff.2 hne)

/-- The pieces of a text are those between its separators. -/
private theorem pieces_eq_splitOnP {α : Type} (p : α → Bool) (l : List α) : pieces p l = l.splitOnP p := by
  induction l with
  | nil => rfl
  | cons a l ih => rw [pieces, List.splitOnP_cons_eq_if_modifyHead, ih]

instance (l : List Char) : Decidable (Blank l) :=
  inferInstanceAs (Decidable (∀ c ∈ l, isBlank c = true))

private theorem cleanPieces_of_not_mem {ps : List (List Char)} (h : ∀ p ∈ ps, '"' ∉ p) :
    cleanPieces ps = (ps.filter fun p => ¬ Blank p).map trim := by
  have hclean : ps.map cleanPiece = ps.map trim := List.map_congr_left fun p hp => cleanPiece_of_not_mem (h p hp)
  rw [cleanPieces, hclean, List.filter_map]
  refine congrArg (List.map trim) (List.filter_congr ?_)
  intro p _
  by_cases hp : Blank p
  · simp [hp, trim_eq_nil_iff.2 hp]
  · simp [hp, mt trim_eq_nil_iff.1 hp]

/-- Without quotes the tokens are the pieces between the spaces. -/
theorem tokens_eq_splitOn {text : List Char} (h : '"' ∉ text) :
    tokens text = ((text.splitOn ' ').filter fun p => ¬ Blank p).map trim := by
  have hquote : ∀ p ∈ pieces (· == ' ') text, '"' ∉ p :=
    fun p hp hmem => h ((segmented_pieces text).scattered.subset hp hmem)
  rw [tokens_of_not_mem h, cleanPieces_of_not_mem hquote, pieces_eq_splitOnP, List.splitOn_eq_splitOnP]

theorem not_mem_space_of_mem_tokens {text t : List Char} (h : '"' ∉ text) (ht : t ∈ tokens text) : ' ' ∉ t := by
  rw [tokens_eq_splitOn h, List.splitOn_eq_splitOnP, ← pieces_eq_splitOnP] at ht
  obtain ⟨p, hp, rfl⟩ := List.mem_map.1 ht
  obtain ⟨lead, trail, -, -, htrim⟩ := exists_around_trim p
  intro hspace
  have hmem : ' ' ∈ p := by
    rw [htrim]
    simp [hspace]
  simpa using not_of_mem_pieces (List.mem_filter.1 hp).1 hmem

/-- Each cut takes a quote away. -/
theorem length_tokens_le {text : List Char} (h : '"' ∈ text) : (tokens text).length ≤ text.count '"' + 1 := by
  obtain ⟨before, init, last, -, -, -, hquotes, hown, -⟩ := exists_last_piece h
  have hinit := length_cleanPieces_le init
  have hlast : (cleanPieces [last]).length ≤ 1 := length_cleanPieces_le [last]
  rw [hown, List.length_append]
  omega

/-! ### Names and SKUs -/

private theorem get?_of_text {args : Arguments} {name s : String} (h : args.text name = .ok s) :
    args.get? name = some (.text s) := by
  unfold Arguments.text Arguments.text? at h
  cases hget : args.get? name with
  | none => simp [hget] at h
  | some v => cases v <;> simp_all

/-- The texts of a command are among its arguments. -/
private theorem get?_of_text_mem {op : Operation} {args : Arguments} {c : Command}
    (h : Command.ofArguments op args = .ok c) {s : String} (hs : .text s ∈ c.arguments) :
    ∃ name, args.get? name = some (.text s) := by
  cases op with
  | addProduct =>
    obtain ⟨name, hname, h⟩ := bind_eq_ok.1 h
    obtain ⟨sku, hsku, h⟩ := bind_eq_ok.1 h
    obtain rfl := Except.ok.inj h
    simp only [Command.arguments, List.mem_cons, List.not_mem_nil, or_false, Value.text.injEq] at hs
    rcases hs with rfl | rfl
    · exact ⟨_, get?_of_text hname⟩
    · exact ⟨_, get?_of_text hsku⟩
  | stock | unstock =>
    obtain ⟨sku, hsku, h⟩ := bind_eq_ok.1 h
    obtain ⟨warehouse, -, h⟩ := bind_eq_ok.1 h
    obtain ⟨quantity, -, h⟩ := bind_eq_ok.1 h
    obtain rfl := Except.ok.inj h
    simp only [Command.arguments, List.mem_cons, List.not_mem_nil, or_false, Value.text.injEq, reduceCtorEq] at hs
    obtain rfl := hs
    exact ⟨_, get?_of_text hsku⟩
  | addWarehouse | listWarehouse =>
    obtain ⟨_, -, h⟩ := bind_eq_ok.1 h
    obtain rfl := Except.ok.inj h
    simp [Command.arguments] at hs
  | listProducts | listWarehouses =>
    obtain rfl := Except.ok.inj h
    cases hs

/-- A text that was read is the token it was read from. -/
private theorem eq_of_read_text {type : ParameterType} {token s : String} (h : type.read token = some (.text s)) :
    s = token := by
  cases type with
  | text => exact (Value.text.inj (Option.some.inj h)).symm
  | number =>
    obtain ⟨n, -, hn⟩ := Option.map_eq_some_iff.1 h
    cases hn

theorem tight_of_parse {line : String} {c : Command} (h : Command.parse line = .ok c) {s : String}
    (hs : .text s ∈ c.arguments) : Tight s.toList := by
  obtain ⟨found, -, h⟩ := bind_eq_ok.1 h
  obtain ⟨args, hargs, h⟩ := bind_eq_ok.1 h
  obtain ⟨name, hname⟩ := get?_of_text_mem h hs
  obtain ⟨hread, hentries⟩ := entries_of_arguments hargs
  rw [Arguments.get?, hentries, lookup_filterMap_read hread] at hname
  obtain ⟨x, hx, hvalue⟩ := Option.bind_eq_some_iff.1 hname
  have htoken : x.2 ∈ (tokens found.remainder).map String.ofList := (List.of_mem_zip (List.mem_of_find?_eq_some hx)).2
  obtain ⟨t, ht, heq⟩ := List.mem_map.1 htoken
  rw [eq_of_read_text hvalue, ← heq, String.toList_ofList]
  exact tight_of_mem_tokens ht

/-- Nothing is lost in the tokens of a text.  Each is a part of the text, not empty and without blanks around it; they
stand there in their order, without overlap, and all that is left out is blanks and quotes.  Without quotes they are the
pieces between the spaces that are not blank, trimmed; with quotes there are at most as many as quotes and one more.  So
no name and no SKU of a command is empty or has blanks around it. -/
theorem tokens_lossless :
    (∀ text : List Char,
      (∀ t ∈ tokens text, t ≠ [] ∧ trim t = t) ∧ Scattered (tokens text) text ∧
        (tokens text).flatten.filter isContent = text.filter isContent ∧
        ('"' ∉ text →
          tokens text = ((text.splitOn ' ').filter fun p => ¬ Blank p).map trim ∧ ∀ t ∈ tokens text, ' ' ∉ t) ∧
        ('"' ∈ text → (tokens text).length ≤ text.count '"' + 1)) ∧
      ∀ line c, Command.parse line = .ok c → ∀ s, .text s ∈ c.arguments → s ≠ "" ∧ trim s.toList = s.toList := by
  refine ⟨fun text => ⟨?_, ?_, ?_, ?_, length_tokens_le⟩, ?_⟩
  · intro t ht
    have htight := tight_of_mem_tokens ht
    exact ⟨htight.ne_nil, htight.trim_eq⟩
  · exact scattered_tokens text
  · exact (scattered_tokens text).filter_flatten
  · intro h
    exact ⟨tokens_eq_splitOn h, fun t ht => not_mem_space_of_mem_tokens h ht⟩
  · intro line c h s hs
    have htight := tight_of_parse h hs
    refine ⟨?_, htight.trim_eq⟩
    rintro rfl
    exact htight.ne_nil rfl

end Stockroom
