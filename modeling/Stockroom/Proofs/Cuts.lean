import Mathlib.Data.List.Chain
import Stockroom.Proofs.Numbers

/-!
# How tokens go on

A text with quotes is cut at every quote that touches a space, from the left.  What comes before a cut is cut in the
same way whatever follows (`Cut`), so of a text that goes on only the piece behind the last cut can change
(`exists_uncut`).  More text behind it (`Surplus`) is cut off if that piece ends with a quote and the new text begins
with a space; otherwise the piece goes on with it.

So the tokens of the longer text are those of the text and more, except perhaps for the last one.  A last token that is
read as a number keeps its value in any case (`Surplus.tokens_cases`).  Of two tokens with at most two quotes the last
one stays as it is if the text ends with a quote that touches a space (`Surplus.tokens_of_closes`), and goes on with the
new text if not (`Surplus.tokens_of_not_closes`).
-/

namespace Stockroom

open Text

/-! ### The last cut -/

/-- A quote at the end of a piece is a cut if a space follows. -/
theorem Uncut.quotedPieces_closing {l : List Char} (h : Uncut (l ++ ['"'])) (r : List Char) :
    quotedPieces (l ++ '"' :: ' ' :: r) = l :: quotedPieces r := by
  induction l with
  | nil => rfl
  | cons c l ih =>
    obtain ⟨hhead, hl⟩ := List.isChain_cons.1 h
    have hsame : (l ++ '"' :: ' ' :: r).head? = (l ++ ['"']).head? := by cases l <;> rfl
    rw [List.cons_append, quotedPieces_cons_of_not_touch (by rwa [hsame]), ih hl]
    rfl

/-- A text that ends where it is cut, with the pieces it is cut into: they are the same whatever follows. -/
structure Cut (text : List Char) (pieces : List (List Char)) : Prop where
  ne_nil : pieces ≠ []
  ends : [' ', '"'] <:+ text ∨ ['"', ' '] <:+ text
  length_le : pieces.length ≤ text.count '"'
  quotedPieces_append : ∀ r, quotedPieces (text ++ r) = pieces ++ quotedPieces r

namespace Cut

variable {l m : List Char} {ps qs : List (List Char)}

theorem opening : Cut [' ', '"'] [[]] :=
  ⟨by simp, .inl (List.suffix_refl _), by decide, fun _ => rfl⟩

theorem closing : Cut ['"', ' '] [[]] :=
  ⟨by simp, .inr (List.suffix_refl _), by decide, fun _ => rfl⟩

theorem append (hl : Cut l ps) (hm : Cut m qs) : Cut (l ++ m) (ps ++ qs) where
  ne_nil := by simp [hl.ne_nil]
  ends := hm.ends.imp (fun h => h.trans (List.suffix_append l m)) (fun h => h.trans (List.suffix_append l m))
  length_le := by
    rw [List.length_append, List.count_append]
    exact Nat.add_le_add hl.length_le hm.length_le
  quotedPieces_append := by
    intro r
    rw [List.append_assoc, hl.quotedPieces_append, hm.quotedPieces_append, List.append_assoc]

theorem cons (h : Cut l ps) {c : Char} (hc : ∀ d, l.head? = some d → ¬ Touch c d) :
    Cut (c :: l) (ps.modifyHead (c :: ·)) where
  ne_nil := by simp [h.ne_nil]
  ends := h.ends.imp (fun h => h.trans (List.suffix_cons c l)) (fun h => h.trans (List.suffix_cons c l))
  length_le := by
    rw [List.length_modifyHead]
    exact h.length_le.trans ((List.sublist_cons_self c l).count_le _)
  quotedPieces_append := by
    intro r
    have hne : l ≠ [] := by
      rintro rfl
      simpa using h.ends
    have hhead : (l ++ r).head? = l.head? := List.head?_append_of_ne_nil _ hne
    obtain ⟨first, others, rfl⟩ := List.exists_cons_of_ne_nil h.ne_nil
    rw [List.cons_append, quotedPieces_cons_of_not_touch (by rwa [hhead]), h.quotedPieces_append]
    rfl

end Cut

/-- Behind the last cut of a text there is a piece without cuts. -/
theorem exists_uncut (text : List Char) :
    ∃ before init last, text = before ++ last ∧ Uncut last ∧ (before = [] ∧ init = [] ∨ Cut before init) := by
  fun_induction quotedPieces text with
  | case1 => exact ⟨[], [], [], rfl, .nil, .inl ⟨rfl, rfl⟩⟩
  | case2 text ih =>
    obtain ⟨before, init, last, rfl, hlast, hcut⟩ := ih
    refine ⟨[' ', '"'] ++ before, [[]] ++ init, last, rfl, hlast, .inr ?_⟩
    rcases hcut with ⟨rfl, rfl⟩ | hcut
    · exact .opening
    · exact Cut.opening.append hcut
  | case3 text ih =>
    obtain ⟨before, init, last, rfl, hlast, hcut⟩ := ih
    refine ⟨['"', ' '] ++ before, [[]] ++ init, last, rfl, hlast, .inr ?_⟩
    rcases hcut with ⟨rfl, rfl⟩ | hcut
    · exact .closing
    · exact Cut.closing.append hcut
  | case4 c text hopening hclosing ih =>
    have htouch : ∀ d, text.head? = some d → ¬ Touch c d := by
      rintro d hd (⟨hspace, rfl⟩ | ⟨hquote, rfl⟩)
      · obtain ⟨l, hl⟩ := List.head?_eq_some_iff.1 hd
        exact hopening l hspace hl
      · obtain ⟨l, hl⟩ := List.head?_eq_some_iff.1 hd
        exact hclosing l hquote hl
    obtain ⟨before, init, last, rfl, hlast, ⟨rfl, rfl⟩ | hcut⟩ := ih
    · exact ⟨[], [], c :: last, rfl, List.isChain_cons.2 ⟨htouch, hlast⟩, .inl ⟨rfl, rfl⟩⟩
    · refine ⟨c :: before, init.modifyHead (c :: ·), last, rfl, hlast, .inr (hcut.cons ?_)⟩
      intro d hd
      apply htouch
      rw [List.head?_append, hd]
      rfl

/-! ### More text behind a piece -/

/-- What is typed behind a line: blanks, a space, and a text without quotes that does not end with a blank. -/
inductive Surplus : List Char → Prop
  | intro {gap extra : List Char} (hgap : Blank gap) (hne : extra ≠ [])
      (hlast : ∀ c, extra.getLast? = some c → isBlank c = false) (hquote : '"' ∉ extra) : Surplus (gap ++ ' ' :: extra)

/-- The quote that cleaning takes away at the end of a piece, if there is one. -/
theorem exists_dropClosing (l : List Char) : ∃ quote, l = dropClosing l ++ quote ∧ (quote = [] ∨ quote = ['"']) := by
  unfold dropClosing
  split
  · rename_i hlast
    exact ⟨['"'], (List.dropLast_append_getLast? _ hlast).symm, .inr rfl⟩
  · exact ⟨[], (List.append_nil l).symm, .inl rfl⟩

/-- The quote that cleaning takes away at the beginning of a piece, if there is one. -/
theorem exists_dropOpening (l : List Char) : ∃ quote, l = quote ++ dropOpening l ∧ (quote = [] ∨ quote = ['"']) := by
  unfold dropOpening
  split
  · exact ⟨['"'], rfl, .inr rfl⟩
  · exact ⟨[], rfl, .inl rfl⟩

namespace Surplus

variable {m : List Char}

theorem breaks (h : Surplus m) : Breaks m := by
  obtain @⟨gap, extra, hgap, -, -, -⟩ := h
  cases gap with
  | nil => exact breaks_cons isBlank_space extra
  | cons c gap => exact breaks_cons (hgap c List.mem_cons_self) _

theorem not_mem_quote (h : Surplus m) : '"' ∉ m := by
  obtain @⟨gap, extra, hgap, -, -, hquote⟩ := h
  simp [hgap.not_mem_quote, hquote]

theorem ne_nil (h : Surplus m) : m ≠ [] := by
  obtain ⟨-, -, -, -⟩ := h
  simp

theorem last_not_blank (h : Surplus m) {c : Char} (hc : m.getLast? = some c) : isBlank c = false := by
  obtain @⟨gap, extra, -, hne, hlast, -⟩ := h
  have hsplit : gap ++ ' ' :: extra = gap ++ [' '] ++ extra := by simp
  rw [hsplit, List.getLast?_append_of_ne_nil _ hne] at hc
  exact hlast c hc

/-- Behind a text that is not blank nothing of it is trimmed away. -/
theorem trim_append (h : Surplus m) {l : List Char} (hl : ¬ Blank l) : trim (l ++ m) = trimStart l ++ m := by
  rw [trim, trimStart_append_of_ne (mt trimStart_eq_nil_iff.1 hl), trimEnd_eq_self]
  intro c hc
  rw [List.getLast?_append_of_ne_nil _ h.ne_nil] at hc
  exact h.last_not_blank hc

private theorem cleanPiece_append (h : Surplus m) (p : List Char) :
    cleanPiece (p ++ m) = trim (dropOpening p ++ m) := by
  have hopening : dropOpening (p ++ m) = dropOpening p ++ m := by
    cases p with
    | nil => exact dropOpening_of_not_mem h.not_mem_quote
    | cons c p => exact dropOpening_append (List.cons_ne_nil c p) m
  have hclosing : (dropOpening p ++ m).getLast? ≠ some '"' := by
    rw [List.getLast?_append_of_ne_nil _ h.ne_nil]
    exact fun hlast => h.not_mem_quote (List.mem_of_getLast? hlast)
  rw [cleanPiece, hopening, dropClosing, if_neg hclosing]

/-- The token of a piece that goes on: what stood behind the old token, blanks and at most a quote, becomes part of
it. -/
private theorem exists_cleanPiece_append (h : Surplus m) {p : List Char} (hne : cleanPiece p ≠ []) :
    ∃ before after, p = before ++ cleanPiece p ++ after ∧ (∀ c ∈ after, isBlank c = true ∨ c = '"') ∧
      cleanPiece (p ++ m) = cleanPiece p ++ after ++ m := by
  obtain ⟨opening, hopening, -⟩ := exists_dropOpening p
  obtain ⟨closing, hclosing, hquote⟩ := exists_dropClosing (dropOpening p)
  obtain ⟨lead, trail, hlead, htrail, htrim⟩ := exists_around_trim (dropClosing (dropOpening p))
  have hinner : ¬ Blank (dropClosing (dropOpening p)) := mt trim_eq_nil_iff.2 hne
  have htight : Tight (cleanPiece p) := tight_trim hinner
  have hsplit : dropOpening p = lead ++ (cleanPiece p ++ (trail ++ closing)) := by
    rw [hclosing, htrim]
    simp [cleanPiece]
  have hstart : trimStart (dropOpening p) = cleanPiece p ++ (trail ++ closing) := by
    have hown : trimStart (cleanPiece p) ≠ [] := by rwa [htight.trimStart_eq]
    rw [hsplit, trimStart_append_of_blank hlead, trimStart_append_of_ne hown, htight.trimStart_eq]
  refine ⟨opening ++ lead, trail ++ closing, ?_, ?_, ?_⟩
  · conv_lhs => rw [hopening, hsplit]
    simp
  · intro c hc
    rcases List.mem_append.1 hc with hc | hc
    · exact .inl (htrail c hc)
    · rcases hquote with rfl | rfl
      · cases hc
      · exact .inr (List.mem_singleton.1 hc)
  · have houter : ¬ Blank (dropOpening p) := by
      rw [hclosing]
      exact fun hblank => hinner (List.forall_mem_append.1 hblank).1
    rw [h.cleanPiece_append, h.trim_append houter, hstart, List.append_assoc]

private theorem quotedPieces_append (h : Surplus m) {p : List Char} (hp : Uncut p) :
    (∃ q r, p = q ++ ['"'] ∧ m = ' ' :: r ∧ quotedPieces (p ++ m) = [q, r]) ∨
      ¬ (p.getLast? = some '"' ∧ m.head? = some ' ') ∧ quotedPieces (p ++ m) = [p ++ m] := by
  by_cases hsplit : p.getLast? = some '"' ∧ m.head? = some ' '
  · left
    obtain ⟨q, rfl⟩ := List.getLast?_eq_some_iff.1 hsplit.1
    obtain ⟨r, rfl⟩ := List.head?_eq_some_iff.1 hsplit.2
    have hr : '"' ∉ r := fun hmem => h.not_mem_quote (List.mem_cons_of_mem _ hmem)
    refine ⟨q, r, rfl, rfl, ?_⟩
    rw [List.append_assoc, List.singleton_append, hp.quotedPieces_closing, quotedPieces_of_not_mem hr]
  · refine .inr ⟨hsplit, Uncut.quotedPieces_eq (hp.append (uncut_of_not_mem h.not_mem_quote) ?_)⟩
    rintro c hc d hd (⟨rfl, rfl⟩ | ⟨rfl, rfl⟩)
    · exact h.not_mem_quote (List.mem_of_mem_head? hd)
    · exact hsplit ⟨hc, hd⟩

end Surplus

/-! ### Numbers at the beginning of a piece -/

private theorem readNumber_dropClosing (l : List Char) : readNumber (dropClosing l) = readNumber l := by
  obtain ⟨closing, hsplit, hquote⟩ := exists_dropClosing l
  by_cases hblank : Blank (dropClosing l)
  · have hclosing : readNumber closing = none := by rcases hquote with rfl | rfl <;> decide
    rw [readNumber_of_blank hblank, hsplit, readNumber_blank_append hblank, hclosing]
  · have hstop : ∀ c, closing.head? = some c → isDigit c = false := by
      rcases hquote with rfl | rfl <;> simp [isDigit]
    conv_rhs => rw [hsplit, readNumber_append hblank hstop]

/-- A quote at the end of a piece is not part of its number. -/
private theorem readNumber_cleanPiece_quote (p : List Char) :
    readNumber (cleanPiece (p ++ ['"'])) = readNumber (cleanPiece p) := by
  rw [cleanPiece_append_quote, cleanPiece, readNumber_trim, readNumber_trim, readNumber_dropClosing]

/-- A piece that goes on does so with a blank or a quote behind its token, where a number ends. -/
private theorem Surplus.readNumber_cleanPiece {m : List Char} (h : Surplus m) {p : List Char}
    (hne : cleanPiece p ≠ []) : readNumber (cleanPiece (p ++ m)) = readNumber (cleanPiece p) := by
  obtain ⟨-, after, -, hafter, hclean⟩ := h.exists_cleanPiece_append hne
  have htight : Tight (cleanPiece p) := tight_trim (mt trim_eq_nil_iff.2 hne)
  rw [hclean, List.append_assoc, readNumber_append htight.not_blank]
  intro c hc
  cases after with
  | nil => exact h.breaks.not_isDigit hc
  | cons d after =>
    obtain rfl := Option.some.inj hc
    rcases hafter d List.mem_cons_self with hd | rfl
    · exact (breaks_cons hd []).not_isDigit rfl
    · decide

/-! ### More text behind a text without quotes -/

/-- Only the piece behind the last separator goes on with a text without separators. -/
private theorem exists_pieces_append {α : Type} (p : α → Bool) (l : List α) :
    ∃ init last, last.Sublist l ∧ pieces p l = init ++ [last] ∧
      ∀ m, (∀ a ∈ m, p a = false) → pieces p (l ++ m) = init ++ [last ++ m] := by
  induction l with
  | nil => exact ⟨[], [], .slnil, rfl, fun m hm => pieces_of_forall_not hm⟩
  | cons a l ih =>
    obtain ⟨init, last, hsub, hl, happend⟩ := ih
    by_cases ha : p a = true
    · exact ⟨[] :: init, last, hsub.cons a, by simp [pieces, ha, hl], fun m hm => by simp [pieces, ha, happend m hm]⟩
    · cases init with
      | nil =>
        exact ⟨[], a :: last, hsub.cons_cons a, by simp [pieces, ha, hl],
          fun m hm => by simp [pieces, ha, happend m hm]⟩
      | cons first init =>
        exact ⟨(a :: first) :: init, last, hsub.cons a, by simp [pieces, ha, hl],
          fun m hm => by simp [pieces, ha, happend m hm]⟩

private theorem tokens_append_blank {l gap : List Char} (hl : '"' ∉ l) (hgap : Blank gap) :
    tokens (l ++ gap) = tokens l := by
  induction gap generalizing l with
  | nil => rw [List.append_nil]
  | cons c gap ih =>
    have hc : Blank [c] := List.forall_mem_singleton.2 (hgap c List.mem_cons_self)
    have hrest : Blank gap := fun d hd => hgap d (List.mem_cons_of_mem c hd)
    by_cases hspace : c = ' '
    · have hnone : tokens gap = [] := ih List.not_mem_nil hrest
      rw [hspace, tokens_append_space hl hrest.not_mem_quote, hnone, List.append_nil]
    · -- the last piece has one blank more, which trimming takes away
      have hlc : '"' ∉ l ++ [c] := by rw [List.mem_append, not_or]; exact ⟨hl, hc.not_mem_quote⟩
      obtain ⟨init, last, hsub, hcut, happend⟩ := exists_pieces_append (· == ' ') l
      have hclean : cleanPiece (last ++ [c]) = cleanPiece last := by
        have hlast : '"' ∉ last := fun hmem => hl (hsub.mem hmem)
        have hlastc : '"' ∉ last ++ [c] := by rw [List.mem_append, not_or]; exact ⟨hlast, hc.not_mem_quote⟩
        rw [cleanPiece_of_not_mem hlastc, cleanPiece_of_not_mem hlast]
        exact trim_around blank_nil hc last
      rw [List.append_cons, ih hlc hrest, tokens_of_not_mem hlc, tokens_of_not_mem hl, hcut, happend]
      · simp [cleanPieces, hclean]
      · simpa using hspace

theorem Surplus.tokens_of_not_mem {m : List Char} (h : Surplus m) {text : List Char} (htext : '"' ∉ text) :
    ∃ others, tokens (text ++ m) = tokens text ++ others := by
  obtain @⟨gap, extra, hgap, -, -, hquote⟩ := h
  have hgapQuote : '"' ∉ text ++ gap := by rw [List.mem_append, not_or]; exact ⟨htext, hgap.not_mem_quote⟩
  refine ⟨tokens extra, ?_⟩
  rw [← List.append_assoc, tokens_append_space hgapQuote hquote, tokens_append_blank htext hgap]

/-! ### More text behind a text with quotes -/

private theorem cleanPieces_singleton {p : List Char} (h : cleanPiece p ≠ []) : cleanPieces [p] = [cleanPiece p] := by
  simp [cleanPieces, h]

private theorem cleanPieces_singleton_of_eq_nil {p : List Char} (h : cleanPiece p = []) : cleanPieces [p] = [] := by
  simp [cleanPieces, h]

theorem length_cleanPieces_le (ps : List (List Char)) : (cleanPieces ps).length ≤ ps.length :=
  (List.length_filter_le _ _).trans_eq (List.length_map _)

/-- The tokens of a text with quotes, and of that text with more behind it: only the last piece matters, and each of the
others took a quote. -/
theorem exists_last_piece {text : List Char} (h : '"' ∈ text) :
    ∃ before init last, text = before ++ last ∧ (before = [] ∨ Cut before init) ∧ Uncut last ∧
      init.length + last.count '"' ≤ text.count '"' ∧ tokens text = cleanPieces init ++ cleanPieces [last] ∧
      ∀ m, tokens (text ++ m) = cleanPieces init ++ cleanPieces (quotedPieces (last ++ m)) := by
  obtain ⟨before, init, last, rfl, hlast, hcut⟩ := exists_uncut text
  have hpieces : init.length ≤ before.count '"' ∧ ∀ r, quotedPieces (before ++ r) = init ++ quotedPieces r := by
    rcases hcut with ⟨rfl, rfl⟩ | hcut
    · exact ⟨le_rfl, fun r => rfl⟩
    · exact ⟨hcut.length_le, hcut.quotedPieces_append⟩
  have htokens (m : List Char) :
      tokens (before ++ last ++ m) = cleanPieces init ++ cleanPieces (quotedPieces (last ++ m)) := by
    rw [tokens, if_pos (List.mem_append_left _ h), List.append_assoc, hpieces.2]
    exact cleanPieces_append _ _
  refine ⟨before, init, last, rfl, hcut.imp_left And.left, hlast, ?_, ?_, htokens⟩
  · rw [List.count_append]
    exact Nat.add_le_add_right hpieces.1 _
  · have hown := htokens []
    rwa [List.append_nil, List.append_nil, hlast.quotedPieces_eq] at hown

namespace Surplus

variable {m text : List Char}

/-- More text behind a text gives more tokens, or it goes on with the last one.  If that was read as a number, it still
is. -/
theorem tokens_cases (h : Surplus m) (text : List Char) :
    (∃ others, tokens (text ++ m) = tokens text ++ others) ∨
      ∃ init t further, tokens text = init ++ [t] ∧ tokens (text ++ m) = init ++ further ∧
        ∀ n, readNumber t = some n → ∃ t' others, further = t' :: others ∧ readNumber t' = some n := by
  by_cases htext : '"' ∈ text
  · obtain ⟨-, init, last, -, -, hlast, -, hown, happend⟩ := exists_last_piece htext
    rw [hown, happend]
    by_cases hne : cleanPiece last = []
    · left
      rw [cleanPieces_singleton_of_eq_nil hne, List.append_nil]
      exact ⟨_, rfl⟩
    right
    rw [cleanPieces_singleton hne]
    refine ⟨cleanPieces init, cleanPiece last, cleanPieces (quotedPieces (last ++ m)), rfl, rfl, ?_⟩
    intro n hn
    rcases h.quotedPieces_append hlast with ⟨q, r, rfl, -, hcut⟩ | ⟨-, hcut⟩
    · rw [readNumber_cleanPiece_quote] at hn
      have hq : cleanPiece q ≠ [] := by
        intro hnil
        rw [hnil, readNumber_of_blank blank_nil] at hn
        cases hn
      refine ⟨cleanPiece q, cleanPieces [r], ?_, hn⟩
      rw [hcut, ← List.singleton_append, cleanPieces_append, cleanPieces_singleton hq]
      rfl
    · obtain ⟨-, after, -, -, hclean⟩ := h.exists_cleanPiece_append hne
      have hlong : cleanPiece (last ++ m) ≠ [] := by simp [hclean, hne]
      exact ⟨cleanPiece (last ++ m), [], by rw [hcut, cleanPieces_singleton hlong],
        by rw [h.readNumber_cleanPiece hne, hn]⟩
  · exact .inl (h.tokens_of_not_mem htext)

end Surplus

/-- The text ends with a quote that touches a space, in front of it or in what follows. -/
def Closes (text m : List Char) : Prop :=
  ∃ front, text = front ++ ['"'] ∧ (front.getLast? = some ' ' ∨ m.head? = some ' ')

/-- A space in front of the quote at the end of a text is cut off with it, unless it was cut off before. -/
private theorem cleanPiece_of_space {before last front : List Char} (hlast : Uncut last)
    (h : before ++ last = front ++ ['"']) (hspace : front.getLast? = some ' ') : cleanPiece last = [] := by
  rcases List.eq_nil_or_concat' last with rfl | ⟨q, c, rfl⟩
  · rfl
  rw [← List.append_assoc] at h
  obtain ⟨rfl, hc⟩ := List.append_inj' h rfl
  obtain rfl := List.singleton_injective hc
  rcases List.eq_nil_or_concat' q with rfl | ⟨q, d, rfl⟩
  · rfl
  · rw [← List.append_assoc, List.getLast?_concat] at hspace
    obtain rfl := Option.some.inj hspace
    rw [Uncut, List.append_assoc, List.singleton_append, List.isChain_append_cons_cons] at hlast
    exact absurd (.inl ⟨rfl, rfl⟩) hlast.2.1

/-- A text that is cut at its end, and does not end with a blank, ends with an opening quote. -/
private theorem Cut.exists_opening {text : List Char} {pieces : List (List Char)} (h : Cut text pieces)
    (hlast : ∀ c, text.getLast? = some c → isBlank c = false) : ∃ front, text = front ++ [' ', '"'] := by
  rcases h.ends with ⟨front, rfl⟩ | ⟨front, rfl⟩
  · exact ⟨front, rfl⟩
  · exact absurd (hlast ' ' (by simp)) (by decide)

namespace Surplus

variable {m text : List Char}

/-- A closed text keeps its tokens. -/
theorem tokens_of_closes (h : Surplus m) (hcount : text.count '"' ≤ 2) (hlength : 2 ≤ (tokens text).length)
    (hcloses : Closes text m) : ∃ others, tokens (text ++ m) = tokens text ++ others := by
  obtain ⟨front, hfront, hspace⟩ := hcloses
  have hquote : '"' ∈ text := by simp [hfront]
  obtain ⟨before, init, last, htext, -, hlast, hquotes, hown, happend⟩ := exists_last_piece hquote
  rw [hown, List.length_append] at hlength
  have hinit := length_cleanPieces_le init
  have hone : (cleanPieces [last]).length ≤ 1 := length_cleanPieces_le [last]
  rw [hown, happend]
  rcases h.quotedPieces_append hlast with ⟨q, r, rfl, -, hcut⟩ | ⟨hglued, hcut⟩
  · -- the other quote has been cut at, so what the last token loses is only its own quote
    have hq : '"' ∉ q := by
      rw [List.count_append, List.count_singleton_self] at hquotes
      rw [← List.count_eq_zero]
      omega
    have hclean : cleanPieces [q ++ ['"']] = cleanPieces [q] := by
      simp [cleanPieces, cleanPiece_append_quote, dropOpening_of_not_mem hq, cleanPiece_of_not_mem hq]
    have hpair : cleanPieces [q, r] = cleanPieces [q] ++ cleanPieces [r] := cleanPieces_append [q] [r]
    rw [hcut, hclean, hpair, ← List.append_assoc]
    exact ⟨_, rfl⟩
  · -- the last piece has no token
    have hnone : cleanPiece last = [] := by
      rcases hspace with hspace | hspace
      · exact cleanPiece_of_space hlast (htext.symm.trans hfront) hspace
      · rcases List.eq_nil_or_concat' last with rfl | ⟨q, c, rfl⟩
        · rfl
        · rw [htext, ← List.append_assoc] at hfront
          obtain rfl := List.singleton_injective (List.append_inj' hfront rfl).2
          exact absurd ⟨List.getLast?_concat, hspace⟩ hglued
    rw [cleanPieces_singleton_of_eq_nil hnone, List.append_nil]
    exact ⟨_, rfl⟩

/-- The second token of a text that is not closed goes on with more text behind it. -/
theorem tokens_of_not_closes (h : Surplus m) (hquote : '"' ∈ text) (hcount : text.count '"' ≤ 2)
    (hlast : ∀ c, text.getLast? = some c → isBlank c = false) (hlength : (tokens text).length = 2)
    (hcloses : ¬ Closes text m) :
    ∃ t₁ t before after, tokens text = [t₁, t] ∧ text = before ++ t ++ after ∧
      (∀ c ∈ after, isBlank c = true ∨ c = '"') ∧ tokens (text ++ m) = [t₁, t ++ after ++ m] := by
  obtain ⟨before, init, last, rfl, hcutBefore, huncut, hquotes, hown, happend⟩ := exists_last_piece hquote
  rcases h.quotedPieces_append huncut with ⟨q, r, rfl, rfl, -⟩ | ⟨-, hcut⟩
  · exact absurd ⟨before ++ q, (List.append_assoc _ _ _).symm, .inr rfl⟩ hcloses
  rw [hown, List.length_append] at hlength
  by_cases hne : cleanPiece last = []
  · -- then both quotes were cut at, and there is nothing behind the second cut
    exfalso
    rw [cleanPieces_singleton_of_eq_nil hne, List.length_nil] at hlength
    have hinit := length_cleanPieces_le init
    have hlastQuote : '"' ∉ last := by
      rw [← List.count_eq_zero]
      omega
    have hblank : Blank last := by rwa [cleanPiece_of_not_mem hlastQuote, trim_eq_nil_iff] at hne
    rcases List.eq_nil_or_concat' last with rfl | ⟨l, c, rfl⟩
    · rw [List.append_nil] at hquote hlast hcloses
      rcases hcutBefore with rfl | hcutBefore
      · exact absurd hquote List.not_mem_nil
      obtain ⟨front, rfl⟩ := hcutBefore.exists_opening hlast
      exact hcloses ⟨front ++ [' '], by simp, .inl List.getLast?_concat⟩
    · have hc : isBlank c = false := hlast c (by simp)
      rw [hblank c (by simp)] at hc
      cases hc
  · obtain ⟨front, after, hpiece, hafter, hclean⟩ := h.exists_cleanPiece_append hne
    rw [cleanPieces_singleton hne] at hlength hown
    obtain ⟨t₁, ht₁⟩ := List.length_eq_one_iff.1 (by simpa using hlength)
    have hlong : cleanPiece (last ++ m) ≠ [] := by simp [hclean, hne]
    refine ⟨t₁, cleanPiece last, before ++ front, after, by rw [hown, ht₁]; rfl, ?_, hafter, ?_⟩
    · conv_lhs => rw [hpiece]
      simp
    · rw [happend, hcut, cleanPieces_singleton hlong, hclean, ht₁]
      rfl

end Surplus

end Stockroom
