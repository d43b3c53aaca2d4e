import Mathlib.Data.List.Chain
import Stockroom.Command.Quoting
import Stockroom.Proofs.Words

/-!
# Tokens

The arguments of a line without quotes are its words between the spaces (`tokens_append_space`).  With quotes a text is
cut only where a quote touches a space: at an opening quote after a space (`quotedPieces_opening`), and at a closing
quote before one (`quotedPieces_closing`), where a space inside the quotes may be taken in place of the one behind them;
after trimming that makes no difference (`exists_quotedPieces_closing`).
-/

namespace Stockroom

open Text

/-! ### Quotes of a line -/

/-- Every quote turned into an apostrophe. -/
def soften (l : List Char) : List Char :=
  l.map fun c => if c = '"' then '\'' else c

private theorem softenQuotes_of_not_mem {l : List Char} (h : '"' ∉ l) : softenQuotes l = l := by
  induction l with
  | nil => rfl
  | cons c l ih =>
    rw [List.mem_cons, not_or] at h
    have hc : ¬ (c = '"' ∧ '"' ∈ l) := fun hboth => h.2 hboth.2
    rw [softenQuotes, if_neg hc, ih h.2]

/-- The last quote stays, those before it are softened. -/
private theorem softenQuotes_append {after : List Char} (h : '"' ∉ after) (l : List Char) :
    softenQuotes (l ++ '"' :: after) = soften l ++ '"' :: after := by
  induction l with
  | nil => simp [softenQuotes, h, softenQuotes_of_not_mem h, soften]
  | cons c l ih =>
    have hmem : '"' ∈ l ++ '"' :: after := by simp
    rw [List.cons_append, softenQuotes, ih]
    by_cases hc : c = '"' <;> simp [hc, soften]

private theorem softenInner_append {before : List Char} (h : '"' ∉ before) (l : List Char) :
    softenInner (before ++ l) = before ++ softenInner l := by
  induction before with
  | nil => rfl
  | cons c before ih =>
    rw [List.mem_cons, not_or] at h
    rw [List.cons_append, softenInner, if_neg (Ne.symm h.1), ih h.2]
    rfl

theorem softenInner_of_not_mem {l : List Char} (h : '"' ∉ l) : softenInner l = l := by
  simpa [softenInner] using softenInner_append h []

/-- Between the first and the last quote there are none any more. -/
theorem softenInner_quoted {before after : List Char} (hbefore : '"' ∉ before) (hafter : '"' ∉ after) (l : List Char) :
    softenInner (before ++ '"' :: (l ++ '"' :: after)) = before ++ '"' :: (soften l ++ '"' :: after) := by
  rw [softenInner_append hbefore, softenInner, if_pos rfl, softenQuotes_append hafter]

theorem not_mem_soften (l : List Char) : '"' ∉ soften l := by
  intro h
  obtain ⟨c, -, hc⟩ := List.mem_map.1 h
  split at hc
  · simp at hc
  · contradiction

theorem soften_of_not_mem {l : List Char} (h : '"' ∉ l) : soften l = l := by
  have hsame : ∀ c ∈ l, (if c = '"' then '\'' else c) = c := by
    intro c hc
    rw [if_neg]
    rintro rfl
    exact h hc
  rw [soften, List.map_congr_left hsame, List.map_id']

theorem blank_soften_iff {l : List Char} : Blank (soften l) ↔ Blank l := by
  have hone (c : Char) : isBlank (if c = '"' then '\'' else c) = isBlank c := by
    split
    · rename_i hc
      subst hc
      decide
    · rfl
  simp [Blank, soften, hone]

private theorem softenQuotes_of_count {l : List Char} (h : l.count '"' ≤ 1) : softenQuotes l = l := by
  induction l with
  | nil => rfl
  | cons c l ih =>
    rw [List.count_cons] at h
    have hone : ¬ (c = '"' ∧ '"' ∈ l) := by
      rintro ⟨rfl, hmem⟩
      have hpos : 0 < l.count '"' := List.count_pos_iff.2 hmem
      simp at h
      omega
    rw [softenQuotes, if_neg hone, ih (by omega)]

private theorem softenInner_of_count {l : List Char} (h : l.count '"' ≤ 2) : softenInner l = l := by
  induction l with
  | nil => rfl
  | cons c l ih =>
    rw [List.count_cons] at h
    unfold softenInner
    split
    · rename_i hc
      simp [hc] at h
      rw [softenQuotes_of_count h]
    · rw [ih (by omega)]

/-- At most two quotes are kept as they stand. -/
theorem settleQuotes_of_count {l : List Char} (h : l.count '"' ≤ 2) : settleQuotes l = trim l := by
  obtain ⟨lead, trail, -, -, hl⟩ := exists_around_trim l
  have htrim : (trim l).count '"' ≤ l.count '"' := by
    conv_rhs => rw [hl]
    simp only [List.count_append]
    omega
  exact softenInner_of_count (htrim.trans h)

/-! ### Pieces -/

theorem dropOpening_of_not_mem {piece : List Char} (h : '"' ∉ piece) : dropOpening piece = piece := by
  cases piece with
  | nil => rfl
  | cons c piece =>
    have hc : c ≠ '"' := by
      rintro rfl
      exact h List.mem_cons_self
    simp [dropOpening, hc]

theorem dropOpening_append {l : List Char} (h : l ≠ []) (r : List Char) :
    dropOpening (l ++ r) = dropOpening l ++ r := by
  obtain ⟨c, l, rfl⟩ := List.exists_cons_of_ne_nil h
  by_cases hc : c = '"'
  · subst hc
    rfl
  · simp [dropOpening, hc]

theorem cleanPiece_of_not_mem {piece : List Char} (h : '"' ∉ piece) : cleanPiece piece = trim piece := by
  have hclosing : dropClosing piece = piece := by
    rw [dropClosing, if_neg]
    intro hlast
    exact h (List.mem_of_getLast? hlast)
  rw [cleanPiece, dropOpening_of_not_mem h, hclosing]

/-- The tokens of pieces: those that are not empty after cleaning. -/
def cleanPieces (pieces : List (List Char)) : List (List Char) :=
  (pieces.map cleanPiece).filter (!·.isEmpty)

theorem cleanPieces_append (l m : List (List Char)) : cleanPieces (l ++ m) = cleanPieces l ++ cleanPieces m := by
  simp [cleanPieces]

/-! ### Texts without quotes -/

theorem tokens_of_not_mem {text : List Char} (h : '"' ∉ text) : tokens text = cleanPieces (pieces (· == ' ') text) := by
  rw [tokens, if_neg h]
  rfl

theorem tokens_append_space {l r : List Char} (hl : '"' ∉ l) (hr : '"' ∉ r) :
    tokens (l ++ ' ' :: r) = tokens l ++ tokens r := by
  have hall : '"' ∉ l ++ ' ' :: r := by simp [hl, hr]
  have hcut := pieces_append_cons (p := (· == ' ')) (beq_self_eq_true ' ') l r
  rw [tokens_of_not_mem hall, tokens_of_not_mem hl, tokens_of_not_mem hr, hcut, cleanPieces_append]

theorem tokens_spaces_append {r : List Char} (hr : '"' ∉ r) (n : Nat) :
    tokens (List.replicate n ' ' ++ r) = tokens r := by
  induction n with
  | zero => rfl
  | succ n ih =>
    have hrest : '"' ∉ List.replicate n ' ' ++ r := by simp [hr]
    have hcut : tokens (' ' :: (List.replicate n ' ' ++ r)) = tokens (List.replicate n ' ' ++ r) :=
      tokens_append_space (l := []) List.not_mem_nil hrest
    rw [List.replicate_succ, List.cons_append, hcut, ih]

theorem tokens_word {w : List Char} (hw : IsWord w) (hquote : '"' ∉ w) : tokens w = [w] := by
  have hspace : ∀ c ∈ w, (c == ' ') = false := by
    intro c hc
    rw [beq_eq_false_iff_ne]
    rintro rfl
    simpa [isBlank_space] using hw.not_blank ' ' hc
  rw [tokens_of_not_mem hquote, pieces_of_forall_not hspace]
  simp [cleanPieces, cleanPiece_of_not_mem hquote, hw.tight.trim_eq, hw.ne_nil]

/-! ### Texts with quotes -/

private theorem quotedPieces_cons {c : Char} {l : List Char} (hopening : c = ' ' → l.head? ≠ some '"')
    (hclosing : c = '"' → l.head? ≠ some ' ') : quotedPieces (c :: l) = (quotedPieces l).modifyHead (c :: ·) := by
  rw [quotedPieces]
  · rintro m rfl rfl
    exact hopening rfl rfl
  · rintro m rfl rfl
    exact hclosing rfl rfl

/-- A quote and a space side by side. -/
def Touch (a b : Char) : Prop :=
  a = ' ' ∧ b = '"' ∨ a = '"' ∧ b = ' '

/-- No quote of the text touches a space. -/
def Uncut (l : List Char) : Prop :=
  l.IsChain fun a b => ¬ Touch a b

theorem quotedPieces_cons_of_not_touch {c : Char} {l : List Char} (h : ∀ d, l.head? = some d → ¬ Touch c d) :
    quotedPieces (c :: l) = (quotedPieces l).modifyHead (c :: ·) := by
  apply quotedPieces_cons
  · exact fun hc hquote => h _ hquote (.inl ⟨hc, rfl⟩)
  · exact fun hc hspace => h _ hspace (.inr ⟨hc, rfl⟩)

theorem Uncut.quotedPieces_eq {l : List Char} (h : Uncut l) : quotedPieces l = [l] := by
  induction l with
  | nil => rfl
  | cons c l ih =>
    obtain ⟨hhead, hl⟩ := List.isChain_cons.1 h
    rw [quotedPieces_cons_of_not_touch hhead, ih hl]
    rfl

theorem uncut_of_not_mem {l : List Char} (h : '"' ∉ l) : Uncut l := by
  induction l with
  | nil => exact .nil
  | cons c l ih =>
    rw [List.mem_cons, not_or] at h
    refine List.isChain_cons.2 ⟨?_, ih h.2⟩
    rintro d hd (⟨-, rfl⟩ | ⟨rfl, -⟩)
    · exact h.2 (List.mem_of_mem_head? hd)
    · exact h.1 rfl

theorem quotedPieces_of_not_mem {l : List Char} (h : '"' ∉ l) : quotedPieces l = [l] :=
  (uncut_of_not_mem h).quotedPieces_eq

private theorem head?_append_ne {l r : List Char} (hl : '"' ∉ l) (hr : l = [] → r.head? ≠ some '"') :
    (l ++ r).head? ≠ some '"' := by
  cases l with
  | nil => exact hr rfl
  | cons c l =>
    intro hc
    apply hl
    rw [← Option.some.inj hc]
    exact List.mem_cons_self

/-- A text up to an opening quote is one piece. -/
theorem quotedPieces_opening {l : List Char} (h : '"' ∉ l) (r : List Char) :
    quotedPieces (l ++ ' ' :: '"' :: r) = l :: quotedPieces r := by
  induction l with
  | nil => rfl
  | cons c l ih =>
    rw [List.mem_cons, not_or] at h
    have hhead : (l ++ ' ' :: '"' :: r).head? ≠ some '"' := head?_append_ne h.2 (fun _ => by simp)
    rw [List.cons_append, quotedPieces_cons (fun _ => hhead) (fun hc => absurd hc.symm h.1), ih h.2]
    rfl

/-- A text up to a closing quote is one piece.  If it ends with a space, the cut is made there, and the space behind the
quote is left to the next piece. -/
theorem quotedPieces_closing {l r : List Char} (hl : '"' ∉ l) (hr : '"' ∉ r) :
    quotedPieces (l ++ '"' :: ' ' :: r) = [l, r] ∨
      ∃ m, l = m ++ [' '] ∧ quotedPieces (l ++ '"' :: ' ' :: r) = [m, ' ' :: r] := by
  -- on `l`: a space in it is cut at only if it is the last character
  induction l with
  | nil =>
    left
    change [] :: quotedPieces r = _
    rw [quotedPieces_of_not_mem hr]
  | cons c l ih =>
    rw [List.mem_cons, not_or] at hl
    by_cases hlast : c = ' ' ∧ l = []
    · obtain ⟨rfl, rfl⟩ := hlast
      right
      refine ⟨[], rfl, ?_⟩
      change [] :: quotedPieces (' ' :: r) = _
      rw [quotedPieces_of_not_mem (by simp [hr])]
    · have hhead : c = ' ' → (l ++ '"' :: ' ' :: r).head? ≠ some '"' := by
        intro hc
        exact head?_append_ne hl.2 (fun hnil => absurd ⟨hc, hnil⟩ hlast)
      rw [List.cons_append, quotedPieces_cons hhead (fun hc => absurd hc.symm hl.1)]
      rcases ih hl.2 with h | ⟨m, rfl, h⟩
      · left
        rw [h]
        rfl
      · right
        refine ⟨c :: m, rfl, ?_⟩
        rw [h]
        rfl

/-- A closing quote at the end of the text. -/
private theorem quotedPieces_closing_last {l : List Char} (h : '"' ∉ l) (hlast : l.getLast? ≠ some ' ') :
    quotedPieces (l ++ ['"']) = [l ++ ['"']] := by
  apply Uncut.quotedPieces_eq
  refine (uncut_of_not_mem h).append (List.isChain_singleton _) ?_
  rintro c hc d - (⟨rfl, -⟩ | ⟨rfl, -⟩)
  · exact hlast hc
  · exact h (List.mem_of_getLast? hc)

/-- Cleaning takes away a quote at the beginning. -/
private theorem cleanPiece_quote_cons {piece : List Char} (h : '"' ∉ piece) :
    cleanPiece ('"' :: piece) = trim piece := by
  rw [← cleanPiece_of_not_mem h, cleanPiece, cleanPiece, dropOpening_of_not_mem h]
  rfl

/-- Cleaning takes away a quote at the end. -/
theorem cleanPiece_append_quote (piece : List Char) : cleanPiece (piece ++ ['"']) = trim (dropOpening piece) := by
  cases piece with
  | nil => rfl
  | cons c l =>
    rw [cleanPiece, dropOpening_append (List.cons_ne_nil c l), dropClosing, if_pos List.getLast?_concat,
      List.dropLast_concat]

private theorem cleanPieces_of_trim {ps : List (List Char)} (hquote : ∀ p ∈ ps, '"' ∉ p) (hne : ∀ p ∈ ps, trim p ≠ []) :
    cleanPieces ps = ps.map trim := by
  have hclean : ps.map cleanPiece = ps.map trim := List.map_congr_left fun p hp => cleanPiece_of_not_mem (hquote p hp)
  rw [cleanPieces, hclean, List.filter_eq_self]
  intro t ht
  obtain ⟨p, hp, rfl⟩ := List.mem_map.1 ht
  simp [hne p hp]

/-- The pieces around a closing quote. -/
theorem exists_quotedPieces_closing {l r : List Char} (hl : '"' ∉ l) (hr : '"' ∉ r) :
    ∃ m t, quotedPieces (l ++ '"' :: ' ' :: r) = [m, t] ∧ '"' ∉ m ∧ '"' ∉ t ∧ trim m = trim l ∧ trim t = trim r := by
  have hspace : Blank [' '] := blank_spaces 1
  rcases quotedPieces_closing hl hr with h | ⟨m, rfl, h⟩
  · exact ⟨l, r, h, hl, hr, rfl, rfl⟩
  · refine ⟨m, ' ' :: r, h, fun hm => hl (List.mem_append_left _ hm), by simp [hr], ?_, ?_⟩
    · exact (trim_around blank_nil hspace m).symm
    · simpa using trim_around hspace blank_nil r

/-- A quoted token and what follows it: blanks inside the quotes and around the rest are trimmed away. -/
theorem tokens_quoted {l r : List Char} (hl : '"' ∉ l) (hr : '"' ∉ r) (hlne : trim l ≠ []) (hrne : trim r ≠ []) :
    tokens ('"' :: (l ++ '"' :: ' ' :: r)) = [trim l, trim r] := by
  have hquote : '"' ∈ '"' :: (l ++ '"' :: ' ' :: r) := List.mem_cons_self
  rw [tokens, if_pos hquote]
  change cleanPieces (quotedPieces _) = _
  by_cases hspace : l.head? = some ' '
  · -- the quote and the space after it are a cut, in front of which there is nothing
    obtain ⟨rest, rfl⟩ : ∃ rest, l = ' ' :: rest := by
      cases l with
      | nil => cases hspace
      | cons c rest => exact ⟨rest, by rw [Option.some.inj hspace]⟩
    have hrest : '"' ∉ rest := fun h => hl (List.mem_cons_of_mem _ h)
    have htrim : trim (' ' :: rest) = trim rest := by
      simpa using trim_around (blank_spaces 1) blank_nil rest
    obtain ⟨m, t, hcut, hm, ht, hmtrim, httrim⟩ := exists_quotedPieces_closing hrest hr
    have hall : quotedPieces ('"' :: (' ' :: rest ++ '"' :: ' ' :: r)) = [[]] ++ [m, t] := by
      rw [← hcut]
      rfl
    have hempty : cleanPieces [[]] = [] := rfl
    rw [hall, cleanPieces_append, hempty, cleanPieces_of_trim]
    · simp [hmtrim, httrim, htrim]
    · simp [hm, ht]
    · rw [htrim] at hlne
      simp [hmtrim, httrim, hlne, hrne]
  · obtain ⟨m, t, hcut, hm, ht, hmtrim, httrim⟩ := exists_quotedPieces_closing hl hr
    have hhead : (l ++ '"' :: ' ' :: r).head? ≠ some ' ' := by
      cases l with
      | nil => simp
      | cons c rest => exact hspace
    have hall : quotedPieces ('"' :: (l ++ '"' :: ' ' :: r)) = ['"' :: m, t] := by
      rw [quotedPieces_cons (fun hc => absurd hc (by decide)) (fun _ => hhead), hcut]
      rfl
    have hclean : cleanPieces ['"' :: m, t] = [trim l, trim r] := by
      simp [cleanPieces, cleanPiece_quote_cons hm, cleanPiece_of_not_mem ht, hmtrim, httrim, hlne, hrne]
    rw [hall, hclean]

/-- Quotes around a token in the middle. -/
theorem tokens_quoted_middle {l m r : List Char} (hl : '"' ∉ l) (hm : '"' ∉ m) (hr : '"' ∉ r) (hlne : trim l ≠ [])
    (hmne : trim m ≠ []) (hrne : trim r ≠ []) :
    tokens (l ++ ' ' :: '"' :: (m ++ '"' :: ' ' :: r)) = [trim l, trim m, trim r] := by
  have hquote : '"' ∈ l ++ ' ' :: '"' :: (m ++ '"' :: ' ' :: r) := by simp
  obtain ⟨n, t, hcut, hn, ht, hntrim, httrim⟩ := exists_quotedPieces_closing hm hr
  rw [tokens, if_pos hquote]
  change cleanPieces (quotedPieces _) = _
  rw [quotedPieces_opening hl, hcut, cleanPieces_of_trim]
  · simp [hntrim, httrim]
  · simp [hl, hn, ht]
  · simp [hntrim, httrim, hlne, hmne, hrne]

/-- Quotes around the last token. -/
theorem tokens_quoted_last {l r : List Char} (hl : '"' ∉ l) (hr : '"' ∉ r) (hlast : r.getLast? ≠ some ' ')
    (hlne : trim l ≠ []) (hrne : trim r ≠ []) : tokens (l ++ ' ' :: '"' :: (r ++ ['"'])) = [trim l, trim r] := by
  have hquote : '"' ∈ l ++ ' ' :: '"' :: (r ++ ['"']) := by simp
  rw [tokens, if_pos hquote]
  change cleanPieces (quotedPieces _) = _
  rw [quotedPieces_opening hl, quotedPieces_closing_last hr hlast]
  simp [cleanPieces, cleanPiece_of_not_mem hl, cleanPiece_append_quote, dropOpening_of_not_mem hr, hlne, hrne]

end Stockroom
