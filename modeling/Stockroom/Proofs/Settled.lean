import Mathlib.Data.List.Basic
import Stockroom.Proofs.Lossless
import Stockroom.Proofs.Surplus

/-!
# Settled lines

Settling a line trims it and turns the quotes strictly between the first and the last one into apostrophes
(`getElem?_softenInner`).  Of its quotes two are left at most (`count_settleQuotes`), and no blank comes or goes
(`map_isBlank_softenInner`), so a settled line is settled already (`settleQuotes_settleQuotes`).  A line is only read
through its settled form; so neither settling it first nor blanks around it change what is read, and a line with a quote
has three arguments at most (`settleQuotes_normal`).
-/

namespace Stockroom

open Text

/-- A quote strictly between the first and the last one of a text. -/
def InnerQuote (l : List Char) (i : Nat) : Prop :=
  l[i]? = some '"' ∧ '"' ∈ l.take i ∧ '"' ∈ l.drop (i + 1)

instance (l : List Char) (i : Nat) : Decidable (InnerQuote l i) :=
  inferInstanceAs (Decidable (_ ∧ _ ∧ _))

/-! ### Character by character -/

private theorem length_softenQuotes (l : List Char) : (softenQuotes l).length = l.length := by
  induction l with
  | nil => rfl
  | cons c l ih => simp [softenQuotes, ih]

private theorem length_softenInner (l : List Char) : (softenInner l).length = l.length := by
  induction l with
  | nil => rfl
  | cons c l ih =>
    unfold softenInner
    split <;> simp [length_softenQuotes, ih]

private theorem getElem?_softenQuotes (l : List Char) (i : Nat) :
    (softenQuotes l)[i]? = if l[i]? = some '"' ∧ '"' ∈ l.drop (i + 1) then some '\'' else l[i]? := by
  induction l generalizing i with
  | nil => simp [softenQuotes]
  | cons c l ih =>
    cases i with
    | zero =>
      by_cases h : c = '"' ∧ '"' ∈ l <;> simp [softenQuotes, h]
    | succ i => simp [softenQuotes, ih]

theorem getElem?_softenInner (l : List Char) (i : Nat) :
    (softenInner l)[i]? = if InnerQuote l i then some '\'' else l[i]? := by
  induction l generalizing i with
  | nil => simp [softenInner, InnerQuote]
  | cons c l ih =>
    unfold softenInner
    split
    · -- the first quote is there, so that all others but the last are inside
      rename_i hc
      cases i with
      | zero => simp [InnerQuote]
      | succ i => simp [InnerQuote, hc, getElem?_softenQuotes]
    · rename_i hc
      cases i with
      | zero => simp [InnerQuote, hc]
      | succ i =>
        have hinner : InnerQuote (c :: l) (i + 1) ↔ InnerQuote l i := by simp [InnerQuote, Ne.symm hc]
        simp [ih, hinner]

/-! ### The quotes that are left -/

private theorem count_softenQuotes (l : List Char) : (softenQuotes l).count '"' = min 1 (l.count '"') := by
  induction l with
  | nil => rfl
  | cons c l ih =>
    rw [softenQuotes, List.count_cons, List.count_cons, ih]
    by_cases hc : c = '"'
    · by_cases hl : '"' ∈ l
      · simp [hc, hl]
      · have hnone : l.count '"' = 0 := List.count_eq_zero.2 hl
        simp [hc, hl, hnone]
    · simp [hc]

private theorem count_softenInner (l : List Char) : (softenInner l).count '"' = min 2 (l.count '"') := by
  induction l with
  | nil => rfl
  | cons c l ih =>
    unfold softenInner
    split
    · rename_i hc
      rw [List.count_cons, List.count_cons, count_softenQuotes]
      simp [hc]
      omega
    · rename_i hc
      simp [hc, ih]

private theorem count_trim (l : List Char) : (trim l).count '"' = l.count '"' := by
  obtain ⟨lead, trail, hlead, htrail, hl⟩ := exists_around_trim l
  conv_rhs => rw [hl]
  rw [List.count_append, List.count_append, List.count_eq_zero.2 hlead.not_mem_quote,
    List.count_eq_zero.2 htrail.not_mem_quote, Nat.zero_add, Nat.add_zero]

theorem count_settleQuotes (l : List Char) : (settleQuotes l).count '"' = min 2 (l.count '"') := by
  rw [settleQuotes, count_softenInner, count_trim]

/-! ### Settled already -/

private theorem map_isBlank_softenQuotes (l : List Char) : (softenQuotes l).map isBlank = l.map isBlank := by
  induction l with
  | nil => rfl
  | cons c l ih =>
    have hc : isBlank (if c = '"' ∧ '"' ∈ l then '\'' else c) = isBlank c := by
      split
      · rename_i h
        rw [h.1]
        decide
      · rfl
    rw [softenQuotes, List.map_cons, List.map_cons, hc, ih]

theorem map_isBlank_softenInner (l : List Char) : (softenInner l).map isBlank = l.map isBlank := by
  induction l with
  | nil => rfl
  | cons c l ih =>
    unfold softenInner
    split <;> simp [map_isBlank_softenQuotes, ih]

theorem trim_settleQuotes (l : List Char) : trim (settleQuotes l) = settleQuotes l := by
  by_cases h : Blank l
  · rw [settleQuotes, trim_eq_nil_iff.2 h]
    rfl
  · exact ((tight_trim h).of_map_isBlank (map_isBlank_softenInner _)).trim_eq

theorem settleQuotes_settleQuotes (l : List Char) : settleQuotes (settleQuotes l) = settleQuotes l := by
  have hcount : (settleQuotes l).count '"' ≤ 2 := by
    rw [count_settleQuotes]
    exact Nat.min_le_left _ _
  rw [settleQuotes_of_count hcount, trim_settleQuotes]

theorem settleQuotes_around {lead trail : List Char} (hlead : Blank lead) (htrail : Blank trail) (l : List Char) :
    settleQuotes (lead ++ l ++ trail) = settleQuotes l := by
  rw [settleQuotes, trim_around hlead htrail, settleQuotes]

/-! ### What is read of a line -/

theorem parse_settleQuotes (line : String) :
    Command.parse (String.ofList (settleQuotes line.toList)) = Command.parse line := by
  rw [Command.parse, String.toList_ofList, settleQuotes_settleQuotes, Command.parse]

theorem parse_around {lead trail : String} (hlead : Blank lead.toList) (htrail : Blank trail.toList) (line : String) :
    Command.parse (lead ++ line ++ trail) = Command.parse line := by
  rw [Command.parse, String.toList_append, String.toList_append, settleQuotes_around hlead htrail, Command.parse]

private theorem count_dropBlank (l : List Char) : (dropBlank l).count '"' = l.count '"' := by
  cases l with
  | nil => rfl
  | cons c l =>
    by_cases hc : isBlank c = true
    · have hdrop : dropBlank (c :: l) = l := if_pos hc
      have hquote : c ≠ '"' := by
        rintro rfl
        exact absurd hc (by decide)
      rw [hdrop, List.count_cons_of_ne hquote]
    · have hdrop : dropBlank (c :: l) = c :: l := if_neg hc
      rw [hdrop]

/-- All quotes of a line that matches a command are in the text for its arguments. -/
private theorem count_remainder {line : List Char} {found : Matched} (h : matchCommand commandTable line = .ok found) :
    found.remainder.count '"' = line.count '"' := by
  obtain ⟨op, front, rest, rfl, hfront, hrest, hmatch⟩ := exists_matched h
  obtain rfl := Except.ok.inj ((hmatch rest hrest).symm.trans h)
  rw [count_dropBlank, List.count_append, List.count_eq_zero.2 hfront, Nat.zero_add]

/-- Settling a line gives a normal form that is read in the same way.  It has as many characters as the trimmed line and
differs from it in the quotes strictly between the first and the last one, which are apostrophes; there are none if the
line has two quotes at most, and so two quotes are left or as many as there were.  Settling again changes nothing, and
neither settling the line first nor blanks around it change the command or the fault it is read as.  All quotes that are
left are in the text for the arguments; so a line that matches a command and has a quote has three arguments at most. -/
theorem settleQuotes_normal (line : String) :
    ((settleQuotes line.toList).length = (trim line.toList).length ∧
        (∀ i, (settleQuotes line.toList)[i]? =
          if InnerQuote (trim line.toList) i then some '\'' else (trim line.toList)[i]?) ∧
        (line.toList.count '"' ≤ 2 → settleQuotes line.toList = trim line.toList)) ∧
      (settleQuotes line.toList).count '"' = min 2 (line.toList.count '"') ∧
      settleQuotes (settleQuotes line.toList) = settleQuotes line.toList ∧
      Command.parse (String.ofList (settleQuotes line.toList)) = Command.parse line ∧
      (∀ lead trail : String, Blank lead.toList → Blank trail.toList →
        Command.parse (lead ++ line ++ trail) = Command.parse line) ∧
      ∀ found, matchCommand commandTable (settleQuotes line.toList) = .ok found →
        ('"' ∈ found.remainder ↔ '"' ∈ line.toList) ∧
          ('"' ∈ found.remainder → (tokens found.remainder).length ≤ 3) := by
  refine ⟨⟨length_softenInner _, getElem?_softenInner _, settleQuotes_of_count⟩, count_settleQuotes _,
    settleQuotes_settleQuotes _, parse_settleQuotes line, fun _ _ hlead htrail => parse_around hlead htrail line, ?_⟩
  intro found hfound
  have hquotes : found.remainder.count '"' = min 2 (line.toList.count '"') := by
    rw [count_remainder hfound, count_settleQuotes]
  refine ⟨?_, ?_⟩
  · rw [← List.count_pos_iff, ← List.count_pos_iff, hquotes]
    omega
  · intro hmem
    have hlength := length_tokens_le hmem
    omega

end Stockroom
