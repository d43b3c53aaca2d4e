import Mathlib.Data.List.Nodup
import Stockroom.Proofs.Words

/-!
# Which command a line matches

A line matches a command if its first words, in upper case, are the words of the command.  `matchCommand` finds the
matching command with the most words, whatever the order of the table (`longest?_filter_fits`): two that match with
equally many words have the same words, and no two commands do.  The words are found in the upper case of the line's
words, but skipped in the line itself; what is left begins behind the last of them and one blank
(`exists_line_eq`), although a letter may have several in upper case.
-/

namespace Stockroom

open Text

/-- The command's words are the first words of the line in upper case. -/
def Definition.Matches (d : Definition) (line : List Char) : Prop :=
  d.words = ((Text.words line).take d.words.length).map fun w => String.ofList (upper w)

instance (d : Definition) (line : List Char) : Decidable (d.Matches line) :=
  inferInstanceAs (Decidable (_ = _))

namespace Definition

private theorem fits_iff {d : Definition} {line : List Char} : d.fits (commandWords line) = true ↔ d.Matches line := by
  rw [fits, List.isPrefixOf_iff_prefix, List.prefix_iff_eq_take, commandWords, ← List.map_take, Matches]

/-- A line has the words that it matches. -/
theorem Matches.length_le {d : Definition} {line : List Char} (h : d.Matches line) :
    d.words.length ≤ (Text.words line).length := by
  have hlength := congrArg List.length h
  rw [List.length_map, List.length_take] at hlength
  omega

/-- Two commands that match a line with equally many words are the same. -/
theorem Matches.unique {d e : Definition} {line : List Char} (hd : d.Matches line) (he : e.Matches line)
    (hdmem : d ∈ commandTable) (hemem : e ∈ commandTable) (hlength : d.words.length = e.words.length) : d = e := by
  have hdistinct : (commandTable.map (·.words)).Nodup := by decide
  have hwords : d.words = e.words := by
    rw [hd, he, hlength]
  exact List.inj_on_of_nodup_map hdistinct hdmem hemem hwords

end Definition

/-! ### The longest match -/

section Table

variable {table : List Definition} {line : List Char} {d : Definition}

/-- A reordered table has the same matching commands. -/
private theorem mem_filter_fits (h : table.Perm commandTable) :
    d ∈ table.filter (·.fits (commandWords line)) ↔ d ∈ commandTable ∧ d.Matches line := by
  rw [List.mem_filter, h.mem_iff, Definition.fits_iff]

/-- The command found is the matching one with the most words. -/
theorem longest?_filter_fits (h : table.Perm commandTable) :
    longest? (table.filter (·.fits (commandWords line))) = some d ↔
      d ∈ commandTable ∧ d.Matches line ∧ ∀ e ∈ commandTable, e.Matches line → e.words.length ≤ d.words.length := by
  constructor
  · intro hd
    obtain ⟨hmem, hmatches⟩ := (mem_filter_fits h).1 (mem_of_longest? hd)
    refine ⟨hmem, hmatches, ?_⟩
    intro e he hematches
    exact length_le_of_longest? hd ((mem_filter_fits h).2 ⟨he, hematches⟩)
  · rintro ⟨hmem, hmatches, hmost⟩
    have hcandidate := (mem_filter_fits h).2 ⟨hmem, hmatches⟩
    cases hfound : longest? (table.filter (·.fits (commandWords line))) with
    | none =>
      rw [longest?_eq_none_iff.1 hfound] at hcandidate
      cases hcandidate
    | some e =>
      obtain ⟨hemem, hematches⟩ := (mem_filter_fits h).1 (mem_of_longest? hfound)
      have hde := length_le_of_longest? hfound hcandidate
      have hed := hmost e hemem hematches
      rw [hematches.unique hmatches hemem hmem (by omega)]

theorem longest?_filter_fits_perm (h : table.Perm commandTable) (line : List Char) :
    longest? (table.filter (·.fits (commandWords line))) =
      longest? (commandTable.filter (·.fits (commandWords line))) := by
  ext d
  rw [longest?_filter_fits h, longest?_filter_fits (.refl _)]

end Table

/-! ### The text behind the words -/

/-- What takes the place of a blank behind the words of a command: one blank, or nothing where the line ends. -/
def Delimits (delimiter rest : List Char) : Prop :=
  (∃ c, isBlank c = true ∧ delimiter = [c]) ∨ delimiter = [] ∧ rest = []

/-- One blank is dropped where there is one. -/
private theorem exists_delimiter {rest : List Char} (h : Breaks rest) :
    ∃ delimiter, rest = delimiter ++ dropBlank rest ∧ Delimits delimiter (dropBlank rest) := by
  cases rest with
  | nil => exact ⟨[], rfl, .inr ⟨rfl, rfl⟩⟩
  | cons c rest =>
    have hc : isBlank c = true := h c rfl
    have hdrop : dropBlank (c :: rest) = rest := if_pos hc
    exact ⟨[c], by rw [hdrop]; rfl, .inl ⟨c, hc, rfl⟩⟩

private theorem words_dropBlank {rest : List Char} (h : Breaks rest) : words (dropBlank rest) = words rest := by
  obtain ⟨delimiter, hrest, hdelimiter⟩ := exists_delimiter h
  rcases hdelimiter with ⟨c, hc, rfl⟩ | ⟨rfl, -⟩
  · conv_rhs => rw [hrest]
    exact (words_blank_append (List.forall_mem_singleton.2 hc) _).symm
  · conv_rhs => rw [hrest]
    rfl

/-- A line with `n` words consists of these, blanks in front and between, and what is left behind them. -/
private theorem exists_line_eq {line : List Char} {n : Nat} (hn : n ≠ 0) (hlength : n ≤ (words line).length) :
    ∃ lead body delimiter, line = lead ++ body ++ delimiter ++ dropBlank (dropWords n line) ∧
      Blank lead ∧ Joined ((words line).take n) body ∧ Delimits delimiter (dropBlank (dropWords n line)) ∧
      words (dropBlank (dropWords n line)) = (words line).drop n := by
  obtain ⟨k, rfl⟩ := Nat.exists_eq_add_one_of_ne_zero hn
  obtain ⟨lead, body, rest, hline, hlead, hbody, hrest⟩ := exists_joined k hlength
  have htaken : ((words line).take (k + 1)).length = k + 1 := List.length_take_of_le hlength
  have hdrop : dropWords (k + 1) line = rest := by
    have hskip := hbody.dropWords_append hrest
    rwa [htaken, ← dropWords_blank hlead _ hn, ← hline] at hskip
  have hwords : words line = (words line).take (k + 1) ++ words rest := by
    conv_lhs => rw [hline, words_blank_append hlead, hbody.words_append hrest]
  obtain ⟨delimiter, hsplit, hdelimiter⟩ := exists_delimiter hrest
  rw [hdrop]
  refine ⟨lead, body, delimiter, ?_, hlead, hbody, hdelimiter, ?_⟩
  · rw [List.append_assoc, ← hsplit, List.append_assoc, ← hline]
  · rw [words_dropBlank hrest]
    exact (List.append_cancel_left ((List.take_append_drop (k + 1) _).trans hwords)).symm

-- of two blanks behind the words the second is left
example : dropBlank (dropWords 2 " add   product  W 1".toList) = " W 1".toList := by decide

/-! ### The command of a line -/

/-- A line is read as the command whose words are the line's first words in upper case, the one with the most words if
there are several, and the order of the table makes no difference.  What is left for the arguments begins behind these
words and one blank, and holds the line's other words.  A line that matches no command is answered with its first two
words in upper case. -/
theorem matchCommand_exact (table : List Definition) (h : table.Perm commandTable) (line : List Char) :
    (∀ d, (∃ rest, matchCommand table line = .ok ⟨d, rest⟩) ↔
      d ∈ commandTable ∧ d.Matches line ∧ ∀ e ∈ commandTable, e.Matches line → e.words.length ≤ d.words.length) ∧
      matchCommand table line = matchCommand commandTable line ∧
      (∀ d rest, matchCommand table line = .ok ⟨d, rest⟩ →
        ∃ lead body delimiter, line = lead ++ body ++ delimiter ++ rest ∧ Blank lead ∧
          Joined ((words line).take d.words.length) body ∧ Delimits delimiter rest ∧
          words rest = (words line).drop d.words.length) ∧
      ∀ fault, matchCommand table line = .error fault →
        fault = .unknownCommand (" ".intercalate (((words line).take 2).map fun w => String.ofList (upper w))) := by
  refine ⟨fun d => ?_, ?_, ?_, ?_⟩
  · rw [← longest?_filter_fits h]
    simp only [matchCommand]
    cases longest? (table.filter (·.fits (commandWords line))) <;> simp
  · simp only [matchCommand, longest?_filter_fits_perm h line]
  · intro d rest hfound
    simp only [matchCommand] at hfound
    split at hfound
    · rename_i e he
      injection hfound with hfound
      injection hfound with hd hrest
      subst hd hrest
      obtain ⟨hmem, hmatches, -⟩ := (longest?_filter_fits h).1 he
      obtain ⟨op, -, rfl⟩ := List.mem_map.1 hmem
      exact exists_line_eq op.length_words_ne_zero hmatches.length_le
    · cases hfound
  · intro fault hfault
    have hmax : maxCommandWords = 2 := by decide
    simp only [matchCommand, hmax] at hfault
    split at hfault
    · cases hfault
    · rw [← Except.error.inj hfault, commandWords, List.map_take]

/-- A table from the last command to the first, and a word whose first letter becomes two in upper case. -/
theorem matchCommand_exact_reversed : commandTable.reverse.Perm commandTable ∧
    ∃ rest, matchCommand commandTable.reverse "ﬅock s 1 5".toList = .ok ⟨Operation.stock.definition, rest⟩ :=
  ⟨List.reverse_perm commandTable,
    ((matchCommand_exact commandTable.reverse (List.reverse_perm commandTable) "ﬅock s 1 5".toList).1 _).2
      (by decide +kernel)⟩

end Stockroom
