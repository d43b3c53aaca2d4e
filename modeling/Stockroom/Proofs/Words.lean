import Mathlib.Data.List.Basic
import Mathlib.Data.List.TakeWhile
import Stockroom.Command.Matching

/-!
# Words and the blanks between them

Blanks around a text are trimmed away whatever they are (`trim_around`), and a text that consists of words and blanks
is cut into exactly these words (`Joined.words_append`).  Command words may be spelled in any letter case and with any
blanks between them (`Spelled`): a line that begins with such a spelling matches that command and no other, and what
follows the words is left for the arguments (`matchCommand_of_spelled`).
-/

namespace Stockroom

namespace Text

/-! ### Cutting at a separator -/

theorem pieces_append_cons {α : Type} {p : α → Bool} {a : α} (ha : p a = true) (l r : List α) :
    pieces p (l ++ a :: r) = pieces p l ++ pieces p r := by
  induction l with
  | nil => simp [pieces, ha]
  | cons b l ih =>
    simp only [List.cons_append, pieces, ih]
    split
    · rfl
    · obtain ⟨first, others, hl⟩ := List.exists_cons_of_ne_nil (pieces_ne_nil p l)
      simp [hl]

theorem pieces_of_forall_not {α : Type} {p : α → Bool} {l : List α} (h : ∀ a ∈ l, p a = false) : pieces p l = [l] := by
  induction l with
  | nil => rfl
  | cons a l ih =>
    rw [List.forall_mem_cons] at h
    simp [pieces, h.1, ih h.2]

/-! ### Blanks around a text -/

/-- Nothing but blanks. -/
def Blank (l : List Char) : Prop :=
  ∀ c ∈ l, isBlank c = true

/-- The text is over, or goes on with a blank. -/
def Breaks (l : List Char) : Prop :=
  ∀ c, l.head? = some c → isBlank c = true

theorem isBlank_space : isBlank ' ' = true := by decide

theorem blank_nil : Blank [] :=
  List.forall_mem_nil _

theorem Blank.append {l m : List Char} (hl : Blank l) (hm : Blank m) : Blank (l ++ m) :=
  List.forall_mem_append.2 ⟨hl, hm⟩

theorem blank_spaces (n : Nat) : Blank (List.replicate n ' ') := by
  intro c hc
  rw [List.eq_of_mem_replicate hc]
  exact isBlank_space

theorem Blank.not_mem_quote {l : List Char} (h : Blank l) : '"' ∉ l := by
  intro hmem
  exact absurd (h '"' hmem) (by decide)

theorem Blank.breaks {l : List Char} (h : Blank l) : Breaks l := by
  intro c hc
  exact h c (List.mem_of_mem_head? hc)

theorem breaks_cons {c : Char} (h : isBlank c = true) (l : List Char) : Breaks (c :: l) := by
  intro d hd
  rw [← Option.some.inj hd]
  exact h

theorem Breaks.append {l m r : List Char} (h : Breaks (l ++ m)) (hr : Breaks r) : Breaks (l ++ r) := by
  cases l with
  | nil => exact hr
  | cons c l => exact breaks_cons (h c rfl) _

theorem trimStart_eq_nil_iff {l : List Char} : trimStart l = [] ↔ Blank l := by
  simp [trimStart, Blank, List.dropWhile_eq_nil_iff]

theorem trimStart_append_of_blank {lead : List Char} (h : Blank lead) (l : List Char) :
    trimStart (lead ++ l) = trimStart l :=
  List.dropWhile_append_of_pos h

theorem trimEnd_append_of_blank {trail : List Char} (h : Blank trail) (l : List Char) :
    trimEnd (l ++ trail) = trimEnd l := by
  have hreverse : ∀ c ∈ trail.reverse, isBlank c = true := by
    intro c hc
    exact h c (List.mem_reverse.1 hc)
  rw [trimEnd, List.reverse_append, List.dropWhile_append_of_pos hreverse, trimEnd]

theorem trimStart_append_of_ne {l : List Char} (h : trimStart l ≠ []) (m : List Char) :
    trimStart (l ++ m) = trimStart l ++ m := by
  unfold trimStart at h ⊢
  rw [List.dropWhile_append, if_neg]
  simpa using h

theorem trimEnd_append_of_ne {m : List Char} (h : trimEnd m ≠ []) (l : List Char) :
    trimEnd (l ++ m) = l ++ trimEnd m := by
  unfold trimEnd at h ⊢
  rw [List.reverse_append, List.dropWhile_append, if_neg]
  · simp
  · simpa using h

/-- A text that does not end with a blank. -/
theorem trimEnd_eq_self {l : List Char} (h : ∀ c, l.getLast? = some c → isBlank c = false) : trimEnd l = l := by
  rcases List.eq_nil_or_concat l with rfl | ⟨m, c, rfl⟩
  · rfl
  · have hc : isBlank c = false := h c (by simp)
    simp [trimEnd, hc]

theorem trimEnd_eq_nil_iff {l : List Char} : trimEnd l = [] ↔ Blank l := by
  simp [trimEnd, Blank, List.dropWhile_eq_nil_iff]

theorem trim_eq_nil_iff {l : List Char} : trim l = [] ↔ Blank l := by
  constructor
  · intro h
    have hstart : Blank (trimStart l) := trimEnd_eq_nil_iff.1 h
    rcases hl : trimStart l with _ | ⟨c, m⟩
    · exact trimStart_eq_nil_iff.1 hl
    · -- what is left begins with a character that is not blank
      have hc : isBlank c = false := isBlank_of_head?_trimStart (by rw [hl]; rfl)
      rw [hl] at hstart
      simp [hstart c List.mem_cons_self] at hc
  · intro h
    rw [trim, trimStart_eq_nil_iff.2 h]
    rfl

/-- Blanks around a text make no difference. -/
theorem trim_around {lead trail : List Char} (hlead : Blank lead) (htrail : Blank trail) (l : List Char) :
    trim (lead ++ l ++ trail) = trim l := by
  rw [List.append_assoc, trim, trimStart_append_of_blank hlead]
  by_cases h : trimStart l = []
  · -- then the blanks in front go on through `trail`
    have hall : Blank (l ++ trail) := (trimStart_eq_nil_iff.1 h).append htrail
    rw [trimStart_eq_nil_iff.2 hall, trim, h]
  · rw [trimStart_append_of_ne h, trimEnd_append_of_blank htrail, trim]

/-- Trimming at the end takes away blanks only. -/
theorem exists_trimEnd_append (l : List Char) : ∃ trail, Blank trail ∧ l = trimEnd l ++ trail := by
  refine ⟨(l.reverse.takeWhile isBlank).reverse, ?_, ?_⟩
  · intro c hc
    exact List.mem_takeWhile_imp (List.mem_reverse.1 hc)
  · rw [trimEnd, ← List.reverse_append, List.takeWhile_append_dropWhile, List.reverse_reverse]

/-- Trimming at the end only is no loss. -/
theorem trim_trimEnd (l : List Char) : trim (trimEnd l) = trim l := by
  obtain ⟨trail, htrail, hsplit⟩ := exists_trimEnd_append l
  have haround := trim_around blank_nil htrail (trimEnd l)
  rw [List.nil_append, ← hsplit] at haround
  exact haround.symm

/-- A text is what trimming leaves of it with blanks around. -/
theorem exists_around_trim (l : List Char) : ∃ lead trail, Blank lead ∧ Blank trail ∧ l = lead ++ trim l ++ trail := by
  obtain ⟨trail, htrail, hend⟩ := exists_trimEnd_append (trimStart l)
  refine ⟨l.takeWhile isBlank, trail, fun c hc => List.mem_takeWhile_imp hc, htrail, ?_⟩
  rw [List.append_assoc, trim, ← hend, trimStart, List.takeWhile_append_dropWhile]

theorem mem_of_mem_trimEnd {l : List Char} {c : Char} (h : c ∈ trimEnd l) : c ∈ l :=
  List.mem_reverse.1 ((List.dropWhile_sublist _).mem (List.mem_reverse.1 h))

/-- A text that neither begins nor ends with a blank. -/
structure Tight (l : List Char) : Prop where
  ne_nil : l ≠ []
  head_not_blank : ∀ c, l.head? = some c → isBlank c = false
  last_not_blank : ∀ c, l.getLast? = some c → isBlank c = false

theorem Tight.trimStart_eq {l : List Char} (h : Tight l) : trimStart l = l := by
  cases l with
  | nil => rfl
  | cons c l => simp [trimStart, h.head_not_blank c rfl]

theorem Tight.trim_eq {l : List Char} (h : Tight l) : trim l = l := by
  rw [trim, h.trimStart_eq, trimEnd_eq_self h.last_not_blank]

theorem Tight.trim_ne_nil {l : List Char} (h : Tight l) : trim l ≠ [] := by
  rw [h.trim_eq]
  exact h.ne_nil

theorem Tight.not_blank {l : List Char} (h : Tight l) : ¬ Blank l :=
  mt trim_eq_nil_iff.2 h.trim_ne_nil

theorem tight_trim {l : List Char} (h : ¬ Blank l) : Tight (trim l) where
  ne_nil := mt trim_eq_nil_iff.1 h
  head_not_blank := by
    intro c hc
    obtain ⟨trail, -, hend⟩ := exists_trimEnd_append (trimStart l)
    have hstart : (trimStart l).head? = some c := by
      rw [trim] at hc
      rw [hend, List.head?_append, hc]
      rfl
    exact isBlank_of_head?_trimStart hstart
  last_not_blank := fun c hc => isBlank_of_getLast?_trimEnd hc

/-- What stands between two tight texts makes no difference. -/
theorem Tight.append {l r : List Char} (hl : Tight l) (hr : Tight r) (m : List Char) : Tight (l ++ m ++ r) where
  ne_nil := by simp [hl.ne_nil]
  head_not_blank := by
    intro c hc
    rw [List.append_assoc, List.head?_append_of_ne_nil _ hl.ne_nil] at hc
    exact hl.head_not_blank c hc
  last_not_blank := by
    intro c hc
    rw [List.getLast?_append_of_ne_nil _ hr.ne_nil] at hc
    exact hr.last_not_blank c hc

/-- Whether a text is tight only depends on where its blanks are. -/
theorem Tight.of_map_isBlank {l m : List Char} (hl : Tight l) (h : m.map isBlank = l.map isBlank) : Tight m where
  ne_nil := by
    rintro rfl
    exact hl.ne_nil (List.map_eq_nil_iff.1 h.symm)
  head_not_blank := by
    intro c hc
    have hhead := congrArg List.head? h
    rw [List.head?_map, List.head?_map, hc] at hhead
    obtain ⟨d, hd, hblank⟩ := Option.map_eq_some_iff.1 hhead.symm
    rw [← hblank]
    exact hl.head_not_blank d hd
  last_not_blank := by
    intro c hc
    have hlast := congrArg List.getLast? h
    rw [List.getLast?_map, List.getLast?_map, hc] at hlast
    obtain ⟨d, hd, hblank⟩ := Option.map_eq_some_iff.1 hlast.symm
    rw [← hblank]
    exact hl.last_not_blank d hd

/-! ### Words -/

/-- At least one character, and none of them blank. -/
structure IsWord (w : List Char) : Prop where
  ne_nil : w ≠ []
  not_blank : ∀ c ∈ w, isBlank c = false

theorem IsWord.tight {w : List Char} (h : IsWord w) : Tight w where
  ne_nil := h.ne_nil
  head_not_blank := fun c hc => h.not_blank c (List.mem_of_mem_head? hc)
  last_not_blank := fun c hc => h.not_blank c (List.mem_of_mem_getLast? hc)

private theorem words_append_cons {c : Char} (hc : isBlank c = true) (l r : List Char) :
    words (l ++ c :: r) = words l ++ words r := by
  rw [words, pieces_append_cons hc, List.filter_append, words, words]

theorem words_blank_append {gap : List Char} (h : Blank gap) (l : List Char) : words (gap ++ l) = words l := by
  induction gap with
  | nil => rfl
  | cons c gap ih =>
    obtain ⟨hc, hgap⟩ := List.forall_mem_cons.1 h
    have hcut := words_append_cons hc [] (gap ++ l)
    rw [List.cons_append, ← ih hgap]
    exact hcut

private theorem words_word_append {w rest : List Char} (hw : IsWord w) (hrest : Breaks rest) :
    words (w ++ rest) = w :: words rest := by
  have hword : words w = [w] := by
    rw [words, pieces_of_forall_not hw.not_blank]
    simp [hw.ne_nil]
  cases rest with
  | nil => rw [List.append_nil, hword]; rfl
  | cons c rest =>
    have hc : isBlank c = true := hrest c rfl
    have htail : words (c :: rest) = words rest := words_append_cons hc [] rest
    rw [words_append_cons hc, hword, htail]
    rfl

/-- A text that is not blank begins with a word. -/
private theorem exists_word {l : List Char} (h : words l ≠ []) :
    ∃ gap w rest, Blank gap ∧ IsWord w ∧ Breaks rest ∧ l = gap ++ (w ++ rest) := by
  have hsplit : l = l.takeWhile isBlank ++
      ((trimStart l).takeWhile (!isBlank ·) ++ (trimStart l).dropWhile (!isBlank ·)) := by
    rw [List.takeWhile_append_dropWhile, trimStart, List.takeWhile_append_dropWhile]
  refine ⟨_, _, _, fun c hc => List.mem_takeWhile_imp hc, ⟨?_, ?_⟩, ?_, hsplit⟩
  · intro hnil
    have hstart : trimStart l = [] := by
      rcases hl : trimStart l with _ | ⟨c, m⟩
      · rfl
      · have hc : isBlank c = false := isBlank_of_head?_trimStart (by rw [hl]; rfl)
        simp [hl, hc] at hnil
    have hnone : words (l ++ []) = words [] := words_blank_append (trimStart_eq_nil_iff.1 hstart) []
    rw [List.append_nil] at hnone
    exact h hnone
  · intro c hc
    simpa using List.mem_takeWhile_imp hc
  · intro c hc
    have hstop := List.head?_dropWhile_not (!isBlank ·) (trimStart l)
    rw [hc] at hstop
    simpa using hstop

/-! ### Skipping words -/

private theorem skipWord_append {w rest : List Char} (hw : IsWord w) (hrest : Breaks rest) :
    (trimStart (w ++ rest)).dropWhile (!isBlank ·) = rest := by
  have hstart : trimStart (w ++ rest) = w ++ rest := by
    obtain ⟨c, l, rfl⟩ := List.exists_cons_of_ne_nil hw.ne_nil
    simp [trimStart, hw.not_blank c List.mem_cons_self]
  have hskip : ∀ c ∈ w, (!isBlank c) = true := by
    intro c hc
    simp [hw.not_blank c hc]
  rw [hstart, List.dropWhile_append_of_pos hskip]
  cases rest with
  | nil => rfl
  | cons c rest => simp [hrest c rfl]

end Text

open Text

private theorem dropWords_word {w rest : List Char} (hw : IsWord w) (hrest : Breaks rest) (n : Nat) :
    dropWords (n + 1) (w ++ rest) = dropWords n rest := by
  rw [dropWords, skipWord_append hw hrest]

theorem dropWords_blank {gap : List Char} (h : Blank gap) (l : List Char) {n : Nat} (hn : n ≠ 0) :
    dropWords n (gap ++ l) = dropWords n l := by
  cases n with
  | zero => exact absurd rfl hn
  | succ n => rw [dropWords, dropWords, trimStart_append_of_blank h]

/-! ### Texts of words -/

/-- The text of one or more words, with one or more blanks between two of them. -/
inductive Joined : List (List Char) → List Char → Prop
  | last {w : List Char} (hword : IsWord w) : Joined [w] w
  | cons {w gap l : List Char} {ws : List (List Char)} (hword : IsWord w) (hgap : gap ≠ []) (hblank : Blank gap)
      (hrest : Joined ws l) : Joined (w :: ws) (w ++ gap ++ l)

private theorem breaks_gap {gap : List Char} (hgap : gap ≠ []) (hblank : Blank gap) (l : List Char) :
    Breaks (gap ++ l) := by
  obtain ⟨c, gap, rfl⟩ := List.exists_cons_of_ne_nil hgap
  exact breaks_cons (hblank c List.mem_cons_self) (gap ++ l)

namespace Joined

variable {ws : List (List Char)} {l rest : List Char}

theorem ne_nil (h : Joined ws l) : ws ≠ [] := by
  cases h with
  | last => exact List.cons_ne_nil _ _
  | cons => exact List.cons_ne_nil _ _

theorem tight (h : Joined ws l) : Tight l := by
  induction h with
  | last hword => exact hword.tight
  | @cons w gap l ws hword hgap hblank hrest ih => exact hword.tight.append ih gap

theorem words_append (h : Joined ws l) (hrest : Breaks rest) : words (l ++ rest) = ws ++ words rest := by
  induction h with
  | last hword => exact words_word_append hword hrest
  | @cons w gap l ws hword hgap hblank hjoined ih =>
    -- the gap ends the first word, and the other words begin behind it
    rw [List.append_assoc, List.append_assoc, words_word_append hword (breaks_gap hgap hblank _),
      words_blank_append hblank, ih]
    rfl

theorem dropWords_append (h : Joined ws l) (hrest : Breaks rest) : dropWords ws.length (l ++ rest) = rest := by
  induction h with
  | last hword => exact dropWords_word hword hrest 0
  | @cons w gap l ws hword hgap hblank hjoined ih =>
    rw [List.append_assoc, List.append_assoc, List.length_cons, dropWords_word hword (breaks_gap hgap hblank _),
      dropWords_blank hblank _ (mt List.length_eq_zero_iff.1 hjoined.ne_nil), ih]

/-- Each character is blank or stands in one of the words. -/
theorem blank_or_mem (h : Joined ws l) {c : Char} (hc : c ∈ l) : isBlank c = true ∨ ∃ w ∈ ws, c ∈ w := by
  induction h with
  | last => exact .inr ⟨_, List.mem_cons_self, hc⟩
  | @cons w gap l ws hword hgap hblank hjoined ih =>
    rcases List.mem_append.1 hc with hfront | hc
    · rcases List.mem_append.1 hfront with hc | hc
      · exact .inr ⟨w, List.mem_cons_self, hc⟩
      · exact .inl (hblank c hc)
    · exact (ih hc).imp_right fun ⟨v, hv, hcv⟩ => ⟨v, List.mem_cons_of_mem _ hv, hcv⟩

end Joined

/-- A text begins with its first words, and blanks in front of them. -/
theorem exists_joined (n : Nat) {l : List Char} (hn : n + 1 ≤ (words l).length) :
    ∃ lead body rest, l = lead ++ (body ++ rest) ∧ Blank lead ∧ Joined ((words l).take (n + 1)) body ∧ Breaks rest := by
  induction n generalizing l with
  | zero =>
    obtain ⟨gap, w, tail, hgap, hw, htail, rfl⟩ := exists_word (List.ne_nil_of_length_pos hn)
    refine ⟨gap, w, tail, rfl, hgap, ?_, htail⟩
    rw [words_blank_append hgap, words_word_append hw htail]
    exact .last hw
  | succ n ih =>
    obtain ⟨gap, w, tail, hgap, hw, htail, rfl⟩ := exists_word (List.ne_nil_of_length_pos (Nat.zero_lt_of_lt hn))
    rw [words_blank_append hgap, words_word_append hw htail] at hn ⊢
    obtain ⟨lead, body, rest, rfl, hlead, hbody, hrest⟩ := ih (Nat.le_of_succ_le_succ hn)
    refine ⟨gap, w ++ lead ++ body, rest, by simp, hgap, .cons hw ?_ hlead hbody, hrest⟩
    -- the other words do not begin where the first one ends
    rintro rfl
    obtain ⟨c, body, rfl⟩ := List.exists_cons_of_ne_nil hbody.tight.ne_nil
    have hblank : isBlank c = true := htail c rfl
    rw [hbody.tight.head_not_blank c rfl] at hblank
    cases hblank

/-! ### Spellings of command words -/

/-- A word of capital letters. -/
def IsCommandWord (word : String) : Prop :=
  word ≠ "" ∧ word.toList.all Char.isUpper = true

/-- A spelling of a word of capital letters, in any letter case. -/
def Spells (typed : List Char) (word : String) : Prop :=
  typed.map Char.toUpper = word.toList

/-- A spelling of several words, with one or more blanks between them. -/
inductive Spelled : List String → List Char → Prop
  | last {word : String} {typed : List Char} (hword : Spells typed word) : Spelled [word] typed
  | cons {word : String} {typed gap rest : List Char} {words : List String} (hword : Spells typed word)
      (hgap : gap ≠ []) (hblank : Blank gap) (hrest : Spelled words rest) :
      Spelled (word :: words) (typed ++ gap ++ rest)

instance (word : String) : Decidable (IsCommandWord word) :=
  inferInstanceAs (Decidable (word ≠ "" ∧ word.toList.all Char.isUpper = true))

instance (typed : List Char) (word : String) : Decidable (Spells typed word) :=
  inferInstanceAs (Decidable (typed.map Char.toUpper = word.toList))

/-- What becomes a capital letter of ASCII is a letter of ASCII. -/
private theorem letter_of_isUpper_toUpper {c : Char} (h : c.toUpper.isUpper = true) :
    65 ≤ c.toNat ∧ c.toNat ≤ 90 ∨ 97 ≤ c.toNat ∧ c.toNat ≤ 122 := by
  by_cases hlower : 97 ≤ c.toNat ∧ c.toNat ≤ 122
  · exact .inr hlower
  · left
    have hnot : ¬ ('a'.val ≤ c.val ∧ c.val ≤ 'z'.val) := by
      rw [UInt32.le_iff_toNat_le, UInt32.le_iff_toNat_le]
      exact hlower
    have hsame : c.toUpper = c := dif_neg hnot
    rw [hsame] at h
    have hupper : 'A'.val ≤ c.val ∧ c.val ≤ 'Z'.val := of_decide_eq_true h
    rw [UInt32.le_iff_toNat_le, UInt32.le_iff_toNat_le] at hupper
    exact hupper

private theorem isBlank_of_letter {c : Char} (h : 65 ≤ c.toNat ∧ c.toNat ≤ 90 ∨ 97 ≤ c.toNat ∧ c.toNat ≤ 122) :
    isBlank c = false := by
  simp only [isBlank, Bool.or_eq_false_iff, Bool.and_eq_false_iff, decide_eq_false_iff_not, beq_eq_false_iff_ne]
  omega

private theorem upper_of_ascii {l : List Char} (h : ∀ c ∈ l, c.toNat < 0x80) : upper l = l.map Char.toUpper := by
  induction l with
  | nil => rfl
  | cons c l ih =>
    rw [List.forall_mem_cons] at h
    have hl : upper l = l.map Char.toUpper := ih h.2
    have hcons : upper (c :: l) = upperChar c ++ upper l := List.flatMap_cons
    rw [hcons, upperChar_of_ascii h.1, hl]
    rfl

namespace Spells

variable {typed : List Char} {word : String}

private theorem letters (h : Spells typed word) (hword : IsCommandWord word) :
    ∀ c ∈ typed, 65 ≤ c.toNat ∧ c.toNat ≤ 90 ∨ 97 ≤ c.toNat ∧ c.toNat ≤ 122 := by
  intro c hc
  apply letter_of_isUpper_toUpper
  apply List.all_eq_true.1 hword.2
  rw [← h]
  exact List.mem_map_of_mem hc

theorem isWord (h : Spells typed word) (hword : IsCommandWord word) : IsWord typed where
  ne_nil := by
    rintro rfl
    have hempty : word.toList = [] := h.symm
    exact hword.1 (String.toList_eq_nil_iff.1 hempty)
  not_blank := by
    intro c hc
    exact isBlank_of_letter (h.letters hword c hc)

private theorem upper_eq (h : Spells typed word) (hword : IsCommandWord word) : upper typed = word.toList := by
  have hascii : ∀ c ∈ typed, c.toNat < 0x80 := by
    intro c hc
    have := h.letters hword c hc
    omega
  rw [upper_of_ascii hascii]
  exact h

theorem not_mem_quote (h : Spells typed word) (hword : IsCommandWord word) : '"' ∉ typed := by
  intro hmem
  exact absurd (h.letters hword '"' hmem) (by decide)

end Spells

namespace Spelled

variable {words : List String} {l rest : List Char}

/-- A spelling consists of words that are the given ones in upper case. -/
theorem exists_joined (h : Spelled words l) (hwords : ∀ w ∈ words, IsCommandWord w) :
    ∃ ws, Joined ws l ∧ (ws.map fun w => String.ofList (upper w)) = words := by
  induction h with
  | last hword =>
    have hw := hwords _ List.mem_cons_self
    exact ⟨_, .last (hword.isWord hw), by simp [hword.upper_eq hw]⟩
  | @cons word typed gap l words hword hgap hblank hspelled ih =>
    rw [List.forall_mem_cons] at hwords
    obtain ⟨ws, hjoined, hupper⟩ := ih hwords.2
    exact ⟨typed :: ws, .cons (hword.isWord hwords.1) hgap hblank hjoined, by simp [hword.upper_eq hwords.1, hupper]⟩

private theorem commandWords_append (h : Spelled words l) (hwords : ∀ w ∈ words, IsCommandWord w)
    (hrest : Breaks rest) : commandWords (l ++ rest) = words ++ commandWords rest := by
  obtain ⟨ws, hjoined, hupper⟩ := h.exists_joined hwords
  rw [commandWords, hjoined.words_append hrest, List.map_append, hupper, commandWords]

theorem dropWords_append (h : Spelled words l) (hwords : ∀ w ∈ words, IsCommandWord w) (hrest : Breaks rest) :
    dropWords words.length (l ++ rest) = rest := by
  obtain ⟨ws, hjoined, rfl⟩ := h.exists_joined hwords
  rw [List.length_map, hjoined.dropWords_append hrest]

theorem tight (h : Spelled words l) (hwords : ∀ w ∈ words, IsCommandWord w) : Tight l := by
  obtain ⟨ws, hjoined, -⟩ := h.exists_joined hwords
  exact hjoined.tight

theorem not_mem_quote (h : Spelled words l) (hwords : ∀ w ∈ words, IsCommandWord w) : '"' ∉ l := by
  induction h with
  | last hword => exact hword.not_mem_quote (hwords _ List.mem_cons_self)
  | @cons word typed gap l words hword hgap hblank hspelled ih =>
    rw [List.forall_mem_cons] at hwords
    have htyped : '"' ∉ typed := hword.not_mem_quote hwords.1
    simp [htyped, hblank.not_mem_quote, ih hwords.2]

end Spelled

/-! ### Lines that begin with a command -/

theorem Operation.length_words_ne_zero (op : Operation) : op.definition.words.length ≠ 0 := by
  cases op <;> decide

theorem Operation.isCommandWord (op : Operation) : ∀ w ∈ op.definition.words, IsCommandWord w := by
  cases op <;> decide

/-- No command's words are the first words of another. -/
theorem longest?_words_append (op : Operation) (rest : List String) :
    longest? (commandTable.filter (·.fits (op.definition.words ++ rest))) = some op.definition := by
  cases op <;> simp [commandTable, Definition.fits, Operation.definition, longest?, List.isPrefixOf]

theorem matchCommand_of_spelled {op : Operation} {l rest : List Char} (h : Spelled op.definition.words l)
    (hrest : Breaks rest) : matchCommand commandTable (l ++ rest) = .ok ⟨op.definition, dropBlank rest⟩ := by
  have htokens : commandWords (l ++ rest) = op.definition.words ++ commandWords rest :=
    h.commandWords_append op.isCommandWord hrest
  simp only [matchCommand, htokens, longest?_words_append, h.dropWords_append op.isCommandWord hrest]

end Stockroom
