import Stockroom.Text.Pieces

/-!
# Blank characters, trimming and words

The blank characters are those with the Unicode property `White_Space`.  `trim` removes them at both ends, and
`words` lists the maximal runs of other characters.
-/

namespace Stockroom.Text

/-- The characters with the property `White_Space`. -/
def isBlank (c : Char) : Bool :=
  let n := c.toNat
  (0x09 ≤ n && n ≤ 0x0D) || n == 0x20 || n == 0x85 || n == 0xA0 || n == 0x1680 ||
    (0x2000 ≤ n && n ≤ 0x200A) || n == 0x2028 || n == 0x2029 || n == 0x202F || n == 0x205F || n == 0x3000

def trimStart (l : List Char) : List Char :=
  l.dropWhile isBlank

def trimEnd (l : List Char) : List Char :=
  (l.reverse.dropWhile isBlank).reverse

def trim (l : List Char) : List Char :=
  trimEnd (trimStart l)

/-- The maximal runs of characters that are not blank. -/
def words (l : List Char) : List (List Char) :=
  (pieces isBlank l).filter (!·.isEmpty)

/-! ### The property covers the blanks of ASCII -/

theorem isBlank_of_isWhitespace {c : Char} (h : c.isWhitespace = true) : isBlank c = true := by
  simp only [Char.isWhitespace, Bool.or_eq_true, decide_eq_true_eq] at h
  rcases h with ((rfl | rfl) | rfl) | rfl <;> decide

/-! ### What a word and a trimmed text are -/

theorem ne_nil_of_mem_words {l w : List Char} (hw : w ∈ words l) : w ≠ [] := by
  have := (List.mem_filter.1 hw).2
  intro h
  simp [h] at this

theorem isBlank_of_mem_words {l w : List Char} (hw : w ∈ words l) {c : Char} (hc : c ∈ w) :
    isBlank c = false :=
  not_of_mem_pieces (List.mem_filter.1 hw).1 hc

private theorem head?_dropWhile_isBlank {l : List Char} {c : Char} (h : (l.dropWhile isBlank).head? = some c) :
    isBlank c = false := by
  induction l with
  | nil => simp at h
  | cons a l ih =>
    rw [List.dropWhile_cons] at h
    split at h
    · exact ih h
    · simp_all

theorem isBlank_of_head?_trimStart {l : List Char} {c : Char} (h : (trimStart l).head? = some c) :
    isBlank c = false :=
  head?_dropWhile_isBlank h

theorem isBlank_of_getLast?_trimEnd {l : List Char} {c : Char} (h : (trimEnd l).getLast? = some c) :
    isBlank c = false := by
  unfold trimEnd at h
  rw [List.getLast?_reverse] at h
  exact head?_dropWhile_isBlank h

end Stockroom.Text
