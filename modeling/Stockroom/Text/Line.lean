/-!
# Lines

`lines lf cr l` cuts `l` after each `lf`.  A line loses its `lf` and one `cr` right before it; a `cr` anywhere else
stays, also at the end of a last line without `lf`.  Nothing after the last `lf` is no line.  The two ends of line are
parameters, so the same cut serves characters and bytes.
-/

namespace Stockroom.Text

variable {α : Type} [DecidableEq α]

/-- Puts an element in front of the first line. -/
def onFirstLine (a : α) : List (List α) → List (List α)
  | [] => [[a]]
  | line :: rest => (a :: line) :: rest

def lines (lf cr : α) : List α → List (List α)
  | [] => []
  | a :: l =>
    if a = lf then [] :: lines lf cr l
    else if a = cr ∧ l.head? = some lf then lines lf cr l
    else onFirstLine a (lines lf cr l)

/-- The lines of a text. -/
def textLines (text : List Char) : List (List Char) :=
  lines '\n' '\r' text

/-- The lines of a byte stream. -/
def byteLines (bytes : List UInt8) : List (List UInt8) :=
  lines 10 13 bytes

theorem lines_eq_nil_iff {lf cr : α} {l : List α} : lines lf cr l = [] ↔ l = [] := by
  induction l with
  | nil => simp [lines]
  | cons a l ih =>
    unfold lines
    split
    · simp
    · split
      · rename_i h
        simp only [ih, reduceCtorEq, iff_false]
        rintro rfl
        simp at h
      · cases lines lf cr l <;> simp [onFirstLine]

end Stockroom.Text
