/-!
# Splitting a list at its separators

`pieces p l` lists the runs of `l` between the elements that satisfy `p`, empty runs included.  There is one run
more than there are separators (`length_pieces`), and no run holds a separator (`not_of_mem_pieces`).
-/

namespace Stockroom.Text

variable {α : Type}

/-- The runs between the separators, in order. -/
def pieces (p : α → Bool) : List α → List (List α)
  | [] => [[]]
  | a :: l => if p a then [] :: pieces p l else (pieces p l).modifyHead (a :: ·)

theorem length_pieces (p : α → Bool) (l : List α) : (pieces p l).length = l.countP p + 1 := by
  induction l with
  | nil => rfl
  | cons a l ih =>
    unfold pieces
    split <;> simp_all

theorem pieces_ne_nil (p : α → Bool) (l : List α) : pieces p l ≠ [] := by
  intro h
  have := length_pieces p l
  simp [h] at this

theorem not_of_mem_pieces {p : α → Bool} {l w : List α} (hw : w ∈ pieces p l) {a : α} (ha : a ∈ w) :
    p a = false := by
  induction l generalizing w with
  | nil => simp_all [pieces]
  | cons b l ih =>
    unfold pieces at hw
    split at hw
    · rcases List.mem_cons.1 hw with rfl | hw
      · simp at ha
      · exact ih hw ha
    · rename_i hb
      cases hl : pieces p l with
      | nil => exact absurd hl (pieces_ne_nil p l)
      | cons v vs =>
        rw [hl] at hw ih
        simp only [List.modifyHead_cons, List.mem_cons] at hw
        rcases hw with rfl | hw
        · rcases List.mem_cons.1 ha with rfl | ha
          · simpa using hb
          · exact ih (by simp) ha
        · exact ih (by simp [hw]) ha

end Stockroom.Text
