/-!
# Cutting a text at byte positions

A position in a text is the number of bytes that the characters before it take in UTF-8.  `cut?` gives the part between
two positions, unless one of them lies inside a character or after the end.  Cutting out of a longer text gives back
what was put in (`cut?_append`).
-/

namespace Stockroom.Text

/-- The number of bytes of a text. -/
def byteLength : List Char → Nat
  | [] => 0
  | c :: l => c.utf8Size + byteLength l

/-- The parts before and after a position. -/
def splitAt? : Nat → List Char → Option (List Char × List Char)
  | 0, l => some ([], l)
  | _ + 1, [] => none
  | n + 1, c :: l =>
    if c.utf8Size ≤ n + 1 then (splitAt? (n + 1 - c.utf8Size) l).map fun parts => (c :: parts.1, parts.2)
    else none

/-- The part between two positions. -/
def cut? (start stop : Nat) (l : List Char) : Option (List Char) :=
  ((splitAt? stop l).bind fun parts => splitAt? start parts.1).map Prod.snd

theorem byteLength_append (l m : List Char) : byteLength (l ++ m) = byteLength l + byteLength m := by
  induction l with
  | nil => simp [byteLength]
  | cons c l ih => simp [byteLength, ih, Nat.add_assoc]

theorem splitAt?_byteLength_append (l m : List Char) : splitAt? (byteLength l) (l ++ m) = some (l, m) := by
  induction l with
  | nil => simp [byteLength, splitAt?]
  | cons c l ih =>
    obtain ⟨n, hn⟩ : ∃ n, byteLength (c :: l) = n + 1 := by
      have := c.utf8Size_pos
      exact ⟨byteLength (c :: l) - 1, by simp only [byteLength]; omega⟩
    have hc : c.utf8Size ≤ n + 1 := by
      simp only [byteLength] at hn
      omega
    have hl : n + 1 - c.utf8Size = byteLength l := by
      simp only [byteLength] at hn
      omega
    rw [hn, List.cons_append, splitAt?, if_pos hc, hl, ih]
    rfl

theorem cut?_append (l m r : List Char) :
    cut? (byteLength l) (byteLength l + byteLength m) (l ++ m ++ r) = some m := by
  have h := splitAt?_byteLength_append (l ++ m) r
  rw [byteLength_append] at h
  rw [cut?, h, Option.bind_some, splitAt?_byteLength_append]
  rfl

end Stockroom.Text
