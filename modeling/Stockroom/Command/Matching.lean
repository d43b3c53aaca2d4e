import Stockroom.Command.Grammar
import Stockroom.Fault
import Stockroom.Text.Blank
import Stockroom.Text.Upper

/-!
# Finding the command of a line

The words of a line are compared in upper case with the words of every definition.  Of those that fit, the longest
wins, so the order of the table does not matter.  What follows the command's words and one blank is left for the
arguments.
-/

namespace Stockroom

open Text

/-- The words of a line in upper case. -/
def commandWords (line : List Char) : List String :=
  (words line).map fun w => String.ofList (upper w)

/-- Whether the definition's words are the first of the line. -/
def Definition.fits (d : Definition) (tokens : List String) : Bool :=
  d.words.isPrefixOf tokens

/-- The definition with the most words, the last one of several. -/
def longest? : List Definition → Option Definition
  | [] => none
  | d :: ds =>
    match longest? ds with
    | none => some d
    | some e => if d.words.length ≤ e.words.length then some e else some d

/-- What is left of a line after its first `n` words. -/
def dropWords : Nat → List Char → List Char
  | 0, line => line
  | n + 1, line => dropWords n ((trimStart line).dropWhile (!isBlank ·))

/-- Drops one leading blank. -/
def dropBlank : List Char → List Char
  | [] => []
  | c :: l => if isBlank c then l else c :: l

/-- A definition that fits a line, and the text for its arguments. -/
structure Matched where
  definition : Definition
  remainder : List Char

/-- Looks the line's command up in a table. -/
def matchCommand (table : List Definition) (line : List Char) : Except Fault Matched :=
  let tokens := commandWords line
  match longest? (table.filter (·.fits tokens)) with
  | some d => .ok ⟨d, dropBlank (dropWords d.words.length line)⟩
  | none => .error (.unknownCommand (" ".intercalate (tokens.take maxCommandWords)))

/-! ### The definition with the most words -/

theorem mem_of_longest? {ds : List Definition} {d : Definition} (h : longest? ds = some d) : d ∈ ds := by
  induction ds with
  | nil => cases h
  | cons e ds ih =>
    unfold longest? at h
    split at h
    · rw [Option.some.inj h]
      exact List.mem_cons_self
    · rename_i f hf
      split at h
      · obtain rfl := Option.some.inj h
        exact List.mem_cons_of_mem _ (ih hf)
      · rw [Option.some.inj h]
        exact List.mem_cons_self

theorem longest?_eq_none_iff {ds : List Definition} : longest? ds = none ↔ ds = [] := by
  cases ds with
  | nil => simp [longest?]
  | cons d ds =>
    unfold longest?
    split
    · simp
    · split <;> simp

theorem length_le_of_longest? {ds : List Definition} {d e : Definition} (h : longest? ds = some d) (he : e ∈ ds) :
    e.words.length ≤ d.words.length := by
  induction ds generalizing d with
  | nil => cases he
  | cons f ds ih =>
    unfold longest? at h
    split at h
    · rename_i hnone
      obtain rfl := Option.some.inj h
      obtain rfl := longest?_eq_none_iff.1 hnone
      obtain rfl := List.mem_singleton.1 he
      exact Nat.le_refl _
    · rename_i g hg
      split at h
      · rename_i hle
        obtain rfl := Option.some.inj h
        rcases List.mem_cons.1 he with rfl | he
        · exact hle
        · exact ih hg he
      · obtain rfl := Option.some.inj h
        rcases List.mem_cons.1 he with rfl | he
        · exact Nat.le_refl _
        · have hle := ih hg he
          omega

end Stockroom
