import Stockroom.Text.Utf8

/-!
# Visible text

`visible` leaves out of a text what is meant for a terminal and not for a reader: control characters, except blanks,
and the sequences that an escape character begins.  A sequence that is not complete hides what follows up to its end.
Text that holds no such character stays as it is (`visible_eq_self`).
-/

namespace Stockroom.Text

/-- What the characters so far have begun. -/
inductive Sequence where
  | none
  /-- An escape character alone. -/
  | escape
  /-- An escape character and one from space to slash. -/
  | escapeLong
  /-- A control sequence: it ends at a letter or another character from `@` to `~`. -/
  | control
  /-- The head of a device control string, by what it holds so far. -/
  | device
  | deviceParameter
  | deviceMiddle
  /-- The body of a device control string, or another string for the terminal. -/
  | string
  /-- A command to the operating system. -/
  | command
  deriving DecidableEq, Repr

/-- The blanks among the control characters. -/
def isControlBlank (n : Nat) : Bool :=
  n == 0x09 || n == 0x0A || n == 0x0C || n == 0x0D

/-- The characters that are shown where no sequence has begun. -/
def isShown (c : Char) : Bool :=
  isControlBlank c.toNat || (0x20 ≤ c.toNat && c.toNat != 0x7F)

namespace Sequence

/-- Where a control character that is a blank is shown, and shows the characters after it. -/
def isOpen : Sequence → Bool
  | escape | escapeLong | control => true
  | _ => false

/-- The sequence after an escape character and this one. -/
def opened (n : Nat) : Sequence :=
  if n < 0x20 ∨ 0x7F ≤ n then escape
  else if n < 0x30 then escapeLong
  else if n = 0x50 then device
  else if n = 0x5B then control
  else if n = 0x5D then command
  else if n = 0x58 ∨ n = 0x5E ∨ n = 0x5F then string
  else none

/-- The sequence after one more hidden character.  A byte `9C` within the character ends a string. -/
def next (s : Sequence) (c : Char) : Sequence :=
  let n := c.toNat
  if n = 0x18 ∨ n = 0x1A then none
  else if n = 0x1B then escape
  else match s with
    | none => none
    | escape => opened n
    | escapeLong => if 0x30 ≤ n ∧ n < 0x7F then none else escapeLong
    | control => if 0x40 ≤ n ∧ n < 0x7F then none else control
    | device =>
      if n < 0x20 ∨ 0x7F ≤ n then device
      else if n < 0x30 then deviceMiddle
      else if n < 0x40 then deviceParameter
      else string
    | deviceParameter =>
      if n < 0x20 ∨ 0x7F ≤ n then deviceParameter
      else if n < 0x30 then deviceMiddle
      else if n < 0x3C then deviceParameter
      else string
    | deviceMiddle => if 0x30 ≤ n ∧ n < 0x7F then string else deviceMiddle
    | string => if (utf8Code n).contains 0x9C then none else string
    | command => if n = 0x07 then none else command

end Sequence

/-- The visible part of a text inside a sequence; `showing` tells whether the last character was shown. -/
def visibleFrom : Sequence → Bool → List Char → List Char
  | _, _, [] => []
  | s, showing, c :: l =>
    if (showing || s == .none) && isShown c then
      c :: visibleFrom (if c.toNat < 0x80 then s else .none) true l
    else if s.isOpen && isControlBlank c.toNat then c :: visibleFrom s true l
    else visibleFrom (s.next c) false l

def visible (l : List Char) : List Char :=
  visibleFrom .none false l

theorem visible_eq_self {l : List Char} (h : ∀ c ∈ l, isShown c = true) : visible l = l := by
  suffices ∀ showing, visibleFrom .none showing l = l from this false
  induction l with
  | nil => intro showing; rfl
  | cons c l ih =>
    intro showing
    have hc : isShown c = true := h c (by simp)
    have hl := ih (fun d hd => h d (by simp [hd]))
    simp [visibleFrom, hc, hl]

end Stockroom.Text
