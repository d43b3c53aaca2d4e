import Stockroom.Text.Blank

/-!
# Quoted arguments

A line may quote one argument that contains spaces.  `settleQuotes` trims a line and turns the quotes inside the
outermost pair into apostrophes, so that a name may hold quotes of its own.  `tokens` cuts the text after the command
into arguments: at each space if there is no quote, and otherwise where a quote touches a space.
-/

namespace Stockroom

open Text

/-! ### Settling the quotes of a line -/

/-- Turns every quote but the last into an apostrophe. -/
def softenQuotes : List Char → List Char
  | [] => []
  | c :: l => (if c = '"' ∧ '"' ∈ l then '\'' else c) :: softenQuotes l

/-- Keeps the first quote and softens those after it up to the last. -/
def softenInner : List Char → List Char
  | [] => []
  | c :: l => if c = '"' then c :: softenQuotes l else c :: softenInner l

/-- The line without surrounding blanks; of more than two quotes only the first and the last stay quotes. -/
def settleQuotes (line : List Char) : List Char :=
  softenInner (trim line)

/-! ### Cutting the arguments -/

/-- Cuts at every space that touches a quote, taking the quote away with the space.  Cuts are made from the left and
do not overlap. -/
def quotedPieces : List Char → List (List Char)
  | [] => [[]]
  | ' ' :: '"' :: l => [] :: quotedPieces l
  | '"' :: ' ' :: l => [] :: quotedPieces l
  | c :: l => (quotedPieces l).modifyHead (c :: ·)

/-- Drops one leading quote. -/
def dropOpening : List Char → List Char
  | '"' :: l => l
  | l => l

/-- Drops one trailing quote. -/
def dropClosing (l : List Char) : List Char :=
  if l.getLast? = some '"' then l.dropLast else l

/-- A piece without the quotes that wrap it and without surrounding blanks. -/
def cleanPiece (piece : List Char) : List Char :=
  trim (dropClosing (dropOpening piece))

/-- The arguments in a text, without empty ones. -/
def tokens (text : List Char) : List (List Char) :=
  let cut := if '"' ∈ text then quotedPieces text else pieces (· == ' ') text
  (cut.map cleanPiece).filter (!·.isEmpty)

end Stockroom
