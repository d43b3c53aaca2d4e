import Stockroom.Text.Alphanumeric
import Stockroom.Text.Blank
import Stockroom.Text.Decimal

/-!
# Patterns

A pattern describes texts: it is made of characters, brackets with sets of characters, groups, alternatives and
repetitions.  `isPattern` tells which texts are patterns; what a pattern describes is not needed here.  Counted
repetitions and other forms with braces are not patterns.

A group may be preceded by flags that change how it is read (`PatternMode`).
-/

namespace Stockroom

open Text

/-- How a part of a pattern is read. -/
structure PatternMode where
  /-- Blanks and comments are left out. -/
  spaced : Bool := false
  /-- Only the characters of ASCII can be described. -/
  narrow : Bool := false
  deriving DecidableEq, Repr

namespace Pattern

/-- Leaves out blanks and comments, where they do not count. -/
def skip (mode : PatternMode) (l : List Char) : List Char :=
  if mode.spaced then text l else l
where
  /-- The rest from the next character on that counts. -/
  text : List Char → List Char
    | [] => []
    | c :: l => if isBlank c then text l else if c = '#' then comment l else c :: l
  /-- The same inside a comment. -/
  comment : List Char → List Char
    | [] => []
    | c :: l => if c = '\n' then text l else comment l

/-! ### Characters -/

/-- What an element of a pattern stands for. -/
inductive Element where
  | character (c : Char)
  /-- One of several characters. -/
  | oneOf
  /-- A place between characters. -/
  | place
  deriving DecidableEq, Repr

def hexDigitValue? (c : Char) : Option Nat :=
  let n := c.toNat
  if isDigit c then some (digitValue c)
  else if 0x41 ≤ n ∧ n ≤ 0x46 then some (n - 0x41 + 10)
  else if 0x61 ≤ n ∧ n ≤ 0x66 then some (n - 0x61 + 10)
  else none

/-- Reads a character that is given by so many hexadecimal digits; `code` is the value of those read before. -/
def readCode (mode : PatternMode) : Nat → Nat → List Char → Option (Char × List Char)
  | 0, code, l => if code.isValidChar then some (Char.ofNat code, l) else none
  | count + 1, code, l =>
    match skip mode l with
    | c :: l =>
      match hexDigitValue? c with
      | some d => readCode mode count (16 * code + d) l
      | none => none
    | [] => none

/-- The letters after a backslash that stand for a control character. -/
def controls : List (Char × Char) :=
  [('a', '\x07'), ('f', '\x0C'), ('t', '\t'), ('n', '\n'), ('r', '\r'), ('v', '\x0B')]

/-- The letters of the general categories. -/
def categories : List Char :=
  "CLMNPSZclmnpsz".toList

/-- Reads what follows a backslash. -/
def readEscape (mode : PatternMode) : List Char → Option (Element × List Char)
  | [] => none
  | 'x' :: l => do
    let (c, l) ← readCode mode 2 0 l
    if mode.narrow ∧ 0x80 ≤ c.toNat then none else some (.character c, l)
  | 'u' :: l => (readCode mode 4 0 l).map fun r => (.character r.1, r.2)
  | 'U' :: l => (readCode mode 8 0 l).map fun r => (.character r.1, r.2)
  | c :: l =>
    match controls.lookup c with
    | some control => some (.character control, l)
    | none =>
      if c = 'p' ∨ c = 'P' then
        match skip mode l with
        | category :: l => if categories.contains category ∧ !mode.narrow then some (.oneOf, l) else none
        | [] => none
      else if c = 'd' ∨ c = 's' ∨ c = 'w' then some (.oneOf, l)
      else if c = 'D' ∨ c = 'S' ∨ c = 'W' then if mode.narrow then none else some (.oneOf, l)
      else if c = 'A' ∨ c = 'z' then some (.place, l)
      else if c = 'b' ∨ c = 'B' ∨ c = '<' ∨ c = '>' then if mode.narrow then some (.place, l) else none
      else if c.isAlphanum ∨ 0x80 ≤ c.toNat then none
      else some (.character c, l)

/-! ### Brackets -/

/-- The names of the sets that can stand between colons. -/
def setNames : List String :=
  ["alnum", "alpha", "ascii", "blank", "cntrl", "digit", "graph", "lower", "print", "punct", "space", "upper",
    "word", "xdigit"]

/-- Reads the name of a set after a bracket: between colons, with a bracket behind it.  Tells whether it is negated. -/
def readSetName : List Char → Option (Bool × List Char)
  | ':' :: l =>
    let negated := l.head? = some '^'
    let l := if negated then l.tail else l
    match l.dropWhile (· ≠ ':') with
    | ':' :: ']' :: rest =>
      if setNames.contains (String.ofList (l.takeWhile (· ≠ ':'))) then some (negated, rest) else none
    | _ => none
  | _ => none

/-- Leaves out the hyphens that may begin a bracket. -/
def skipHyphens (mode : PatternMode) : Nat → List Char → List Char
  | fuel + 1, '-' :: l => skipHyphens mode fuel (skip mode l)
  | _, l => l

/-- What follows the beginning of a bracket: a sign of negation, and hyphens or a bracket that stand for themselves. -/
def enterBracket (mode : PatternMode) (l : List Char) : Option (List Char) :=
  match skip mode l with
  | '^' :: l => if mode.narrow then none else some (members (skip mode l))
  | l => some (members l)
where
  /-- The rest from the first member on that does not stand for itself because of its place. -/
  members : List Char → List Char
    | ']' :: l => l
    | l => skipHyphens mode l.length l

/-- Whether an element can be in a bracket. -/
def isMember (mode : PatternMode) : Element → Bool
  | .character c => !mode.narrow || c.toNat < 0x80
  | .oneOf => true
  | .place => false

/-- Reads one element inside a bracket. -/
def readMember (mode : PatternMode) (l : List Char) : Option (Element × List Char) :=
  let read := match l with
    | [] => none
    | '\\' :: l => readEscape mode l
    | c :: l => some (.character c, l)
  read.filter (isMember mode ·.1)

/-- Reads an element inside a bracket, or two with a hyphen between them: two characters in their order. -/
def readRange (mode : PatternMode) (l : List Char) : Option (List Char) := do
  let (first, l) ← readMember mode l
  match skip mode l with
  | '-' :: after =>
    match skip mode after with
    | ']' :: _ | '-' :: _ => some ('-' :: after)
    | l =>
      match first, ← readMember mode l with
      | .character a, (.character b, l) => if a.toNat ≤ b.toNat then some l else none
      | _, _ => none
  | l => some l

/-- Reads brackets to the end of the outermost; `depth` counts those that have begun. -/
def readBrackets (mode : PatternMode) : Nat → Nat → List Char → Option (List Char)
  | 0, _, _ => none
  | fuel + 1, depth, l =>
    match skip mode l with
    | [] => none
    | ']' :: l => if depth ≤ 1 then some l else readBrackets mode fuel (depth - 1) l
    | '[' :: l =>
      match readSetName l with
      | some (negated, l) => if negated ∧ mode.narrow then none else readBrackets mode fuel depth l
      | none => (enterBracket mode l).bind (readBrackets mode fuel (depth + 1))
    | '&' :: '&' :: l | '-' :: '-' :: l | '~' :: '~' :: l => readBrackets mode fuel depth l
    | l => (readRange mode l).bind (readBrackets mode fuel depth)

/-! ### Groups -/

/-- The flags of a group: each at most once, those after a hyphen switched off. -/
def readFlags (mode : PatternMode) (flags : List Char) : Option PatternMode :=
  if flags.all ("imsUuRx-".toList.contains ·) ∧ flags.Nodup ∧ flags.getLast? ≠ some '-' then
    let on := flags.takeWhile (· ≠ '-')
    some {
      spaced := if flags.contains 'x' then on.contains 'x' else mode.spaced
      narrow := if flags.contains 'u' then !on.contains 'u' else mode.narrow }
  else none

/-- Reads the name of a group. -/
def readName (l : List Char) : Option (String × List Char) :=
  let name := l.takeWhile (· ≠ '>')
  match name, l.dropWhile (· ≠ '>') with
  | c :: cs, _ :: rest =>
    if (c = '_' ∨ (isAlphanumeric c ∧ !isDigit c)) ∧ cs.all fun c => "_.[]".toList.contains c || isAlphanumeric c then
      some (String.ofList name, rest)
    else none
  | _, _ => none

/-- How far a pattern has been read. -/
structure Reading where
  mode : PatternMode := {}
  /-- The modes around the groups that have begun, innermost first. -/
  outer : List PatternMode := []
  /-- The names of groups so far. -/
  names : List String := []
  /-- Whether there is something that a repetition can follow. -/
  repeatable : Bool := false
  deriving DecidableEq, Repr

/-- The beginning of a group. -/
def Reading.enter (p : Reading) (mode : PatternMode) : Reading :=
  { p with mode, outer := p.mode :: p.outer, repeatable := false }

/-- Reads what follows the parenthesis that begins a group.  A group of flags alone changes the one around it. -/
def readGroup (p : Reading) (l : List Char) : Option (Reading × List Char) :=
  match skip p.mode l with
  | '?' :: '<' :: '=' :: _ | '?' :: '<' :: '!' :: _ => none
  | '?' :: 'P' :: '<' :: l | '?' :: '<' :: l => do
    let (name, l) ← readName l
    if p.names.contains name then none
    else some ({ p.enter p.mode with names := name :: p.names }, l)
  | '?' :: l =>
    let flags := l.takeWhile fun c => c ≠ ':' ∧ c ≠ ')'
    match readFlags p.mode flags, l.dropWhile fun c => c ≠ ':' ∧ c ≠ ')' with
    | some mode, ':' :: l => some (p.enter mode, l)
    | some mode, _ :: l => if flags.isEmpty then none else some ({ p with mode, repeatable := false }, l)
    | _, _ => none
  | l => some (p.enter p.mode, l)

/-! ### Patterns -/

/-- Reads the next element, group or sign of a pattern. -/
def readNext (p : Reading) : List Char → Option (Reading × List Char)
  | [] => none
  | '(' :: l => readGroup p l
  | ')' :: l =>
    match p.outer with
    | mode :: outer => some ({ p with mode, outer, repeatable := true }, l)
    | [] => none
  | '|' :: l => some ({ p with repeatable := false }, l)
  | '[' :: l => do
    let inside ← enterBracket p.mode l
    let rest ← readBrackets p.mode (inside.length + 1) 1 inside
    return ({ p with repeatable := true }, rest)
  | '?' :: l | '*' :: l | '+' :: l => if p.repeatable then some (p, l) else none
  | '{' :: _ => none
  | '.' :: l => if p.mode.narrow then none else some ({ p with repeatable := true }, l)
  | '\\' :: l => (readEscape p.mode l).map fun r => ({ p with repeatable := true }, r.2)
  | _ :: l => some ({ p with repeatable := true }, l)

/-- Whether the rest of a pattern can be read. -/
def isRest : Nat → Reading → List Char → Bool
  | 0, _, _ => false
  | fuel + 1, p, l =>
    match skip p.mode l with
    | [] => p.outer.isEmpty
    | l =>
      match readNext p l with
      | some (p, l) => isRest fuel p l
      | none => false

end Pattern

/-- Whether a text is a pattern. -/
def isPattern (text : List Char) : Bool :=
  Pattern.isRest (text.length + 1) {} text

end Stockroom
