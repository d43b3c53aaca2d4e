import Stockroom.Packages.Toml.Quoted

/-!
# Documents

A document is a sequence of lines: blank ones, comments, headers in single or double brackets, and assignments.  Only
arrays and strings in triple quotes may run over several lines.  `document` gives the table that a text stands for, or
nothing if the text is not TOML.  A key has at most `maxNesting` parts, and arrays and inline tables may not be nested
deeper than that.
-/

namespace Stockroom.Toml

open Text

/-- The bound on the parts of a key and on the nesting of values. -/
def maxNesting : Nat := 79

/-! ### Blanks, comments and ends of line -/

def skipBlanks (l : List Char) : List Char :=
  l.dropWhile fun c => c == ' ' || c == '\t'

/-- Skips what may stand after a statement: a comment, and the end of the line or of the text. -/
def lineEnd (l : List Char) : Option (List Char) :=
  let rest := match skipBlanks l with
    | '#' :: comment => comment.dropWhile Quoted.isPlain
    | other => other
  match rest with
  | [] => some []
  | '\n' :: next => some next
  | '\r' :: '\n' :: next => some next
  | _ => none

/-- Skips blanks, comments and ends of line between the items of an array. -/
def skipGap (inComment : Bool) : List Char → Option (List Char)
  | [] => some []
  | '\n' :: l => skipGap false l
  | '\r' :: '\n' :: l => skipGap false l
  | c :: l =>
    if inComment then (if Quoted.isPlain c then skipGap true l else none)
    else if c == ' ' || c == '\t' then skipGap false l
    else if c == '#' then skipGap true l
    else some (c :: l)

/-! ### Keys -/

def isBare (c : Char) : Bool :=
  c.isAlphanum || c == '_' || c == '-'

/-- Reads one part of a key. -/
def keyPart (l : List Char) : Option (String × List Char) :=
  if l.head? = some '"' ∨ l.head? = some '\'' then
    (Quoted.oneLine l).map fun (s, rest) => (String.ofList s, rest)
  else
    let run := l.takeWhile isBare
    if run.isEmpty then none else some (String.ofList run, l.dropWhile isBare)

/-- Reads a dotted key of at most so many parts, with the blanks around it. -/
def keyParts : Nat → List Char → Option (List String × List Char)
  | 0, _ => none
  | n + 1, l => do
    let (part, rest) ← keyPart (skipBlanks l)
    match skipBlanks rest with
    | '.' :: rest => do
      let (parts, rest) ← keyParts n rest
      return (part :: parts, rest)
    | rest => return ([part], rest)

/-- A key as a path and its last part. -/
structure Key where
  path : List String
  last : String

def readKey (l : List Char) : Option (Key × List Char) := do
  let (parts, rest) ← keyParts maxNesting l
  let last ← parts.getLast?
  return (⟨parts.dropLast, last⟩, rest)

/-! ### Values -/

/-- Whether a scalar without quotes ends before this character. -/
def isDelimiter (c : Char) : Bool :=
  c == ' ' || c == '\t' || c == '\n' || c == '\r' || c == ',' || c == ']' || c == '}' || c == '#'

def spanScalar (l : List Char) : List Char × List Char :=
  (l.takeWhile (!isDelimiter ·), l.dropWhile (!isDelimiter ·))

/-- Reads a scalar without quotes.  The space between a date and its time is part of it. -/
def scalar (l : List Char) : Option (Node × List Char) :=
  let (run, rest) := spanScalar l
  match rest with
  | ' ' :: c :: more =>
    if Scalar.isDate run && isDigit c then
      let (time, rest) := spanScalar (c :: more)
      (Scalar.read (run ++ ' ' :: time)).map (·, rest)
    else (Scalar.read run).map (·, rest)
  | _ => (Scalar.read run).map (·, rest)

mutual

/-- Reads a value.  `depth` bounds how deep arrays and inline tables may still be nested. -/
def value : Nat → Nat → List Char → Option (Node × List Char)
  | 0, _, _ => none
  | fuel + 1, depth, l =>
    match l with
    | '"' :: _ => (Quoted.read l).map fun (s, rest) => (.text (String.ofList s), rest)
    | '\'' :: _ => (Quoted.read l).map fun (s, rest) => (.text (String.ofList s), rest)
    | '[' :: rest => if depth = 0 then none else items fuel (depth - 1) [] rest
    | '{' :: rest =>
      if depth = 0 then none
      else match skipBlanks rest with
        | '}' :: rest => some (.table .inline [], rest)
        | rest => fields fuel (depth - 1) [] rest
    | _ => scalar l

/-- Reads the items of an array up to its closing bracket; a comma may follow the last one. -/
def items : Nat → Nat → List Node → List Char → Option (Node × List Char)
  | 0, _, _, _ => none
  | fuel + 1, depth, read, l => do
    match ← skipGap false l with
    | ']' :: rest => return (.array read, rest)
    | l => do
      let (node, rest) ← value fuel depth l
      match ← skipGap false rest with
      | ',' :: rest => items fuel depth (read ++ [node]) rest
      | ']' :: rest => return (.array (read ++ [node]), rest)
      | _ => none

/-- Reads the assignments of an inline table up to its closing brace; no comma may follow the last one. -/
def fields : Nat → Nat → Entries → List Char → Option (Node × List Char)
  | 0, _, _, _ => none
  | fuel + 1, depth, read, l => do
    let (key, rest) ← readKey l
    match rest with
    | '=' :: rest => do
      let (node, rest) ← value fuel depth (skipBlanks rest)
      let read ← assign key.path key.last node .inline read
      match skipBlanks rest with
      | ',' :: rest => fields fuel depth read rest
      | '}' :: rest => return (.table .inline read, rest)
      | _ => none
    | _ => none

end

/-- Reads a value at the beginning of a text; the fuel covers every text of its length. -/
def readValue (l : List Char) : Option (Node × List Char) :=
  value (2 * l.length + 2) maxNesting l

/-! ### Statements -/

/-- Reads the statements of a document into `root`; `current` is the path of the last header. -/
def statements : Nat → List String → Entries → List Char → Option Entries
  | 0, _, _, _ => none
  | fuel + 1, current, root, l =>
    match skipBlanks l with
    | [] => some root
    | '#' :: _ => do statements fuel current root (← lineEnd l)
    | '\n' :: rest => statements fuel current root rest
    | '\r' :: '\n' :: rest => statements fuel current root rest
    | '[' :: '[' :: rest => do
      let (key, rest) ← readKey rest
      match rest with
      | ']' :: ']' :: rest => do
        let root ← openElement key.path key.last root
        statements fuel (key.path ++ [key.last]) root (← lineEnd rest)
      | _ => none
    | '[' :: rest => do
      let (key, rest) ← readKey rest
      match rest with
      | ']' :: rest => do
        let root ← openTable key.path key.last root
        statements fuel (key.path ++ [key.last]) root (← lineEnd rest)
      | _ => none
    | l => do
      let (key, rest) ← readKey l
      match rest with
      | '=' :: rest => do
        let (node, rest) ← readValue (skipBlanks rest)
        let root ← alter false (assign key.path key.last node) current .opened root
        statements fuel current root (← lineEnd rest)
      | _ => none

/-- Drops the byte order mark that a text may begin with. -/
def dropMark : List Char → List Char
  | c :: l => if c.toNat = 0xFEFF then l else c :: l
  | [] => []

/-- The table that a text stands for. -/
def document (text : List Char) : Option Entries :=
  statements (text.length + 1) [] [] (dropMark text)

end Stockroom.Toml
