import Stockroom.Packages.Toml.Scalar

/-!
# Quoted strings

Four kinds of quotes: basic ones with escapes and literal ones without, each on one line or, in triple quotes, over
several.  Every reader starts after the opening quotes and gives the string with the text after the closing ones.
-/

namespace Stockroom.Toml.Quoted

/-- A string and the text after it. -/
abbrev Read := Option (List Char × List Char)

/-- Puts a character in front of what was read. -/
def push (c : Char) (read : Read) : Read :=
  read.map fun (s, rest) => (c :: s, rest)

/-- The characters that may stand in a string as they are: a tab and all that are not control characters. -/
def isPlain (c : Char) : Bool :=
  c == '\t' || (0x20 ≤ c.toNat && c.toNat != 0x7F)

/-! ### Escapes -/

def shortEscape? : Char → Option Char
  | 'b' => some (Char.ofNat 0x08)
  | 't' => some '\t'
  | 'n' => some '\n'
  | 'f' => some (Char.ofNat 0x0C)
  | 'r' => some '\r'
  | '"' => some '"'
  | '\\' => some '\\'
  | _ => none

/-- The character of a code point in hexadecimal; surrogates and numbers beyond Unicode are none. -/
def codePoint? (ds : List Char) : Option Char :=
  if ds.all Scalar.isHexDigit then
    let n := Scalar.valueIn 16 ds
    if n.isValidChar then some (Char.ofNat n) else none
  else none

def pushEscape (c : Option Char) (read : Read) : Read :=
  match c with
  | some c => push c read
  | none => none

/-! ### On one line -/

def basic : List Char → Read
  | [] => none
  | '"' :: rest => some ([], rest)
  | '\\' :: 'u' :: a :: b :: c :: d :: rest => pushEscape (codePoint? [a, b, c, d]) (basic rest)
  | '\\' :: 'U' :: a :: b :: c :: d :: e :: f :: g :: h :: rest =>
    pushEscape (codePoint? [a, b, c, d, e, f, g, h]) (basic rest)
  | '\\' :: c :: rest => pushEscape (shortEscape? c) (basic rest)
  | c :: rest => if isPlain c && c != '\\' then push c (basic rest) else none

def literal : List Char → Read
  | [] => none
  | '\'' :: rest => some ([], rest)
  | c :: rest => if isPlain c then push c (literal rest) else none

/-! ### Over several lines

Up to two quotes may stand right before the closing ones.  An end of line is a line feed in the string, however it was
written.
-/

/-- Whether a line ends here but for spaces and tabs. -/
def endsLine (l : List Char) : Bool :=
  match l.dropWhile fun c => c == ' ' || c == '\t' with
  | '\n' :: _ => true
  | '\r' :: '\n' :: _ => true
  | _ => false

/-- Reads a basic string over several lines.  A backslash at the end of a line makes the reader skip blanks and further
ends of line; `skipping` tells whether it does. -/
def multiBasic (skipping : Bool) : List Char → Read
  | [] => none
  | '"' :: '"' :: '"' :: '"' :: '"' :: rest => some (['"', '"'], rest)
  | '"' :: '"' :: '"' :: '"' :: rest => some (['"'], rest)
  | '"' :: '"' :: '"' :: rest => some ([], rest)
  | '\r' :: '\n' :: rest => if skipping then multiBasic true rest else push '\n' (multiBasic false rest)
  | '\n' :: rest => if skipping then multiBasic true rest else push '\n' (multiBasic false rest)
  | '\\' :: 'u' :: a :: b :: c :: d :: rest => pushEscape (codePoint? [a, b, c, d]) (multiBasic false rest)
  | '\\' :: 'U' :: a :: b :: c :: d :: e :: f :: g :: h :: rest =>
    pushEscape (codePoint? [a, b, c, d, e, f, g, h]) (multiBasic false rest)
  | '\\' :: c :: rest =>
    if endsLine (c :: rest) then multiBasic true rest
    else pushEscape (shortEscape? c) (multiBasic false rest)
  | c :: rest =>
    if skipping && (c == ' ' || c == '\t') then multiBasic true rest
    else if isPlain c && c != '\\' then push c (multiBasic false rest)
    else none

def multiLiteral : List Char → Read
  | [] => none
  | '\'' :: '\'' :: '\'' :: '\'' :: '\'' :: rest => some (['\'', '\''], rest)
  | '\'' :: '\'' :: '\'' :: '\'' :: rest => some (['\''], rest)
  | '\'' :: '\'' :: '\'' :: rest => some ([], rest)
  | '\r' :: '\n' :: rest => push '\n' (multiLiteral rest)
  | '\n' :: rest => push '\n' (multiLiteral rest)
  | c :: rest => if isPlain c then push c (multiLiteral rest) else none

/-- Drops an end of line right after the opening quotes. -/
def dropFirstEnd : List Char → List Char
  | '\n' :: l => l
  | '\r' :: '\n' :: l => l
  | l => l

/-! ### Any quotes -/

/-- Reads a string on one line, from its opening quote on. -/
def oneLine : List Char → Read
  | '"' :: l => basic l
  | '\'' :: l => literal l
  | _ => none

/-- Reads any string, from its opening quotes on. -/
def read : List Char → Read
  | '"' :: '"' :: '"' :: l => multiBasic false (dropFirstEnd l)
  | '\'' :: '\'' :: '\'' :: l => multiLiteral (dropFirstEnd l)
  | l => oneLine l

end Stockroom.Toml.Quoted
