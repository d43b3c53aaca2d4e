import Stockroom.Log.Basic
import Stockroom.Packages.Log.Pattern
import Stockroom.Text.Cut

/-!
# Log directives

A directive says how deep the log goes: for everything, for the parts of the program whose name begins with a target, or
for entries with some field.  It is a depth (`debug`), a target (`stockroom::history`), or a target with brackets, a
depth or both (`stockroom[{error}]=warn`).

The blanks around a directive belong to it, but the positions of its marks are counted from the first character that
is not blank.  So a directive with blanks in front is cut at other places than those of its marks.
-/

namespace Stockroom

open Text

/-- The depth from which on a log has the entries of this severity. -/
def Severity.depth : Severity → Nat
  | error => 1
  | warning => 2
  | information => 3
  | debug => 4

/-- The names of all that an entry tells. -/
def LogEntry.fields (e : LogEntry) : List String :=
  "message" :: e.details

structure LogDirective where
  /-- What the name of a part begins with. -/
  target : String := ""
  depth : Nat
  /-- A field that entries must have. -/
  field : Option String := none
  /-- Whether it is for work that has been given a name or a value: this program gives none. -/
  forWork : Bool := false
  deriving DecidableEq, Repr

/-- Why a text is not a directive. -/
inductive DirectiveFault where
  | malformed
  /-- A place to cut lies inside a character. -/
  | torn
  deriving DecidableEq, Repr

namespace LogDirective

/-! ### Depths -/

/-- More than the deepest severity. -/
def fullDepth : Nat := 5

/-- A depth as a number, with a plus sign or without. -/
def numericDepth? (word : List Char) : Option Nat :=
  let ds := match word with
    | '+' :: l => l
    | l => l
  if !ds.isEmpty && ds.all isDigit && digitsValue ds ≤ fullDepth then some (digitsValue ds) else none

/-- The depth that a word stands for. -/
def depth? (word : List Char) : Option Nat :=
  match String.ofList (word.map Char.toLower) with
  | "off" => some 0
  | "error" => some 1
  | "warn" => some 2
  | "info" => some 3
  | "debug" => some 4
  | "trace" => some fullDepth
  | _ => numericDepth? word

/-! ### Values -/

/-- The exponent of a number, or nothing. -/
def isExponent : List Char → Bool
  | [] => true
  | e :: l =>
    let ds := match l with
      | '+' :: l | '-' :: l => l
      | l => l
    (e == 'e' || e == 'E') && !ds.isEmpty && ds.all isDigit

def isDecimal (l : List Char) : Bool :=
  let whole := l.takeWhile isDigit
  match l.dropWhile isDigit with
  | '.' :: l => !(whole.isEmpty && (l.takeWhile isDigit).isEmpty) && isExponent (l.dropWhile isDigit)
  | l => !whole.isEmpty && isExponent l

def isNumber (l : List Char) : Bool :=
  let l := match l with
    | '+' :: l | '-' :: l => l
    | l => l
  ["inf", "infinity", "nan"].contains (String.ofList (l.map Char.toLower)) || isDecimal l

/-- Whether a text can be compared with the value of a field. -/
def isValue (l : List Char) : Bool :=
  isNumber l || isPattern l

/-! ### Parts -/

/-- The part of a directive between two positions. -/
def part (word : List Char) (start stop : Nat) : Except DirectiveFault (List Char) :=
  match cut? start stop word with
  | some l => .ok l
  | none => .error .torn

/-- The depth from a position to the end; without one, everything is logged. -/
def depthFrom (word : List Char) (start : Nat) : Except DirectiveFault Nat := do
  match ← part word start (byteLength word) with
  | [] => return fullDepth
  | level =>
    match depth? level with
    | some depth => return depth
    | none => .error .malformed

/-- The depth after the brackets of a directive. -/
def depthAfter (word : List Char) (position : Nat) : List Char → Except DirectiveFault Nat
  | [] => .ok fullDepth
  | '=' :: _ => depthFrom word (position + 1)
  | _ => .error .malformed

/-- The name of a field, and whether a value is asked for. -/
def readField (text : List Char) : Except DirectiveFault (String × Bool) :=
  match text, pieces (· == '=') text with
  | _ :: _, [name] => .ok (String.ofList name, false)
  | _ :: _, name :: value :: _ => if isValue value then .ok (String.ofList name, true) else .error .malformed
  | _, _ => .error .malformed

/-- The first of some marks in a text that begins at a position: the mark, its position, and what follows it. -/
def nextMark? (marks : List Char) : Nat → List Char → Option (Char × Nat × List Char)
  | _, [] => none
  | position, c :: l =>
    if marks.contains c then some (c, position, l) else nextMark? marks (position + c.utf8Size) l

/-- Reads on after the bracket at a position. -/
def readBrackets (word target : List Char) (start : Nat) (rest : List Char) : Except DirectiveFault LogDirective := do
  match nextMark? [']', '{'] start rest with
  | none => .error .malformed
  | some (']', stop, rest) =>
    let _ ← part word start stop
    return { target := String.ofList target, depth := ← depthAfter word (stop + 1) rest, forWork := true }
  | some (_, stop, rest) =>
    let name ← part word start stop
    match nextMark? ['}'] (stop + 1) rest with
    | none => .error .malformed
    | some (_, fieldStop, rest) =>
      let (field, valued) ← readField (← part word (stop + 1) fieldStop)
      match rest with
      | ']' :: rest =>
        let depth ← depthAfter word (fieldStop + 2) rest
        return { target := String.ofList target, depth, field := some field, forWork := !name.isEmpty || valued }
      | _ => .error .malformed

def mayBegin (c : Char) : Bool :=
  c == '-' || c == ':' || c == '_' || isAlphanumeric c

/-- Reads a directive. -/
def read (word : List Char) : Except DirectiveFault LogDirective := do
  match trim word with
  | [] => .error .malformed
  | '[' :: rest => readBrackets word [] 1 rest
  | c :: l =>
    if !mayBegin c then .error .malformed
    else match nextMark? ['=', '['] 0 (c :: l) with
      | none =>
        match depth? word with
        | some depth => return { depth }
        | none => return { target := String.ofList word, depth := fullDepth }
      | some (mark, stop, rest) =>
        let target ← part word 0 stop
        if mark = '[' then readBrackets word target (stop + 1) rest
        else return { target := String.ofList target, depth := ← depthFrom word (stop + 1) }

/-! ### What a directive is for -/

/-- Whether a directive is for an entry. -/
def applies (d : LogDirective) (entry : LogEntry) : Bool :=
  !d.forWork && d.target.toList.isPrefixOf entry.area.name.toList && d.field.all entry.fields.contains

/-- Whether a directive is more particular than another one for the same entry: by its target, then by its field. -/
def outranks (d e : LogDirective) : Bool :=
  if d.target.length = e.target.length then
    match d.field, e.field with
    | some a, some b => b < a
    | some _, none => true
    | none, _ => false
  else e.target.length < d.target.length

end LogDirective

end Stockroom
