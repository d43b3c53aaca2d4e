/-!
# Configuration trees

A TOML document is a table of named nodes.  A table may be written in several ways, and how it was written decides what
may still be added to it: this is its `TableForm`.  `assign`, `openTable` and `openElement` are the three ways in which
a document grows; each fails where TOML forbids to define something twice.
-/

namespace Stockroom.Toml

/-- How a table came to be. -/
inductive TableForm where
  /-- By a header of its own. -/
  | opened
  /-- By the header of a table inside it. -/
  | implied
  /-- By a dotted key. -/
  | dotted
  /-- As a value in braces. -/
  | inline
  deriving DecidableEq, Repr

inductive Node where
  | text (s : String)
  | integer (n : Int)
  | boolean (b : Bool)
  | float
  /-- A date, a time or both. -/
  | moment
  | array (items : List Node)
  /-- Tables with the same header in double brackets. -/
  | tables (elements : List Node)
  | table (form : TableForm) (entries : List (String × Node))

abbrev Entries := List (String × Node)

namespace Entries

/-- Puts another node in the place of the first one of that name. -/
def replace (key : String) (node : Node) : Entries → Entries
  | [] => []
  | e :: es => if e.1 = key then (key, node) :: es else e :: replace key node es

end Entries

/-! ### Reaching a table -/

/-- Changes the table at the end of a path and makes the tables on the way that are missing.  A path of dotted keys
makes dotted tables and may not enter one that has a header; a path of a header makes implied ones, and enters the
last element where it meets tables in double brackets.  Values in braces are closed to both. -/
def alter (dotted : Bool) (change : TableForm → Entries → Option Entries) :
    List String → TableForm → Entries → Option Entries
  | [], form, es => change form es
  | key :: path, _, es =>
    match es.lookup key with
    | none => do
      let form := if dotted then .dotted else .implied
      let inner ← alter dotted change path form []
      return es ++ [(key, .table form inner)]
    | some (.table form inner) =>
      if form = .inline ∨ (dotted ∧ form = .opened) then none
      else do
        let inner ← alter dotted change path form inner
        return Entries.replace key (.table form inner) es
    | some (.tables elements) =>
      match elements.getLast? with
      | some (.table form inner) => do
        let inner ← alter dotted change path form inner
        return Entries.replace key (.tables (elements.dropLast ++ [.table form inner])) es
      | _ => none
    | some _ => none

/-! ### Growing a document -/

/-- Adds `key = node` below a path of dotted keys.  The table reached must be dotted exactly if the path is not
empty. -/
def assign (path : List String) (key : String) (node : Node) : TableForm → Entries → Option Entries :=
  alter true (fun form es =>
    if (form = .dotted ↔ path = []) ∨ (es.lookup key).isSome then none else some (es ++ [(key, node)])) path

/-- Opens the table of a header.  It may exist only as the surroundings of tables inside it. -/
def openTable (path : List String) (key : String) (root : Entries) : Option Entries :=
  alter false (fun _ es =>
    match es.lookup key with
    | none => some (es ++ [(key, .table .opened [])])
    | some (.table .implied inner) => some (Entries.replace key (.table .opened inner) es)
    | some _ => none) path .opened root

/-- Opens one more element of the tables of a header in double brackets. -/
def openElement (path : List String) (key : String) (root : Entries) : Option Entries :=
  alter false (fun _ es =>
    match es.lookup key with
    | none => some (es ++ [(key, .tables [.table .opened []])])
    | some (.tables elements) => some (Entries.replace key (.tables (elements ++ [.table .opened []])) es)
    | some _ => none) path .opened root

end Stockroom.Toml
