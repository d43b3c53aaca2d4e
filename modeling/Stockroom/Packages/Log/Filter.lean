import Stockroom.Packages.Log.Directive
import Stockroom.Text.Pieces

/-!
# Log filters

A filter is a list of directives with commas between them.  Of several that are for an entry, the most particular one
counts; an entry for which there is no directive does not pass.
-/

namespace Stockroom

open Text

structure DirectiveFilter where
  directives : List LogDirective
  deriving DecidableEq, Repr

namespace DirectiveFilter

/-- Lets everything pass up to a depth. -/
def upTo (depth : Nat) : DirectiveFilter :=
  ⟨[{ depth }]⟩

/-- The directives among some words.  Malformed ones are left out, but none may be torn. -/
def readWords : List (List Char) → Option (List LogDirective)
  | [] => some []
  | word :: rest =>
    match LogDirective.read word with
    | .ok d => (readWords rest).map (d :: ·)
    | .error .malformed => readWords rest
    | .error .torn => none

/-- The directives that some words are, if all of them are well formed; empty words are passed over. -/
def readAll : List (List Char) → Except DirectiveFault (List LogDirective)
  | [] => .ok []
  | [] :: rest => readAll rest
  | word :: rest => do
    let d ← LogDirective.read word
    return d :: (← readAll rest)

/-- The filter of some directives; without any it lets errors pass. -/
def ofDirectives : List LogDirective → DirectiveFilter
  | [] => upTo Severity.error.depth
  | directives => ⟨directives⟩

/-- Reads a filter as far as it is well formed, unless it is torn. -/
def read (text : String) : Option DirectiveFilter :=
  (readWords (pieces (· == ',') text.toList)).map ofDirectives

/-- Reads a filter that is well formed throughout. -/
def readStrictly (text : String) : Except DirectiveFault DirectiveFilter :=
  ofDirectives <$> readAll (pieces (· == ',') text.toList)

/-- The directive that counts for an entry: the last one of those that no other outranks. -/
def directive? (entry : LogEntry) : List LogDirective → Option LogDirective
  | [] => none
  | d :: ds =>
    match directive? entry ds with
    | none => if d.applies entry then some d else none
    | some e => if d.applies entry && d.outranks e then some d else some e

/-- Whether a filter lets an entry pass. -/
def passes (filter : DirectiveFilter) (entry : LogEntry) : Bool :=
  match directive? entry filter.directives with
  | some d => entry.severity.depth ≤ d.depth
  | none => false

end DirectiveFilter

end Stockroom
