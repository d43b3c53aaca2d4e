import Stockroom.Console.Basic

/-!
# Stages

A console is put to work in stages.  The source of a stage is a script or a byte stream; a byte stream comes with the
events of its input, in which its lines arrive in order and the timer fires any number of times before, between and
after them.  A stage that stops with a fault does not keep the next one from running.
-/

namespace Stockroom

open Text

/-- What a stage gets its lines from. -/
inductive Source where
  | script (text : List Char)
  | input (bytes : List UInt8)
  deriving DecidableEq, Repr

namespace Source

/-- The text of a source, if it can be read as one. -/
def text? : Source → Option (List Char)
  | script text => some text
  | input bytes => (utf8Decode bytes).toOption

def lines (s : Source) : List String :=
  (textLines (s.text?.getD [])).map String.ofList

def isScript : Source → Bool
  | script _ => true
  | input _ => false

end Source

/-- The bytes of the line that arrives, if one does. -/
def Console.Event.line? : Console.Event → Option (List UInt8)
  | line bytes => some bytes
  | tick _ => none

/-- A byte stream and what happens while it is read. -/
structure Input where
  bytes : List UInt8
  events : List Console.Event
  /-- Whether the rest of the history can be handed over at the end. -/
  succeeds : Bool
  arrives : events.filterMap Console.Event.line? = byteLines bytes
  deriving DecidableEq, Repr

inductive Stage where
  | script (text : List Char)
  | input (i : Input)
  deriving DecidableEq, Repr

namespace Stage

def source : Stage → Source
  | script text => .script text
  | input i => .input i.bytes

def run (c : Console) : Stage → Progress
  | script text => c.runScript text
  | input i => c.runInput i.events i.succeeds

/-- All of the history that is due during the stage can be handed over. -/
def Kept : Stage → Prop
  | script _ => True
  | input i => .tick false ∉ i.events ∧ i.succeeds = true

instance : DecidablePred Kept
  | script _ => inferInstanceAs (Decidable True)
  | input i => inferInstanceAs (Decidable (.tick false ∉ i.events ∧ i.succeeds = true))

end Stage

/-- Runs stages in order: how each one ended, and the console after them. -/
def Console.runStages : List Stage → Console → List (Option Fault) × Console
  | [], c => ([], c)
  | stage :: rest, c =>
    let p := stage.run c
    let (faults, last) := runStages rest p.console
    (p.fault :: faults, last)

end Stockroom
