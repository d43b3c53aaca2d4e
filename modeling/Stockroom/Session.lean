import Stockroom.Command.Parse
import Stockroom.Output

/-!
# Sessions

A session is an inventory and perhaps a question that waits for its answer.  Each line is a command, unless a question
is waiting: then it is the answer, whatever it holds.
-/

namespace Stockroom

open Text

structure Session where
  inventory : Inventory := {}
  /-- The question that the next line answers. -/
  pending : Option Question := none
  deriving DecidableEq, Repr

namespace Session

def new : Session := {}

/-- Answers a question.  It is settled either way. -/
def answer (s : Session) (q : Question) (line : String) : Option Output × Session :=
  match s.inventory.resolve q (Answer.read line) with
  | (.applied, inv) => (none, ⟨inv, none⟩)
  | (.declined message, inv) => (some (.message message), ⟨inv, none⟩)

/-- Carries out a command while no question is waiting. -/
def perform (s : Session) (command : Command) : Option Output × Session :=
  match s.inventory.execute command with
  | (.error fault, inv) => (some (.ofFault fault), ⟨inv, none⟩)
  | (.ok .done, inv) => (none, ⟨inv, none⟩)
  | (.ok (.listing l), inv) =>
    let output := Output.ofListing l
    (if output.isEmpty then none else some output, ⟨inv, none⟩)
  | (.ok (.asked q), inv) => (some (.prompt q.text), ⟨inv, some q⟩)

/-- Reads a line as a command; a blank line is ignored. -/
def command (s : Session) (line : String) : Option Output × Session :=
  if (trim line.toList).isEmpty then (none, s)
  else match Command.parse line with
    | .error fault => (some (.ofFault fault), s)
    | .ok c => s.perform c

/-- Takes one line in, and gives what to show for it. -/
def feed (s : Session) (line : String) : Option Output × Session :=
  match s.pending with
  | some q => s.answer q line
  | none => s.command line

/-- The session after a sequence of lines. -/
def run (s : Session) (lines : List String) : Session :=
  lines.foldl (fun t line => (t.feed line).2) s

def isAwaiting (s : Session) : Bool :=
  s.pending.isSome

theorem run_append (s : Session) (l m : List String) : s.run (l ++ m) = (s.run l).run m := by
  simp [run]

end Session

end Stockroom
