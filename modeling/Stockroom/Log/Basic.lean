import Stockroom.Session

/-!
# The log

The log tells what the program does, for whoever looks after it.  An entry belongs to a part of the program and has a
severity and a message.  How an entry is worded in full, with the time and the values beside its message, is left open.
`Session.logLine` gives the entries that a line leaves.
-/

namespace Stockroom

open Text

inductive Severity where
  | error
  | warning
  | information
  | debug
  deriving DecidableEq, Repr

/-- The parts of the program that write entries. -/
inductive LogArea where
  | program
  | console
  | history
  | session
  | parsing
  | inventory
  deriving DecidableEq, Repr

/-- The name by which a part is selected. -/
def LogArea.name : LogArea → String
  | program => "stockroom"
  | console => "stockroom::repl"
  | history => "stockroom::history"
  | session => "stockroom::app"
  | parsing => "stockroom::commands::router"
  | inventory => "stockroom::inventory"

structure LogEntry where
  area : LogArea
  severity : Severity
  message : String
  /-- The names of what it tells beside its message. -/
  details : List String := []
  deriving DecidableEq, Repr

namespace Session

/-- The entries for a line. -/
def logLine (s : Session) (line : String) : List LogEntry :=
  match s.pending with
  | some _ =>
    ⟨.session, .debug, "Answer to pending confirmation", ["answer"]⟩ ::
      if Answer.read line = .yes then [⟨.inventory, .debug, "Applying confirmed change", ["pending"]⟩] else []
  | none =>
    if (trim line.toList).isEmpty then []
    else match matchCommand commandTable (settleQuotes line.toList) with
      | .error _ => []
      | .ok _ =>
        ⟨.parsing, .debug, "Matched command", ["command", "args"]⟩ :: match Command.parse line with
          | .error _ => []
          | .ok c =>
            ⟨.inventory, .debug, "Executing command", ["command"]⟩ ::
              if (s.inventory.execute c).1.isOk then []
              else [⟨.inventory, .information, "Command rejected", ["error"]⟩]

end Session

end Stockroom
