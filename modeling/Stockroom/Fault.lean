/-!
# Faults

What can go wrong, by cause.  No fault ends a session: `Fault.message` is shown and the next line is read.
-/

namespace Stockroom

inductive Fault where
  /-- No command begins with these words. -/
  | unknownCommand (words : String)
  /-- One or more arguments are missing or of the wrong type. -/
  | invalidArguments (reasons : List String)
  /-- The command is well formed but not legal for the present inventory. -/
  | refused (sentence : String)
  | history (detail : String)
  | settings (detail : String)
  | internal (detail : String)
  deriving DecidableEq, Repr

namespace Fault

def category : Fault → String
  | unknownCommand _ => "Syntax Error"
  | invalidArguments _ => "Validation Error"
  | refused _ => "Domain Error"
  | history _ => "History Error"
  | settings _ => "Configuration Error"
  | internal _ => "Internal Error"

def message : Fault → String
  | unknownCommand words => "ERROR: Command not found [" ++ words ++ "]"
  | invalidArguments reasons => "ERROR: " ++ " ".intercalate reasons
  | refused sentence => sentence
  | history detail => "History error: " ++ detail
  | settings detail => "Configuration error: " ++ detail
  | internal detail => "Internal error: " ++ detail

end Fault

end Stockroom
