import Stockroom.Command.Grammar
import Stockroom.Packages.Visible
import Stockroom.Text.Pieces

/-!
# Usage

The texts that `--help` and `--version` ask for, the first with a reference behind it.  Options are listed in two
columns.  A description may run over several lines, all in the second column, and what it holds for the terminal is left
out.
-/

namespace Stockroom.Usage

open Text

def version : String :=
  "stockroom 0.1.0\n"

structure OptionLine where
  letter : Option String := none
  /-- The name, and the value that it takes. -/
  form : String
  description : String

def optionLines (testFile : Option String) : List OptionLine :=
  [{ form := "--config <PATH>", description := "Config file path" },
   { form := "--history-file <PATH>", description := "Append command history to this file" },
   { form := "--no-history", description := "Do not record command history" },
   { form := "--script <PATH>",
     description := "Fixture file whose lines run before reading stdin [env: TESTFILE=" ++ testFile.getD "" ++ "]" },
   { form := "--prompt <PROMPT>", description := "Prompt printed before each command" },
   { letter := some "-h", form := "--help", description := "Print help" },
   { letter := some "-V", form := "--version", description := "Print version" }]

/-- The columns before the descriptions. -/
def indent : Nat := 29

/-- The blanks in front of the first name. -/
def OptionLine.lead (l : OptionLine) : String :=
  match l.letter with
  | some _ => "  "
  | none => "      "

/-- A text with its lines set into the second column. -/
def indented (s : String) : String :=
  ("\n" ++ padRight indent "").intercalate ((pieces (· == '\n') s.toList).map String.ofList)

/-- A line from its first name on. -/
def OptionLine.body (l : OptionLine) : String :=
  let names := match l.letter with
    | some letter => letter ++ ", " ++ l.form
    | none => l.form
  padRight (indent - l.lead.length) names ++ indented l.description

/-- The lines from the first name on.  Names are set in bold, which ends any sequence for the terminal before them. -/
def optionBlock : List OptionLine → String
  | [] => ""
  | [l] => String.ofList (visible l.body.toList)
  | l :: m :: rest => String.ofList (visible (l.body ++ "\n" ++ m.lead).toList) ++ optionBlock (m :: rest)

def help (reference : String) (testFile : Option String) : String :=
  "An interactive command interpreter for in-memory product and warehouse inventory\n\n" ++
    "Usage: stockroom [OPTIONS]\n\nOptions:\n      " ++ optionBlock (optionLines testFile) ++ "\n\n" ++
    reference ++ "\n"

end Stockroom.Usage
