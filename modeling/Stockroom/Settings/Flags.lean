import Stockroom.Disk.Path
import Stockroom.Settings.Basic

/-!
# Flags

What may be asked for on the command line.  How arguments are read as flags is left open.
-/

namespace Stockroom

structure Flags where
  config : Option String := none
  historyFile : Option String := none
  noHistory : Bool := false
  script : Option String := none
  prompt : Option String := none
  deriving DecidableEq, Repr

namespace Flags

/-- The file that the settings come from. -/
def configPath (f : Flags) (configHome : String) : String :=
  f.config.getD (Path.join configHome "stockroom/config.toml")

/-- Flags win over the settings of a file. -/
def applyTo (f : Flags) (s : Settings) : Settings :=
  { s with
    history := { s.history with
      path := f.historyFile.getD s.history.path
      enabled := s.history.enabled && !f.noHistory }
    prompt := f.prompt.getD s.prompt }

end Flags

end Stockroom
