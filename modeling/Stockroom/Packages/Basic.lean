import Stockroom.Log.Basic
import Stockroom.Settings.Flags

/-!
# Packages

What the program leaves to packages: how arguments are read as flags, how a text is read as settings, and how a text is
read as a filter of log entries.  All that is said of the program holds for any packages, so also for readers that
refuse everything, and for filters that break down while they are read.
-/

namespace Stockroom

/-- What is made of the arguments of a run. -/
inductive CommandLine where
  | started (flags : Flags)
  /-- The run ends at once, with this code and this on the screen and on the error stream. -/
  | ended (code : Nat) (screen complaint : List UInt8)
  deriving DecidableEq, Repr

/-- Which entries a log takes. -/
abbrev LogFilter := LogEntry → Bool

/-- What is made of a text that should be a log filter. -/
inductive FilterReading where
  | accepted (filter : LogFilter)
  | refused
  /-- The reader itself breaks down. -/
  | torn

structure Packages where
  /-- Reads the arguments of a run, given the reference of the commands and the test file of the environment. -/
  readArguments (reference : String) (testFile : Option String) (args : List String) : CommandLine
  readSettings : SettingsReader
  /-- Reads a log filter as it stands. -/
  readFilter (text : String) : FilterReading
  /-- Reads a log filter as far as possible, unless the reader breaks down. -/
  readLevel (text : String) : Option LogFilter

end Stockroom
