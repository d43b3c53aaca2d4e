import Stockroom.Fault
import Stockroom.Text.Utf8

/-!
# Settings

What a user may choose: where the history goes and in what batches, what is logged and where, and the prompt.  How a
text is read as settings is left open; what it leaves out has the defaults below.  `Settings.checked` refuses settings
by which a history cannot be kept.
-/

namespace Stockroom

structure HistorySettings where
  enabled : Bool := true
  path : String := "command_history.txt"
  /-- Milliseconds between two ticks of the history timer. -/
  flushInterval : Nat := 1000
  batchSize : Nat := 2
  deriving DecidableEq, Repr

structure LogSettings where
  level : String := "warn"
  file : Option String := none
  deriving DecidableEq, Repr

structure Settings where
  history : HistorySettings := {}
  log : LogSettings := {}
  prompt : String := ">"
  deriving DecidableEq, Repr

inductive SettingsFault where
  /-- The file is there but cannot be read. -/
  | unreadable (reason : String)
  /-- The text of the file cannot be read as settings. -/
  | malformed (path reason : String)
  | zeroInterval
  | zeroBatch
  deriving DecidableEq, Repr

def SettingsFault.fault : SettingsFault → Fault
  | unreadable reason => .settings ("Failed to read config file: " ++ reason)
  | malformed path reason => .settings ("Configuration error in " ++ path ++ ":\n  " ++ reason)
  | zeroInterval => .settings "history.flush_interval_ms must be greater than 0"
  | zeroBatch => .settings "history.batch_size must be greater than 0"

/-- A way to read a text as settings, given the values of what it leaves out. -/
abbrev SettingsReader := Settings → List Char → Except String Settings

namespace Settings

/-- Refuses values with which the history cannot be kept. -/
def checked (s : Settings) : Except SettingsFault Settings :=
  if s.history.flushInterval = 0 then .error .zeroInterval
  else if s.history.batchSize = 0 then .error .zeroBatch
  else .ok s

/-- The settings of a file with this content. -/
def ofBytes (read : SettingsReader) (path : String) (bytes : List UInt8) : Except SettingsFault Settings :=
  match Text.utf8Decode bytes with
  | .error _ => .error (.unreadable "stream did not contain valid UTF-8")
  | .ok text =>
    match read {} text with
    | .error reason => .error (.malformed path reason)
    | .ok s => s.checked

end Settings

end Stockroom
