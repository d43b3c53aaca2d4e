import Stockroom.Packages.Toml.Document
import Stockroom.Settings.Basic

/-!
# Config files

Reads a TOML document with the tables `history`, `logging` and `repl` as settings.  Everything may be left out, names
without a meaning are passed over, and values of the wrong kind are refused.
-/

namespace Stockroom.Config

open Toml

/-! ### Single values -/

def textOf : Node → Option String
  | .text s => some s
  | _ => none

def flagOf : Node → Option Bool
  | .boolean b => some b
  | _ => none

def countOf : Node → Option Nat
  | .integer (.ofNat n) => some n
  | _ => none

/-! ### Tables -/

/-- The fields of a table.  An array gives the values of the first fields in order; a date is a table without known
fields. -/
def fieldsOf (names : List String) : Node → Option Entries
  | .table _ entries => some entries
  | .moment => some []
  | .array items => some (names.zip items)
  | _ => none

/-- The value of a field, or the default if it is missing. -/
def field {α : Type} (entries : Entries) (name : String) (read : Node → Option α) (default : α) : Option α :=
  match entries.lookup name with
  | some node => read node
  | none => some default

def historyOf (defaults : HistorySettings) (node : Node) : Option HistorySettings := do
  let fields ← fieldsOf ["enabled", "path", "flush_interval_ms", "batch_size"] node
  return {
    enabled := ← field fields "enabled" flagOf defaults.enabled
    path := ← field fields "path" textOf defaults.path
    flushInterval := ← field fields "flush_interval_ms" countOf defaults.flushInterval
    batchSize := ← field fields "batch_size" countOf defaults.batchSize }

/-- Whether an array for the log is too short: unlike a table, it may not leave the file out. -/
def isShortLog : Node → Bool
  | .array items => items.length < 2
  | _ => false

def logOf (defaults : LogSettings) (node : Node) : Option LogSettings := do
  let fields ← fieldsOf ["level", "log_file"] node
  if isShortLog node then none
  else return {
    level := ← field fields "level" textOf defaults.level
    file := ← field fields "log_file" (fun file => (textOf file).map some) defaults.file }

def promptOf (default : String) (node : Node) : Option String := do
  field (← fieldsOf ["prompt"] node) "prompt" textOf default

/-- The settings that a document describes. -/
def ofDocument (defaults : Settings) (root : Entries) : Option Settings := do
  return {
    history := ← field root "history" (historyOf defaults.history) defaults.history
    log := ← field root "logging" (logOf defaults.log) defaults.log
    prompt := ← field root "repl" (promptOf defaults.prompt) defaults.prompt }

def read : SettingsReader := fun defaults text =>
  match (document text).bind (ofDocument defaults) with
  | some s => .ok s
  | none => .error "not a table of settings"

end Stockroom.Config
