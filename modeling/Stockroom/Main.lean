import Stockroom.Launch.Program
import Stockroom.Packages.Standard

/-!
# The executable

Runs the program on the standard streams and the files of the machine.
-/

namespace Stockroom.Executable

open Text

def byteArray (bytes : List UInt8) : ByteArray :=
  ⟨bytes.toArray⟩

/-! ### Files -/

/-- Opens a file, unless nothing is there. -/
def openFile (path : String) : IO (Option IO.FS.Handle) := do
  if !Path.isUsable path then return none
  try
    return some (← IO.FS.Handle.mk path .read)
  catch e =>
    match e with
    | .noFileOrDirectory .. | .inappropriateType .. | .invalidArgument .. => return none
    | _ => throw e

/-- What is at a path.  Whatever is there but cannot be read counts as a directory. -/
def find (path : String) : IO (Option Entry) := do
  try
    match ← openFile path with
    | some h => return some (.file (← h.readBinToEnd).toList)
    | none => return none
  catch _ => return some .directory

def makeDirectories (path : String) : IO Unit := do
  if Path.isUsable path then
    try IO.FS.createDirAll path catch _ => pure ()

/-- Extends a file, and tells whether that was possible. -/
def extend (path : String) (bytes : List UInt8) : IO Bool := do
  if !Path.isUsable path then return false
  try
    let h ← IO.FS.Handle.mk path .append
    h.write (byteArray bytes)
    h.flush
    return true
  catch _ => return false

/-! ### Streams -/

def writeTo (stream : IO.FS.Stream) (bytes : List UInt8) : IO Unit := do
  stream.write (byteArray bytes)
  stream.flush

/-- The rest of a line of an input with its end; without any byte the input is over. -/
partial def readLine (input : IO.FS.Stream) (line : ByteArray) : IO ByteArray := do
  let byte ← input.read 1
  let line := line ++ byte
  if byte.isEmpty || byte[0]? = some 10 then return line
  readLine input line

/-- Has a console take in the standard input, with a tick of the history timer before each line for which one is due. -/
partial def listen (interval due : Nat) (input : IO.FS.Stream) (take : Console → Arrival → IO Progress)
    (close : Console → IO Progress) (c : Console) : IO Progress := do
  let line ← readLine input ByteArray.empty
  let now ← IO.monoMsNow
  let ticked ← if due ≤ now then take c .tick else pure ⟨c, none⟩
  ticked.thenDo fun c => do
    match byteLines line.toList with
    | [] => close c
    | bytes :: _ =>
      let taken ← take c (.line bytes)
      taken.thenDo (listen interval (if due ≤ now then now + interval else due) input take close)

/-! ### The log -/

def severityName : Severity → String
  | .error => "ERROR"
  | .warning => "WARN"
  | .information => "INFO"
  | .debug => "DEBUG"

def word (entry : LogEntry) : IO (List UInt8) := do
  let time ← IO.monoMsNow
  return utf8 (toString time ++ " " ++ severityName entry.severity ++ " " ++ entry.area.name ++ ": " ++ entry.message ++
    "\n").toList

/-! ### Running -/

def machine : Machine IO where
  find
  makeDirectories
  extend
  print := fun bytes => do writeTo (← IO.getStdout) bytes
  complain := fun bytes => do writeTo (← IO.getStderr) bytes
  word
  listen := fun interval take close c => do listen interval (← IO.monoMsNow) (← IO.getStdin) take close c

/-- A directory that a variable of the environment names, or its usual place in the home directory. -/
def directoryOf (name usual : String) : IO String := do
  match (← IO.getEnv name).filter Path.isAbsolute with
  | some directory => return directory
  | none => return Path.join ((← IO.getEnv "HOME").getD "/") usual

def run (args : List String) : IO UInt32 := do
  let w : Surroundings := {
    configHome := ← directoryOf "XDG_CONFIG_HOME" ".config"
    stateHome := ← directoryOf "XDG_STATE_HOME" ".local/state"
    testFile := ← IO.getEnv "TESTFILE"
    logFilter := ← IO.getEnv "RUST_LOG" }
  return (← Launch.program machine Packages.standard w args).toUInt32

end Stockroom.Executable

/-- The program: writing that fails ends it like any other fault. -/
def main (args : List String) : IO UInt32 := do
  try Stockroom.Executable.run args
  catch e =>
    IO.eprintln e.toString
    return 1
