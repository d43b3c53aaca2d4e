import Stockroom.Launch.Machine

/-!
# The program

The steps of a run on any machine, in their order.  The command line is judged first, then the settings, then the log
file is opened and the log filter read, then the script is read; only when all this has succeeded is anything written
to the screen.  What a console does with lines and ticks is decided elsewhere: here what it shows is written, the
batches that are due are put into the history file, and what happens is logged.
-/

namespace Stockroom

open Text

/-- The variables of the environment that a run heeds. -/
structure Surroundings where
  configHome : String
  stateHome : String
  /-- The script to run if the command line names none. -/
  testFile : Option String := none
  /-- The log filter that counts before the one of the settings. -/
  logFilter : Option String := none
  deriving DecidableEq, Repr

/-- A log that has been opened.  Without a file it goes to the error stream. -/
structure Log where
  passes : LogFilter
  file : Option String

namespace Launch

/-! ### Settings and filters -/

/-- The settings from what is in the place of the config file. -/
def load (read : SettingsReader) (path : String) (found : Option Entry) : Except SettingsFault Settings :=
  match found with
  | none => .ok {}
  | some .directory => .error (.unreadable "Is a directory")
  | some (.file bytes) => Settings.ofBytes read path bytes

/-- The settings with the flags applied. -/
def settings (read : SettingsReader) (path : String) (found : Option Entry) (flags : Flags) :
    Except SettingsFault Settings := do
  (flags.applyTo (← load read path found)).checked

/-- The filter of the environment if it is one, otherwise that of a level; none if one breaks down while it is read. -/
def filter? (packages : Packages) (w : Surroundings) (level : String) : Option LogFilter :=
  match w.logFilter.map packages.readFilter with
  | some (.accepted filter) => some filter
  | some .torn => none
  | some .refused | none => packages.readLevel level

/-- The code of a run that ends because a log filter breaks down. -/
def tornCode : Nat := 101

/-! ### Scripts -/

/-- The text of a script, if there is one that can be read. -/
def scriptText (path : String) (found : Option Entry) : Except Fault (List Char) :=
  let unread (reason : String) : Except Fault (List Char) :=
    .error (.settings ("Failed to read script " ++ path ++ ": " ++ reason))
  match found with
  | none => unread "No such file or directory"
  | some .directory => unread "Is a directory"
  | some (.file bytes) =>
    match utf8Decode bytes with
    | .ok text => .ok text
    | .error _ => unread "stream did not contain valid UTF-8"

/-! ### Log entries -/

def faultEntry (f : Fault) : LogEntry :=
  ⟨.program, .error, f.category ++ ": " ++ f.message, []⟩

def recordingEntry (path : String) : LogEntry :=
  ⟨.program, .information, "Recording history to " ++ path, []⟩

def scriptEntry (path : String) : LogEntry :=
  ⟨.program, .information, "Running script " ++ path, []⟩

def closedEntry : LogEntry :=
  ⟨.console, .debug, "Input closed", []⟩

def droppedEntry : LogEntry :=
  ⟨.history, .warning, "Dropping command history", ["error", "lines"]⟩

end Launch

/-! ### Steps -/

namespace Machine

open Launch

variable {m : Type → Type} [Monad m] (machine : Machine m)

/-- Writes an entry if it passes. -/
def log (log : Log) (entry : LogEntry) : m Unit := do
  if log.passes entry then
    let text ← machine.word entry
    match log.file with
    | some path => discard (machine.extend path text)
    | none => machine.complain text

/-- Writes to the screen what some work has added to that of a console. -/
def present (before : Console) (p : Progress) : m Progress := do
  machine.print (p.console.screen.written.drop before.screen.written.length)
  return p

variable (log : Log)

def takeLine (c : Console) (line : String) : m Progress := do
  (c.session.logLine line).forM (machine.log log)
  machine.present c (c.takeLine line)

/-- Echoes a line before taking it. -/
def echoLine (c : Console) (line : String) : m Progress := do
  let echoed ← machine.present c (c.put (line ++ "\n"))
  echoed.thenDo (machine.takeLine log · line)

def echoLines : List String → Console → m Progress
  | [], c => return ⟨c, none⟩
  | line :: rest, c => do
    let taken ← machine.echoLine log c line
    taken.thenDo (echoLines rest)

def runScript (text : List Char) (c : Console) : m Progress := do
  let started ← machine.present c c.start
  started.thenDo (machine.echoLines log ((textLines text).map String.ofList))

variable (s : HistorySettings)

/-- Hands over the batch that is due, if one is and there is a place for it, and tells whether that went well. -/
def handOver (c : Console) (due : Option (List String × History)) : m Bool := do
  match c.recording, due with
  | true, some (batch, _) =>
    let succeeded ← machine.extend s.path (utf8 (History.fileText batch).toList)
    if !succeeded then machine.log log droppedEntry
    return succeeded
  | _, _ => return true

def takeArrival (c : Console) : Arrival → m Progress
  | .tick => do
    let succeeds ← machine.handOver log s c c.history.takeBatch?
    machine.present c (c.tick succeeds)
  | .line bytes => do
    match utf8Decode bytes with
    | .ok text => machine.takeLine log c (String.ofList text)
    | .error _ =>
      let succeeds ← machine.handOver log s c c.history.takeAll?
      machine.present c (c.takeEvent succeeds (.line bytes))

def closeInput (c : Console) : m Progress := do
  machine.log log closedEntry
  let succeeds ← machine.handOver log s c c.history.takeAll?
  machine.present c (c.finish succeeds)

def runInput (c : Console) : m Progress := do
  let started ← machine.present c c.start
  started.thenDo (machine.listen s.flushInterval (machine.takeArrival log s) (machine.closeInput log s))

/-- Runs a script, if there is one, and the input on a new console. -/
def converse (s : Settings) (script : Option (List Char)) : m Progress := do
  let console := Console.new s.prompt s.history.batchSize s.history.enabled none
  let scripted ← match script with
    | some text => machine.runScript log text console
    | none => pure ⟨console, none⟩
  scripted.thenDo (machine.runInput log s.history)

end Machine

/-! ### Runs -/

namespace Launch

variable {m : Type → Type} [Monad m] (machine : Machine m) (packages : Packages) (w : Surroundings)

/-- Makes the log file and gives its path.  Where it cannot be made the run goes on without one. -/
def openLog (s : LogSettings) : m (Option String) := do
  match s.file with
  | none => return none
  | some file =>
    let path := Path.ofLog w.stateHome file
    machine.makeDirectories (Path.directory path)
    return if ← machine.extend path [] then some path else none

/-- Logs where the history goes. -/
def announce (log : Log) (s : HistorySettings) : m Unit := do
  if s.enabled then machine.log log (recordingEntry s.path)

/-- The script to run, if there is one. -/
def readScript (log : Log) : Option String → m (Except Fault (Option (List Char)))
  | none => return .ok none
  | some path => do
    match scriptText path (← machine.find path) with
    | .ok text =>
      machine.log log (scriptEntry path)
      return .ok (some text)
    | .error f => return .error f

def conclude (log : Log) : Option Fault → m Nat
  | none => return 0
  | some f => do
    machine.log log (faultEntry f)
    return 1

/-- Reads the script and runs it. -/
def proceed (log : Log) (s : Settings) (script : Option String) : m Nat := do
  match ← readScript machine log script with
  | .error f => conclude machine log (some f)
  | .ok text =>
    let done ← machine.converse log s text
    conclude machine log done.fault

/-- Runs with settings that are in order. -/
def start (s : Settings) (script : Option String) : m Nat := do
  let file ← openLog machine w s.log
  match filter? packages w s.log.level with
  | none => return tornCode
  | some passes =>
    announce machine ⟨passes, file⟩ s.history
    proceed machine ⟨passes, file⟩ s script

/-- Ends a run whose settings are refused. -/
def refuse (f : Fault) : m Nat := do
  match filter? packages w "warn" with
  | none => return tornCode
  | some passes => conclude machine ⟨passes, none⟩ (some f)

def program (args : List String) : m Nat := do
  match packages.readArguments commandReference w.testFile args with
  | .ended code screen complaint =>
    machine.print screen
    machine.complain complaint
    return code
  | .started flags =>
    let path := flags.configPath w.configHome
    match settings packages.readSettings path (← machine.find path) flags with
    | .error f => refuse machine packages w f.fault
    | .ok s => start machine packages w s flags.script

end Launch

/-! ### Runs on a disk -/

/-- What a run leaves behind. -/
structure RunResult where
  code : Nat
  screen : List UInt8
  disk : Disk
  deriving DecidableEq, Repr

/-- What work that gives an exit code leaves behind in a world. -/
def World.resultOf (x : StateM World Nat) (w : World) : RunResult :=
  let (code, w) := x.run w
  ⟨code, w.screen, w.disk⟩

def Launch.run (packages : Packages) (w : Surroundings) (k : Conditions) (args : List String) (d : Disk) : RunResult :=
  World.resultOf (program (World.machine k) packages w args) ⟨d, [], 0⟩

end Stockroom
