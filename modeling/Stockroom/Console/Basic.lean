import Stockroom.Console.Screen
import Stockroom.History
import Stockroom.Session
import Stockroom.Text.Line
import Stockroom.Text.Utf8

/-!
# The console

The console feeds lines to a session, writes what each line produced, and keeps the history of the lines.  Lines come
from scripts, where each is echoed after the prompt, and from inputs, where they arrive as bytes between the ticks of
the history timer.  Scripts and inputs follow one another on the same console: the session goes on.

Handing a batch of history over may fail; whether it does is part of the event that causes it, so every pattern of
failures is some sequence of events.  A fault that stops a script or an input leaves the console usable.
-/

namespace Stockroom

open Text

structure Console where
  /-- Written before each command. -/
  prompt : String
  history : History
  /-- Whether there is a place for the history; without one it is only buffered. -/
  recording : Bool
  screen : Screen := {}
  session : Session := {}
  /-- Whether the first prompt has been written. -/
  started : Bool := false
  /-- The batches of history handed over so far, each with whether that succeeded. -/
  handed : List (List String × Bool) := []
  deriving DecidableEq, Repr

/-- A console after some work, and the fault that stopped the work, if any. -/
structure Progress where
  console : Console
  fault : Option Fault := none
  deriving DecidableEq, Repr

/-- Goes on unless the work has stopped. -/
def Progress.andThen (p : Progress) (next : Console → Progress) : Progress :=
  match p.fault with
  | none => next p.console
  | some _ => p

namespace Console

def new (prompt : String) (batchSize : Nat) (recording : Bool) (limit : Option Screen.Limit) : Console :=
  { prompt, history := History.new batchSize, recording, screen := { limit } }

/-! ### Writing -/

def outputFault (reason : String) : Fault :=
  .internal ("Failed to write output: " ++ reason)

def put (c : Console) (text : String) : Progress :=
  let (screen, refusal) := c.screen.write (utf8 text.toList)
  ⟨{ c with screen }, refusal.map outputFault⟩

/-- The text by which an output appears: a question leaves the cursor after it, a table is followed by an empty
line. -/
def shown : Option Output → String
  | none => ""
  | some o =>
    match o with
    | .prompt s => s
    | .table .. => o.text ++ "\n\n"
    | _ => o.text ++ "\n"

/-- Writes the first prompt, once. -/
def start (c : Console) : Progress :=
  if c.started then ⟨c, none⟩ else put { c with started := true } c.prompt

/-! ### Lines -/

/-- Records a line, feeds it to the session and shows the result, then the prompt unless a question is waiting. -/
def takeLine (c : Console) (line : String) : Progress :=
  let (output, session) := c.session.feed line
  (put { c with history := c.history.record line, session } (shown output)).andThen fun c =>
    if c.session.isAwaiting then ⟨c, none⟩ else c.put c.prompt

/-- Echoes a line before taking it. -/
def echoLine (c : Console) (line : String) : Progress :=
  (c.put (line ++ "\n")).andThen (·.takeLine line)

/-! ### History -/

/-- Takes a handover into account and shows its notice. -/
def handOver (c : Console) (h : History.Handover) (succeeded : Bool) : Progress :=
  let handed := match h.batch with
    | some batch => c.handed ++ [(batch, succeeded)]
    | none => c.handed
  let c := { c with history := h.history, handed }
  match h.notice with
  | some notice => c.put ("\n" ++ notice.text ++ "\n")
  | none => ⟨c, none⟩

/-- The timer: a full batch is handed over if there is one. -/
def tick (c : Console) (succeeds : Bool) : Progress :=
  if c.recording then c.handOver (c.history.flush succeeds) succeeds else ⟨c, none⟩

/-- The end of an input: the rest of the history is handed over. -/
def finish (c : Console) (succeeds : Bool) : Progress :=
  if c.recording then c.handOver (c.history.drain succeeds) succeeds else ⟨c, none⟩

/-! ### Scripts and inputs -/

def echoLines : List String → Console → Progress
  | [], c => ⟨c, none⟩
  | line :: rest, c => (c.echoLine line).andThen (echoLines rest)

/-- Runs the lines of a script. -/
def runScript (c : Console) (script : List Char) : Progress :=
  c.start.andThen (echoLines ((textLines script).map String.ofList))

/-- What happens while an input is read. -/
inductive Event where
  /-- A line arrives, without its end. -/
  | line (bytes : List UInt8)
  /-- The history timer fires; a batch that is due can be handed over or not. -/
  | tick (succeeds : Bool)
  deriving DecidableEq, Repr

def inputFault (flaw : Utf8Flaw) : Fault :=
  .internal ("Failed to read input: " ++ flaw.text)

/-- Takes an event in.  A line that is not UTF-8 stops the input; before that the history is finished.  The end of a
line does not count, so a character that it cuts off is incomplete and not malformed. -/
def takeEvent (succeeds : Bool) (event : Event) (c : Console) : Progress :=
  match event with
  | .tick appended => c.tick appended
  | .line bytes =>
    match utf8Decode bytes with
    | .ok text => c.takeLine (String.ofList text)
    | .error flaw => (c.finish succeeds).andThen fun c => ⟨c, some (inputFault flaw)⟩

/-- Reads an input to its end and finishes the history there. -/
def readEvents (succeeds : Bool) : List Event → Console → Progress
  | [], c => c.finish succeeds
  | event :: rest, c => (c.takeEvent succeeds event).andThen (readEvents succeeds rest)

/-- Runs an input given as events; `succeeds` tells whether the rest of the history can be handed over at its end. -/
def runInput (c : Console) (events : List Event) (succeeds : Bool) : Progress :=
  c.start.andThen (readEvents succeeds events)

/-- The events of a byte stream during which the timer does not fire. -/
def eventsOf (bytes : List UInt8) : List Event :=
  (byteLines bytes).map .line

end Console

end Stockroom
