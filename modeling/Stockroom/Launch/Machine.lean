import Stockroom.Console.Basic
import Stockroom.Disk.Basic
import Stockroom.Packages.Basic

/-!
# Machines

What a run asks of the machine it runs on: files, a screen, an error stream, the wording of log entries and what comes
in while it waits.  A machine may be the real one; `World.machine` is one whose disk and screen are values.
-/

namespace Stockroom

/-- What comes in while the program waits for input. -/
inductive Arrival where
  /-- A line without its end. -/
  | line (bytes : List UInt8)
  /-- The history timer. -/
  | tick
  deriving DecidableEq, Repr

structure Machine (m : Type → Type) where
  /-- What is at a path. -/
  find : String → m (Option Entry)
  makeDirectories : String → m Unit
  /-- Extends the file at a path, or makes one, and tells whether that was possible. -/
  extend : String → List UInt8 → m Bool
  print : List UInt8 → m Unit
  complain : List UInt8 → m Unit
  /-- The text of a log entry.  It holds the time, so it is not the same for the same entry. -/
  word : LogEntry → m (List UInt8)
  /-- Has a console take in what arrives, one thing after the other, and then the end of the input.  A fault ends
  this before.  The history timer fires about every `interval` milliseconds. -/
  listen (interval : Nat) : (Console → Arrival → m Progress) → (Console → m Progress) → Console → m Progress

/-- Goes on unless the work has stopped. -/
def Progress.thenDo {m : Type → Type} [Monad m] (p : Progress) (next : Console → m Progress) : m Progress :=
  match p.fault with
  | none => next p.console
  | some _ => return p

/-! ### Machines with values for disk and screen -/

structure World where
  disk : Disk
  screen : List UInt8 := []
  /-- How many log entries have been worded. -/
  worded : Nat := 0
  deriving DecidableEq, Repr

/-- What such a machine is given. -/
structure Conditions where
  /-- The directory that relative paths start from. -/
  here : Place := []
  arrivals : List Arrival := []
  /-- The texts of the log entries, by how many there were before. -/
  wording : Nat → LogEntry → List UInt8 := fun _ _ => []

namespace World

/-- Extends the file at a path, if there is one or it can be made. -/
def extend (here : Place) (path : String) (bytes : List UInt8) (w : World) : Bool × World :=
  match w.disk.filePlace? here path with
  | some place => (true, { w with disk := w.disk.append place bytes })
  | none => (false, w)

/-- Takes in what arrives up to a fault, and the end. -/
def listen {m : Type → Type} [Monad m] (take : Console → Arrival → m Progress) (close : Console → m Progress) :
    List Arrival → Console → m Progress
  | [], c => close c
  | arrival :: rest, c => do
    let taken ← take c arrival
    taken.thenDo (listen take close rest)

def machine (k : Conditions) : Machine (StateM World) where
  find path := fun w => (w.disk.find? k.here path, w)
  makeDirectories path := fun w => ((), { w with disk := w.disk.makeDirectories k.here path })
  extend path bytes := extend k.here path bytes
  print bytes := fun w => ((), { w with screen := w.screen ++ bytes })
  complain _ := pure ()
  word entry := fun w => (k.wording w.worded entry, { w with worded := w.worded + 1 })
  listen _ take close := listen take close k.arrivals

end World

end Stockroom
