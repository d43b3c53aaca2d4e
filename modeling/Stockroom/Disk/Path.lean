import Stockroom.Text.Pieces
import Stockroom.Text.Utf8

/-!
# Paths

A path is a text whose parts are separated by slashes.  `steps` are the parts by which it leads from one directory to
the next: empty parts lead nowhere, and a slash at the end asks for a directory like a last `.`.
-/

namespace Stockroom.Path

open Text

def isAbsolute (path : String) : Bool :=
  path.toList.head? = some '/'

/-- The parts of a path, empty ones included. -/
def parts (path : String) : List String :=
  (pieces (· == '/') path.toList).map String.ofList

def steps (path : String) : List String :=
  let named := (parts path).filter (· ≠ "")
  if (parts path).getLast? = some "" then named ++ ["."] else named

/-- The parts that go somewhere. -/
def names (path : String) : List String :=
  (parts path).filter fun part => part ≠ "" ∧ part ≠ "."

/-- How many parts a path has to a reader: a `.` counts only as the first one. -/
def size (path : String) : Nat :=
  (names path).length + if (parts path).head? = some "." then 1 else 0

/-- Drops the parts at the end that go nowhere. -/
def trimEnd (parts : List String) : List String :=
  (parts.reverse.dropWhile fun part => part = "" ∨ part = ".").reverse

/-- The directory around a path, written as in the path; empty if the path is a bare name. -/
def directory (path : String) : String :=
  "/".intercalate (trimEnd (trimEnd (parts path)).dropLast)

/-- Whether a machine takes a path at all: it is neither empty nor too long, and has no character zero in it. -/
def isUsable (path : String) : Bool :=
  path ≠ "" && (utf8 path.toList).length < 4096 && !path.toList.any fun c => c.toNat == 0

/-- Puts a relative path behind a directory. -/
def join (directory path : String) : String :=
  if directory.toList.getLast? = some '/' then directory ++ path else directory ++ "/" ++ path

/-- Where a log goes: a bare name is placed in the directory for state, any other path is kept. -/
def ofLog (stateHome file : String) : String :=
  if isAbsolute file ∨ 1 < size file then file
  else join (join stateHome "stockroom") file

end Stockroom.Path
