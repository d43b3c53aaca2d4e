import Stockroom.Disk.Path
import Stockroom.Text.Utf8

/-!
# Disks

A disk holds files and directories.  A path leads over directories that are there; only its last part may be missing
where a file is to be made.  Files are never made shorter: `append` and `makeDirectories` are the only changes.
-/

namespace Stockroom

/-- A place on a disk, by the names from the root down. -/
abbrev Place := List String

inductive Entry where
  | file (bytes : List UInt8)
  | directory
  deriving DecidableEq, Repr

structure Disk where
  entries : List (Place × Entry) := []
  deriving DecidableEq, Repr

namespace Disk

/-! ### Finding -/

/-- What is at a place.  The root is always a directory. -/
def get? (d : Disk) (place : Place) : Option Entry :=
  if place = [] then some .directory else d.entries.lookup place

/-- Goes one step on from a directory. -/
def enter (d : Disk) (here : Place) (step : String) : Option Place :=
  if d.get? here ≠ some .directory then none
  else if step = "." then some here
  else if step = ".." then some here.dropLast
  else if (d.get? (here ++ [step])).isSome then some (here ++ [step])
  else none

def follow (d : Disk) : Place → List String → Option Place
  | here, [] => some here
  | here, step :: rest =>
    match d.enter here step with
    | some next => d.follow next rest
    | none => none

/-- Where a path begins. -/
def origin (here : Place) (path : String) : Place :=
  if Path.isAbsolute path then [] else here

/-- What a path leads to. -/
def find? (d : Disk) (here : Place) (path : String) : Option Entry :=
  if !Path.isUsable path then none
  else (d.follow (origin here path) (Path.steps path)).bind d.get?

/-! ### Making -/

/-- Whether a name can be given to something new. -/
def isName (name : String) : Bool :=
  name ≠ "" && name ≠ "." && name ≠ ".." && (Text.utf8 name.toList).length ≤ 255

/-- The place of a file that is there or can be made. -/
def filePlace? (d : Disk) (here : Place) (path : String) : Option Place :=
  let steps := Path.steps path
  match d.follow (origin here path) steps.dropLast, steps.getLast? with
  | some parent, some name =>
    if !Path.isUsable path ∨ d.get? parent ≠ some .directory ∨ !isName name then none
    else match d.get? (parent ++ [name]) with
      | some .directory => none
      | _ => some (parent ++ [name])
  | _, _ => none

def replace (place : Place) (entry : Entry) : List (Place × Entry) → List (Place × Entry)
  | [] => [(place, entry)]
  | e :: es => if e.1 = place then (place, entry) :: es else e :: replace place entry es

/-- Extends the file at a place, or makes one. -/
def append (d : Disk) (place : Place) (bytes : List UInt8) : Disk :=
  match d.get? place with
  | some (.file old) => ⟨replace place (.file (old ++ bytes)) d.entries⟩
  | _ => ⟨replace place (.file bytes) d.entries⟩

/-- Goes the steps as far as possible and makes the directories that are missing. -/
def makeSteps (here : Place) : List String → Disk → Disk
  | [], d => d
  | step :: rest, d =>
    match d.enter here step with
    | some next => makeSteps next rest d
    | none =>
      if d.get? here = some .directory ∧ isName step then
        makeSteps (here ++ [step]) rest ⟨d.entries ++ [(here ++ [step], .directory)]⟩
      else d

/-- Makes the directories of a path that are missing. -/
def makeDirectories (d : Disk) (here : Place) (path : String) : Disk :=
  if Path.isUsable path then makeSteps (origin here path) (Path.steps path) d else d

/-! ### What the operations do to the view -/

private theorem lookup_cons (place : Place) (e : Place × Entry) (es : List (Place × Entry)) :
    (e :: es).lookup place = if place = e.1 then some e.2 else es.lookup place := by
  rw [List.lookup_cons]
  by_cases h : place = e.1
  · rw [if_pos h, beq_iff_eq.2 h]
  · rw [if_neg h, beq_eq_false_iff_ne.2 h]

private theorem lookup_replace (place other : Place) (entry : Entry) (es : List (Place × Entry)) :
    (replace place entry es).lookup other = if other = place then some entry else es.lookup other := by
  induction es with
  | nil => simp [replace, lookup_cons]
  | cons e es ih =>
    unfold replace
    split
    · rename_i he
      subst he
      simp only [lookup_cons]
      split <;> rfl
    · rename_i he
      simp only [lookup_cons, ih]
      grind

theorem get?_append (d : Disk) {place : Place} (hplace : place ≠ []) (bytes : List UInt8) (other : Place) :
    (d.append place bytes).get? other =
      if other = place then
        match d.get? place with
        | some (.file old) => some (.file (old ++ bytes))
        | _ => some (.file bytes)
      else d.get? other := by
  unfold append
  split <;> grind [get?, lookup_replace]

end Disk

end Stockroom
