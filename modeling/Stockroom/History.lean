import Stockroom.Output

/-!
# The history of lines

Lines are buffered and handed over in batches.  Whether handing over succeeded is told by the caller: a batch that
fails is dropped, and the first failure is reported once.
-/

namespace Stockroom

structure History where
  batchSize : Nat
  /-- Lines not yet handed over, oldest first. -/
  buffered : List String := []
  /-- Whether a failure has been reported. -/
  notified : Bool := false
  deriving DecidableEq, Repr

namespace History

/-- An empty history; a batch holds at least one line. -/
def new (batchSize : Nat) : History :=
  { batchSize := max batchSize 1 }

/-- Reported the first time that the history cannot be kept. -/
def failureNotice : String :=
  "Command history not being recorded.  Please contact system administrators."

def record (h : History) (line : String) : History :=
  { h with buffered := h.buffered ++ [line] }

/-- A full batch and what is left, if enough lines are buffered. -/
def takeBatch? (h : History) : Option (List String × History) :=
  if h.buffered.length < h.batchSize then none
  else some (h.buffered.take h.batchSize, { h with buffered := h.buffered.drop h.batchSize })

/-- All that is buffered as one batch, if there is anything. -/
def takeAll? (h : History) : Option (List String × History) :=
  if h.buffered.isEmpty then none
  else some (h.buffered, { h with buffered := [] })

/-- Takes note of whether a batch could be handed over, and gives the notice of the first failure. -/
def settle (h : History) (succeeded : Bool) : Option Output × History :=
  if succeeded || h.notified then (none, h)
  else (some (.error failureNotice), { h with notified := true })

/-- What a call did: the batch it handed over, the notice it gave, and the history left. -/
structure Handover where
  batch : Option (List String)
  notice : Option Output
  history : History
  deriving DecidableEq, Repr

/-- Hands over the batch that was taken, if any. -/
def handOver (h : History) (taken : Option (List String × History)) (succeeds : Bool) : Handover :=
  match taken with
  | none => ⟨none, none, h⟩
  | some (batch, rest) =>
    let (notice, settled) := rest.settle succeeds
    ⟨some batch, notice, settled⟩

/-- Hands over one full batch, if there is one. -/
def flush (h : History) (succeeds : Bool) : Handover :=
  h.handOver h.takeBatch? succeeds

/-- Hands over everything that is buffered. -/
def drain (h : History) (succeeds : Bool) : Handover :=
  h.handOver h.takeAll? succeeds

/-- The text by which a batch extends a history file: each line with its end. -/
def fileText (batch : List String) : String :=
  "\n".intercalate batch ++ "\n"

end History

end Stockroom
