import Stockroom.Inventory.Execute

/-!
# Calls

An inventory is called in two ways: a command is executed, or a question is resolved by an answer.  Nothing ties the
question to the inventory: it may have been asked long ago, been answered before, or never been asked at all.
-/

namespace Stockroom

inductive Call where
  | execute (command : Command)
  | resolve (question : Question) (answer : Answer)
  deriving DecidableEq, Repr

/-- What comes back from a call. -/
inductive Reply where
  | outcome (o : Outcome)
  | refused (fault : Fault)
  | resolved (r : Resolution)
  deriving DecidableEq, Repr

/-- The warehouse that a call names.  A product is in no warehouse, and two of the lists are about all of them. -/
def Call.warehouse? : Call → Option Int
  | execute (.addWarehouse number _) => some number
  | execute (.stock _ warehouse _) => some warehouse
  | execute (.unstock _ warehouse _) => some warehouse
  | execute (.listWarehouse warehouse) => some warehouse
  | execute (.addProduct ..) | execute .listProducts | execute .listWarehouses => none
  | resolve question _ => some question.warehouse

namespace Inventory

def call (inv : Inventory) : Call → Reply × Inventory
  | .execute command =>
    match inv.execute command with
    | (.ok o, next) => (.outcome o, next)
    | (.error fault, next) => (.refused fault, next)
  | .resolve question answer =>
    let (r, next) := inv.resolve question answer
    (.resolved r, next)

/-- The inventory after a sequence of calls. -/
def calls (inv : Inventory) (l : List Call) : Inventory :=
  l.foldl (fun inv c => (inv.call c).2) inv

/-- What every call keeps, every sequence of calls keeps. -/
theorem calls_induction {P : Inventory → Prop} (step : ∀ inv c, P inv → P (inv.call c).2) {inv : Inventory}
    (h : P inv) (l : List Call) : P (inv.calls l) := by
  induction l generalizing inv with
  | nil => exact h
  | cons c l ih => exact ih (step inv c h)

theorem call_execute_ok {inv next : Inventory} {c : Command} {o : Outcome} (h : inv.execute c = (.ok o, next)) :
    inv.call (.execute c) = (.outcome o, next) := by
  simp only [call, h]

theorem call_execute_error {inv next : Inventory} {c : Command} {fault : Fault}
    (h : inv.execute c = (.error fault, next)) : inv.call (.execute c) = (.refused fault, next) := by
  simp only [call, h]

end Inventory

end Stockroom
