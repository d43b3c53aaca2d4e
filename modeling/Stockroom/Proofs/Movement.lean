import Stockroom.Proofs.Fed
import Stockroom.Proofs.Parsed

/-!
# Movements of stock

A movement is a number of units of one product that go into a warehouse or leave it, by one of two commands or by the
answer to one of two questions.  `movement?` reads it off the line that makes it and the session that takes the line:
a command counts only if it is done, a question only if it is answered with yes.  So a line that makes something appear
moves nothing (`movement?_of_shown`).
-/

namespace Stockroom

open Text

inductive MovementKind where
  /-- By a `STOCK` command. -/
  | stocked
  /-- By the answer to a question about the units that still fit. -/
  | filledUp
  /-- By an `UNSTOCK` command. -/
  | unstocked
  /-- By the answer to a question about taking a product out of stock. -/
  | clearedOut
  deriving DecidableEq, Repr

structure Movement where
  kind : MovementKind
  sku : String
  warehouse : Int
  units : Int
  deriving DecidableEq, Repr

/-- Whether the units go in. -/
def MovementKind.isEntry : MovementKind → Bool
  | stocked | filledUp => true
  | unstocked | clearedOut => false

/-- The change of the units held. -/
def Movement.change (m : Movement) : Int :=
  if m.kind.isEntry then m.units else -m.units

/-- What a command moves when it is done. -/
def Command.movement? : Command → Option Movement
  | stock sku warehouse quantity => some ⟨.stocked, sku, warehouse, quantity⟩
  | unstock sku warehouse quantity => some ⟨.unstocked, sku, warehouse, quantity⟩
  | _ => none

/-- What a question moves when the answer is yes. -/
def Question.movement? : Question → Option Movement
  | changeLimit .. => none
  | fillUp sku warehouse _ _ _ room => some ⟨.filledUp, sku, warehouse, room⟩
  | clearOut sku warehouse held => some ⟨.clearedOut, sku, warehouse, held⟩

namespace Session

/-- What a line moves. -/
def movement? (s : Session) (line : String) : Option Movement :=
  match s.pending with
  | some q => if Answer.read line = .yes then q.movement? else none
  | none =>
    match Command.parse line with
    | .error _ => none
    | .ok c =>
      match s.inventory.execute c with
      | (.ok .done, _) => c.movement?
      | _ => none

/-- The movements of a sequence of lines, in order. -/
def movements (s : Session) : List String → List Movement
  | [] => []
  | line :: lines => (s.movement? line).toList ++ (s.feed line).2.movements lines

variable {s : Session} {line : String}

theorem movements_append (s : Session) (lines more : List String) :
    s.movements (lines ++ more) = s.movements lines ++ (s.run lines).movements more := by
  induction lines generalizing s with
  | nil => rfl
  | cons line lines ih => rw [List.cons_append, movements, movements, ih, run_cons, List.append_assoc]

theorem movement?_confirmed {q : Question} (hq : s.pending = some q) (ha : Answer.read line = .yes) :
    s.movement? line = q.movement? := by
  simp [movement?, hq, ha]

theorem movement?_not_confirmed {q : Question} (hq : s.pending = some q) (ha : Answer.read line ≠ .yes) :
    s.movement? line = none := by
  simp [movement?, hq, ha]

theorem movement?_executed {c : Command} {o : Outcome} {inv : Inventory} (hq : s.pending = none)
    (hc : Command.parse line = .ok c) (he : s.inventory.execute c = (.ok o, inv)) :
    s.movement? line = if o = .done then c.movement? else none := by
  cases o <;> simp [movement?, hq, hc, he]

theorem movement?_unread {fault : Fault} (hq : s.pending = none) (hc : Command.parse line = .error fault) :
    s.movement? line = none := by
  simp [movement?, hq, hc]

theorem movement?_refused {c : Command} {fault : Fault} (hq : s.pending = none) (hc : Command.parse line = .ok c)
    {inv : Inventory} (he : s.inventory.execute c = (.error fault, inv)) : s.movement? line = none := by
  simp [movement?, hq, hc, he]

/-- No command has no words. -/
theorem parse_of_blank (hb : trim line.toList = []) : ∃ fault, Command.parse line = .error fault := by
  have hm : ∃ fault, matchCommand commandTable (settleQuotes line.toList) = .error fault := by
    rw [settleQuotes, hb]
    exact ⟨_, rfl⟩
  obtain ⟨fault, hf⟩ := hm
  exact ⟨fault, bind_eq_error.2 (.inl hf)⟩

theorem movement?_blank (hq : s.pending = none) (hb : trim line.toList = []) : s.movement? line = none := by
  obtain ⟨fault, hf⟩ := parse_of_blank hb
  exact movement?_unread hq hf

/-- A movement is made by a yes or by a command that is done. -/
theorem movement?_eq_some {m : Movement} (hm : s.movement? line = some m) :
    (∃ q, s.pending = some q ∧ q.movement? = some m) ∨
      ∃ c inv, s.pending = none ∧ s.inventory.execute c = (.ok .done, inv) ∧ c.movement? = some m := by
  unfold movement? at hm
  split at hm
  · rename_i q hq
    split at hm
    · exact .inl ⟨q, hq, hm⟩
    · cases hm
  · rename_i hq
    split at hm
    · cases hm
    · rename_i c hc
      split at hm
      · rename_i inv he
        exact .inr ⟨c, inv, hq, he, hm⟩
      · cases hm

/-- A line that makes something appear moves nothing. -/
theorem movement?_of_shown {output : Output} {t : Session} (h : Fed s line (some output) t) :
    s.movement? line = none := by
  generalize ho : some output = shown at h
  cases h with
  | confirmed hq ha | blank hq hb => cases ho
  | declined hq ha | unrecognized hq ha => exact movement?_not_confirmed hq (by simp [ha])
  | unread hq hc => exact movement?_unread hq hc
  | refused hq hc he => exact movement?_refused hq hc he
  | executed hq hc he =>
    rw [movement?_executed hq hc he, if_neg]
    rintro rfl
    cases ho

end Session

end Stockroom
