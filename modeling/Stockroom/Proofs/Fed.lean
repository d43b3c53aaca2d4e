import Stockroom.Proofs.Executed
import Stockroom.Session

/-!
# What a line does to a session

`Fed s line o t` lists the ways in which a session takes a line: as the answer to the question that waits, as nothing
at all, or as a command that is not read, refused or carried out.  `fed_feed` says that there are no others.  What
every such step keeps, every run keeps (`run_induction`).
-/

namespace Stockroom

open Text

/-- What an outcome makes appear. -/
def Outcome.shown : Outcome → Option Output
  | done => none
  | listing l => if (Output.ofListing l).isEmpty then none else some (.ofListing l)
  | asked q => some (.prompt q.text)

/-- The question that an outcome leaves open. -/
def Outcome.question? : Outcome → Option Question
  | asked q => some q
  | _ => none

namespace Session

/-- Taking the line shows `o` and leaves the session `t`. -/
inductive Fed (s : Session) (line : String) : Option Output → Session → Prop
  | confirmed {q : Question} (hq : s.pending = some q) (ha : Answer.read line = .yes) :
      Fed s line none ⟨s.inventory.apply q, none⟩
  | declined {q : Question} (hq : s.pending = some q) (ha : Answer.read line = .no) :
      Fed s line (some (.message q.declined)) ⟨s.inventory, none⟩
  | unrecognized {q : Question} (hq : s.pending = some q) (ha : Answer.read line = .unrecognized) :
      Fed s line (some (.message ("Please enter y or n.  " ++ q.declined))) ⟨s.inventory, none⟩
  | blank (hq : s.pending = none) (hb : trim line.toList = []) : Fed s line none s
  | unread {fault : Fault} (hq : s.pending = none) (hc : Command.parse line = .error fault) :
      Fed s line (some (.ofFault fault)) s
  | refused {c : Command} {fault : Fault} {inv : Inventory} (hq : s.pending = none) (hc : Command.parse line = .ok c)
      (he : s.inventory.execute c = (.error fault, inv)) : Fed s line (some (.ofFault fault)) ⟨inv, none⟩
  | executed {c : Command} {o : Outcome} {inv : Inventory} (hq : s.pending = none)
      (hc : Command.parse line = .ok c) (he : s.inventory.execute c = (.ok o, inv)) :
      Fed s line o.shown ⟨inv, o.question?⟩

private theorem fed_answer {s : Session} {q : Question} (hq : s.pending = some q) (line : String) :
    Fed s line (s.answer q line).1 (s.answer q line).2 := by
  unfold answer
  cases ha : Answer.read line with
  | yes => exact .confirmed hq ha
  | no => exact .declined hq ha
  | unrecognized => exact .unrecognized hq ha

private theorem fed_perform {s : Session} {line : String} {c : Command} (hq : s.pending = none)
    (hc : Command.parse line = .ok c) : Fed s line (s.perform c).1 (s.perform c).2 := by
  unfold perform
  rcases he : s.inventory.execute c with ⟨fault | o, inv⟩
  · exact .refused hq hc he
  · cases o with
    | done => exact .executed hq hc he
    | listing l => exact .executed hq hc he
    | asked q => exact .executed hq hc he

private theorem fed_command {s : Session} (hq : s.pending = none) (line : String) :
    Fed s line (s.command line).1 (s.command line).2 := by
  unfold command
  split
  · rename_i hb
    exact .blank hq (List.isEmpty_iff.1 hb)
  · split
    · rename_i hc
      exact .unread hq hc
    · rename_i hc
      exact fed_perform hq hc

/-- A line is taken in no other way. -/
theorem fed_feed (s : Session) (line : String) : Fed s line (s.feed line).1 (s.feed line).2 := by
  unfold feed
  split
  · rename_i hq
    exact fed_answer hq line
  · rename_i hq
    exact fed_command hq line

/-- A refused command leaves the session as it was. -/
theorem eq_of_refused {s : Session} {c : Command} {fault : Fault} {inv : Inventory} (hq : s.pending = none)
    (he : s.inventory.execute c = (.error fault, inv)) : (⟨inv, none⟩ : Session) = s := by
  rw [Inventory.inventory_eq_of_error he, ← hq]

/-- What one line keeps, every sequence of lines keeps. -/
theorem run_induction {P : Session → Prop} (step : ∀ s line, P s → P (s.feed line).2) {s : Session} (hs : P s)
    (lines : List String) : P (s.run lines) := by
  induction lines generalizing s with
  | nil => exact hs
  | cons line lines ih => exact ih (step s line hs)

theorem run_cons (s : Session) (line : String) (lines : List String) :
    s.run (line :: lines) = (s.feed line).2.run lines := rfl

end Session

end Stockroom
