import Stockroom.Disk.Basic
import Stockroom.History

/-!
# Files on a disk

What a run does to a disk: directories are made, which changes no file (`file?_makeDirectories`), and files are
extended, which changes no other file (`file?_append`) and no way to one (`samePaths_append`).  A history file that is
extended by batches comes to hold their lines, each with its end (`file?_keepHistory`).
-/

namespace Stockroom

open Text

namespace Disk

/-- The content of the file at a place, if there is one. -/
def file? (d : Disk) (place : Place) : Option (List UInt8) :=
  match d.get? place with
  | some (.file bytes) => some bytes
  | _ => none

/-- The files of two disks are the same, except for the one at `place`. -/
def SameBut (place : Option Place) (d e : Disk) : Prop :=
  ∀ other, place ≠ some other → e.file? other = d.file? other

/-! ### Extending a file -/

theorem file?_append (d : Disk) {place : Place} (hplace : place ≠ []) (bytes : List UInt8) (other : Place) :
    (d.append place bytes).file? other =
      if other = place then some ((d.file? place).getD [] ++ bytes) else d.file? other := by
  rw [file?, get?_append d hplace]
  by_cases h : other = place
  · rw [if_pos h, if_pos h, file?]
    rcases d.get? place with _ | _ | _ <;> rfl
  · rw [if_neg h, if_neg h, file?]

/-- A file can be made or extended only below the root. -/
theorem ne_nil_of_filePlace? {d : Disk} {here place : Place} {path : String}
    (h : d.filePlace? here path = some place) : place ≠ [] := by
  simp only [filePlace?] at h
  split at h
  · rename_i parent name hparent hname
    by_cases hbad : Path.isUsable path = false ∨ d.get? parent ≠ some .directory ∨ isName name = false
    · simp [hbad] at h
    · simp only [Bool.not_eq_true', if_neg hbad] at h
      split at h
      · cases h
      · rw [← Option.some.inj h]
        simp
  · cases h

/-! ### Ways to files -/

/-- The same files can be extended or made on two disks, by the same paths. -/
def SamePaths (d e : Disk) : Prop :=
  ∀ here path, e.filePlace? here path = d.filePlace? here path

theorem SamePaths.refl (d : Disk) : d.SamePaths d :=
  fun _ _ => rfl

theorem SamePaths.trans {d e f : Disk} (h : d.SamePaths e) (h' : e.SamePaths f) : d.SamePaths f :=
  fun here path => (h' here path).trans (h here path)

section Append

variable {d : Disk} {place : Place}

private theorem get?_ne_directory_of_filePlace? {here : Place} {path : String}
    (h : d.filePlace? here path = some place) : d.get? place ≠ some .directory := by
  simp only [filePlace?] at h
  split at h
  · split at h
    · cases h
    · split at h
      · cases h
      · rename_i hfile
        cases h
        exact hfile
  · cases h

variable (hplace : place ≠ []) (hfile : d.get? place ≠ some .directory) (bytes : List UInt8)

include hplace hfile

/-- A directory is one before and after a file has been extended. -/
private theorem get?_append_eq_directory_iff (other : Place) :
    (d.append place bytes).get? other = some .directory ↔ d.get? other = some .directory := by
  rw [get?_append d hplace]
  split
  · rename_i h
    subst h
    refine iff_of_false ?_ hfile
    split <;> simp
  · rfl

/-- The only step that is new leads to the file. -/
private theorem enter_append (here : Place) (step : String) :
    (d.append place bytes).enter here step = d.enter here step ∨
      d.enter here step = none ∧ (d.append place bytes).enter here step = some place := by
  have hdirectory := get?_append_eq_directory_iff hplace hfile bytes here
  unfold enter
  by_cases hhere : d.get? here = some .directory
  · rw [if_neg (not_not_intro hhere), if_neg (not_not_intro (hdirectory.mpr hhere))]
    split
    · exact .inl rfl
    · split
      · exact .inl rfl
      · rw [get?_append d hplace]
        by_cases hnew : here ++ [step] = place
        · rw [if_pos hnew, ← hnew]
          cases d.get? (here ++ [step]) with
          | none => exact .inr ⟨rfl, rfl⟩
          | some entry => cases entry <;> exact .inl rfl
        · rw [if_neg hnew]
          exact .inl rfl
  · rw [if_pos hhere, if_pos (mt hdirectory.mp hhere)]
    exact .inl rfl

private theorem follow_append (here : Place) (steps : List String) :
    (d.append place bytes).follow here steps = d.follow here steps ∨
      d.follow here steps = none ∧ (d.append place bytes).follow here steps = some place := by
  induction steps generalizing here with
  | nil => exact .inl rfl
  | cons step rest ih =>
    rw [follow, follow]
    rcases enter_append hplace hfile bytes here step with hsame | ⟨hnone, hnew⟩
    · rw [hsame]
      cases d.enter here step with
      | none => exact .inl rfl
      | some next => exact ih next
    · rw [hnone, hnew]
      cases rest with
      | nil => exact .inr ⟨rfl, rfl⟩
      | cons step rest =>
        -- a file has nothing in it
        have hstop : (d.append place bytes).enter place step = none :=
          if_pos (mt (get?_append_eq_directory_iff hplace hfile bytes place).mp hfile)
        left
        simp only [follow, hstop]

end Append

/-- Extending a file, or making one, opens and closes no way to a file. -/
theorem samePaths_append {d : Disk} {here place : Place} {path : String} (h : d.filePlace? here path = some place)
    (bytes : List UInt8) : d.SamePaths (d.append place bytes) := by
  intro from' path'
  have hplace := ne_nil_of_filePlace? h
  have hfile := get?_ne_directory_of_filePlace? h
  have hdirectory := get?_append_eq_directory_iff hplace hfile bytes
  simp only [filePlace?]
  rcases follow_append hplace hfile bytes (origin from' path') (Path.steps path').dropLast with hsame | ⟨hnone, hnew⟩
  · rw [hsame]
    cases d.follow (origin from' path') (Path.steps path').dropLast with
    | none => rfl
    | some parent =>
      cases (Path.steps path').getLast? with
      | none => rfl
      | some name =>
        simp only [ne_eq, hdirectory parent]
        split
        · rfl
        · by_cases hthere : d.get? (parent ++ [name]) = some .directory
          · rw [hthere, (hdirectory _).mpr hthere]
          · have hthere' := mt (hdirectory (parent ++ [name])).mp hthere
            split
            · contradiction
            · rfl
  · rw [hnone, hnew]
    cases (Path.steps path').getLast? with
    | none => rfl
    | some name => exact if_pos (.inr (.inl (mt (hdirectory place).mp hfile)))

/-! ### Making directories -/

/-- A new directory hides no file. -/
private theorem file?_insert_directory (d : Disk) (place other : Place) :
    (Disk.mk (d.entries ++ [(place, .directory)])).file? other = d.file? other := by
  unfold file? get?
  by_cases hroot : other = []
  · rw [if_pos hroot, if_pos hroot]
  · -- the new entry comes last, so it counts only where there was none
    rw [if_neg hroot, if_neg hroot, List.lookup_append]
    cases d.entries.lookup other with
    | some entry => rfl
    | none =>
      rw [Option.none_or, List.lookup_cons, List.lookup_nil]
      cases other == place <;> rfl

private theorem file?_makeSteps (here : Place) (steps : List String) (d : Disk) (place : Place) :
    (makeSteps here steps d).file? place = d.file? place := by
  induction steps generalizing here d with
  | nil => rfl
  | cons step rest ih =>
    rw [makeSteps]
    split
    · exact ih _ d
    · split
      · rw [ih]
        exact file?_insert_directory d _ place
      · rfl

theorem file?_makeDirectories (d : Disk) (here : Place) (path : String) (place : Place) :
    (d.makeDirectories here path).file? place = d.file? place := by
  unfold makeDirectories
  split
  · exact file?_makeSteps _ _ d place
  · rfl

end Disk

open Disk

namespace Launch

/-! ### The history -/

/-- Lines as they stand in a file, each with its end. -/
def ended (lines : List String) : List UInt8 :=
  lines.flatMap fun line => utf8 (line ++ "\n").toList

private theorem ended_append (l m : List String) : ended (l ++ m) = ended l ++ ended m :=
  List.flatMap_append

private theorem utf8_fileText {batch : List String} (h : batch ≠ []) :
    utf8 (History.fileText batch).toList = ended batch := by
  induction batch with
  | nil => exact absurd rfl h
  | cons line batch ih =>
    cases batch with
    | nil => rw [History.fileText, String.intercalate_singleton, ended, List.flatMap_singleton]
    | cons next batch =>
      have hrest := ih (List.cons_ne_nil next batch)
      rw [History.fileText] at hrest ⊢
      rw [String.intercalate_cons_cons, String.append_assoc, String.toList_append, utf8_append, hrest, ended,
        List.flatMap_cons]
      rfl

/-- Extends the history file by the batches that were handed over. -/
def keepHistory (place : Place) (handed : List (List String × Bool)) (d : Disk) : Disk :=
  handed.foldl (fun d h => if h.2 then d.append place (utf8 (History.fileText h.1).toList) else d) d

/-- Batches that could all be handed over extend the history file by their lines. -/
theorem file?_keepHistory {place : Place} (hplace : place ≠ []) {handed : List (List String × Bool)}
    (hkept : ∀ batch ∈ handed, batch.2 = true) (hne : ∀ batch ∈ handed, batch.1 ≠ []) (d : Disk) (other : Place) :
    (keepHistory place handed d).file? other =
      if other = place ∧ handed.flatMap (·.1) ≠ [] then
        some ((d.file? other).getD [] ++ ended (handed.flatMap (·.1)))
      else d.file? other := by
  induction handed generalizing d with
  | nil => simp [keepHistory]
  | cons batch handed ih =>
    rw [List.forall_mem_cons] at hkept hne
    have hstep : keepHistory place (batch :: handed) d = keepHistory place handed (d.append place (ended batch.1)) := by
      rw [keepHistory, List.foldl_cons, if_pos hkept.1, utf8_fileText hne.1]
      rfl
    rw [hstep, ih hkept.2 hne.2, file?_append d hplace, List.flatMap_cons, ended_append]
    by_cases hother : other = place
    · by_cases hrest : handed.flatMap (·.1) = []
      · simp [hother, hrest, hne.1, ended]
      · simp [hother, hrest, hne.1]
    · simp [hother]

end Launch

end Stockroom
