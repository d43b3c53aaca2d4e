import Stockroom.Proofs.Recorded

/-!
# Work that a full screen stops

A screen that is full stops a script or an input at once, and its history is not finished then: what is buffered is not
handed over, with the line at which writing failed as its last.  So an input leaves lines behind exactly if writing
failed after a line had been recorded, and a script leaves behind whatever was buffered and what it takes in
(`handed_eq_linesTaken_iff`).
-/

namespace Stockroom

open Text

namespace Console

/-! ### Started consoles -/

private theorem fault_start {c : Console} (hstarted : c.started = true) : c.start.fault = none := by
  rw [start, if_pos hstarted]

private theorem started_start (c : Console) : c.start.console.started = true := by
  unfold start
  split
  · assumption
  · rfl

private theorem started_run (stage : Stage) (c : Console) : (stage.run c).console.started = true := by
  obtain ⟨rest, hacts⟩ := stage.exists_acts_eq
  obtain ⟨_, _, -, hrecorded, -⟩ := performAll_records rest c.start.console
  rw [stage.run_eq_performAll, hacts]
  change (c.start.andThen (performAll rest)).console.started = true
  cases h : c.start.fault with
  | none =>
    rw [Progress.andThen_of_none h]
    exact hrecorded.started_of (started_start c)
  | some fault =>
    rw [Progress.andThen_of_some h]
    exact started_start c

/-- A console that has not been started has recorded nothing. -/
private theorem started_or_linesTaken_eq_nil (prompt : String) (batchSize : Nat) (recording : Bool)
    (limit : Option Screen.Limit) (stages : List Stage) :
    (runStages stages (new prompt batchSize recording limit)).2.started = true ∨
      linesTaken (runStages stages (new prompt batchSize recording limit)).2 = [] := by
  rcases List.eq_nil_or_concat stages with rfl | ⟨before, stage, rfl⟩
  · exact .inr rfl
  · rw [List.concat_eq_append, runStages_append]
    exact .inl (started_run stage _)

/-! ### Where an input is stopped -/

private theorem HandedOver.fault_eq_none {c : Console} {p : Progress} (h : HandedOver c true p) : p.fault = none := by
  cases h with
  | idle | silent => rfl
  | noticed _ _ hfails => cases hfails

private theorem history_takeLine (c : Console) (line : String) :
    (c.takeLine line).console.history = c.history.record line := by
  unfold takeLine Progress.andThen
  dsimp only
  split
  · split <;> rfl
  · rfl

/-- What stops an act is writing what a line makes appear, and that line is buffered. -/
private theorem buffered_perform {act : Act} {c : Console} (hstarted : c.started = true)
    (hkept : act.handover? ≠ some false) (hplain : ∀ t, act.turn? = some t → t.echoed = false)
    (hfault : (act.perform c).fault ≠ none) : (act.perform c).console.history.buffered ≠ [] := by
  match act with
  | .start => exact absurd (fault_start hstarted) hfault
  | .turn ⟨line, true⟩ => exact absurd (hplain _ rfl) (Bool.noConfusion ·)
  | .turn ⟨line, false⟩ =>
    change (c.takeLine line).console.history.buffered ≠ []
    rw [history_takeLine]
    exact List.append_ne_nil_of_right_ne_nil _ (List.cons_ne_nil _ _)
  | .tick true => exact absurd (handedOver_tick c true).fault_eq_none hfault
  | .finish true => exact absurd (handedOver_finish c true).fault_eq_none hfault
  | .tick false | .finish false => exact absurd rfl hkept

private theorem buffered_performAll {acts : List Act} {c : Console} (hstarted : c.started = true)
    (hkept : ∀ act ∈ acts, act.handover? ≠ some false) (hplain : ∀ t ∈ Act.turns acts, t.echoed = false)
    (hfault : (performAll acts c).fault ≠ none) : (performAll acts c).console.history.buffered ≠ [] := by
  induction acts generalizing c with
  | nil => exact absurd rfl hfault
  | cons act acts ih =>
    rw [List.forall_mem_cons] at hkept
    have hfirst : ∀ t, act.turn? = some t → t.echoed = false := fun t ht =>
      hplain t (List.mem_filterMap.mpr ⟨act, List.mem_cons_self, ht⟩)
    have hrest : ∀ t ∈ Act.turns acts, t.echoed = false := fun t ht => by
      obtain ⟨act', hact', ht'⟩ := List.mem_filterMap.mp ht
      exact hplain t (List.mem_filterMap.mpr ⟨act', List.mem_cons_of_mem act hact', ht'⟩)
    obtain ⟨_, _, -, hrecorded, -⟩ := perform_records act c
    rw [performAll] at hfault ⊢
    cases h : (act.perform c).fault with
    | none =>
      rw [Progress.andThen_of_none h] at hfault ⊢
      exact ih (hrecorded.started_of hstarted) hkept.2 hrest hfault
    | some fault =>
      rw [Progress.andThen_of_some h]
      exact buffered_perform hstarted hkept.1 hfirst (by rw [h]; exact Option.some_ne_none _)

/-- An input that is stopped after a line has been recorded leaves lines behind. -/
private theorem buffered_of_stopped {c : Console} (hstarted : c.started = true ∨ linesTaken c = []) {i : Input}
    (hkept : (Stage.input i).Kept) {reason : String}
    (hfault : ((Stage.input i).run c).fault = some (outputFault reason))
    (htaken : linesTaken ((Stage.input i).run c).console ≠ []) :
    ((Stage.input i).run c).console.history.buffered ≠ [] := by
  rw [Stage.run_eq_performAll] at hfault htaken ⊢
  have hstopped : (performAll (Stage.input i).acts c).fault ≠ none := fun hnone => by
    rw [hnone, Option.none_or] at hfault
    exact fault?_ne_outputFault _ reason hfault
  have hplain : ∀ t ∈ Act.turns (Stage.input i).acts, t.echoed = false := fun t ht => by
    rw [Stage.turns_acts] at ht
    obtain ⟨line, -, rfl⟩ := List.mem_map.mp ht
    rfl
  have hnotFalse : ∀ act ∈ (Stage.input i).acts, act.handover? ≠ some false := fun act hact hfalse =>
    Bool.noConfusion (hkept.succeeds hact hfalse)
  obtain ⟨rest, hacts⟩ : ∃ rest, (Stage.input i).acts = .start :: rest := ⟨_, rfl⟩
  rw [hacts] at hstopped hplain hnotFalse htaken ⊢
  rw [performAll] at hstopped htaken ⊢
  cases hstart : (Act.start.perform c).fault with
  | none =>
    rw [Progress.andThen_of_none hstart] at hstopped ⊢
    exact buffered_performAll (started_start c) (List.forall_mem_cons.mp hnotFalse).2 hplain hstopped
  | some fault =>
    -- the first prompt did not fit, so nothing has been recorded yet
    have hnot : c.started ≠ true := fun h => by
      rw [show (Act.start.perform c).fault = none from fault_start h] at hstart
      cases hstart
    obtain ⟨taken, _, hprefix, hrecorded, -⟩ := perform_records .start c
    rw [Progress.andThen_of_some hstart, hrecorded.taken_eq, hstarted.resolve_left hnot,
      List.prefix_nil.mp hprefix] at htaken
    exact absurd rfl htaken

/-! ### What is left behind -/

private theorem handed_eq_iff (c : Console) : c.handed.flatMap (·.1) = linesTaken c ↔ c.history.buffered = [] :=
  List.self_eq_append_right

/-- A console that keeps its history, on any screen, after any scripts and inputs: the session is the one fed with the
lines recorded so far, and no batch has failed.  After one more input all recorded lines have been handed over exactly
if writing did not fail, or no line has been recorded at all; after one more script, exactly if that had been so before
and the script has recorded none. -/
theorem handed_eq_linesTaken_iff (prompt : String) (batchSize : Nat) (limit : Option Screen.Limit) {before : List Stage}
    {stage : Stage} {c : Console} {p : Progress} (hkept : ∀ s ∈ before ++ [stage], s.Kept)
    (hc : (runStages before (new prompt batchSize true limit)).2 = c) (hp : stage.run c = p) :
    p.console.session = Session.new.run (linesTaken p.console) ∧
      (∀ batch ∈ p.console.handed, batch.2 = true) ∧
      (p.console.handed.flatMap (·.1) = linesTaken p.console ↔
        if stage.source.isScript then c.handed.flatMap (·.1) = linesTaken c ∧ linesTaken p.console = linesTaken c
        else (∀ reason, p.fault ≠ some (outputFault reason)) ∨ linesTaken p.console = []) := by
  subst hc hp
  obtain ⟨recorded, batches, hbefore, -, hsucceed⟩ := runStages_records before (new prompt batchSize true limit)
  have hstarted := started_or_linesTaken_eq_nil prompt batchSize true limit before
  rw [List.forall_mem_append, List.forall_mem_singleton] at hkept
  generalize (runStages before (new prompt batchSize true limit)).2 = c at hbefore hstarted ⊢
  obtain ⟨taken, batches', -, hrun, -, hkind⟩ := run_records stage c
  have hall := hbefore.trans hrun
  have htaken : linesTaken (stage.run c).console = recorded ++ taken := hall.taken_eq
  have hhanded : (stage.run c).console.handed = batches ++ batches' := hall.handed_eq
  refine ⟨by rw [htaken]; exact hall.session_eq, ?_, ?_⟩
  · rw [hhanded]
    refine List.forall_mem_append.mpr ⟨hsucceed hkept.1, fun batch hbatch => ?_⟩
    obtain ⟨act, hact, hsucceeds⟩ := hkind batch hbatch
    exact hkept.2.succeeds hact hsucceeds
  rw [handed_eq_iff]
  cases stage with
  | input i =>
    rw [if_neg (show ¬(Stage.input i).source.isScript = true from Bool.false_ne_true)]
    constructor
    · intro hbuffered
      by_cases hfault : ∃ reason, ((Stage.input i).run c).fault = some (outputFault reason)
      · obtain ⟨reason, hfault⟩ := hfault
        exact .inr (Decidable.byContradiction fun hne => buffered_of_stopped hstarted hkept.2 hfault hne hbuffered)
      · exact .inl (not_exists.mp hfault)
    · rintro (hfault | hnone)
      · exact buffered_run_input hbefore.recording_eq hfault
      · exact (List.append_eq_nil_iff.mp hnone).2
  | script text =>
    have hbatches : batches' = [] := batches_eq_nil hkind fun _ => Stage.handover?_script
    have hbuffered : ((Stage.script text).run c).console.history.buffered = c.history.buffered ++ taken := by
      rw [← hrun.buffered_eq, hbatches]
      rfl
    rw [if_pos (show (Stage.script text).source.isScript = true from rfl), handed_eq_iff, hrun.taken_eq,
      hbuffered, List.append_eq_nil_iff, List.append_right_eq_self]

/-- The timer fires before each line. -/
def shownInPart : Input :=
  ⟨utf8 "FOO\nBAR\n".toList, [.tick true, .line (utf8 "FOO".toList), .tick true, .line (utf8 "BAR".toList)], true,
    by decide⟩

/-- On a screen of forty bytes the answer to the first line does not fit any more: what the script has taken in has been
handed over by then, that line has not. -/
theorem handed_shownInPart :
    let c := (runStages [.script "LIST PRODUCTS".toList] (new ">" 1 true (some ⟨40, "output full"⟩))).2
    let p := (Stage.input shownInPart).run c
    (∀ s ∈ [.script "LIST PRODUCTS".toList] ++ [.input shownInPart], Stage.Kept s) ∧
      p.fault = some (outputFault "output full") ∧ p.console.handed = [(["LIST PRODUCTS"], true)] ∧
      linesTaken p.console = ["LIST PRODUCTS", "FOO"] ∧
      p.console.handed.flatMap (·.1) ≠ linesTaken p.console := by
  intro c p
  have hkept : ∀ s ∈ [.script "LIST PRODUCTS".toList] ++ [.input shownInPart], Stage.Kept s := by decide
  have hfault : p.fault = some (outputFault "output full") := by decide +kernel
  have htaken : linesTaken p.console = ["LIST PRODUCTS", "FOO"] := by decide +kernel
  refine ⟨hkept, hfault, by decide +kernel, htaken, fun hall => ?_⟩
  obtain ⟨-, -, hiff⟩ := handed_eq_linesTaken_iff ">" 1 (some ⟨40, "output full"⟩) hkept (c := c) (p := p) rfl rfl
  rcases hiff.mp hall with hnone | hempty
  · exact hnone _ hfault
  · rw [htaken] at hempty
    cases hempty

/-- A screen that takes the first prompt only. -/
def unshownInput : Input :=
  ⟨utf8 "ADD WAREHOUSE 1\n".toList, [.line (utf8 "ADD WAREHOUSE 1".toList)], true, by decide⟩

/-- The line is recorded, but it is never handed over. -/
theorem runInput_unshown :
    let p := (new ">" 10 true (some ⟨1, "output full"⟩)).runInput unshownInput.events unshownInput.succeeds
    p.fault = some (outputFault "output full") ∧ linesTaken p.console = ["ADD WAREHOUSE 1"] ∧
      p.console.handed = [] := by
  decide +kernel

end Console

end Stockroom
