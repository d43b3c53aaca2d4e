import Stockroom.Proofs.Recorded

/-!
# The notice of a failing history

A history that cannot be kept shows once, by a notice at the point where the first batch fails; otherwise a console on
which every line can be shown writes what it writes without a place for the history, and its session is the same
(`runStages_noticed`).  The flag that keeps the notice from being shown again is part of the history, so it outlasts
batches, inputs and stages.
-/

namespace Stockroom

open Text

namespace Console

/-- A console that has been started, with a screen that takes everything. -/
structure Ready (c : Console) : Prop where
  limit_eq : c.screen.limit = none
  started_eq : c.started = true
  batchSize_pos : 0 < c.history.batchSize

/-- An act that shows the notice: the first batch that fails. -/
structure Notices (c : Console) (act : Act) : Prop where
  turn?_eq : act.turn? = none
  silent_before : c.history.notified = false
  notified_after : (act.perform c).console.history.notified = true
  fails : ∃ batch, batch ≠ [] ∧ (act.perform c).console.handed = c.handed ++ [(batch, false)]
  wrote : (act.perform c).Wrote c c.session noticeText

/-- An act that shows what its turn makes appear, if it is a turn, and no notice. -/
structure Silent (c : Console) (p : Progress) (turns : List Turn) : Prop where
  notified_eq : p.console.history.notified = c.history.notified
  wrote : p.Wrote c (c.session.run (turns.map (·.line))) (transcript c.prompt c.session turns)

variable {c d : Console}

theorem Ready.recorded {lines : List String} {batches : List (List String × Bool)} (h : c.Ready)
    (hrecorded : c.Recorded d lines batches) : d.Ready where
  limit_eq := hrecorded.limit_eq.trans h.limit_eq
  started_eq := hrecorded.started_of h.started_eq
  batchSize_pos := hrecorded.batchSize_eq ▸ h.batchSize_pos

private theorem notified_perform {act : Act} (h : act.handover? = none) (c : Console) :
    (act.perform c).console.history.notified = c.history.notified := by
  obtain ⟨_, batches, -, hrecorded, -, hkind⟩ := performAll_records [act] c
  have hbatches : batches = [] := batches_eq_nil hkind (List.forall_mem_singleton.mpr h)
  rw [← performAll_singleton, hrecorded.notified_eq, hbatches]
  exact Bool.or_false _

private theorem handedOver_silent_or_notices {act : Act} {succeeds : Bool} (hready : c.Ready) (hturn : act.turn? = none)
    (h : HandedOver c succeeds (act.perform c)) : Silent c (act.perform c) [] ∨ Notices c act := by
  generalize hp : act.perform c = p at h
  cases h with
  | idle => exact .inl ⟨rfl, Progress.wrote_nothing hready.limit_eq⟩
  | silent hrecording hcut hsilent =>
    exact .inl ⟨hcut.notified_eq, rfl, rfl, rfl, rfl, hready.limit_eq, rfl, (List.append_nil _).symm⟩
  | @noticed batch rest hrecording hcut hfails hnotified =>
    have hwrote := put_wrote (c := { c with
      history := { rest with notified := true }, handed := c.handed ++ [(batch, succeeds)] }) hready.limit_eq noticeText
    refine .inr ⟨hturn, hnotified, ?_, ⟨batch, hcut.batch_ne hready.batchSize_pos, ?_⟩, ?_⟩
    · rw [hp]
      rfl
    · rw [hp, ← hfails]
      rfl
    · rw [hp]
      exact { hwrote with }

/-- One act on a console that is ready. -/
private theorem silent_or_notices (hready : c.Ready) (act : Act) :
    Silent c (act.perform c) (Act.turns [act]) ∨ Notices c act := by
  match act with
  | .start =>
    have hstart : c.start = ⟨c, none⟩ := if_pos hready.started_eq
    refine .inl ⟨notified_perform rfl c, ?_⟩
    change c.start.Wrote c c.session ""
    rw [hstart]
    exact Progress.wrote_nothing hready.limit_eq
  | .turn turn =>
    refine .inl ⟨notified_perform rfl c, ?_⟩
    have hwrote := turn_wrote hready.limit_eq turn
    rw [← String.append_empty (s := turn.echo ++ c.session.reply c.prompt turn.line)] at hwrote
    exact hwrote
  | .tick succeeds => exact handedOver_silent_or_notices hready rfl (handedOver_tick c succeeds)
  | .finish succeeds => exact handedOver_silent_or_notices hready rfl (handedOver_finish c succeeds)

/-! ### Runs of acts -/

theorem Silent.done (hlimit : c.screen.limit = none) : Silent c ⟨c, none⟩ [] :=
  ⟨rfl, Progress.wrote_nothing hlimit⟩

theorem Silent.andThen {p : Progress} {f : Console → Progress} {l m : List Turn} (hp : Silent c p l)
    (hf : Silent p.console (f p.console) m) : Silent c (p.andThen f) (l ++ m) where
  notified_eq := by
    rw [Progress.andThen_of_none hp.wrote.fault_eq, hf.notified_eq, hp.notified_eq]
  wrote := by
    have hwrote := hf.wrote
    rw [hp.wrote.prompt_eq, hp.wrote.session_eq] at hwrote
    rw [transcript_append, List.map_append, Session.run_append]
    exact hp.wrote.andThen hwrote

/-- Once the notice has been shown there is no other. -/
theorem silent_performAll (hready : c.Ready) (hnotified : c.history.notified = true) (acts : List Act) :
    Silent c (performAll acts c) (Act.turns acts) := by
  induction acts generalizing c with
  | nil => exact .done hready.limit_eq
  | cons act acts ih =>
    obtain ⟨_, _, -, hrecorded, -⟩ := perform_records act c
    have hact : Silent c (act.perform c) (Act.turns [act]) :=
      (silent_or_notices hready act).resolve_right fun h => by
        rw [h.silent_before] at hnotified
        cases hnotified
    rw [Act.turns_cons]
    exact hact.andThen (ih (hready.recorded hrecorded) (hact.notified_eq.trans hnotified))

/-- Acts on a console that is ready: nothing shows of the history, or one act among them shows the notice. -/
private theorem silent_or_exists_notices (hready : c.Ready) (acts : List Act) :
    Silent c (performAll acts c) (Act.turns acts) ∨
      ∃ before act after, acts = before ++ act :: after ∧ Silent c (performAll before c) (Act.turns before) ∧
        Notices (performAll before c).console act := by
  induction acts generalizing c with
  | nil => exact .inl (.done hready.limit_eq)
  | cons act acts ih =>
    obtain ⟨_, _, -, hrecorded, -⟩ := perform_records act c
    rcases silent_or_notices hready act with hact | hnotices
    · rcases ih (hready.recorded hrecorded) with hrest | ⟨before, act', after, rfl, hbefore, hnotices⟩
      · refine .inl ?_
        rw [Act.turns_cons]
        exact hact.andThen hrest
      · refine .inr ⟨act :: before, act', after, rfl, ?_, ?_⟩
        · rw [Act.turns_cons]
          exact hact.andThen hbefore
        · rw [performAll, Progress.andThen_of_none hact.wrote.fault_eq]
          exact hnotices
    · exact .inr ⟨[], act, acts, rfl, .done hready.limit_eq, hnotices⟩

/-- What is shown around the notice is what is shown without it. -/
private theorem wrote_of_notices (hready : c.Ready) {before : List Act} {act : Act} (after : List Act)
    (hbefore : Silent c (performAll before c) (Act.turns before))
    (hnotices : Notices (performAll before c).console act) :
    (performAll (before ++ act :: after) c).console.history.notified = true ∧
      (performAll (before ++ act :: after) c).Wrote c (c.session.run (Act.lines (before ++ act :: after)))
        (transcript c.prompt c.session (Act.turns before) ++
          (noticeText ++ transcript c.prompt (c.session.run (Act.lines before)) (Act.turns after))) := by
  have hturns : Act.turns (act :: after) = Act.turns after := List.filterMap_cons_none hnotices.turn?_eq
  have hlines : c.session.run (Act.lines (before ++ act :: after)) =
      (c.session.run (Act.lines before)).run (Act.lines after) := by
    rw [Act.lines_append, Session.run_append, Act.lines, Act.lines, hturns]
    rfl
  obtain ⟨_, _, -, hrecorded, -⟩ := performAll_records before c
  obtain ⟨_, _, -, hrecorded', -⟩ := perform_records act (performAll before c).console
  have hafter := silent_performAll ((hready.recorded hrecorded).recorded hrecorded') hnotices.notified_after after
  have hwrote := hafter.wrote
  rw [hnotices.wrote.prompt_eq, hnotices.wrote.session_eq, hbefore.wrote.prompt_eq, hbefore.wrote.session_eq] at hwrote
  have hfrom := hnotices.wrote.andThen (f := performAll after) hwrote
  rw [performAll_append, hlines]
  refine ⟨?_, hbefore.wrote.andThen hfrom⟩
  rw [Progress.andThen_of_none hbefore.wrote.fault_eq, performAll, Progress.andThen_of_none hnotices.wrote.fault_eq,
    hafter.notified_eq, hnotices.notified_after]

/-! ### Stages -/

/-- After `before` all that was handed over could be; `act` hands over a batch that cannot. -/
structure FirstFailure (c : Console) (before : List Act) (act : Act) : Prop where
  kept : ∀ batch ∈ (performAll before c).console.handed, batch.2 = true
  fails : ∃ batch, batch ≠ [] ∧
    (performAll (before ++ [act]) c).console.handed = (performAll before c).console.handed ++ [(batch, false)]

/-- The notice has been shown if a batch has failed. -/
theorem notified_performAll_new (prompt : String) (batchSize : Nat) (recording : Bool) (limit : Option Screen.Limit)
    (acts : List Act) :
    (performAll acts (new prompt batchSize recording limit)).console.history.notified =
      (performAll acts (new prompt batchSize recording limit)).console.handed.any (!·.2) := by
  obtain ⟨_, _, -, hrecorded, -⟩ := performAll_records acts (new prompt batchSize recording limit)
  rw [hrecorded.notified_eq, hrecorded.handed_eq]
  rfl

/-- A batch that is handed over holds lines taken in before. -/
private theorem turns_ne_nil {before : List Act} {act : Act} (hempty : linesTaken c = [])
    (hnotices : Notices (performAll before c).console act) : Act.turns before ≠ [] := by
  intro hturns
  have hlines : Act.lines before = [] := by rw [Act.lines, hturns, List.map_nil]
  have hact : Act.lines [act] = [] := by rw [Act.lines, Act.turns, List.filterMap_cons_none hnotices.turn?_eq]; rfl
  obtain ⟨taken, _, hprefix, hrecorded, -⟩ := performAll_records before c
  obtain ⟨taken', _, hprefix', hrecorded', -⟩ := perform_records act (performAll before c).console
  rw [hlines, List.prefix_nil] at hprefix
  rw [hact, List.prefix_nil] at hprefix'
  have hnothing := hrecorded'.taken_eq
  rw [hrecorded.taken_eq, hempty, hprefix, hprefix'] at hnothing
  obtain ⟨batch, hbatch, hhanded⟩ := hnotices.fails
  rw [linesTaken, hhanded, List.flatMap_append, List.flatMap_singleton] at hnothing
  exact hbatch (List.append_eq_nil_iff.mp (List.append_eq_nil_iff.mp hnothing).1).2

/-- A new console that starts and then performs acts. -/
theorem new_silent_or_failure (prompt : String) (batchSize : Nat) (acts : List Act) {last : Console}
    (hlast : (performAll (.start :: acts) (new prompt batchSize true none)).console = last) :
    last.history.notified = false ∧
        last.screen.written = utf8 (prompt ++ transcript prompt Session.new (Act.turns acts)).toList ∨
      last.history.notified = true ∧
        ∃ before act after, acts = before ++ act :: after ∧
          FirstFailure (new prompt batchSize true none) (.start :: before) act ∧
          Act.turns before ≠ [] ∧ Act.turns before ++ Act.turns after = Act.turns acts ∧
          last.screen.written = utf8 (prompt ++ (transcript prompt Session.new (Act.turns before) ++
            (noticeText ++ transcript prompt (Session.new.run (Act.lines before)) (Act.turns after)))).toList := by
  have hperform (acts : List Act) : performAll (.start :: acts) (new prompt batchSize true none) =
      performAll acts (new prompt batchSize true none).start.console := rfl
  have hready : (new prompt batchSize true none).start.console.Ready := ⟨rfl, rfl, Nat.le_max_right _ _⟩
  rw [hperform] at hlast
  subst hlast
  rcases silent_or_exists_notices hready acts with hsilent | ⟨before, act, after, rfl, hbefore, hnotices⟩
  · refine .inl ⟨hsilent.notified_eq, hsilent.wrote.written_eq.trans ?_⟩
    rw [String.toList_append, utf8_append]
    rfl
  · obtain ⟨hnotified, hwrote⟩ := wrote_of_notices hready after hbefore hnotices
    refine .inr ⟨hnotified, before, act, after, rfl, ⟨?_, ?_⟩, ?_, ?_, hwrote.written_eq.trans ?_⟩
    · have hflag := notified_performAll_new prompt batchSize true none (.start :: before)
      rw [hperform, hbefore.notified_eq] at hflag
      intro batch hbatch
      have hgood := List.any_eq_false.mp hflag.symm batch hbatch
      rwa [Bool.not_eq_true, Bool.not_eq_false'] at hgood
    · obtain ⟨batch, hbatch, hhanded⟩ := hnotices.fails
      refine ⟨batch, hbatch, ?_⟩
      rw [List.cons_append, hperform, hperform, performAll_append, Progress.andThen_of_none hbefore.wrote.fault_eq,
        performAll_singleton, hhanded]
    · exact turns_ne_nil rfl hnotices
    · rw [Act.turns_append, Act.turns_cons act after, Act.turns, Act.turns, Act.turns,
        List.filterMap_cons_none hnotices.turn?_eq]
      rfl
    · rw [String.toList_append (s := prompt), utf8_append]
      rfl

/-- Scripts and inputs that can be read, whatever the history does: they all end well, with the session that they have
without a place for the history.  If no batch fails the screen shows what it shows then.  If one fails the notice comes
once, at the first that does, after the lines taken in before and ahead of the others. -/
theorem runStages_noticed (prompt : String) (batchSize : Nat) {stages : List Stage}
    (hread : ∀ stage ∈ stages, stage.source.text?.isSome) :
    ∃ last quiet, runStages stages (new prompt batchSize true none) = (stages.map fun _ => none, last) ∧
      runStages stages (new prompt batchSize false none) = (stages.map fun _ => none, quiet) ∧
      last.session = quiet.session ∧
      ((∀ batch ∈ last.handed, batch.2 = true) → last.screen.written = quiet.screen.written) ∧
      ((∃ batch ∈ last.handed, batch.2 = false) →
        ∃ before act after shown rest, stages.flatMap Stage.acts = before ++ act :: after ∧
          FirstFailure (new prompt batchSize true none) before act ∧
          Act.turns before ≠ [] ∧ Act.turns before ++ Act.turns after = stages.flatMap (·.source.turns) ∧
          shown = utf8 (prompt ++ transcript prompt Session.new (Act.turns before)).toList ∧
          rest = utf8 (transcript prompt (Session.new.run (Act.lines before)) (Act.turns after)).toList ∧
          quiet.screen.written = shown ++ rest ∧
          last.screen.written = shown ++ utf8 ("\n" ++ History.failureNotice ++ "\n").toList ++ rest) := by
  rcases stages with _ | ⟨stage, stages⟩
  · exact ⟨_, _, rfl, rfl, rfl, fun _ => rfl, fun ⟨_, hmem, _⟩ => nomatch hmem⟩
  obtain ⟨acts, hacts⟩ : ∃ acts, (stage :: stages).flatMap Stage.acts = .start :: acts := by
    cases stage <;> exact ⟨_, rfl⟩
  obtain ⟨last, hlast⟩ : ∃ last, (performAll (.start :: acts) (new prompt batchSize true none)).console = last :=
    ⟨_, rfl⟩
  obtain ⟨quiet, hquiet, hsession, hwritten⟩ :=
    runStages_wrote (c := new prompt batchSize false none) rfl hread (fun hrecording => nomatch hrecording)
  have hrun := runStages_eq_performAll (c := new prompt batchSize true none) rfl hread
  rw [hacts, hlast] at hrun
  have hturns : Act.turns acts = (stage :: stages).flatMap (·.source.turns) := by
    rw [← turns_flatMap_acts hread, hacts]
    rfl
  have hshown : quiet.screen.written = utf8 (prompt ++ transcript prompt Session.new (Act.turns acts)).toList := by
    rw [hwritten, hturns]
    rfl
  have hflag : last.history.notified = last.handed.any (!·.2) := by
    rw [← hlast]
    exact notified_performAll_new ..
  refine ⟨last, quiet, hrun, hquiet, ?_, ?_, ?_⟩
  · obtain ⟨taken, _, hrecorded, hclear, -⟩ := runStages_records (stage :: stages) (new prompt batchSize true none)
    obtain ⟨-, rfl⟩ := hclear rfl
    rw [hsession, ← flatMap_legible hread]
    rw [hrun] at hrecorded
    exact hrecorded.session_eq
  · intro hkept
    have hnone : last.handed.any (!·.2) = false := List.any_eq_false.mpr fun batch hbatch => by
      rw [hkept batch hbatch]
      exact Bool.false_ne_true
    rcases new_silent_or_failure prompt batchSize acts hlast with ⟨-, hsilent⟩ | ⟨hnotified, -⟩
    · rw [hsilent, hshown]
    · rw [hflag, hnone] at hnotified
      cases hnotified
  · rintro ⟨batch, hbatch, hfails⟩
    have hsome : last.handed.any (!·.2) = true := List.any_eq_true.mpr ⟨batch, hbatch, by rw [hfails]; rfl⟩
    rcases new_silent_or_failure prompt batchSize acts hlast with
      ⟨hnotified, -⟩ | ⟨-, before, act, after, rfl, hfirst, hbefore, hall, hnoticed⟩
    · rw [hflag, hsome] at hnotified
      cases hnotified
    have hquietly : transcript prompt Session.new (Act.turns (before ++ act :: after)) =
        transcript prompt Session.new (Act.turns before) ++
          transcript prompt (Session.new.run (Act.lines before)) (Act.turns after) := by
      rw [← hall, transcript_append]
      rfl
    refine ⟨.start :: before, act, after, _, _, hacts, hfirst, hbefore, hall.trans hturns, rfl, rfl, ?_, ?_⟩
    · rw [hshown, hquietly, ← String.append_assoc, String.toList_append, utf8_append]
      rfl
    · rw [hnoticed, ← String.append_assoc, ← String.append_assoc, String.toList_append, utf8_append,
        String.toList_append, utf8_append]
      rfl

/-- The first batch fails while a question waits for its answer, and again at the end. -/
def failingStages : List Stage :=
  [.script "ADD WAREHOUSE 1\nADD WAREHOUSE 1 5".toList,
    .input ⟨utf8 "n\r\n".toList, [.tick false, .line (utf8 ['n']), .tick true], false, by decide⟩,
    .input ⟨utf8 "FOO".toList, [.line (utf8 "FOO".toList)], false, by decide⟩]

theorem runStages_failing :
    (∀ stage ∈ failingStages, stage.source.text?.isSome) ∧
      ∃ last quiet, runStages failingStages (new ">" 1 true none) = ([none, none, none], last) ∧
        runStages failingStages (new ">" 1 false none) = ([none, none, none], quiet) ∧
        last.handed = [(["ADD WAREHOUSE 1"], false), (["ADD WAREHOUSE 1 5"], true), (["n"], false), (["FOO"], false)] ∧
        last.session = quiet.session ∧
        ∃ shown rest, quiet.screen.written = shown ++ rest ∧
          last.screen.written = shown ++ utf8 ("\n" ++ History.failureNotice ++ "\n").toList ++ rest := by
  have hread : ∀ stage ∈ failingStages, stage.source.text?.isSome := by decide
  obtain ⟨last, quiet, hlast, hquiet, hsession, -, hnoticed⟩ := runStages_noticed ">" 1 hread
  have hhanded : last.handed =
      [(["ADD WAREHOUSE 1"], false), (["ADD WAREHOUSE 1 5"], true), (["n"], false), (["FOO"], false)] := by
    have hcomputed : (runStages failingStages (new ">" 1 true none)).2.handed =
        [(["ADD WAREHOUSE 1"], false), (["ADD WAREHOUSE 1 5"], true), (["n"], false), (["FOO"], false)] := by
      decide +kernel
    rwa [hlast] at hcomputed
  obtain ⟨_, _, _, shown, rest, -, -, -, -, -, -, hquietly, htext⟩ := hnoticed ⟨(["ADD WAREHOUSE 1"], false), by
    rw [hhanded]; exact List.mem_cons_self, rfl⟩
  exact ⟨hread, last, quiet, hlast, hquiet, hhanded, hsession, shown, rest, hquietly, htext⟩

end Console

end Stockroom
