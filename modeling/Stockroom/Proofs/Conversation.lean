import Stockroom.Launch.Machine
import Stockroom.Proofs.Notice
import Stockroom.Proofs.SplitText

/-!
# A script and then an input

What a console makes of a script, if there is one, and of an input, while either all of its history can be handed over
or nothing (`converse`).  When it is done the batches handed over are the lines of both, whatever the size of the
batches and the ticks of the timer (`handed_converse`).  The screen shows the transcript of these lines
(`written_converse`), with the notice in it once if none of the history can be kept (`noticed_converse`).
-/

namespace Stockroom

open Text

/-! ### Batches -/

namespace Console

variable {c : Console}

theorem HandedOver.batch_ne {succeeds : Bool} {p : Progress} (h : HandedOver c succeeds p)
    (hpos : 0 < c.history.batchSize) (hne : ∀ batch ∈ c.handed, batch.1 ≠ []) :
    ∀ batch ∈ p.console.handed, batch.1 ≠ [] := by
  have hboth {batch : List String} {rest : History} (hcut : c.history.Cut batch rest) :
      ∀ b ∈ c.handed ++ [(batch, succeeds)], b.1 ≠ [] := by
    rw [List.forall_mem_append, List.forall_mem_singleton]
    exact ⟨hne, hcut.batch_ne hpos⟩
  cases h with
  | idle => exact hne
  | silent hrecording hcut hsilent => exact hboth hcut
  | noticed hrecording hcut hfails hnotified => exact hboth hcut

/-- One act hands over no empty batch. -/
private theorem batch_ne_perform (act : Act) (hpos : 0 < c.history.batchSize) (hne : ∀ batch ∈ c.handed, batch.1 ≠ []) :
    ∀ batch ∈ (act.perform c).console.handed, batch.1 ≠ [] := by
  have hsame (hnone : act.handover? = none) : (act.perform c).console.handed = c.handed := by
    obtain ⟨_, batches, -, hrecorded, -, hkind⟩ := performAll_records [act] c
    have hbatches : batches = [] := batches_eq_nil hkind (List.forall_mem_singleton.mpr hnone)
    rw [← performAll_singleton, hrecorded.handed_eq, hbatches, List.append_nil]
  cases act with
  | start => rwa [hsame rfl]
  | turn t => rwa [hsame rfl]
  | tick succeeds => exact (handedOver_tick c succeeds).batch_ne hpos hne
  | finish succeeds => exact (handedOver_finish c succeeds).batch_ne hpos hne

private theorem batch_ne_performAll (acts : List Act) (hpos : 0 < c.history.batchSize)
    (hne : ∀ batch ∈ c.handed, batch.1 ≠ []) : ∀ batch ∈ (performAll acts c).console.handed, batch.1 ≠ [] := by
  induction acts generalizing c with
  | nil => exact hne
  | cons act acts ih =>
    have hact := batch_ne_perform act hpos hne
    obtain ⟨_, _, -, hrecorded, -⟩ := perform_records act c
    rw [performAll]
    -- a fault leaves the console as the act left it
    cases hfault : (act.perform c).fault with
    | some fault => rwa [Progress.andThen_of_some hfault]
    | none =>
      rw [Progress.andThen_of_none hfault]
      exact ih (hrecorded.batchSize_eq ▸ hpos) hact

end Console

/-! ### The acts of a run -/

/-- The bytes of the line that arrives, if one does. -/
def Arrival.line? : Arrival → Option (List UInt8)
  | line bytes => some bytes
  | tick => none

namespace Launch

open Console

variable {s : Settings} {script : Option (List Char)} {arrivals : List Arrival} {input : List Char} {succeeds : Bool}

/-- The console of a run before it does anything. -/
def console (s : Settings) : Console :=
  new s.prompt s.history.batchSize s.history.enabled none

/-- The event of an arrival while batches can be handed over, or cannot. -/
def event (succeeds : Bool) : Arrival → Event
  | .line bytes => .line bytes
  | .tick => .tick succeeds

def events (succeeds : Bool) (arrivals : List Arrival) : List Event :=
  arrivals.map (event succeeds)

/-- What a console is like after a script, if there is one, and then an input. -/
def converse (s : Settings) (script : Option (List Char)) (arrivals : List Arrival) (succeeds : Bool) : Progress :=
  let scripted := match script with
    | some text => (console s).runScript text
    | none => ⟨console s, none⟩
  scripted.andThen (·.runInput (events succeeds arrivals) succeeds)

/-- The turns for the lines of a script, if there is one, and then for those of an input. -/
def turns (script : Option (List Char)) (input : List Char) : List Turn :=
  ((script.elim [] textLines).map fun line => ⟨String.ofList line, true⟩) ++
    (textLines input).map fun line => ⟨String.ofList line, false⟩

/-- The acts of a script, if there is one, and then those of an input. -/
def acts (script : Option (List Char)) (arrivals : List Arrival) (succeeds : Bool) : List Act :=
  (script.elim [] fun text => (Stage.script text).acts) ++
    .start :: (actsOf (events succeeds arrivals) ++ [.finish succeeds])

private theorem filterMap_line?_events (succeeds : Bool) (arrivals : List Arrival) :
    (events succeeds arrivals).filterMap Event.line? = arrivals.filterMap Arrival.line? := by
  rw [events, List.filterMap_map]
  congr
  funext arrival
  cases arrival <;> rfl

private theorem eq_of_tick_mem_events {appended : Bool} (h : .tick appended ∈ events succeeds arrivals) :
    appended = succeeds := by
  obtain ⟨arrival, -, harrival⟩ := List.mem_map.mp h
  cases arrival with
  | line bytes => cases harrival
  | tick =>
    cases harrival
    rfl

/-- The stage of an input whose lines arrive one by one. -/
def stageOf (succeeds : Bool) (h : arrivals.filterMap Arrival.line? = byteLines (utf8 input)) : Stage :=
  .input ⟨utf8 input, events succeeds arrivals, succeeds, (filterMap_line?_events succeeds arrivals).trans h⟩

/-- A script, if there is one, and then such an input. -/
def stages (script : Option (List Char)) (succeeds : Bool)
    (h : arrivals.filterMap Arrival.line? = byteLines (utf8 input)) : List Stage :=
  (script.elim [] fun text => [.script text]) ++ [stageOf succeeds h]

section Stages

variable (h : arrivals.filterMap Arrival.line? = byteLines (utf8 input))

private theorem mem_stages {stage : Stage} (hmem : stage ∈ stages script succeeds h) :
    (∃ text, stage = .script text) ∨ stage = stageOf succeeds h := by
  rcases List.mem_append.mp hmem with hscript | hinput
  · cases script with
    | none => cases hscript
    | some text => exact .inl ⟨text, List.mem_singleton.mp hscript⟩
  · exact .inr (List.mem_singleton.mp hinput)

private theorem text?_stages : ∀ stage ∈ stages script succeeds h, stage.source.text?.isSome := by
  intro stage hstage
  rcases mem_stages h hstage with ⟨text, rfl⟩ | rfl
  · rfl
  · exact Option.isSome_of_eq_some (Source.text?_input_utf8 rfl)

private theorem flatMap_acts_stages :
    (stages script succeeds h).flatMap Stage.acts = acts script arrivals succeeds := by
  rw [stages, acts, List.flatMap_append, List.flatMap_singleton]
  cases script with
  | none => rfl
  | some text =>
    rw [Option.elim_some, List.flatMap_singleton]
    rfl

include h in
theorem turns_acts : Act.turns (acts script arrivals succeeds) = turns script input := by
  have hinput : (stageOf succeeds h).source.turns = (textLines input).map fun line => ⟨String.ofList line, false⟩ := by
    have hlines : (stageOf succeeds h).source.lines = (textLines input).map String.ofList :=
      Source.lines_input_utf8 rfl
    rw [Source.turns, hlines, List.map_map]
    rfl
  rw [← flatMap_acts_stages h, turns_flatMap_acts (text?_stages h), stages, List.flatMap_append, List.flatMap_singleton,
    hinput, turns]
  cases script with
  | none => rfl
  | some text =>
    have hscript : (Source.script text).turns = (textLines text).map fun line => ⟨String.ofList line, true⟩ :=
      List.map_map
    rw [Option.elim_some, List.flatMap_singleton, Option.elim_some]
    exact congrArg (· ++ _) hscript

end Stages

/-- A run performs these acts. -/
theorem converse_eq_performAll (h : arrivals.filterMap Arrival.line? = byteLines (utf8 input)) :
    converse s script arrivals succeeds = performAll (acts script arrivals succeeds) (console s) := by
  have hrun (stage : Stage) (hfault : stage.source.fault? = none) (c : Console) :
      stage.run c = performAll stage.acts c := by
    rw [stage.run_eq_performAll, hfault, Option.or_none]
  have hinput : (fun c => (stageOf succeeds h).run c) = performAll (stageOf succeeds h).acts := by
    funext c
    apply hrun
    change (firstFlaw? (byteLines (utf8 input))).map inputFault = none
    rw [byteLines_utf8, firstFlaw?_map_utf8]
    rfl
  cases script with
  | none => exact congrFun hinput (console s)
  | some text =>
    calc converse s (some text) arrivals succeeds
      _ = ((Stage.script text).run (console s)).andThen fun c => (stageOf succeeds h).run c := rfl
      _ = performAll ((Stage.script text).acts ++ (stageOf succeeds h).acts) (console s) := by
          rw [hinput, hrun (Stage.script text) rfl, performAll_append]

theorem fault_converse (h : arrivals.filterMap Arrival.line? = byteLines (utf8 input)) :
    (converse s script arrivals succeeds).fault = none := by
  rw [converse_eq_performAll h]
  exact fault_performAll rfl _

/-! ### What is handed over -/

private theorem handover?_acts {act : Act} (hact : act ∈ acts script arrivals succeeds) {appended : Bool}
    (hsome : act.handover? = some appended) : appended = succeeds := by
  rcases List.mem_append.mp hact with hscript | hinput
  · cases script with
    | none => cases hscript
    | some text =>
      rw [Stage.handover?_script hscript] at hsome
      cases hsome
  · rcases List.mem_cons.mp hinput with rfl | hinput
    · cases hsome
    rcases List.mem_append.mp hinput with hevent | hfinish
    · rcases mem_of_mem_actsOf hevent with ⟨t, rfl⟩ | ⟨appended', rfl, htick⟩
      · cases hsome
      · cases hsome
        exact eq_of_tick_mem_events htick
    · rw [List.mem_singleton.mp hfinish] at hsome
      exact (Option.some.inj hsome).symm

/-- The batches that are handed over make up the lines; all of them can be, or none. -/
theorem handed_converse (h : arrivals.filterMap Arrival.line? = byteLines (utf8 input))
    (henabled : s.history.enabled = true) :
    (converse s script arrivals succeeds).console.handed.flatMap (·.1) = (turns script input).map (·.line) ∧
      ∀ batch ∈ (converse s script arrivals succeeds).console.handed, batch.1 ≠ [] ∧ batch.2 = succeeds := by
  have hne := batch_ne_performAll (c := console s) (acts script arrivals succeeds) (Nat.le_max_right _ _)
    (List.forall_mem_nil _)
  obtain ⟨taken, batches, -, hrecorded, hall, hkind⟩ := performAll_records (acts script arrivals succeeds) (console s)
  -- the last act empties the buffer
  have hbuffered : (converse s script arrivals succeeds).console.history.buffered = [] := by
    have hlast : acts script arrivals succeeds =
        ((script.elim [] fun text => (Stage.script text).acts) ++ .start :: actsOf (events succeeds arrivals)) ++
          [.finish succeeds] := by simp [acts]
    obtain ⟨_, _, -, hbefore, -⟩ := performAll_records ((script.elim [] fun text => (Stage.script text).acts) ++
      .start :: actsOf (events succeeds arrivals)) (console s)
    rw [converse_eq_performAll h, hlast, performAll_append, Progress.andThen_of_none (fault_performAll rfl _),
      performAll_singleton]
    exact buffered_finish (hbefore.recording_eq.trans henabled) succeeds
  rw [← converse_eq_performAll h] at hne hrecorded hall
  have htaken : taken = (turns script input).map (·.line) := by
    rcases hall with ⟨-, rfl⟩ | ⟨_, hlimit, -⟩
    · rw [Act.lines, turns_acts h]
    · cases hlimit
  have hhanded : (converse s script arrivals succeeds).console.handed = batches := hrecorded.handed_eq
  refine ⟨?_, fun batch hbatch => ⟨hne batch hbatch, ?_⟩⟩
  · have hbatches := hrecorded.buffered_eq
    rw [hbuffered, List.append_nil] at hbatches
    rw [hhanded, hbatches, htaken]
    rfl
  · rw [hhanded] at hbatch
    obtain ⟨act, hact, hsome⟩ := hkind batch hbatch
    exact handover?_acts hact hsome

/-- Without a place for the history nothing is handed over. -/
theorem handed_converse_of_disabled (h : arrivals.filterMap Arrival.line? = byteLines (utf8 input))
    (hdisabled : s.history.enabled = false) : (converse s script arrivals succeeds).console.handed = [] := by
  obtain ⟨_, batches, -, hrecorded, -⟩ := performAll_records (acts script arrivals succeeds) (console s)
  rw [converse_eq_performAll h, hrecorded.handed_eq, hrecorded.batches_eq hdisabled]
  rfl

/-! ### What is shown -/

/-- The transcript of turns, unless there is a history that cannot be kept. -/
theorem written_converse (h : arrivals.filterMap Arrival.line? = byteLines (utf8 input))
    (hkept : s.history.enabled = true → succeeds = true) :
    (converse s script arrivals succeeds).console.screen.written =
      utf8 (s.prompt ++ transcript s.prompt Session.new (turns script input)).toList := by
  have hall : (console s).recording = true → ∀ stage ∈ stages script succeeds h, stage.Kept := by
    intro hrecording stage hstage
    have hsucceeds : succeeds = true := hkept hrecording
    rcases mem_stages h hstage with ⟨text, rfl⟩ | rfl
    · exact trivial
    · refine ⟨fun htick => ?_, hsucceeds⟩
      have hfails : false = succeeds := eq_of_tick_mem_events htick
      rw [hsucceeds] at hfails
      cases hfails
  have hread : ∀ stage ∈ stages script succeeds h, stage.source.text?.isSome := text?_stages h
  obtain ⟨last, hlast, -, hwritten⟩ := runStages_wrote (c := console s) rfl hread hall
  have hperformed := runStages_eq_performAll (c := console s) rfl hread
  have hconsole : (converse s script arrivals succeeds).console = last := by
    rw [converse_eq_performAll h, ← flatMap_acts_stages h]
    exact (Prod.ext_iff.mp (hperformed.symm.trans hlast)).2
  have hgreeting : (console s).greeting (stages script succeeds h) = s.prompt := by
    cases script <;> rfl
  rw [hconsole, hwritten, hgreeting, ← turns_flatMap_acts hread, flatMap_acts_stages, turns_acts h]
  rfl

/-- What is shown of turns when none of the history can be kept: as soon as there is a line, the notice once, after it
or after a later one. -/
inductive Noticed (prompt : String) (turns : List Turn) : String → Prop
  | none (h : turns = []) : Noticed prompt turns prompt
  | once {before after : List Turn} (hbefore : before ≠ []) (h : before ++ after = turns) :
    Noticed prompt turns (prompt ++ transcript prompt Session.new before ++ noticeText ++
      transcript prompt (Session.new.run (before.map (·.line))) after)

theorem noticed_converse (h : arrivals.filterMap Arrival.line? = byteLines (utf8 input))
    (henabled : s.history.enabled = true) :
    ∃ text, Noticed s.prompt (turns script input) text ∧
      (converse s script arrivals false).console.screen.written = utf8 text.toList := by
  obtain ⟨rest, hrest⟩ : ∃ rest, acts script arrivals false = .start :: rest := by
    cases script <;> exact ⟨_, rfl⟩
  have hturns : Act.turns rest = turns script input := by
    calc Act.turns rest
      _ = Act.turns (acts script arrivals false) := by
          rw [hrest]
          rfl
      _ = turns script input := turns_acts h
  have hperformed : converse s script arrivals false = performAll (acts script arrivals false) (console s) :=
    converse_eq_performAll h
  rw [console, henabled, hrest] at hperformed
  have hflag := notified_performAll_new s.prompt s.history.batchSize true none (.start :: rest)
  rw [← hperformed] at hflag
  rcases new_silent_or_failure s.prompt s.history.batchSize rest (congrArg Progress.console hperformed.symm) with
    ⟨hnotified, hwritten⟩ | ⟨-, before, act, after, -, -, hbefore, hall, hwritten⟩
  · -- without a failure no batch was handed over, so there was no line
    obtain ⟨hlines, hfails⟩ : _ ∧ ∀ batch ∈ (converse s script arrivals false).console.handed, _ :=
      handed_converse h henabled
    have hnone : (converse s script arrivals false).console.handed = [] := by
      rw [hnotified] at hflag
      refine List.eq_nil_iff_forall_not_mem.mpr fun batch hbatch => ?_
      have hgood := List.any_eq_false.mp hflag.symm batch hbatch
      rw [(hfails batch hbatch).2] at hgood
      exact hgood rfl
    have hempty : turns script input = [] := by
      rw [hnone] at hlines
      exact List.map_eq_nil_iff.mp hlines.symm
    refine ⟨s.prompt, .none hempty, ?_⟩
    rw [hwritten, hturns, hempty, transcript, String.append_empty]
  · refine ⟨_, .once hbefore (hall.trans hturns), ?_⟩
    rw [hwritten, ← String.append_assoc, ← String.append_assoc]
    rfl

end Launch

end Stockroom
