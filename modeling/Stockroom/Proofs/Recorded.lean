import Stockroom.Proofs.Acts
import Stockroom.Proofs.Batches

/-!
# What a console records

Each line that a console takes in is recorded, in order, and stays buffered until it is handed over.  So the batches
handed over and the buffer always make up the lines that the session was fed with, whatever the screen takes and
whatever becomes of the history (`Console.Recorded`).  When an input ends, at its end or at a line that is not UTF-8,
the buffer is empty (`runStages_recorded`).
-/

namespace Stockroom

open Text

/-! ### Handing over -/

namespace Console

/-- The line by which the first failure is shown. -/
def noticeText : String :=
  "\n" ++ History.failureNotice ++ "\n"

/-- What handing history over comes to. -/
inductive HandedOver (c : Console) (succeeds : Bool) : Progress → Prop
  /-- There is no place for the history, or nothing is due. -/
  | idle : HandedOver c succeeds ⟨c, none⟩
  | silent {batch : List String} {rest : History} (hrecording : c.recording = true) (hcut : c.history.Cut batch rest)
      (hsilent : succeeds = true ∨ c.history.notified = true) :
      HandedOver c succeeds ⟨{ c with history := rest, handed := c.handed ++ [(batch, succeeds)] }, none⟩
  /-- The first failure. -/
  | noticed {batch : List String} {rest : History} (hrecording : c.recording = true) (hcut : c.history.Cut batch rest)
      (hfails : succeeds = false) (hnotified : c.history.notified = false) :
      HandedOver c succeeds
        (put { c with history := { rest with notified := true }, handed := c.handed ++ [(batch, succeeds)] } noticeText)

private theorem handedOver_handOver {c : Console} (hrecording : c.recording = true) {succeeds : Bool}
    {o : History.Handover} (h : c.history.HandedOver succeeds o) : HandedOver c succeeds (c.handOver o succeeds) := by
  cases h with
  | idle => exact .idle
  | silent hcut hsilent => exact .silent hrecording hcut hsilent
  | noticed hcut hfails hnotified => exact .noticed hrecording hcut hfails hnotified

theorem handedOver_tick (c : Console) (succeeds : Bool) : HandedOver c succeeds (c.tick succeeds) := by
  unfold tick
  split
  · rename_i hrecording
    exact handedOver_handOver hrecording (c.history.handedOver_flush succeeds)
  · exact .idle

theorem handedOver_finish (c : Console) (succeeds : Bool) : HandedOver c succeeds (c.finish succeeds) := by
  unfold finish
  split
  · rename_i hrecording
    exact handedOver_handOver hrecording (c.history.handedOver_drain succeeds)
  · exact .idle

end Console

/-! ### Recorded lines -/

/-- The lines that a console has taken in: those of the batches and those still buffered. -/
def Console.linesTaken (c : Console) : List String :=
  c.handed.flatMap (·.1) ++ c.history.buffered

/-- From the console `c` to `d` the lines `lines` have been taken in, all of them recorded, and `batches` handed over,
each with whether that succeeded; what a console is made with is as it was. -/
structure Console.Recorded (c d : Console) (lines : List String) (batches : List (List String × Bool)) : Prop where
  recording_eq : d.recording = c.recording
  limit_eq : d.screen.limit = c.screen.limit
  batchSize_eq : d.history.batchSize = c.history.batchSize
  started_of : c.started = true → d.started = true
  session_eq : d.session = c.session.run lines
  handed_eq : d.handed = c.handed ++ batches
  buffered_eq : batches.flatMap (·.1) ++ d.history.buffered = c.history.buffered ++ lines
  notified_eq : d.history.notified = (c.history.notified || batches.any (!·.2))
  batches_eq : c.recording = false → batches = []

namespace Console.Recorded

variable {c d e : Console} {l m : List String} {b b' : List (List String × Bool)}

/-- What has been recorded is in the batches and in the buffer. -/
theorem taken_eq (h : c.Recorded d l b) : d.linesTaken = c.linesTaken ++ l := by
  rw [linesTaken, linesTaken, h.handed_eq, List.flatMap_append, List.append_assoc, h.buffered_eq, List.append_assoc]

theorem refl (c : Console) : c.Recorded c [] [] :=
  ⟨rfl, rfl, rfl, id, rfl, (List.append_nil _).symm, (List.append_nil _).symm, (Bool.or_false _).symm, fun _ => rfl⟩

theorem trans (h : c.Recorded d l b) (h' : d.Recorded e m b') : c.Recorded e (l ++ m) (b ++ b') where
  recording_eq := h'.recording_eq.trans h.recording_eq
  limit_eq := h'.limit_eq.trans h.limit_eq
  batchSize_eq := h'.batchSize_eq.trans h.batchSize_eq
  started_of := h'.started_of ∘ h.started_of
  session_eq := by rw [h'.session_eq, h.session_eq, Session.run_append]
  handed_eq := by rw [h'.handed_eq, h.handed_eq, List.append_assoc]
  buffered_eq := by
    rw [List.flatMap_append, List.append_assoc, h'.buffered_eq, ← List.append_assoc, h.buffered_eq, List.append_assoc]
  notified_eq := by rw [h'.notified_eq, h.notified_eq, List.any_append, Bool.or_assoc]
  batches_eq := fun hquiet => by
    rw [h.batches_eq hquiet, h'.batches_eq (h.recording_eq.trans hquiet), List.append_nil]

end Console.Recorded

/-- Work that takes in `lines`, or only the first of them because the screen is full, and hands over batches of the
kind `kind`. -/
def Progress.Records (p : Progress) (c : Console) (lines : List String) (kind : List String × Bool → Prop) : Prop :=
  ∃ taken batches, taken <+: lines ∧ c.Recorded p.console taken batches ∧
    (p.fault = none ∧ taken = lines ∨
      ∃ limit, c.screen.limit = some limit ∧ p.fault = some (Console.outputFault limit.reason)) ∧
    ∀ batch ∈ batches, kind batch

namespace Progress

variable {p : Progress} {c d : Console} {l m : List String} {b : List (List String × Bool)} {f : Console → Progress}
  {k k' : List String × Bool → Prop}

theorem records_done (h : c.Recorded d l b) (hkind : ∀ batch ∈ b, k batch) : (Progress.mk d none).Records c l k :=
  ⟨l, b, List.prefix_rfl, h, .inl ⟨rfl, rfl⟩, hkind⟩

theorem Records.mono (h : p.Records c l k) (hk : ∀ batch, k batch → k' batch) : p.Records c l k' := by
  obtain ⟨taken, batches, hprefix, hrecorded, hfault, hkind⟩ := h
  exact ⟨taken, batches, hprefix, hrecorded, hfault, fun batch hbatch => hk batch (hkind batch hbatch)⟩

theorem Records.andThen (hp : p.Records c l k) (hf : (f p.console).Records p.console m k) :
    (p.andThen f).Records c (l ++ m) k := by
  obtain ⟨taken, batches, hprefix, hrecorded, ⟨hnone, rfl⟩ | ⟨limit, hlimit, hfull⟩, hkind⟩ := hp
  · obtain ⟨more, batches', hmore, hrecorded', hfault, hkind'⟩ := hf
    rw [andThen_of_none hnone]
    refine ⟨taken ++ more, batches ++ batches', (List.prefix_append_right_inj _).mpr hmore,
      hrecorded.trans hrecorded', ?_, List.forall_mem_append.mpr ⟨hkind, hkind'⟩⟩
    rw [← hrecorded.limit_eq, List.append_cancel_left_eq]
    exact hfault
  · rw [andThen_of_some hfull]
    exact ⟨taken, batches, hprefix.trans (List.prefix_append l m), hrecorded, .inr ⟨limit, hlimit, hfull⟩, hkind⟩

end Progress

private theorem Screen.limit_write (s : Screen) (bytes : List UInt8) : (s.write bytes).1.limit = s.limit := by
  unfold write
  split <;> rfl

namespace Console

variable {k : List String × Bool → Prop}

theorem put_records (c : Console) (text : String) : (c.put text).Records c [] k := by
  have hrecorded : c.Recorded (c.put text).console [] [] :=
    { Recorded.refl c with limit_eq := Screen.limit_write .. }
  refine ⟨[], [], List.prefix_rfl, hrecorded, ?_, List.forall_mem_nil _⟩
  cases hlimit : c.screen.limit with
  | none => exact .inl ⟨(put_wrote hlimit text).fault_eq, rfl⟩
  | some limit =>
    rw [put, Screen.write, hlimit]
    by_cases hfits : (utf8 text.toList).length ≤ limit.bytes - c.screen.written.length
    · exact .inl ⟨by simp only [if_pos hfits, Option.map_none], rfl⟩
    · exact .inr ⟨limit, rfl, by simp only [if_neg hfits, Option.map_some]⟩

theorem start_records (c : Console) : c.start.Records c [] k := by
  unfold start
  split
  · exact Progress.records_done (.refl c) (List.forall_mem_nil _)
  · have hstarted : c.Recorded { c with started := true } [] [] := { Recorded.refl c with started_of := fun _ => rfl }
    exact (Progress.records_done hstarted (List.forall_mem_nil _)).andThen
      (f := fun d => d.put c.prompt) (put_records _ _)

theorem takeLine_records (c : Console) (line : String) : (c.takeLine line).Records c [line] k := by
  have htaken : c.Recorded { c with history := c.history.record line, session := (c.session.feed line).2 } [line] [] :=
    ⟨rfl, rfl, rfl, id, rfl, (List.append_nil _).symm, rfl, (Bool.or_false _).symm, fun _ => rfl⟩
  have hshown := (Progress.records_done (k := k) htaken (List.forall_mem_nil _)).andThen
    (f := fun d => d.put (shown (c.session.feed line).1)) (put_records _ _)
  refine hshown.andThen (m := []) (f := fun d => if d.session.isAwaiting then ⟨d, none⟩ else d.put d.prompt) ?_
  split
  · exact Progress.records_done (.refl _) (List.forall_mem_nil _)
  · exact put_records _ _

theorem echoLine_records (c : Console) (line : String) : (c.echoLine line).Records c [line] k :=
  (put_records c _).andThen (takeLine_records _ line)

/-- Handing a batch over, before anything is shown. -/
private theorem recorded_batch {c : Console} {batch : List String} {rest h : History} {succeeds : Bool}
    (hrecording : c.recording = true) (hcut : c.history.Cut batch rest) (hbuffered : h.buffered = rest.buffered)
    (hbatchSize : h.batchSize = rest.batchSize) (hnotified : h.notified = (c.history.notified || !succeeds)) :
    c.Recorded { c with history := h, handed := c.handed ++ [(batch, succeeds)] } [] [(batch, succeeds)] where
  recording_eq := rfl
  limit_eq := rfl
  batchSize_eq := hbatchSize.trans hcut.batchSize_eq
  started_of := id
  session_eq := rfl
  handed_eq := rfl
  buffered_eq := by
    rw [List.flatMap_singleton, List.append_nil, hcut.buffered_eq]
    exact congrArg _ hbuffered
  notified_eq := by
    rw [List.any_cons, List.any_nil, Bool.or_false]
    exact hnotified
  batches_eq := fun hquiet => nomatch hquiet.symm.trans hrecording

theorem HandedOver.records {c : Console} {succeeds : Bool} {p : Progress} (h : HandedOver c succeeds p) :
    p.Records c [] (·.2 = succeeds) := by
  have hkind (batch : List String) : ∀ b ∈ [(batch, succeeds)], b.2 = succeeds := List.forall_mem_singleton.mpr rfl
  cases h with
  | idle => exact Progress.records_done (.refl c) (List.forall_mem_nil _)
  | @silent batch rest hrecording hcut hsilent =>
    have hnotified : rest.notified = (c.history.notified || !succeeds) := by
      rcases hsilent with hsucceeds | hnotified
      · rw [hcut.notified_eq, hsucceeds, Bool.not_true, Bool.or_false]
      · rw [hcut.notified_eq, hnotified, Bool.true_or]
    exact Progress.records_done (recorded_batch hrecording hcut rfl rfl hnotified) (hkind batch)
  | @noticed batch rest hrecording hcut hfails hnotified =>
    have hbatch := recorded_batch (h := { rest with notified := true }) hrecording hcut rfl rfl
      (show true = (c.history.notified || !succeeds) by rw [hfails, Bool.not_false, Bool.or_true])
    exact (Progress.records_done hbatch (hkind batch)).andThen (f := fun d => d.put noticeText) (put_records _ _)

/-- One act, whatever the screen and the history do. -/
theorem perform_records (act : Act) (c : Console) :
    (act.perform c).Records c (Act.lines [act]) (act.handover? = some ·.2) := by
  have hsome {succeeds : Bool} (batch : List String × Bool) (h : batch.2 = succeeds) : some succeeds = some batch.2 :=
    congrArg some h.symm
  match act with
  | .start => exact start_records c
  | .turn ⟨line, true⟩ => exact echoLine_records c line
  | .turn ⟨line, false⟩ => exact takeLine_records c line
  | .tick succeeds => exact (handedOver_tick c succeeds).records.mono hsome
  | .finish succeeds => exact (handedOver_finish c succeeds).records.mono hsome

theorem performAll_records (acts : List Act) (c : Console) :
    (performAll acts c).Records c (Act.lines acts) fun batch => ∃ act ∈ acts, act.handover? = some batch.2 := by
  induction acts generalizing c with
  | nil => exact Progress.records_done (.refl c) (List.forall_mem_nil _)
  | cons act acts ih =>
    rw [Act.lines_cons]
    refine ((perform_records act c).mono ?_).andThen ((ih (act.perform c).console).mono ?_)
    · exact fun batch hbatch => ⟨act, List.mem_cons_self, hbatch⟩
    · exact fun batch ⟨act', hact', hbatch⟩ => ⟨act', List.mem_cons_of_mem act hact', hbatch⟩

theorem fault_performAll {c : Console} (hlimit : c.screen.limit = none) (acts : List Act) :
    (performAll acts c).fault = none := by
  obtain ⟨_, _, -, -, ⟨hnone, -⟩ | ⟨_, hsome, -⟩, -⟩ := performAll_records acts c
  · exact hnone
  · rw [hlimit] at hsome
    cases hsome

/-- Acts that hand nothing over. -/
theorem batches_eq_nil {acts : List Act} {batches : List (List String × Bool)}
    (hkind : ∀ batch ∈ batches, ∃ act ∈ acts, act.handover? = some batch.2)
    (hnone : ∀ act ∈ acts, act.handover? = none) : batches = [] := by
  refine List.eq_nil_iff_forall_not_mem.mpr fun batch hbatch => ?_
  obtain ⟨act, hact, hsome⟩ := hkind batch hbatch
  rw [hnone act hact] at hsome
  cases hsome

/-! ### Stages -/

theorem runStages_append (l m : List Stage) (c : Console) :
    runStages (l ++ m) c =
      ((runStages l c).1 ++ (runStages m (runStages l c).2).1, (runStages m (runStages l c).2).2) := by
  induction l generalizing c with
  | nil => rfl
  | cons stage l ih =>
    rw [List.cons_append, runStages, ih]
    rfl

theorem run_records (stage : Stage) (c : Console) :
    ∃ taken batches, taken <+: stage.source.legible ∧ c.Recorded (stage.run c).console taken batches ∧
      (c.screen.limit = none → (stage.run c).fault = stage.source.fault? ∧
        taken = stage.source.legible) ∧
      ∀ batch ∈ batches, ∃ act ∈ stage.acts, act.handover? = some batch.2 := by
  obtain ⟨taken, batches, hprefix, hrecorded, hfault, hkind⟩ := performAll_records stage.acts c
  rw [Stage.lines_acts] at hprefix hfault
  rw [stage.run_eq_performAll]
  refine ⟨taken, batches, hprefix, hrecorded, fun hlimit => ?_, hkind⟩
  rcases hfault with ⟨hnone, hall⟩ | ⟨_, hsome, -⟩
  · exact ⟨by rw [hnone, Option.none_or], hall⟩
  · rw [hlimit] at hsome
    cases hsome

theorem runStages_records (stages : List Stage) (c : Console) :
    ∃ taken batches, c.Recorded (runStages stages c).2 taken batches ∧
      (c.screen.limit = none → (runStages stages c).1 = stages.map (·.source.fault?) ∧
        taken = stages.flatMap (·.source.legible)) ∧
      ((∀ stage ∈ stages, stage.Kept) → ∀ batch ∈ batches, batch.2 = true) := by
  induction stages generalizing c with
  | nil => exact ⟨[], [], .refl c, fun _ => ⟨rfl, rfl⟩, fun _ => List.forall_mem_nil _⟩
  | cons stage stages ih =>
    obtain ⟨taken, batches, -, hrecorded, hclear, hkind⟩ := run_records stage c
    obtain ⟨more, batches', hrecorded', hclear', hkept'⟩ := ih (stage.run c).console
    refine ⟨taken ++ more, batches ++ batches', hrecorded.trans hrecorded', fun hlimit => ?_, fun hk => ?_⟩
    · obtain ⟨hfault, rfl⟩ := hclear hlimit
      obtain ⟨hfaults, rfl⟩ := hclear' (hrecorded.limit_eq.trans hlimit)
      refine ⟨?_, rfl⟩
      rw [List.map_cons, ← hfault, ← hfaults]
      rfl
    · rw [List.forall_mem_cons] at hk
      refine List.forall_mem_append.mpr ⟨fun batch hbatch => ?_, hkept' hk.2⟩
      obtain ⟨act, hact, hsucceeds⟩ := hkind batch hbatch
      exact hk.1.succeeds hact hsucceeds

/-- On a screen that takes everything, sources that can be read are all acts and no faults. -/
theorem runStages_eq_performAll {c : Console} (hlimit : c.screen.limit = none) {stages : List Stage}
    (hread : ∀ stage ∈ stages, stage.source.text?.isSome) :
    runStages stages c = (stages.map fun _ => none, (performAll (stages.flatMap Stage.acts) c).console) := by
  induction stages generalizing c with
  | nil => rfl
  | cons stage stages ih =>
    rw [List.forall_mem_cons] at hread
    have hfault := fault_performAll hlimit stage.acts
    obtain ⟨_, _, -, hrecorded, -⟩ := performAll_records stage.acts c
    have hrun : stage.run c = ⟨(performAll stage.acts c).console, none⟩ := by
      rw [stage.run_eq_performAll, hfault, Option.none_or, Source.fault?, (Source.legible_of_text? hread.1).2]
      rfl
    rw [runStages, hrun, ih (hrecorded.limit_eq.trans hlimit) hread.2, List.flatMap_cons, performAll_append,
      Progress.andThen_of_none hfault]
    rfl

theorem flatMap_legible {stages : List Stage} (hread : ∀ stage ∈ stages, stage.source.text?.isSome) :
    stages.flatMap (·.source.legible) = stages.flatMap (·.source.lines) := by
  rw [List.flatMap_def, List.flatMap_def]
  exact congrArg List.flatten (List.map_congr_left fun s hs => (Source.legible_of_text? (hread s hs)).1)

theorem turns_flatMap_acts {stages : List Stage} (hread : ∀ stage ∈ stages, stage.source.text?.isSome) :
    Act.turns (stages.flatMap Stage.acts) = stages.flatMap (·.source.turns) := by
  induction stages with
  | nil => rfl
  | cons stage stages ih =>
    rw [List.forall_mem_cons] at hread
    rw [List.flatMap_cons, List.flatMap_cons, Act.turns_append, ih hread.2, Stage.turns_acts,
      (Source.legible_of_text? hread.1).1]
    rfl

/-! ### The end of an input -/

theorem buffered_finish {c : Console} (hrecording : c.recording = true) (succeeds : Bool) :
    (c.finish succeeds).console.history.buffered = [] := by
  have hhistory (h : History.Handover) : (c.handOver h succeeds).console.history = h.history := by
    rw [handOver]
    cases h.notice <;> rfl
  rw [finish, if_pos hrecording, hhistory, History.drain, History.takeAll?]
  split
  · rename_i hempty
    exact List.isEmpty_iff.mp hempty
  · unfold History.handOver History.settle
    dsimp only
    split <;> rfl

private theorem inputFault_ne_outputFault (flaw : Utf8Flaw) (reason : String) :
    inputFault flaw ≠ outputFault reason := by
  intro h
  have htext : "Failed to read input: " ++ flaw.text = "Failed to write output: " ++ reason := Fault.internal.inj h
  have hbegin := congrArg (fun s : String => s.toList.take 11) htext
  rw [String.toList_append, String.toList_append, List.take_append_of_le_length (by decide),
    List.take_append_of_le_length (by decide)] at hbegin
  exact absurd hbegin (by decide)

theorem fault?_ne_outputFault (s : Source) (reason : String) : s.fault? ≠ some (outputFault reason) := by
  intro h
  obtain ⟨flaw, -, hflaw⟩ := Option.map_eq_some_iff.mp h
  exact inputFault_ne_outputFault flaw reason hflaw

/-- Unless writing fails, an input leaves nothing behind: its last act empties the buffer. -/
theorem buffered_run_input {c : Console} (hrecording : c.recording = true) {i : Input}
    (hfault : ∀ reason, ((Stage.input i).run c).fault ≠ some (outputFault reason)) :
    ((Stage.input i).run c).console.history.buffered = [] := by
  have hacts : (Stage.input i).acts = (.start :: actsOf i.events) ++ [.finish i.succeeds] := rfl
  obtain ⟨_, _, -, hrecorded, hstopped, -⟩ := performAll_records (.start :: actsOf i.events) c
  rw [Stage.run_eq_performAll, hacts, performAll_append] at hfault ⊢
  generalize performAll (.start :: actsOf i.events) c = p at hfault hrecorded hstopped ⊢
  rcases hstopped with ⟨hnone, -⟩ | ⟨limit, -, hfull⟩
  · rw [Progress.andThen_of_none hnone, performAll_singleton]
    exact buffered_finish (hrecorded.recording_eq.trans hrecording) i.succeeds
  · rw [Progress.andThen_of_some hfull, hfull] at hfault
    exact absurd rfl (hfault _)

/-- Scripts and inputs on a console that keeps its history.  Each time an input `i` ends, all that was handed over are
the lines of the sources so far, in order, and nothing is left in the buffer.  Of `i` these are all its lines, or those
before the first one that is not UTF-8, which is an internal error.  Whatever follows goes on from there. -/
theorem runStages_recorded (prompt : String) (batchSize : Nat) (after : List Stage) {done : List Stage} {i : Input}
    (hlast : done.getLast? = some (.input i)) (hkept : ∀ stage ∈ done, stage.Kept) :
    ∃ c, runStages done (new prompt batchSize true none) = (done.map (·.source.fault?), c) ∧
      c.handed.flatMap (·.1) = done.flatMap (·.source.legible) ∧
      (∀ batch ∈ c.handed, batch.2 = true) ∧
      c.history.buffered = [] ∧
      c.session = Session.new.run (done.flatMap (·.source.legible)) ∧
      ((Source.input i.bytes).flaw? = none → byteLines i.bytes = (Source.input i.bytes).legible.map (utf8 ·.toList)) ∧
      (∀ flaw, (Source.input i.bytes).flaw? = some flaw →
        (inputFault flaw).category = "Internal Error" ∧
          ∃ bytes rest, byteLines i.bytes = (Source.input i.bytes).legible.map (utf8 ·.toList) ++ bytes :: rest ∧
            utf8Decode bytes = .error flaw) ∧
      runStages (done ++ after) (new prompt batchSize true none) =
        (done.map (·.source.fault?) ++ (runStages after c).1, (runStages after c).2) ∧
      (runStages after c).2.session = c.session.run (after.flatMap (·.source.legible)) := by
  have hlegible : (Source.input i.bytes).legible.map (utf8 ·.toList) = (Text.legible (byteLines i.bytes)).map utf8 := by
    rw [Source.legible, List.map_map]
    exact List.map_congr_left fun text _ => congrArg utf8 String.toList_ofList
  obtain ⟨taken, batches, hrecorded, hclear, hsucceed⟩ := runStages_records done (new prompt batchSize true none)
  obtain ⟨hfaults, rfl⟩ := hclear rfl
  have hbuffered : (runStages done (new prompt batchSize true none)).2.history.buffered = [] := by
    obtain ⟨before, rfl⟩ := List.getLast?_eq_some_iff.mp hlast
    obtain ⟨_, _, hbefore, -⟩ := runStages_records before (new prompt batchSize true none)
    obtain ⟨_, _, -, -, hrun, -⟩ := run_records (.input i) (runStages before (new prompt batchSize true none)).2
    rw [runStages_append]
    refine buffered_run_input hbefore.recording_eq ?_
    rw [(hrun hbefore.limit_eq).1]
    exact fault?_ne_outputFault _
  have hhanded : (runStages done (new prompt batchSize true none)).2.handed = batches := hrecorded.handed_eq
  refine ⟨_, Prod.ext hfaults rfl, ?_, ?_, hbuffered, hrecorded.session_eq, ?_, ?_, ?_, ?_⟩
  · have hall := hrecorded.buffered_eq
    rwa [hbuffered, List.append_nil, ← hhanded] at hall
  · rw [hhanded]
    exact hsucceed hkept
  · intro hclean
    rw [hlegible]
    exact eq_map_utf8_legible hclean
  · intro flaw hflaw
    rw [hlegible]
    exact ⟨rfl, exists_of_firstFlaw? hflaw⟩
  · rw [runStages_append, hfaults]
  · obtain ⟨_, _, hrecorded', hclear', -⟩ := runStages_records after (runStages done (new prompt batchSize true none)).2
    obtain ⟨-, rfl⟩ := hclear' hrecorded.limit_eq
    exact hrecorded'.session_eq

/-- Its third line is not UTF-8; the timer fires before and after the first. -/
def tornInput : Input where
  bytes := utf8 "n\n\n".toList ++ [0xFF, 10] ++ utf8 "LIST PRODUCTS\n".toList
  events := [.tick true, .line (utf8 ['n']), .tick true, .line [], .line [0xFF], .line (utf8 "LIST PRODUCTS".toList)]
  succeeds := true
  arrives := by decide

/-- A question of the script is answered by the input. -/
def tornStages : List Stage :=
  [.script "ADD WAREHOUSE 1\nADD WAREHOUSE 1 5".toList, .input tornInput]

theorem runStages_torn :
    tornStages.getLast? = some (.input tornInput) ∧ (∀ stage ∈ tornStages, stage.Kept) ∧
      ∃ c, runStages tornStages (new ">" 2 true none) =
          ([none, some (.internal "Failed to read input: invalid utf-8 sequence of 1 bytes from index 0")], c) ∧
        c.handed.flatMap (·.1) = ["ADD WAREHOUSE 1", "ADD WAREHOUSE 1 5", "n", ""] ∧ c.history.buffered = [] := by
  have hlast : tornStages.getLast? = some (.input tornInput) := rfl
  have hkept : ∀ stage ∈ tornStages, stage.Kept := by decide
  obtain ⟨c, hrun, hhanded, -, hbuffered, -⟩ := runStages_recorded ">" 2 [] hlast hkept
  refine ⟨hlast, hkept, c, ?_, ?_, hbuffered⟩
  · rw [hrun]
    exact congrArg (·, c) (by decide +kernel)
  · rw [hhanded]
    decide +kernel

end Console

end Stockroom
