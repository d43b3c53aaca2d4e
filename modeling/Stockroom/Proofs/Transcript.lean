import Stockroom.Console.Stage
import Stockroom.Proofs.ByteLines
import Stockroom.Proofs.Fed

/-!
# What a console writes

A console whose screen takes everything writes a `transcript`: what each line makes appear and the prompts between,
given by the session and the lines alone.  So the stages of a console refine a session that is fed all their lines
(`runStages_transcript`), and nothing that happens to the history can be seen as long as it is kept.

`Wrote` says what some work of a console has come to.  It composes, so each operation of the console has one lemma.
-/

namespace Stockroom

open Text

/-! ### Transcripts -/

namespace Output

/-- What is written after the text of an output. -/
def ending : Output → String
  | prompt _ => ""
  | table _ _ => "\n\n"
  | message _ | error _ => "\n"

def rendering (o : Output) : String :=
  o.text ++ o.ending

end Output

private theorem Console.shown_eq (o : Option Output) : Console.shown o = o.elim "" Output.rendering := by
  cases o with
  | none => rfl
  | some o =>
    cases o with
    | prompt text => exact (String.append_empty).symm
    | message | error | table => rfl

/-- A line that a console takes; those of scripts are echoed. -/
structure Turn where
  line : String
  echoed : Bool
  deriving DecidableEq, Repr

def Turn.echo (turn : Turn) : String :=
  if turn.echoed then turn.line ++ "\n" else ""

/-- What a session makes appear for a line, with the prompt if a command can follow. -/
def Session.reply (s : Session) (prompt line : String) : String :=
  (s.feed line).1.elim "" Output.rendering ++ if (s.feed line).2.isAwaiting then "" else prompt

/-- What a session makes appear when it is fed with turns. -/
def transcript (prompt : String) : Session → List Turn → String
  | _, [] => ""
  | s, turn :: rest => turn.echo ++ s.reply prompt turn.line ++ transcript prompt (s.feed turn.line).2 rest

theorem transcript_append (prompt : String) (s : Session) (l m : List Turn) :
    transcript prompt s (l ++ m) = transcript prompt s l ++ transcript prompt (s.run (l.map (·.line))) m := by
  induction l generalizing s with
  | nil => exact (String.empty_append).symm
  | cons turn l ih =>
    rw [List.cons_append, transcript, transcript, ih, List.map_cons, Session.run_cons, ← String.append_assoc]

/-- The turns that a source gives rise to. -/
def Source.turns (s : Source) : List Turn :=
  s.lines.map fun line => ⟨line, s.isScript⟩

theorem Source.lines_eq (s : Source) : s.lines = s.turns.map (·.line) := by
  rw [turns, List.map_map]
  exact (List.map_id _).symm

/-! ### Work without a fault -/

/-- Work on the console `c` that has gone well: it has written `text` and left the session `s`; prompt and screen are
otherwise as before. -/
structure Progress.Wrote (p : Progress) (c : Console) (s : Session) (text : String) : Prop where
  fault_eq : p.fault = none
  prompt_eq : p.console.prompt = c.prompt
  recording_eq : p.console.recording = c.recording
  started_eq : p.console.started = c.started
  limit_eq : p.console.screen.limit = none
  session_eq : p.console.session = s
  written_eq : p.console.screen.written = c.screen.written ++ utf8 text.toList

namespace Progress

variable {p : Progress} {c : Console} {s t : Session} {text more : String}

theorem Wrote.andThen {f : Console → Progress} (hp : p.Wrote c s text) (hn : (f p.console).Wrote p.console t more) :
    (p.andThen f).Wrote c t (text ++ more) := by
  have hnext : p.andThen f = f p.console := by rw [Progress.andThen, hp.fault_eq]
  rw [hnext]
  refine ⟨hn.fault_eq, hn.prompt_eq.trans hp.prompt_eq, hn.recording_eq.trans hp.recording_eq,
    hn.started_eq.trans hp.started_eq, hn.limit_eq, hn.session_eq, ?_⟩
  rw [hn.written_eq, hp.written_eq, String.toList_append, utf8_append, List.append_assoc]

theorem wrote_nothing (hlimit : c.screen.limit = none) : (Progress.mk c none).Wrote c c.session "" :=
  ⟨rfl, rfl, rfl, rfl, hlimit, rfl, (List.append_nil _).symm⟩

end Progress

namespace Console

variable {c : Console}

theorem put_wrote (hlimit : c.screen.limit = none) (text : String) : (c.put text).Wrote c c.session text := by
  rw [put, Screen.write_unlimited hlimit]
  exact ⟨rfl, rfl, rfl, rfl, hlimit, rfl, rfl⟩

/-! ### Lines -/

/-- The end of a line: the prompt, unless a question is waiting. -/
theorem prompt_wrote (hlimit : c.screen.limit = none) {s : Session} {prompt : String} (hs : c.session = s)
    (hprompt : c.prompt = prompt) :
    Progress.Wrote (if c.session.isAwaiting then ⟨c, none⟩ else c.put c.prompt) c s
      (if s.isAwaiting then "" else prompt) := by
  subst hs hprompt
  split
  · exact Progress.wrote_nothing hlimit
  · exact put_wrote hlimit c.prompt

theorem takeLine_wrote (hlimit : c.screen.limit = none) (line : String) :
    (c.takeLine line).Wrote c (c.session.feed line).2 (c.session.reply c.prompt line) := by
  have hput : (put { c with history := c.history.record line, session := (c.session.feed line).2 }
      (shown (c.session.feed line).1)).Wrote c (c.session.feed line).2 (shown (c.session.feed line).1) := by
    have h := put_wrote (c := { c with history := c.history.record line, session := (c.session.feed line).2 }) hlimit
      (shown (c.session.feed line).1)
    exact ⟨h.fault_eq, h.prompt_eq, h.recording_eq, h.started_eq, h.limit_eq, h.session_eq, h.written_eq⟩
  have hprompt := prompt_wrote hput.limit_eq hput.session_eq hput.prompt_eq
  rw [Session.reply, ← shown_eq]
  exact hput.andThen (f := fun c => if c.session.isAwaiting then ⟨c, none⟩ else c.put c.prompt) hprompt

theorem echoLine_wrote (hlimit : c.screen.limit = none) (line : String) :
    (c.echoLine line).Wrote c (c.session.feed line).2 (line ++ "\n" ++ c.session.reply c.prompt line) := by
  have hput := put_wrote hlimit (line ++ "\n")
  have htake := takeLine_wrote hput.limit_eq line
  rw [hput.session_eq, hput.prompt_eq] at htake
  exact hput.andThen htake

theorem echoLines_wrote (hlimit : c.screen.limit = none) (lines : List String) :
    (echoLines lines c).Wrote c (c.session.run lines)
      (transcript c.prompt c.session (lines.map fun line => ⟨line, true⟩)) := by
  induction lines generalizing c with
  | nil => exact Progress.wrote_nothing hlimit
  | cons line lines ih =>
    have hline := echoLine_wrote hlimit line
    have hrest := ih hline.limit_eq
    rw [hline.session_eq, hline.prompt_eq] at hrest
    exact hline.andThen hrest

/-! ### The history -/

/-- A handover that succeeds shows nothing. -/
theorem handOver_wrote (hlimit : c.screen.limit = none) {succeeds : Bool} (hkept : c.recording = true → succeeds = true)
    (taken : Option (List String × History)) :
    Progress.Wrote (if c.recording then c.handOver (c.history.handOver taken succeeds) succeeds else ⟨c, none⟩)
      c c.session "" := by
  split
  · rename_i hrecording
    have hnotice : (c.history.handOver taken true).notice = none := by cases taken <;> rfl
    rw [hkept hrecording, handOver, hnotice]
    exact ⟨rfl, rfl, rfl, rfl, hlimit, rfl, (List.append_nil _).symm⟩
  · exact Progress.wrote_nothing hlimit

theorem tick_wrote (hlimit : c.screen.limit = none) {succeeds : Bool} (hkept : c.recording = true → succeeds = true) :
    (c.tick succeeds).Wrote c c.session "" :=
  handOver_wrote hlimit hkept c.history.takeBatch?

theorem finish_wrote (hlimit : c.screen.limit = none) {succeeds : Bool} (hkept : c.recording = true → succeeds = true) :
    (c.finish succeeds).Wrote c c.session "" :=
  handOver_wrote hlimit hkept c.history.takeAll?

/-! ### Inputs -/

/-- Events whose lines are the texts `texts`: whatever the timer does between them, they are taken in as such. -/
theorem readEvents_wrote (hlimit : c.screen.limit = none) {events : List Event} {succeeds : Bool}
    (hkept : c.recording = true → .tick false ∉ events ∧ succeeds = true) {texts : List (List Char)}
    (htexts : events.filterMap Event.line? = texts.map utf8) :
    (readEvents succeeds events c).Wrote c (c.session.run (texts.map String.ofList))
      (transcript c.prompt c.session (texts.map fun text => ⟨String.ofList text, false⟩)) := by
  -- on the events: a tick leaves the texts as they are, a line takes the first of them
  induction events generalizing c texts with
  | nil =>
    cases texts with
    | nil => exact finish_wrote hlimit fun hrecording => (hkept hrecording).2
    | cons text texts => cases htexts
  | cons event events ih =>
    have hrest : c.recording = true → .tick false ∉ events ∧ succeeds = true := fun hrecording =>
      ⟨fun hmem => (hkept hrecording).1 (List.mem_cons_of_mem _ hmem), (hkept hrecording).2⟩
    cases event with
    | tick appended =>
      have htick : (c.tick appended).Wrote c c.session "" := tick_wrote hlimit fun hrecording => by
        cases appended with
        | true => rfl
        | false => exact absurd List.mem_cons_self (hkept hrecording).1
      have hread := ih htick.limit_eq (by rwa [htick.recording_eq]) htexts
      rw [htick.session_eq, htick.prompt_eq] at hread
      have hwrote := htick.andThen hread
      rwa [String.empty_append] at hwrote
    | line bytes =>
      cases texts with
      | nil => cases htexts
      | cons text texts =>
        obtain ⟨rfl, htexts'⟩ : bytes = utf8 text ∧ events.filterMap Event.line? = texts.map utf8 :=
          List.cons.inj htexts
        have hline := takeLine_wrote hlimit (String.ofList text)
        have hread := ih hline.limit_eq (by rwa [hline.recording_eq]) htexts'
        rw [hline.session_eq, hline.prompt_eq] at hread
        have htaken : c.takeEvent succeeds (.line (utf8 text)) = c.takeLine (String.ofList text) := by
          rw [takeEvent, utf8Decode_utf8]
        rw [readEvents, htaken, List.map_cons, List.map_cons, transcript, Turn.echo, if_neg Bool.false_ne_true,
          String.empty_append]
        exact hline.andThen hread

/-! ### Stages -/

theorem start_wrote (hlimit : c.screen.limit = none) :
    c.start.Wrote { c with started := true } c.session (if c.started then "" else c.prompt) := by
  unfold start
  split
  · rename_i hstarted
    exact ⟨rfl, rfl, rfl, hstarted, hlimit, rfl, (List.append_nil _).symm⟩
  · exact put_wrote (c := { c with started := true }) hlimit c.prompt

theorem run_wrote (hlimit : c.screen.limit = none) {stage : Stage} (hread : stage.source.text?.isSome)
    (hkept : c.recording = true → stage.Kept) :
    (stage.run c).Wrote { c with started := true } (c.session.run stage.source.lines)
      ((if c.started then "" else c.prompt) ++ transcript c.prompt c.session stage.source.turns) := by
  have hstart := start_wrote hlimit
  cases stage with
  | script text =>
    have hlines := echoLines_wrote hstart.limit_eq ((textLines text).map String.ofList)
    rw [hstart.session_eq, hstart.prompt_eq] at hlines
    exact hstart.andThen hlines
  | input i =>
    obtain ⟨text, htext⟩ := Option.isSome_iff_exists.mp hread
    have hbytes : utf8Decode i.bytes = .ok text := by
      change (utf8Decode i.bytes).toOption = some text at htext
      cases h : utf8Decode i.bytes with
      | error flaw => rw [h] at htext; cases htext
      | ok _ => rw [h] at htext; cases htext; rfl
    have harrive : i.events.filterMap Event.line? = (textLines text).map utf8 := by
      rw [i.arrives, eq_utf8_of_utf8Decode hbytes, byteLines_utf8]
    have hevents := readEvents_wrote hstart.limit_eq (by rw [hstart.recording_eq]; exact hkept) harrive
    rw [hstart.session_eq, hstart.prompt_eq] at hevents
    have hlines : (Stage.input i).source.lines = (textLines text).map String.ofList := by
      rw [Source.lines, htext]
      rfl
    rw [Source.turns, hlines, List.map_map]
    exact hstart.andThen hevents

/-- The first prompt, if there is anything to run and it has not been written before. -/
def greeting (c : Console) (stages : List Stage) : String :=
  if c.started || stages.isEmpty then "" else c.prompt

theorem runStages_wrote (hlimit : c.screen.limit = none) {stages : List Stage}
    (hread : ∀ stage ∈ stages, stage.source.text?.isSome) (hkept : c.recording = true → ∀ stage ∈ stages, stage.Kept) :
    ∃ last, runStages stages c = (stages.map fun _ => none, last) ∧
      last.session = c.session.run (stages.flatMap (·.source.lines)) ∧
      last.screen.written = c.screen.written ++
        utf8 (c.greeting stages ++ transcript c.prompt c.session (stages.flatMap (·.source.turns))).toList := by
  induction stages generalizing c with
  | nil =>
    refine ⟨c, rfl, rfl, ?_⟩
    rw [greeting, List.isEmpty_nil, Bool.or_true, if_pos rfl]
    exact (List.append_nil _).symm
  | cons stage stages ih =>
    -- the first stage starts the console, so before the others there is no greeting
    rw [List.forall_mem_cons] at hread
    have hrun := run_wrote hlimit hread.1 fun hrecording => hkept hrecording _ List.mem_cons_self
    obtain ⟨last, hlast, hsession, hwritten⟩ := ih hrun.limit_eq hread.2 fun hrecording stage hstage =>
      hkept (hrun.recording_eq ▸ hrecording) stage (List.mem_cons_of_mem _ hstage)
    refine ⟨last, ?_, ?_, ?_⟩
    · rw [runStages, hlast, hrun.fault_eq]
      rfl
    · rw [hsession, hrun.session_eq, List.flatMap_cons, Session.run_append]
    · have hgreeting : (stage.run c).console.greeting stages = "" := by
        rw [greeting, hrun.started_eq, Bool.true_or, if_pos rfl]
      rw [hwritten, hgreeting, hrun.written_eq, hrun.prompt_eq, hrun.session_eq, List.append_assoc, ← utf8_append,
        ← String.toList_append, String.empty_append, List.flatMap_cons, transcript_append, ← Source.lines_eq,
        ← String.append_assoc]
      rw [greeting, List.isEmpty_cons, Bool.or_false]

/-- Scripts and inputs that can be read, on a console that keeps its history or has none, all end well.  The session
is the one fed with all the lines, the screen shows the first prompt and the transcript; so neither depends on the size
of the batches, on the timer, or on whether there is a place for the history. -/
theorem runStages_transcript (prompt : String) (batchSize : Nat) {recording : Bool} {stages : List Stage}
    (hread : ∀ stage ∈ stages, stage.source.text?.isSome) (hkept : recording = true → ∀ stage ∈ stages, stage.Kept) :
    ∃ last, runStages stages (new prompt batchSize recording none) = (stages.map fun _ => none, last) ∧
      last.session = Session.new.run (stages.flatMap (·.source.lines)) ∧
      last.screen.written = utf8 ((if stages.isEmpty then "" else prompt) ++
        transcript prompt Session.new (stages.flatMap (·.source.turns))).toList ∧
      ∀ (batchSize' : Nat) (recording' : Bool) (stages' : List Stage),
        stages'.map Stage.source = stages.map Stage.source →
        (recording' = true → ∀ stage ∈ stages', stage.Kept) →
        ∃ last', runStages stages' (new prompt batchSize' recording' none) = (stages.map fun _ => none, last') ∧
          last'.session = last.session ∧ last'.screen.written = last.screen.written := by
  obtain ⟨last, hlast, hsession, hwritten⟩ := runStages_wrote (c := new prompt batchSize recording none) rfl hread hkept
  refine ⟨last, hlast, hsession, hwritten, ?_⟩
  intro batchSize' recording' stages' hsource hkept'
  have hread' : ∀ stage ∈ stages', stage.source.text?.isSome := by
    intro stage hstage
    have hmem : stage.source ∈ stages.map Stage.source := hsource ▸ List.mem_map_of_mem hstage
    obtain ⟨stage', hstage', heq⟩ := List.mem_map.mp hmem
    exact heq ▸ hread stage' hstage'
  obtain ⟨last', hlast', hsession', hwritten'⟩ :=
    runStages_wrote (c := new prompt batchSize' recording' none) rfl hread' hkept'
  have hflat : ∀ {β : Type} (f : Source → List β),
      stages'.flatMap (fun stage => f stage.source) = stages.flatMap (fun stage => f stage.source) := fun f => by
    rw [← List.flatMap_map, hsource, List.flatMap_map]
  have hlength : stages'.length = stages.length := by
    have h := congrArg List.length hsource
    rwa [List.length_map, List.length_map] at h
  have hempty : stages'.isEmpty = stages.isEmpty := by
    have h := congrArg List.isEmpty hsource
    rwa [List.isEmpty_map, List.isEmpty_map] at h
  refine ⟨last', ?_, ?_, ?_⟩
  · rw [hlast', List.map_const', List.map_const', hlength]
  · rw [hsession', hflat, hsession]
    rfl
  · rw [hwritten', hflat, hwritten, greeting, hempty]
    rfl

/-- A script that ends with a question and an input that answers it; the timer fires before and after the answer. -/
def questionAcross : List Stage :=
  [.script "ADD WAREHOUSE 1\nADD WAREHOUSE 1 5".toList,
    .input ⟨utf8 "n\r\n".toList, [.tick true, .line (utf8 ['n']), .tick true], true, by decide⟩]

theorem runStages_questionAcross :
    (∀ stage ∈ questionAcross, stage.source.text?.isSome) ∧ (∀ stage ∈ questionAcross, stage.Kept) ∧
      (runStages questionAcross (new ">" 2 true none)).2.session.inventory = ⟨[], [⟨1, .unbounded, []⟩]⟩ ∧
      (runStages questionAcross (new ">" 2 true none)).2.screen.written = utf8
        (">ADD WAREHOUSE 1\n>ADD WAREHOUSE 1 5\n" ++
          "WAREHOUSE [1] already exists.  Update STOCK_LIMIT from [Infinity] to [5]? (y/n) " ++
          "Warehouse stock limit not updated.\n>").toList := by
  have hread : ∀ stage ∈ questionAcross, stage.source.text?.isSome := by decide
  have hkept : true = true → ∀ stage ∈ questionAcross, stage.Kept := fun _ => by decide
  have htext : (if questionAcross.isEmpty then "" else ">") ++
      transcript ">" Session.new (questionAcross.flatMap (·.source.turns)) =
        ">ADD WAREHOUSE 1\n>ADD WAREHOUSE 1 5\n" ++
          "WAREHOUSE [1] already exists.  Update STOCK_LIMIT from [Infinity] to [5]? (y/n) " ++
          "Warehouse stock limit not updated.\n>" := by decide +kernel
  obtain ⟨last, hlast, hsession, hwritten, -⟩ := runStages_transcript ">" 2 hread hkept
  rw [hlast]
  refine ⟨hread, hkept rfl, ?_, ?_⟩
  · rw [hsession]
    decide
  · rw [hwritten, htext]

end Console

end Stockroom
