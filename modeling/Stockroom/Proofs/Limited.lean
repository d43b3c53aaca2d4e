import Stockroom.Proofs.Recorded

/-!
# Screens that get full

A console whose screen takes so many bytes does what it does on a screen that takes everything, for as long as they are
enough; the first text that does not fit stops it.  Its screen shows the first bytes of what the other one shows, and
the console is the other one, cut to these bytes (`Console.cutTo`).  So the session has been fed with the lines up to
the one whose turn no longer fits, and with that one too unless it is its echo that does not fit (`run_limited`).
-/

namespace Stockroom

open Text

namespace Console

/-! ### Cut consoles -/

/-- The console on a screen that takes `limit` bytes and shows these. -/
def cutTo (limit : Screen.Limit) (c : Console) : Console :=
  { c with screen := ⟨some limit, c.screen.written.take limit.bytes⟩ }

end Console

/-- The progress on a screen that takes `limit` bytes, if no text before the last one is too long for it. -/
def Progress.cutTo (limit : Screen.Limit) (p : Progress) : Progress :=
  ⟨p.console.cutTo limit,
    if p.console.screen.written.length ≤ limit.bytes then none else some (Console.outputFault limit.reason)⟩

namespace Progress

variable {p : Progress} {f : Console → Progress} {limit : Screen.Limit}

private theorem cutTo_of_le (h : p.console.screen.written.length ≤ limit.bytes) :
    p.cutTo limit = ⟨p.console.cutTo limit, none⟩ := by
  rw [cutTo, if_pos h]

private theorem cutTo_of_lt (h : limit.bytes < p.console.screen.written.length) :
    p.cutTo limit = ⟨p.console.cutTo limit, some (Console.outputFault limit.reason)⟩ := by
  rw [cutTo, if_neg (Nat.not_le.mpr h)]

end Progress

namespace Console

/-- Work that does no more than write: cutting its result is the same as cutting the console before. -/
structure Cuttable (limit : Screen.Limit) (c : Console) (f : Console → Progress) : Prop where
  of_le : c.screen.written.length ≤ limit.bytes → f (c.cutTo limit) = (f c).cutTo limit
  of_lt : limit.bytes < c.screen.written.length → (f c).cutTo limit = ⟨c.cutTo limit, some (outputFault limit.reason)⟩

variable {c : Console} {limit : Screen.Limit}

private theorem cuttable_idle (limit : Screen.Limit) (c : Console) : Cuttable limit c fun c => ⟨c, none⟩ where
  of_le hfits := (Progress.cutTo_of_le (p := ⟨c, none⟩) hfits).symm
  of_lt hfull := Progress.cutTo_of_lt (p := ⟨c, none⟩) hfull

theorem put_cutTo (hlimit : c.screen.limit = none) (hfits : c.screen.written.length ≤ limit.bytes) (text : String) :
    (c.cutTo limit).put text = (c.put text).cutTo limit := by
  have hwritten : c.screen.written.take limit.bytes = c.screen.written := List.take_of_length_le hfits
  have hall : (utf8 text.toList).length ≤ limit.bytes - c.screen.written.length ↔
      (c.screen.written ++ utf8 text.toList).length ≤ limit.bytes := by
    rw [List.length_append]
    omega
  have hcut : c.screen.written ++ (utf8 text.toList).take (limit.bytes - c.screen.written.length) =
      (c.screen.written ++ utf8 text.toList).take limit.bytes := by
    rw [List.take_append, hwritten]
  rw [put, put, Screen.write_unlimited hlimit, Progress.cutTo, cutTo, cutTo, Screen.write]
  simp only [hwritten, hcut, hall, apply_ite (Option.map outputFault), Option.map_none, Option.map_some]

private theorem cuttable_put (limit : Screen.Limit) (hlimit : c.screen.limit = none) (text : String) :
    Cuttable limit c (·.put text) where
  of_le hfits := put_cutTo hlimit hfits text
  of_lt hfull := by
    -- nothing of a text that is written behind a full screen can be seen
    have hlonger : limit.bytes < (c.put text).console.screen.written.length := by
      rw [(put_wrote hlimit text).written_eq, List.length_append]
      omega
    rw [Progress.cutTo_of_lt hlonger, put, Screen.write_unlimited hlimit, cutTo, cutTo,
      List.take_append_of_le_length (Nat.le_of_lt hfull)]

private theorem cutTo_andThen {p : Progress} {f : Console → Progress} (hp : p.fault = none)
    (hf : Cuttable limit p.console f) : (p.cutTo limit).andThen f = (p.andThen f).cutTo limit := by
  rw [Progress.andThen_of_none hp]
  rcases Nat.lt_or_ge limit.bytes p.console.screen.written.length with hfull | hfits
  · rw [Progress.cutTo_of_lt hfull, Progress.andThen_of_some rfl, hf.of_lt hfull]
  · rw [Progress.cutTo_of_le hfits, Progress.andThen_of_none rfl, hf.of_le hfits]

/-- The prompt behind what a line makes appear, unless a question is waiting. -/
private theorem cuttable_prompt (limit : Screen.Limit) (hlimit : c.screen.limit = none) :
    Cuttable limit c fun c => if c.session.isAwaiting then ⟨c, none⟩ else c.put c.prompt := by
  have hidle := cuttable_idle limit c
  have hput : Cuttable limit c (·.put c.prompt) := cuttable_put limit hlimit c.prompt
  by_cases hawaiting : c.session.isAwaiting
  · have hcut : (c.cutTo limit).session.isAwaiting := hawaiting
    constructor
    · intro hfits
      rw [if_pos hawaiting, if_pos hcut]
      exact hidle.of_le hfits
    · intro hfull
      rw [if_pos hawaiting]
      exact hidle.of_lt hfull
  · have hcut : ¬ (c.cutTo limit).session.isAwaiting := hawaiting
    constructor
    · intro hfits
      rw [if_neg hawaiting, if_neg hcut]
      exact hput.of_le hfits
    · intro hfull
      rw [if_neg hawaiting]
      exact hput.of_lt hfull

/-! ### Turns -/

theorem takeLine_cutTo (hlimit : c.screen.limit = none) (hfits : c.screen.written.length ≤ limit.bytes)
    (line : String) :
    (c.cutTo limit).takeLine line = (c.takeLine line).cutTo limit := by
  let fed : Console := { c with history := c.history.record line, session := (c.session.feed line).2 }
  have hput := put_wrote (c := fed) hlimit (shown (c.session.feed line).1)
  have hshown := put_cutTo (c := fed) hlimit hfits (shown (c.session.feed line).1)
  have htake := cutTo_andThen hput.fault_eq (cuttable_prompt limit hput.limit_eq)
  rw [← hshown] at htake
  exact htake

/-- A turn on a screen that it does not fit on: the line is fed to the session if its echo does fit. -/
structure Unshown (limit : Screen.Limit) (c : Console) (turn : Turn) (p : Progress) : Prop where
  fault_eq : p.fault = some (outputFault limit.reason)
  written_eq : p.console.screen.written = ((Act.turn turn).perform c).console.screen.written.take limit.bytes
  session_eq : p.console.session =
    if limit.bytes < (c.screen.written ++ utf8 turn.echo.toList).length then c.session else (c.session.feed turn.line).2

/-- What a turn comes to on a screen that takes `limit` bytes. -/
def CutTurn (limit : Screen.Limit) (c : Console) (turn : Turn) : Prop :=
  if ((Act.turn turn).perform c).console.screen.written.length ≤ limit.bytes then
    (Act.turn turn).perform (c.cutTo limit) = ⟨((Act.turn turn).perform c).console.cutTo limit, none⟩
  else Unshown limit c turn ((Act.turn turn).perform (c.cutTo limit))

/-- A turn that is not stopped at its echo. -/
private theorem cutTurn_of_eq (hlimit : c.screen.limit = none) {turn : Turn}
    (hturn : (Act.turn turn).perform (c.cutTo limit) = ((Act.turn turn).perform c).cutTo limit)
    (hecho : (c.screen.written ++ utf8 turn.echo.toList).length ≤ limit.bytes) : CutTurn limit c turn := by
  unfold CutTurn
  rw [hturn]
  split
  · rename_i hfits
    exact Progress.cutTo_of_le hfits
  · rename_i hfull
    rw [Progress.cutTo_of_lt (Nat.lt_of_not_le hfull)]
    refine ⟨rfl, rfl, ?_⟩
    rw [if_neg (Nat.not_lt.mpr hecho)]
    exact (turn_wrote hlimit turn).session_eq

/-- A turn that is stopped at its echo: the rest of it would not have been shown either. -/
private theorem cutTurn_of_echo (hlimit : c.screen.limit = none) (hfits : c.screen.written.length ≤ limit.bytes)
    {line : String}
    (hfull : limit.bytes < (c.put (line ++ "\n")).console.screen.written.length) : CutTurn limit c ⟨line, true⟩ := by
  have hput := put_wrote hlimit (line ++ "\n")
  have hturn : (c.cutTo limit).echoLine line =
      ⟨(c.put (line ++ "\n")).console.cutTo limit, some (outputFault limit.reason)⟩ := by
    rw [echoLine, put_cutTo hlimit hfits, Progress.cutTo_of_lt hfull, Progress.andThen_of_some rfl]
  have hmore : (c.echoLine line).console.screen.written = (c.put (line ++ "\n")).console.screen.written ++
      utf8 (c.session.reply c.prompt line).toList := by
    rw [(echoLine_wrote hlimit line).written_eq, hput.written_eq, String.toList_append, utf8_append, List.append_assoc]
  have hover : ¬ (c.echoLine line).console.screen.written.length ≤ limit.bytes := by
    rw [hmore, List.length_append]
    omega
  have hcut : CutTurn limit c ⟨line, true⟩ = Unshown limit c ⟨line, true⟩ ((c.cutTo limit).echoLine line) :=
    if_neg hover
  rw [hcut, hturn]
  refine ⟨rfl, ?_, ?_⟩
  · change _ = (c.echoLine line).console.screen.written.take limit.bytes
    rw [hmore, List.take_append_of_le_length (Nat.le_of_lt hfull)]
    rfl
  · rw [hput.written_eq] at hfull
    exact hput.session_eq.trans (if_pos hfull).symm

private theorem cutTurn (hlimit : c.screen.limit = none) (hfits : c.screen.written.length ≤ limit.bytes) (turn : Turn) :
    CutTurn limit c turn := by
  obtain ⟨line, _ | _⟩ := turn
  · refine cutTurn_of_eq hlimit (takeLine_cutTo hlimit hfits line) ?_
    rw [List.length_append]
    exact hfits
  · have hput := put_wrote hlimit (line ++ "\n")
    rcases Nat.lt_or_ge limit.bytes (c.put (line ++ "\n")).console.screen.written.length with hfull | hroom
    · exact cutTurn_of_echo hlimit hfits hfull
    · have hturn : (c.cutTo limit).echoLine line = (c.echoLine line).cutTo limit := by
        rw [echoLine, put_cutTo hlimit hfits, Progress.cutTo_of_le hroom, echoLine, Progress.andThen_of_none rfl,
          Progress.andThen_of_none hput.fault_eq, takeLine_cutTo hput.limit_eq hroom]
      rw [hput.written_eq] at hroom
      exact cutTurn_of_eq hlimit hturn hroom

/-! ### Runs of turns -/

/-- What a screen that takes everything shows after turns. -/
def shownAfter (c : Console) (turns : List Turn) : List UInt8 :=
  c.screen.written ++ utf8 (transcript c.prompt c.session turns).toList

private theorem shownAfter_nil (c : Console) : c.shownAfter [] = c.screen.written :=
  List.append_nil _

private theorem shownAfter_turn (hlimit : c.screen.limit = none) (turn : Turn) (turns : List Turn) :
    ((Act.turn turn).perform c).console.shownAfter turns = c.shownAfter (turn :: turns) := by
  have hturn := turn_wrote hlimit turn
  rw [shownAfter, hturn.written_eq, hturn.prompt_eq, hturn.session_eq, shownAfter, transcript, List.append_assoc,
    ← utf8_append, ← String.toList_append]

/-- Turns are stopped by a full screen: all before one of them have been shown, and this one does not fit.  Its line has
been fed to the session if the echo of it fits. -/
def StoppedIn (limit : Screen.Limit) (c : Console) (turns : List Turn) (s : Session) : Prop :=
  ∃ before turn after, turns = before ++ turn :: after ∧ (c.shownAfter before).length ≤ limit.bytes ∧
    limit.bytes < (c.shownAfter (before ++ [turn])).length ∧
    s = c.session.run (before.map (·.line) ++
      if limit.bytes < (c.shownAfter before ++ utf8 turn.echo.toList).length then [] else [turn.line])

theorem StoppedIn.cons (hlimit : c.screen.limit = none) {turn : Turn} {turns : List Turn} {s : Session}
    (h : StoppedIn limit ((Act.turn turn).perform c).console turns s) : StoppedIn limit c (turn :: turns) s := by
  obtain ⟨before, last, after, rfl, hbefore, hlast, hsession⟩ := h
  rw [shownAfter_turn hlimit] at hbefore hlast hsession
  rw [(turn_wrote hlimit turn).session_eq] at hsession
  exact ⟨turn :: before, last, after, rfl, hbefore, hlast, hsession⟩

private theorem Unshown.stoppedIn (hlimit : c.screen.limit = none) (hfits : c.screen.written.length ≤ limit.bytes)
    {turn : Turn} {p : Progress} (h : Unshown limit c turn p)
    (hfull : limit.bytes < ((Act.turn turn).perform c).console.screen.written.length) (turns : List Turn) :
    StoppedIn limit c (turn :: turns) p.console.session := by
  have hone : c.shownAfter [turn] = ((Act.turn turn).perform c).console.screen.written := by
    rw [← shownAfter_turn hlimit, shownAfter_nil]
  refine ⟨[], turn, turns, rfl, ?_, ?_, ?_⟩
  · rwa [shownAfter_nil]
  · rwa [List.nil_append, hone]
  · rw [h.session_eq, shownAfter_nil]
    split <;> rfl

theorem performAll_cutTo (hlimit : c.screen.limit = none) (hfits : c.screen.written.length ≤ limit.bytes)
    (turns : List Turn) :
    if (c.shownAfter turns).length ≤ limit.bytes then
      performAll (turns.map .turn) (c.cutTo limit) = ⟨(performAll (turns.map .turn) c).console.cutTo limit, none⟩
    else
      (performAll (turns.map .turn) (c.cutTo limit)).fault = some (outputFault limit.reason) ∧
        (performAll (turns.map .turn) (c.cutTo limit)).console.screen.written = (c.shownAfter turns).take limit.bytes ∧
        StoppedIn limit c turns (performAll (turns.map .turn) (c.cutTo limit)).console.session := by
  -- on the turns: while they fit, the cut console goes on as the cut of the other one
  induction turns generalizing c with
  | nil =>
    rw [shownAfter_nil, if_pos hfits]
    rfl
  | cons turn turns ih =>
    have hturn := turn_wrote hlimit turn
    have hcut := cutTurn hlimit hfits turn
    have hfirst : performAll ((turn :: turns).map .turn) (c.cutTo limit) =
      ((Act.turn turn).perform (c.cutTo limit)).andThen (performAll (turns.map .turn)) := rfl
    have hplain : performAll ((turn :: turns).map .turn) c =
      performAll (turns.map .turn) ((Act.turn turn).perform c).console := Progress.andThen_of_none hturn.fault_eq
    unfold CutTurn at hcut
    rw [← shownAfter_turn hlimit, hplain, hfirst]
    split at hcut
    · rename_i hroom
      have hrest := ih hturn.limit_eq hroom
      rw [hcut, Progress.andThen_of_none rfl]
      split at hrest
      · rwa [if_pos (by assumption)]
      · rw [if_neg (by assumption)]
        exact ⟨hrest.1, hrest.2.1, hrest.2.2.cons hlimit⟩
    · rename_i hfull
      have hfull := Nat.lt_of_not_le hfull
      rw [Progress.andThen_of_some hcut.fault_eq, if_neg]
      · refine ⟨hcut.fault_eq, ?_, hcut.stoppedIn hlimit hfits hfull turns⟩
        rw [hcut.written_eq, shownAfter, List.take_append_of_le_length (Nat.le_of_lt hfull)]
      · rw [shownAfter, List.length_append]
        omega

/-! ### Stages -/

/-- Without a place for the history, a console that has been started only takes turns. -/
private theorem performAll_turns (hrecording : c.recording = false) (hstarted : c.started = true) (acts : List Act) :
    performAll acts c = performAll ((Act.turns acts).map .turn) c := by
  induction acts generalizing c with
  | nil => rfl
  | cons act acts ih =>
    have hidle (h : act.perform c = ⟨c, none⟩) (hturns : Act.turns (act :: acts) = Act.turns acts) :
        performAll (act :: acts) c = performAll ((Act.turns (act :: acts)).map .turn) c := by
      rw [performAll, h, Progress.andThen_of_none rfl, hturns]
      exact ih hrecording hstarted
    cases act with
    | start => exact hidle (if_pos hstarted) rfl
    | tick succeeds => exact hidle (if_neg (Bool.eq_false_iff.mp hrecording)) rfl
    | finish succeeds => exact hidle (if_neg (Bool.eq_false_iff.mp hrecording)) rfl
    | turn turn =>
      obtain ⟨_, _, -, hrecorded, -⟩ := perform_records (.turn turn) c
      have hrest := ih (hrecorded.recording_eq.trans hrecording) (hrecorded.started_of hstarted)
      exact Progress.andThen_congr hrest

/-- A stage that can be read, on a new console without a place for the history. -/
theorem run_new (prompt : String) (batchSize : Nat) (limit : Option Screen.Limit) {stage : Stage}
    (hread : stage.source.text?.isSome) :
    stage.run (new prompt batchSize false limit) =
      (new prompt batchSize false limit).start.andThen (performAll (stage.source.turns.map .turn)) := by
  obtain ⟨hlegible, hflaw⟩ := Source.legible_of_text? hread
  obtain ⟨rest, hacts⟩ := stage.exists_acts_eq
  have hturns : Act.turns rest = stage.source.turns := by
    rw [Source.turns, ← hlegible, ← Stage.turns_acts, hacts]
    rfl
  have hrest : performAll rest (new prompt batchSize false limit).start.console =
      performAll (stage.source.turns.map .turn) (new prompt batchSize false limit).start.console := by
    rw [← hturns]
    exact performAll_turns rfl rfl rest
  rw [Stage.run_eq_performAll, Source.fault?, hflaw, Option.map_none, Option.or_none, hacts]
  exact Progress.andThen_congr hrest

/-- A console that has written its first prompt, on a screen that takes everything. -/
def greeted (prompt : String) (batchSize : Nat) : Console :=
  (new prompt batchSize false none).start.console

private theorem start_new_limited (prompt : String) (batchSize : Nat) (limit : Screen.Limit) :
    (new prompt batchSize false (some limit)).start = Progress.cutTo limit ⟨greeted prompt batchSize, none⟩ := by
  let c : Console := { new prompt batchSize false none with started := true }
  have hcut : (new prompt batchSize false (some limit)).start = (c.cutTo limit).put prompt := by
    rw [cutTo, List.take_of_length_le (Nat.zero_le limit.bytes)]
    rfl
  rw [hcut, put_cutTo (c := c) rfl (Nat.zero_le limit.bytes)]
  rfl

private theorem shownAfter_greeted (prompt : String) (batchSize : Nat) (turns : List Turn) :
    (greeted prompt batchSize).shownAfter turns = utf8 (prompt ++ transcript prompt Session.new turns).toList := by
  rw [String.toList_append, utf8_append]
  rfl

/-- A script or an input that can be read, on a new console without a place for the history whose screen takes `limit`
bytes.  It shows the first ones of what is shown on a screen that takes everything, and meets no fault if these are
all.  Otherwise the session is as at the beginning if the first prompt does not fit; and else one turn is the first that
does not, and the session has been fed with the lines before it, and with its line too unless its echo does not fit. -/
theorem run_limited (prompt : String) (batchSize : Nat) (limit : Screen.Limit) {stage : Stage}
    (hread : stage.source.text?.isSome) :
    let p := stage.run (new prompt batchSize false (some limit))
    let q := stage.run (new prompt batchSize false none)
    let shown (turns : List Turn) := utf8 (prompt ++ transcript prompt Session.new turns).toList
    q.fault = none ∧
      q.console.screen.written = shown stage.source.turns ∧
      p.console.screen.written = q.console.screen.written.take limit.bytes ∧
      p.fault = (if q.console.screen.written.length ≤ limit.bytes then none else some (outputFault limit.reason)) ∧
      if q.console.screen.written.length ≤ limit.bytes then p.console.session = Session.new.run stage.source.lines
      else if limit.bytes < (utf8 prompt.toList).length then p.console.session = Session.new
      else ∃ before turn after, stage.source.turns = before ++ turn :: after ∧
        (shown before).length ≤ limit.bytes ∧ limit.bytes < (shown (before ++ [turn])).length ∧
        p.console.session = Session.new.run (before.map (·.line) ++
          if limit.bytes < (shown before ++ utf8 turn.echo.toList).length then [] else [turn.line]) := by
  intro p q shown
  let d := greeted prompt batchSize
  have hlimit : d.screen.limit = none := rfl
  have hshown (turns : List Turn) : d.shownAfter turns = shown turns := shownAfter_greeted prompt batchSize turns
  have hgreeting : d.screen.written = utf8 prompt.toList := rfl
  have hq : q = performAll (stage.source.turns.map .turn) d := run_new prompt batchSize none hread
  have hp : p = (Progress.cutTo limit ⟨d, none⟩).andThen (performAll (stage.source.turns.map .turn)) := by
    rw [← start_new_limited]
    exact run_new prompt batchSize (some limit) hread
  have hwrote := turns_wrote hlimit stage.source.turns
  have hwritten : q.console.screen.written = shown stage.source.turns := by
    rw [hq, hwrote.written_eq, ← hshown]
    rfl
  refine ⟨by rw [hq, hwrote.fault_eq], hwritten, ?_⟩
  rw [hwritten]
  rcases Nat.lt_or_ge limit.bytes (utf8 prompt.toList).length with hfull | hfits
  · -- the first prompt stops the stage
    have hlong : ¬ (shown stage.source.turns).length ≤ limit.bytes := by
      rw [← hshown, shownAfter, hgreeting, List.length_append]
      omega
    rw [Progress.cutTo_of_lt (p := ⟨d, none⟩) hfull, Progress.andThen_of_some rfl] at hp
    rw [hp, if_neg hlong, if_neg hlong, if_pos hfull]
    refine ⟨?_, rfl, rfl⟩
    rw [← hshown, shownAfter, hgreeting, List.take_append_of_le_length (Nat.le_of_lt hfull)]
    rfl
  · have hcut := performAll_cutTo hlimit hfits stage.source.turns
    rw [Progress.cutTo_of_le (p := ⟨d, none⟩) hfits, Progress.andThen_of_none rfl] at hp
    rw [← hp, ← hq, hshown] at hcut
    split at hcut
    · rename_i hall
      rw [if_pos hall, if_pos hall, hcut]
      refine ⟨?_, rfl, ?_⟩
      · rw [← hwritten]
        rfl
      · rw [Source.lines_eq, hq]
        exact hwrote.session_eq
    · rename_i hlong
      obtain ⟨hfault, hshort, before, turn, after, hturns, hbefore, hturn, hsession⟩ := hcut
      rw [hshown] at hbefore hturn hsession
      rw [if_neg hlong, if_neg hlong, if_neg (Nat.not_lt.mpr hfits)]
      exact ⟨hshort, hfault, before, turn, after, hturns, hbefore, hturn, hsession⟩

/-- It takes the first prompt and the echo of a line. -/
def echoLimit : Screen.Limit :=
  ⟨17, "output full"⟩

/-- The echo of the only line fits, but not the prompt behind it: the warehouse has been added. -/
theorem run_limited_promptUnshown :
    (Stage.script "ADD WAREHOUSE 1".toList).source.text?.isSome ∧
      ((Stage.script "ADD WAREHOUSE 1".toList).run (new ">" 1 false (some echoLimit))).fault =
        some (outputFault echoLimit.reason) ∧
      ((Stage.script "ADD WAREHOUSE 1".toList).run (new ">" 1 false (some echoLimit))).console.screen.written =
        utf8 ">ADD WAREHOUSE 1\n".toList ∧
      ((Stage.script "ADD WAREHOUSE 1".toList).run (new ">" 1 false (some echoLimit))).console.session.inventory =
        ⟨[], [⟨1, .unbounded, []⟩]⟩ := by
  have hread : (Stage.script "ADD WAREHOUSE 1".toList).source.text?.isSome := by decide
  obtain ⟨-, hshown, hwritten, hfault, hsession⟩ := run_limited ">" 1 echoLimit hread
  have hturns : (Stage.script "ADD WAREHOUSE 1".toList).source.turns = [⟨"ADD WAREHOUSE 1", true⟩] := by decide
  have htext : utf8 (">" ++ transcript ">" Session.new [⟨"ADD WAREHOUSE 1", true⟩]).toList =
      utf8 ">ADD WAREHOUSE 1\n>".toList := by decide +kernel
  rw [hturns] at hshown
  replace hshown := hshown.trans htext
  rw [hshown] at hwritten hfault hsession
  refine ⟨hread, hfault.trans (if_neg (by decide)), hwritten.trans (by decide), ?_⟩
  rw [if_neg (by decide), if_neg (by decide), hturns] at hsession
  obtain ⟨before, turn, after, hsplit, -, -, hsession⟩ := hsession
  obtain ⟨rfl, rfl, rfl⟩ : before = [] ∧ turn = ⟨"ADD WAREHOUSE 1", true⟩ ∧ after = [] := by
    cases before with
    | nil =>
      injection hsplit with hturn hafter
      exact ⟨rfl, hturn.symm, hafter.symm⟩
    | cons first before =>
      injection hsplit with hfirst hrest
      simp at hrest
  rw [hsession]
  decide +kernel

end Console

end Stockroom
