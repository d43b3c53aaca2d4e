import Stockroom.Proofs.Recorded

/-!
# A text as a script, as an input, or as both

A text that is cut after an end of line has the lines of its two parts (`textLines_append`).  So it makes no difference
which part of it is run as a script and which comes as an input: the session and the recorded lines are the same, and
so is what is written, but for the echoes of the lines of the script (`runStages_split`).
-/

namespace Stockroom

/-! ### Lines of a text in two parts -/

namespace Text

private theorem lines_append_of_getLast? {α : Type} [DecidableEq α] {lf cr : α} {l : List α} (m : List α)
    (h : l = [] ∨ l.getLast? = some lf) : lines lf cr (l ++ m) = lines lf cr l ++ lines lf cr m := by
  induction l with
  | nil => rfl
  | cons a l ih =>
    have hlast := h.resolve_left (List.cons_ne_nil a l)
    cases l with
    | nil =>
      have ha : a = lf := Option.some.inj hlast
      rw [List.cons_append, List.nil_append, lines, lines, if_pos ha, if_pos ha]
      rfl
    | cons b l =>
      have hrest := ih (.inr hlast)
      -- what follows `a` is not empty, so `a` is in the same line as before or ends it
      obtain ⟨line, others, hlines⟩ := List.exists_cons_of_ne_nil
        (fun hnil : lines lf cr (b :: l) = [] => List.cons_ne_nil b l (lines_eq_nil_iff.mp hnil))
      rw [hlines] at hrest
      rw [List.cons_append, lines, lines, hrest, hlines]
      split
      · rfl
      · change (if a = cr ∧ some b = some lf then _ else _) = (if a = cr ∧ some b = some lf then _ else _) ++ _
        split <;> rfl

theorem textLines_append {a : List Char} (b : List Char) (h : a = [] ∨ a.getLast? = some '\n') :
    textLines (a ++ b) = textLines a ++ textLines b :=
  lines_append_of_getLast? b h

end Text

open Text

/-! ### Echoes and replies -/

/-- What a session makes appear for each of the lines. -/
def Session.replies (prompt : String) : Session → List String → List String
  | _, [] => []
  | s, line :: rest => s.reply prompt line :: replies prompt (s.feed line).2 rest

/-- Echoes, each followed by its reply. -/
def interleave (echoes replies : List String) : String :=
  String.join (List.zipWith (· ++ ·) echoes replies)

private theorem Session.length_replies (prompt : String) (s : Session) (lines : List String) :
    (s.replies prompt lines).length = lines.length := by
  induction lines generalizing s with
  | nil => rfl
  | cons line lines ih => exact congrArg (· + 1) (ih _)

private theorem transcript_eq_interleave (prompt : String) (s : Session) (turns : List Turn) :
    transcript prompt s turns = interleave (turns.map Turn.echo) (s.replies prompt (turns.map (·.line))) := by
  induction turns generalizing s with
  | nil => rfl
  | cons turn turns ih =>
    rw [transcript, ih, interleave, interleave, List.map_cons, List.map_cons, Session.replies, List.zipWith_cons_cons,
      String.join_cons]

/-- Without echoes there are only the replies. -/
private theorem interleave_empty {lines replies : List String} (h : replies.length = lines.length) :
    interleave (lines.map fun _ => "") replies = String.join replies := by
  rw [interleave, List.zipWith_map_left]
  congr 1
  refine List.ext_getElem ?_ fun i _ _ => ?_
  · rw [List.length_zipWith, h, Nat.min_self]
  · rw [List.getElem_zipWith, String.empty_append]

/-! ### Sources of a text -/

namespace Source

theorem text?_input_utf8 {bytes : List UInt8} {text : List Char} (h : bytes = utf8 text) :
    (input bytes).text? = some text := by
  rw [text?, h, utf8Decode_utf8]
  rfl

/-- An input of the bytes of a text has the lines of that text. -/
theorem lines_input_utf8 {bytes : List UInt8} {text : List Char} (h : bytes = utf8 text) :
    (input bytes).lines = (script text).lines := by
  rw [lines, text?_input_utf8 h]
  rfl

private theorem lines_script_append {a : List Char} (b : List Char) (h : a = [] ∨ a.getLast? = some '\n') :
    (script (a ++ b)).lines = (script a).lines ++ (script b).lines :=
  (congrArg (List.map String.ofList) (textLines_append b h)).trans List.map_append

private theorem map_echo_turns (s : Source) :
    s.turns.map Turn.echo = s.lines.map fun line => if s.isScript then line ++ "\n" else "" := by
  rw [turns, List.map_map]
  rfl

end Source

namespace Console

/-- Sources that can be read, on a console without a place for the history: their lines are recorded and replied to. -/
theorem runStages_replies (prompt : String) (batchSize : Nat) {stages : List Stage} (hstages : stages ≠ [])
    (hread : ∀ stage ∈ stages, stage.source.text?.isSome) {lines : List String}
    (hlines : stages.flatMap (·.source.lines) = lines) :
    ∃ c, runStages stages (new prompt batchSize false none) = (stages.map fun _ => none, c) ∧
      c.session = Session.new.run lines ∧ c.history = { History.new batchSize with buffered := lines } ∧
      c.screen.written = utf8 (prompt ++ interleave
        (stages.flatMap fun stage => stage.source.lines.map fun line =>
          if stage.source.isScript then line ++ "\n" else "")
        (Session.new.replies prompt lines)).toList := by
  obtain ⟨c, hrun, hsession, hwritten⟩ :=
    runStages_wrote (c := new prompt batchSize false none) rfl hread (fun hrecording => nomatch hrecording)
  obtain ⟨taken, batches, hrecorded, hclear, -⟩ := runStages_records stages (new prompt batchSize false none)
  obtain ⟨-, rfl⟩ := hclear rfl
  have hbatches : batches = [] := hrecorded.batches_eq rfl
  rw [hrun, flatMap_legible hread, hlines, hbatches] at hrecorded
  refine ⟨c, hrun, hlines ▸ hsession, ?_, ?_⟩
  · have hbuffered : c.history.buffered = lines := hrecorded.buffered_eq
    have hbatchSize := hrecorded.batchSize_eq
    have hnotified := hrecorded.notified_eq
    cases hc : c.history with
    | mk batchSize' buffered notified =>
      rw [hc] at hbuffered hbatchSize hnotified
      exact History.mk.injEq .. |>.mpr ⟨hbatchSize, hbuffered, hnotified⟩
  · have hgreeting : (new prompt batchSize false none).greeting stages = prompt := by
      rw [greeting, List.isEmpty_eq_false_iff.mpr hstages]
      rfl
    have hturns : (stages.flatMap (·.source.turns)).map (·.line) = lines := by
      rw [List.map_flatMap, ← hlines]
      exact congrArg (fun f => stages.flatMap f) (funext fun stage => stage.source.lines_eq.symm)
    rw [hwritten, hgreeting, transcript_eq_interleave, hturns, List.map_flatMap]
    simp only [Source.map_echo_turns]
    rfl

/-- A text of two parts, the first empty or up to an end of line, on a console without a place for the history.  The
first part as a script and the second as an input, all of it as an input, or all of it as a script: each ends well, and
the session and the history are the same, with all the lines recorded.  The screen shows the same replies, with each
line of a script echoed before its reply. -/
theorem runStages_split (prompt : String) (batchSize : Nat) {a b : List Char} (hcut : a = [] ∨ a.getLast? = some '\n')
    {rest whole : Input} (hrest : rest.bytes = utf8 b) (hwhole : whole.bytes = utf8 (a ++ b)) :
    ∃ split input script replies,
      runStages [.script a, .input rest] (new prompt batchSize false none) = ([none, none], split) ∧
      runStages [.input whole] (new prompt batchSize false none) = ([none], input) ∧
      runStages [.script (a ++ b)] (new prompt batchSize false none) = ([none], script) ∧
      (input.session = split.session ∧ script.session = split.session) ∧
      (input.history = split.history ∧ script.history = split.history) ∧
      split.history.buffered = (textLines (a ++ b)).map String.ofList ∧
      replies = Session.new.replies prompt ((textLines (a ++ b)).map String.ofList) ∧
      input.screen.written = utf8 (prompt ++ String.join replies).toList ∧
      script.screen.written = utf8 (prompt ++ interleave
        ((textLines (a ++ b)).map fun line => String.ofList line ++ "\n") replies).toList ∧
      split.screen.written = utf8 (prompt ++ interleave
        ((textLines a).map (fun line => String.ofList line ++ "\n") ++ (textLines b).map fun _ => "")
        replies).toList := by
  have hinput {i : Input} {text : List Char} (h : i.bytes = utf8 text) :
      (Stage.input i).source.text?.isSome ∧ (Stage.input i).source.lines = (textLines text).map String.ofList :=
    ⟨Option.isSome_of_eq_some (Source.text?_input_utf8 h), Source.lines_input_utf8 h⟩
  have hsplitLines : [Stage.script a, .input rest].flatMap (·.source.lines) =
      (textLines (a ++ b)).map String.ofList := by
    rw [List.flatMap_cons, List.flatMap_singleton, (hinput hrest).2]
    exact (Source.lines_script_append b hcut).symm
  have hinputLines : [Stage.input whole].flatMap (·.source.lines) = (textLines (a ++ b)).map String.ofList :=
    (List.flatMap_singleton ..).trans (hinput hwhole).2
  obtain ⟨split, hsplit, hsession, hhistory, hshown⟩ := runStages_replies prompt batchSize (List.cons_ne_nil _ _)
    (List.forall_mem_cons.mpr ⟨rfl, List.forall_mem_singleton.mpr (hinput hrest).1⟩) hsplitLines
  obtain ⟨input, hrun, hsession', hhistory', hshown'⟩ := runStages_replies prompt batchSize (List.cons_ne_nil _ _)
    (List.forall_mem_singleton.mpr (hinput hwhole).1) hinputLines
  have hscriptLines : [Stage.script (a ++ b)].flatMap (·.source.lines) = (textLines (a ++ b)).map String.ofList :=
    List.flatMap_singleton ..
  obtain ⟨script, hrun', hsession'', hhistory'', hshown''⟩ := runStages_replies prompt batchSize (List.cons_ne_nil _ _)
    (List.forall_mem_singleton.mpr rfl) hscriptLines
  refine ⟨split, input, script, _, hsplit, hrun, hrun',
    ⟨hsession'.trans hsession.symm, hsession''.trans hsession.symm⟩,
    ⟨hhistory'.trans hhistory.symm, hhistory''.trans hhistory.symm⟩, ?_, rfl, ?_, ?_, ?_⟩
  · rw [hhistory]
  · rw [hshown', List.flatMap_singleton, (hinput hwhole).2]
    exact congrArg (fun shown => utf8 (prompt ++ shown).toList) (interleave_empty (Session.length_replies ..))
  · rw [hshown'', List.flatMap_singleton]
    congr 4
    exact List.map_map
  · rw [hshown, List.flatMap_cons, List.flatMap_singleton, (hinput hrest).2]
    congr 5 <;> exact List.map_map

/-- A part that ends with a question. -/
def askingPart : List Char :=
  "ADD WAREHOUSE 1\r\nADD WAREHOUSE 1 5\n".toList

/-- A part that begins with an answer; its last line keeps a carriage return. -/
def answeringPart : List Char :=
  "n\r\n\nFOO\r".toList

def answeringInput : Input where
  bytes := utf8 answeringPart
  events := [.tick false, .line (utf8 ['n']), .tick true, .line [], .line (utf8 "FOO\r".toList)]
  succeeds := false
  arrives := by decide +kernel

def wholeInput : Input where
  bytes := utf8 (askingPart ++ answeringPart)
  events := .tick true :: eventsOf (utf8 (askingPart ++ answeringPart))
  succeeds := true
  arrives := by decide +kernel

theorem runStages_split_question :
    (askingPart = [] ∨ askingPart.getLast? = some '\n') ∧ answeringInput.bytes = utf8 answeringPart ∧
      wholeInput.bytes = utf8 (askingPart ++ answeringPart) ∧
      ∃ split input, runStages [.script askingPart, .input answeringInput] (new ">" 2 false none) =
          ([none, none], split) ∧
        runStages [.input wholeInput] (new ">" 2 false none) = ([none], input) ∧
        input.session = split.session ∧ input.history = split.history ∧
        split.history.buffered = ["ADD WAREHOUSE 1", "ADD WAREHOUSE 1 5", "n", "", "FOO\r"] ∧
        input.screen.written = utf8
          (">>WAREHOUSE [1] already exists.  Update STOCK_LIMIT from [Infinity] to [5]? (y/n) " ++
            "Warehouse stock limit not updated.\n>>ERROR: Command not found [FOO]\n>").toList ∧
        split.screen.written = utf8
          (">ADD WAREHOUSE 1\n>ADD WAREHOUSE 1 5\n" ++
            "WAREHOUSE [1] already exists.  Update STOCK_LIMIT from [Infinity] to [5]? (y/n) " ++
            "Warehouse stock limit not updated.\n>>ERROR: Command not found [FOO]\n>").toList := by
  have hcut : askingPart = [] ∨ askingPart.getLast? = some '\n' := .inr (by decide)
  have hrest : answeringInput.bytes = utf8 answeringPart := rfl
  have hwhole : wholeInput.bytes = utf8 (askingPart ++ answeringPart) := rfl
  obtain ⟨split, input, -, replies, hsplit, hinput, -, ⟨hsession, -⟩, ⟨hhistory, -⟩, hbuffered, rfl, hquiet, -,
    hechoed⟩ := runStages_split ">" 2 hcut hrest hwhole
  refine ⟨hcut, hrest, hwhole, split, input, hsplit, hinput, hsession, hhistory, ?_, ?_, ?_⟩
  · rw [hbuffered]
    decide +kernel
  · rw [hquiet]
    refine congrArg (fun text : String => utf8 text.toList) ?_
    decide +kernel
  · rw [hechoed]
    refine congrArg (fun text : String => utf8 text.toList) ?_
    decide +kernel

end Console

end Stockroom
