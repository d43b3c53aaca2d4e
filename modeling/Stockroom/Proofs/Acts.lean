import Stockroom.Proofs.Transcript

/-!
# Stages as acts

What a console does in a stage is a list of acts that the source and the events fix in advance: it starts, takes turns,
and hands history over when the timer fires and at the end of an input (`run_eq_performAll`).  An input that cannot be
read to its end has the acts for the lines before the first one that is not UTF-8; its flaw comes after them.  So it is
enough to know what one act does to a console.
-/

namespace Stockroom

/-! ### Legible lines -/

namespace Text

/-- The lines before the first one that is not UTF-8. -/
def legible : List (List UInt8) → List (List Char)
  | [] => []
  | bytes :: rest =>
    match utf8Decode bytes with
    | .ok text => text :: legible rest
    | .error _ => []

/-- What is wrong with the first line that is not UTF-8. -/
def firstFlaw? : List (List UInt8) → Option Utf8Flaw
  | [] => none
  | bytes :: rest =>
    match utf8Decode bytes with
    | .ok _ => firstFlaw? rest
    | .error flaw => some flaw

private theorem legible_map_utf8 (texts : List (List Char)) : legible (texts.map utf8) = texts := by
  induction texts with
  | nil => rfl
  | cons text texts ih => rw [List.map_cons, legible, utf8Decode_utf8, ih]

theorem firstFlaw?_map_utf8 (texts : List (List Char)) : firstFlaw? (texts.map utf8) = none := by
  induction texts with
  | nil => rfl
  | cons text texts ih => rw [List.map_cons, firstFlaw?, utf8Decode_utf8, ih]

theorem eq_map_utf8_legible {lines : List (List UInt8)} (h : firstFlaw? lines = none) :
    lines = (legible lines).map utf8 := by
  induction lines with
  | nil => rfl
  | cons bytes rest ih =>
    cases hbytes : utf8Decode bytes with
    | ok text =>
      rw [firstFlaw?, hbytes] at h
      rw [legible, hbytes, List.map_cons, ← ih h, ← eq_utf8_of_utf8Decode hbytes]
    | error flaw =>
      rw [firstFlaw?, hbytes] at h
      cases h

/-- Where the flaw is: right after the legible lines. -/
theorem exists_of_firstFlaw? {lines : List (List UInt8)} {flaw : Utf8Flaw} (h : firstFlaw? lines = some flaw) :
    ∃ bytes rest, lines = (legible lines).map utf8 ++ bytes :: rest ∧ utf8Decode bytes = .error flaw := by
  induction lines with
  | nil => cases h
  | cons bytes rest ih =>
    cases hbytes : utf8Decode bytes with
    | ok text =>
      rw [firstFlaw?, hbytes] at h
      obtain ⟨bad, after, hrest, hbad⟩ := ih h
      refine ⟨bad, after, ?_, hbad⟩
      rw [legible, hbytes, List.map_cons, List.cons_append, ← hrest, ← eq_utf8_of_utf8Decode hbytes]
    | error found =>
      rw [firstFlaw?, hbytes] at h
      cases h
      exact ⟨bytes, rest, by rw [legible, hbytes]; rfl, hbytes⟩

end Text

open Text

namespace Source

/-- The lines that can be read, up to the first flaw. -/
def legible : Source → List String
  | script text => (textLines text).map String.ofList
  | input bytes => (Text.legible (byteLines bytes)).map String.ofList

def flaw? : Source → Option Utf8Flaw
  | script _ => none
  | input bytes => firstFlaw? (byteLines bytes)

/-- The fault that reading meets. -/
def fault? (s : Source) : Option Fault :=
  s.flaw?.map Console.inputFault

/-- A source that can be read as a text has no flaw. -/
theorem legible_of_text? {s : Source} (h : s.text?.isSome) : s.legible = s.lines ∧ s.flaw? = none := by
  cases s with
  | script text => exact ⟨rfl, rfl⟩
  | input bytes =>
    obtain ⟨text, htext⟩ := Option.isSome_iff_exists.mp h
    have hlines : (Source.input bytes).lines = (textLines text).map String.ofList := by
      rw [lines, htext]
      rfl
    change (utf8Decode bytes).toOption = some text at htext
    cases hbytes : utf8Decode bytes with
    | error flaw => rw [hbytes] at htext; cases htext
    | ok found =>
      rw [hbytes] at htext
      cases htext
      rw [legible, flaw?, eq_utf8_of_utf8Decode hbytes, byteLines_utf8, legible_map_utf8, firstFlaw?_map_utf8,
        ← eq_utf8_of_utf8Decode hbytes]
      exact ⟨hlines.symm, rfl⟩

end Source

/-! ### Acts -/

/-- What a console can do in one go. -/
inductive Act where
  | start
  | turn (turn : Turn)
  /-- The timer fires; what is due can be handed over or not. -/
  | tick (succeeds : Bool)
  /-- An input ends. -/
  | finish (succeeds : Bool)
  deriving DecidableEq, Repr

namespace Act

def perform : Act → Console → Progress
  | start, c => c.start
  | turn ⟨line, true⟩, c => c.echoLine line
  | turn ⟨line, false⟩, c => c.takeLine line
  | tick succeeds, c => c.tick succeeds
  | finish succeeds, c => c.finish succeeds

def turn? : Act → Option Turn
  | turn t => some t
  | start | tick _ | finish _ => none

/-- Whether a batch can be handed over, for an act that does that. -/
def handover? : Act → Option Bool
  | tick succeeds | finish succeeds => some succeeds
  | start | turn _ => none

def turns (acts : List Act) : List Turn :=
  acts.filterMap turn?

def lines (acts : List Act) : List String :=
  (turns acts).map (·.line)

theorem turns_append (l m : List Act) : turns (l ++ m) = turns l ++ turns m :=
  List.filterMap_append

theorem turns_cons (act : Act) (acts : List Act) : turns (act :: acts) = turns [act] ++ turns acts :=
  turns_append [act] acts

theorem lines_append (l m : List Act) : lines (l ++ m) = lines l ++ lines m := by
  rw [lines, turns_append, List.map_append]
  rfl

theorem lines_cons (act : Act) (acts : List Act) : lines (act :: acts) = lines [act] ++ lines acts :=
  lines_append [act] acts

end Act

namespace Progress

variable {p : Progress} {f : Console → Progress}

theorem andThen_of_none (h : p.fault = none) : p.andThen f = f p.console := by
  rw [andThen, h]

theorem andThen_of_some {fault : Fault} (h : p.fault = some fault) : p.andThen f = p := by
  rw [andThen, h]

theorem andThen_congr {g : Console → Progress} (h : f p.console = g p.console) : p.andThen f = p.andThen g := by
  cases hfault : p.fault with
  | none => rw [andThen_of_none hfault, andThen_of_none hfault, h]
  | some fault => rw [andThen_of_some hfault, andThen_of_some hfault]

private theorem andThen_assoc (p : Progress) (f g : Console → Progress) :
    (p.andThen f).andThen g = p.andThen fun c => (f c).andThen g := by
  cases h : p.fault with
  | none => rw [andThen_of_none h, andThen_of_none h]
  | some fault => rw [andThen_of_some h, andThen_of_some h, andThen_of_some h]

/-- What does nothing but meet a fault, or nothing at all. -/
theorem andThen_mk (p : Progress) (fault : Option Fault) :
    (p.andThen fun c => ⟨c, fault⟩) = ⟨p.console, p.fault.or fault⟩ := by
  obtain ⟨console, _ | _⟩ := p <;> rfl

private theorem andThen_done (p : Progress) : (p.andThen fun c => ⟨c, none⟩) = p := by
  rw [andThen_mk, Option.or_none]

end Progress

namespace Console

/-- Acts in order, up to the first that meets a fault. -/
def performAll : List Act → Console → Progress
  | [], c => ⟨c, none⟩
  | act :: rest, c => (act.perform c).andThen (performAll rest)

theorem performAll_append (l m : List Act) (c : Console) :
    performAll (l ++ m) c = (performAll l c).andThen (performAll m) := by
  induction l generalizing c with
  | nil => rfl
  | cons act l ih =>
    rw [List.cons_append, performAll, performAll, Progress.andThen_assoc]
    exact congrArg _ (funext ih)

theorem performAll_singleton (act : Act) (c : Console) : performAll [act] c = act.perform c :=
  Progress.andThen_done _

theorem turn_wrote {c : Console} (hlimit : c.screen.limit = none) (turn : Turn) :
    ((Act.turn turn).perform c).Wrote c (c.session.feed turn.line).2
      (turn.echo ++ c.session.reply c.prompt turn.line) := by
  obtain ⟨line, _ | _⟩ := turn
  · have htake := takeLine_wrote hlimit line
    rw [← String.empty_append (s := c.session.reply c.prompt line)] at htake
    exact htake
  · exact echoLine_wrote hlimit line

theorem turns_wrote {c : Console} (hlimit : c.screen.limit = none) (turns : List Turn) :
    (performAll (turns.map .turn) c).Wrote c (c.session.run (turns.map (·.line)))
      (transcript c.prompt c.session turns) := by
  induction turns generalizing c with
  | nil => exact Progress.wrote_nothing hlimit
  | cons turn turns ih =>
    have hturn := turn_wrote hlimit turn
    have hrest := ih hturn.limit_eq
    rw [hturn.session_eq, hturn.prompt_eq] at hrest
    exact hturn.andThen hrest

/-- The acts that events give rise to, up to the first line that is not UTF-8. -/
def actsOf : List Event → List Act
  | [] => []
  | .tick succeeds :: rest => .tick succeeds :: actsOf rest
  | .line bytes :: rest =>
    match utf8Decode bytes with
    | .ok text => .turn ⟨String.ofList text, false⟩ :: actsOf rest
    | .error _ => []

end Console

open Console

def Stage.acts : Stage → List Act
  | .script text => .start :: (textLines text).map fun line => .turn ⟨String.ofList line, true⟩
  | .input i => .start :: (actsOf i.events ++ [.finish i.succeeds])

theorem Stage.exists_acts_eq (stage : Stage) : ∃ rest, stage.acts = .start :: rest := by
  cases stage <;> exact ⟨_, rfl⟩

/-! ### A stage performs its acts -/

private theorem echoLines_eq_performAll (lines : List String) :
    echoLines lines = performAll (lines.map fun line => .turn ⟨line, true⟩) := by
  induction lines with
  | nil => rfl
  | cons line lines ih =>
    funext c
    rw [echoLines, ih]
    rfl

private theorem readEvents_eq_performAll (succeeds : Bool) (events : List Event) :
    readEvents succeeds events = fun c =>
      (performAll (actsOf events ++ [.finish succeeds]) c).andThen fun c =>
        ⟨c, (firstFlaw? (events.filterMap Event.line?)).map inputFault⟩ := by
  induction events with
  | nil =>
    funext c
    exact (Progress.andThen_done _).trans (Progress.andThen_done _) |>.symm
  | cons event events ih =>
    funext c
    cases event with
    | tick appended =>
      rw [readEvents, ih, actsOf, List.cons_append, performAll, Progress.andThen_assoc]
      rfl
    | line bytes =>
      have hline : (Event.line bytes :: events).filterMap Event.line? = bytes :: events.filterMap Event.line? := rfl
      cases hbytes : utf8Decode bytes with
      | ok text =>
        rw [readEvents, takeEvent, hbytes, ih, actsOf, hbytes, hline, firstFlaw?, hbytes, List.cons_append, performAll,
          Progress.andThen_assoc]
        rfl
      | error flaw =>
        -- the fault keeps the rest from being read
        rw [readEvents, takeEvent, hbytes, actsOf, hbytes, hline, firstFlaw?, hbytes, Progress.andThen_assoc,
          List.nil_append, performAll_singleton]
        rfl

theorem Stage.run_eq_performAll (stage : Stage) (c : Console) :
    stage.run c = ⟨(performAll stage.acts c).console,
      (performAll stage.acts c).fault.or stage.source.fault?⟩ := by
  rw [← Progress.andThen_mk]
  cases stage with
  | script text =>
    refine Eq.trans ?_ (Progress.andThen_done _).symm
    change c.start.andThen (echoLines ((textLines text).map String.ofList)) = _
    rw [echoLines_eq_performAll, List.map_map]
    rfl
  | input i =>
    change c.start.andThen (readEvents i.succeeds i.events) = _
    rw [readEvents_eq_performAll, i.arrives, acts, performAll, Progress.andThen_assoc]
    rfl

/-! ### Turns and handovers of a stage -/

private theorem turns_actsOf (events : List Event) :
    Act.turns (actsOf events) =
      (Text.legible (events.filterMap Event.line?)).map fun text => ⟨String.ofList text, false⟩ := by
  induction events with
  | nil => rfl
  | cons event events ih =>
    cases event with
    | tick appended => exact ih
    | line bytes =>
      have hline : (Event.line bytes :: events).filterMap Event.line? = bytes :: events.filterMap Event.line? := rfl
      rw [actsOf, hline, Text.legible]
      cases utf8Decode bytes with
      | ok text => exact congrArg _ ih
      | error flaw => rfl

theorem Stage.turns_acts (stage : Stage) :
    Act.turns stage.acts = stage.source.legible.map fun line => ⟨line, stage.source.isScript⟩ := by
  cases stage with
  | script text =>
    calc Act.turns (Stage.script text).acts
      _ = ((textLines text).map fun line => Act.turn ⟨String.ofList line, true⟩).filterMap Act.turn? := rfl
      _ = (textLines text).map fun line => ⟨String.ofList line, true⟩ := by
          rw [List.filterMap_map]
          exact congrFun List.filterMap_eq_map _
      _ = ((textLines text).map String.ofList).map fun line => ⟨line, true⟩ := by
          rw [List.map_map]
          rfl
  | input i =>
    calc Act.turns (Stage.input i).acts
      _ = Act.turns (actsOf i.events ++ [.finish i.succeeds]) := rfl
      _ = Act.turns (actsOf i.events) := by
          rw [Act.turns_append]
          exact List.append_nil _
      _ = (Text.legible (byteLines i.bytes)).map fun text => ⟨String.ofList text, false⟩ := by
          rw [turns_actsOf, i.arrives]
      _ = ((Text.legible (byteLines i.bytes)).map String.ofList).map fun line => ⟨line, false⟩ := by
          rw [List.map_map]
          rfl

theorem Stage.lines_acts (stage : Stage) : Act.lines stage.acts = stage.source.legible := by
  rw [Act.lines, turns_acts, List.map_map]
  exact List.map_id _

theorem mem_of_mem_actsOf {events : List Event} {act : Act} (h : act ∈ actsOf events) :
    (∃ t, act = .turn t) ∨ ∃ succeeds, act = .tick succeeds ∧ .tick succeeds ∈ events := by
  induction events with
  | nil => cases h
  | cons event events ih =>
    have hlater (hmem : act ∈ actsOf events) :
        (∃ t, act = .turn t) ∨ ∃ succeeds, act = .tick succeeds ∧ .tick succeeds ∈ event :: events :=
      (ih hmem).imp_right fun ⟨succeeds, hact, htick⟩ => ⟨succeeds, hact, List.mem_cons_of_mem _ htick⟩
    cases event with
    | tick appended =>
      rcases List.mem_cons.mp h with rfl | hmem
      · exact .inr ⟨appended, rfl, List.mem_cons_self⟩
      · exact hlater hmem
    | line bytes =>
      rw [actsOf] at h
      cases hbytes : utf8Decode bytes with
      | error flaw => rw [hbytes] at h; cases h
      | ok text =>
        rw [hbytes] at h
        rcases List.mem_cons.mp h with rfl | hmem
        · exact .inl ⟨_, rfl⟩
        · exact hlater hmem

/-- A script hands nothing over. -/
theorem Stage.handover?_script {text : List Char} {act : Act} (hact : act ∈ (Stage.script text).acts) :
    act.handover? = none := by
  rcases List.mem_cons.mp hact with rfl | hmem
  · rfl
  · obtain ⟨line, -, rfl⟩ := List.mem_map.mp hmem
    rfl

theorem Stage.Kept.succeeds {stage : Stage} (h : stage.Kept) {act : Act} (hact : act ∈ stage.acts) {succeeds : Bool}
    (hsucceeds : act.handover? = some succeeds) : succeeds = true := by
  cases stage with
  | script text =>
    rw [handover?_script hact] at hsucceeds
    cases hsucceeds
  | input i =>
    rcases List.mem_cons.mp hact with rfl | hmem
    · cases hsucceeds
    rcases List.mem_append.mp hmem with hmem | hmem
    · rcases mem_of_mem_actsOf hmem with ⟨t, rfl⟩ | ⟨appended, rfl, htick⟩
      · cases hsucceeds
      · cases hsucceeds
        cases succeeds with
        | true => rfl
        | false => exact absurd htick h.1
    · rw [List.mem_singleton.mp hmem] at hsucceeds
      cases hsucceeds
      exact h.2

end Stockroom
