import Stockroom.Launch.Program
import Stockroom.Proofs.Conversation
import Stockroom.Proofs.Files

/-!
# Consoles on a machine

On a machine whose disk and screen are values the program does with a console what the console does by itself.  While
it does, the machine shows what the console has written, and its files are those from before, the history file extended
by the batches handed over and the log by entries (`World.Mirrors`).  Each step of the program keeps this
(`World.Follows`), so a whole conversation does (`World.follows_converse`).
-/

namespace Stockroom

open Text Disk Launch

/-! ### Work that writes -/

/-- Nothing has been taken off a screen that takes everything. -/
structure Progress.Writes (p : Progress) (c : Console) : Prop where
  limit_eq : p.console.screen.limit = none
  written_eq : ∃ text, p.console.screen.written = c.screen.written ++ text

theorem Progress.Wrote.writes {p : Progress} {c : Console} {s : Session} {text : String} (h : p.Wrote c s text) :
    p.Writes c :=
  ⟨h.limit_eq, _, h.written_eq⟩

/-- Work that can hand nothing over has not done so. -/
theorem Progress.Records.handed_eq {p : Progress} {c : Console} {lines : List String}
    (h : p.Records c lines fun _ => False) : p.console.handed = c.handed := by
  obtain ⟨_, batches, -, hrecorded, -, hnone⟩ := h
  rw [hrecorded.handed_eq, List.eq_nil_iff_forall_not_mem.mpr hnone, List.append_nil]

namespace Console

variable {c : Console} {due : Option (List String × History)}

/-- Hands over what is due, at a tick or at the end of an input. -/
def deliver (c : Console) (due : Option (List String × History)) (succeeds : Bool) : Progress :=
  if c.recording then c.handOver (c.history.handOver due succeeds) succeeds else ⟨c, none⟩

private theorem deliver_none (c : Console) (succeeds : Bool) : c.deliver none succeeds = ⟨c, none⟩ := by
  unfold deliver
  split <;> rfl

private theorem deliver_of_not_recording (h : c.recording = false) (due : Option (List String × History))
    (succeeds : Bool) : c.deliver due succeeds = ⟨c, none⟩ := by
  rw [deliver, h]
  rfl

private theorem handed_deliver (h : c.recording = true) (batch : List String) (rest : History) (succeeds : Bool) :
    (c.deliver (some (batch, rest)) succeeds).console.handed = c.handed ++ [(batch, succeeds)] := by
  simp only [deliver, h, if_true, History.handOver, handOver]
  split <;> rfl

private theorem writes_deliver (hlimit : c.screen.limit = none) (due : Option (List String × History))
    (succeeds : Bool) : (c.deliver due succeeds).Writes c := by
  have hidle : (Progress.mk c none).Writes c := ⟨hlimit, [], (List.append_nil _).symm⟩
  cases hrecording : c.recording with
  | false =>
    rw [deliver_of_not_recording hrecording]
    exact hidle
  | true =>
    rw [deliver, if_pos hrecording, handOver]
    split
    · exact ⟨(put_wrote hlimit _).limit_eq, _, (put_wrote hlimit _).written_eq⟩
    · exact ⟨hlimit, [], (List.append_nil _).symm⟩

end Console

/-! ### Worlds -/

namespace World

variable {α β : Type} {x : StateM World α} {w w' : World} {post post' : α → World → Prop}

/-- What holds of the result of some work in a world, and of the world after it. -/
structure Leads (x : StateM World α) (w : World) (post : α → World → Prop) : Prop where
  run : post (x.run w).1 (x.run w).2

theorem Leads.mono (h : Leads x w post) (hpost : ∀ a w', post a w' → post' a w') : Leads x w post' :=
  ⟨hpost _ _ h.run⟩

theorem Leads.bind {f : α → StateM World β} {post : β → World → Prop}
    (h : Leads x w fun a w' => Leads (f a) w' post) : Leads (x >>= f) w post :=
  ⟨h.run.run⟩

theorem leads_pure {a : α} (h : post a w) : Leads (pure a) w post :=
  ⟨h⟩

section Primitives

variable {k : Conditions} {path : String}

theorem leads_find {post : Option Entry → World → Prop} (h : post (w.disk.find? k.here path) w) :
    Leads ((machine k).find path) w post :=
  ⟨h⟩

theorem leads_makeDirectories {post : Unit → World → Prop}
    (h : post () { w with disk := w.disk.makeDirectories k.here path }) :
    Leads ((machine k).makeDirectories path) w post :=
  ⟨h⟩

theorem leads_extend_of_some {post : Bool → World → Prop} {place : Place} {bytes : List UInt8}
    (hplace : w.disk.filePlace? k.here path = some place)
    (h : post true { w with disk := w.disk.append place bytes }) : Leads ((machine k).extend path bytes) w post := by
  constructor
  change post (extend k.here path bytes w).1 (extend k.here path bytes w).2
  rw [extend, hplace]
  exact h

theorem leads_extend_of_none {post : Bool → World → Prop} {bytes : List UInt8}
    (hplace : w.disk.filePlace? k.here path = none) (h : post false w) :
    Leads ((machine k).extend path bytes) w post := by
  constructor
  change post (extend k.here path bytes w).1 (extend k.here path bytes w).2
  rw [extend, hplace]
  exact h

theorem leads_print {post : Unit → World → Prop} {bytes : List UInt8}
    (h : post () { w with screen := w.screen ++ bytes }) : Leads ((machine k).print bytes) w post :=
  ⟨h⟩

theorem leads_complain {post : Unit → World → Prop} {bytes : List UInt8} (h : post () w) :
    Leads ((machine k).complain bytes) w post :=
  ⟨h⟩

theorem leads_word {post : List UInt8 → World → Prop} {entry : LogEntry}
    (h : post (k.wording w.worded entry) { w with worded := w.worded + 1 }) :
    Leads ((machine k).word entry) w post :=
  ⟨h⟩

end Primitives

/-! ### What logging does -/

variable {k : Conditions} {file : Option String} {log : Log}

/-- The place of a log file. -/
def logPlace? (k : Conditions) (file : Option String) (d : Disk) : Option Place :=
  file.bind (d.filePlace? k.here)

/-- What may have happened between two worlds while entries were written: only the file of the log has changed. -/
structure Logged (k : Conditions) (file : Option String) (w w' : World) : Prop where
  screen_eq : w'.screen = w.screen
  samePaths : w.disk.SamePaths w'.disk
  sameBut : SameBut (logPlace? k file w.disk) w.disk w'.disk

theorem logPlace?_eq {d e : Disk} (h : d.SamePaths e) : logPlace? k file e = logPlace? k file d := by
  cases file with
  | none => rfl
  | some path => exact h k.here path

namespace Logged

theorem refl (w : World) : Logged k file w w :=
  ⟨rfl, .refl _, fun _ _ => rfl⟩

theorem trans {v : World} (h : Logged k file w w') (h' : Logged k file w' v) : Logged k file w v where
  screen_eq := h'.screen_eq.trans h.screen_eq
  samePaths := h.samePaths.trans h'.samePaths
  sameBut other hother := by
    have hother' : logPlace? k file w'.disk ≠ some other := by rwa [logPlace?_eq h.samePaths]
    rw [h'.sameBut other hother', h.sameBut other hother]

end Logged

theorem leads_extend (path : String) (bytes : List UInt8) (w : World) :
    Leads ((machine k).extend path bytes) w fun _ w' => Logged k (some path) w w' := by
  cases hplace : w.disk.filePlace? k.here path with
  | none => exact leads_extend_of_none hplace (.refl w)
  | some place =>
    refine leads_extend_of_some hplace ⟨rfl, samePaths_append hplace bytes, fun other hother => ?_⟩
    have hne : other ≠ place := fun h => hother (by rw [h]; exact hplace)
    rw [file?_append _ (ne_nil_of_filePlace? hplace), if_neg hne]

theorem leads_log (log : Log) (entry : LogEntry) (w : World) :
    Leads ((machine k).log log entry) w fun _ w' => Logged k log.file w w' := by
  obtain ⟨passes, file⟩ := log
  unfold Machine.log
  split
  · refine .bind (leads_word ?_)
    have hworded (file : Option String) : Logged k file w { w with worded := w.worded + 1 } :=
      ⟨rfl, .refl _, fun _ _ => rfl⟩
    cases file with
    | none => exact leads_complain (hworded none)
    | some path =>
      refine .bind ((leads_extend path _ _).mono fun _ _ h => leads_pure ?_)
      exact (hworded (some path)).trans h
  · exact leads_pure (.refl w)

theorem leads_logAll (log : Log) (entries : List LogEntry) (w : World) :
    Leads (entries.forM ((machine k).log log)) w fun _ w' => Logged k log.file w w' := by
  induction entries generalizing w with
  | nil => exact leads_pure (.refl w)
  | cons entry entries ih =>
    refine Leads.bind (x := (machine k).log log entry) ((leads_log log entry w).mono ?_)
    exact fun _ w' hfirst => (ih w').mono fun _ _ hrest => hfirst.trans hrest

/-! ### What a machine has of a console -/

variable {path : String} {start : World} {handed : List (List String × Bool)}

/-- A disk after batches have been handed over, if there is a place for them. -/
def kept (place : Option Place) (handed : List (List String × Bool)) (d : Disk) : Disk :=
  place.elim d (keepHistory · handed d)

/-- The files of a world are those of `start`, the one at `path` extended by batches.  The log may have changed. -/
structure Keeps (k : Conditions) (file : Option String) (path : String) (start : World)
    (handed : List (List String × Bool)) (w : World) : Prop where
  samePaths : start.disk.SamePaths w.disk
  files_eq : ∀ other, logPlace? k file start.disk ≠ some other →
    w.disk.file? other = (kept (start.disk.filePlace? k.here path) handed start.disk).file? other

theorem Keeps.logged (h : Keeps k file path start handed w) (hl : Logged k file w w') :
    Keeps k file path start handed w' where
  samePaths := h.samePaths.trans hl.samePaths
  files_eq other hother := by
    have hother' : logPlace? k file w.disk ≠ some other := by rwa [logPlace?_eq h.samePaths]
    rw [hl.sameBut other hother', h.files_eq other hother]

/-- A batch is handed over if there is a place for it. -/
theorem Keeps.extend (h : Keeps k file path start handed w) (batch : List String) :
    Leads ((machine k).extend path (utf8 (History.fileText batch).toList)) w fun succeeded w' =>
      succeeded = (start.disk.filePlace? k.here path).isSome ∧ w'.screen = w.screen ∧
        Keeps k file path start (handed ++ [(batch, succeeded)]) w' := by
  have hfiles := h.files_eq
  cases hplace : start.disk.filePlace? k.here path with
  | none =>
    rw [hplace] at hfiles
    refine leads_extend_of_none ((h.samePaths k.here path).trans hplace) ⟨rfl, rfl, h.samePaths, ?_⟩
    rwa [hplace]
  | some place =>
    rw [hplace] at hfiles
    have hnow : w.disk.filePlace? k.here path = some place := (h.samePaths k.here path).trans hplace
    refine leads_extend_of_some hnow
      ⟨rfl, rfl, h.samePaths.trans (samePaths_append hnow _), fun other hother => ?_⟩
    have hkeep : kept (some place) (handed ++ [(batch, true)]) start.disk =
        (kept (some place) handed start.disk).append place (utf8 (History.fileText batch).toList) := by
      simp [kept, keepHistory]
    rw [hplace, hkeep, file?_append _ (ne_nil_of_filePlace? hnow), file?_append _ (ne_nil_of_filePlace? hnow)]
    split
    · rename_i heq
      subst heq
      rw [hfiles other hother]
    · exact hfiles other hother

/-- The machine shows what the console has written, and its files are as the console has left them. -/
structure Mirrors (k : Conditions) (file : Option String) (path : String) (start : World) (c : Console) (w : World) :
    Prop where
  limit_eq : c.screen.limit = none
  screen_eq : w.screen = c.screen.written
  keeps : Keeps k file path start c.handed w

theorem Mirrors.logged {c : Console} (h : Mirrors k file path start c w) (hl : Logged k file w w') :
    Mirrors k file path start c w' :=
  ⟨h.limit_eq, hl.screen_eq.trans h.screen_eq, h.keeps.logged hl⟩

/-- Work on a machine that has the console `c` and ends with `p`, as the console does by itself. -/
def Follows (k : Conditions) (file : Option String) (path : String) (start : World) (x : StateM World Progress)
    (c : Console) (p : Progress) : Prop :=
  ∀ w, Mirrors k file path start c w → Leads x w fun q w' => q = p ∧ Mirrors k file path start q.console w'

variable {c : Console} {p : Progress}

theorem follows_done (c : Console) : Follows k file path start (pure ⟨c, none⟩) c ⟨c, none⟩ :=
  fun _ h => leads_pure ⟨rfl, h⟩

theorem Follows.thenDo {x : StateM World Progress} {f : Console → StateM World Progress} {g : Console → Progress}
    (hx : Follows k file path start x c p)
    (hf : ∀ c, Follows k file path start (f c) c (g c)) :
    Follows k file path start (x >>= fun q => q.thenDo f) c (p.andThen g) := by
  intro w hw
  refine .bind ((hx w hw).mono ?_)
  rintro q w' ⟨rfl, hw'⟩
  unfold Progress.thenDo Progress.andThen
  cases hfault : q.fault with
  | none => exact hf q.console w' hw'
  | some fault => exact leads_pure ⟨rfl, hw'⟩

theorem Mirrors.present (hscreen : w.screen = c.screen.written) (hkeeps : Keeps k file path start p.console.handed w)
    (hwrites : p.Writes c) :
    Leads ((machine k).present c p) w fun q w' => q = p ∧ Mirrors k file path start q.console w' := by
  obtain ⟨hlimit, text, hwritten⟩ := hwrites
  have hall : w.screen ++ p.console.screen.written.drop c.screen.written.length = p.console.screen.written := by
    rw [hscreen, hwritten, List.drop_left]
  exact .bind (leads_print (leads_pure ⟨rfl, hlimit, hall, hkeeps.samePaths, hkeeps.files_eq⟩))

/-- Work that hands nothing over follows the console once it has been presented. -/
theorem follows_present {lines : List String} (hrecords : p.Records c lines fun _ => False)
    (hwrites : c.screen.limit = none → p.Writes c) : Follows k file path start ((machine k).present c p) c p := by
  intro w hw
  refine Mirrors.present hw.screen_eq ?_ (hwrites hw.limit_eq)
  rw [hrecords.handed_eq]
  exact hw.keeps

/-! ### The steps of the program -/

section Steps

theorem follows_takeLine (c : Console) (line : String) :
    Follows k log.file path start ((machine k).takeLine log c line) c (c.takeLine line) := by
  intro w hw
  refine .bind ((leads_logAll log (c.session.logLine line) w).mono fun _ w' hlogged => ?_)
  exact follows_present (Console.takeLine_records c line) (fun hlimit => (Console.takeLine_wrote hlimit line).writes) w'
    (hw.logged hlogged)

theorem follows_echoLine (c : Console) (line : String) :
    Follows k log.file path start ((machine k).echoLine log c line) c (c.echoLine line) :=
  (follows_present (Console.put_records c _) fun hlimit => (Console.put_wrote hlimit _).writes).thenDo
    fun c => follows_takeLine c line

theorem follows_echoLines (lines : List String) (c : Console) :
    Follows k log.file path start ((machine k).echoLines log lines c) c (Console.echoLines lines c) := by
  induction lines generalizing c with
  | nil => exact follows_done c
  | cons line lines ih => exact (follows_echoLine c line).thenDo ih

theorem follows_start (c : Console) : Follows k file path start ((machine k).present c c.start) c c.start :=
  follows_present (Console.start_records c) fun hlimit =>
    have hwrote := Console.start_wrote hlimit
    ⟨hwrote.limit_eq, _, hwrote.written_eq⟩

theorem follows_runScript (text : List Char) (c : Console) :
    Follows k log.file path start ((machine k).runScript log text c) c (c.runScript text) :=
  (follows_start c).thenDo (follows_echoLines _)

variable {s : HistorySettings}

/-- A batch that is due is handed over if there is a place for the history, and that is all. -/
theorem leads_handOver {c : Console} (hw : Mirrors k log.file s.path start c w)
    (due : Option (List String × History)) :
    Leads ((machine k).handOver log s c due) w fun succeeds w' =>
      c.deliver due succeeds = c.deliver due (start.disk.filePlace? k.here s.path).isSome ∧ w'.screen = w.screen ∧
        Keeps k log.file s.path start (c.deliver due succeeds).console.handed w' := by
  have hidle (h : ∀ b, c.deliver due b = ⟨c, none⟩) (hrun : (machine k).handOver log s c due = pure true) :
      Leads ((machine k).handOver log s c due) w fun succeeds w' =>
        c.deliver due succeeds = c.deliver due (start.disk.filePlace? k.here s.path).isSome ∧ w'.screen = w.screen ∧
          Keeps k log.file s.path start (c.deliver due succeeds).console.handed w' := by
    rw [hrun]
    apply leads_pure
    rw [h, h]
    exact ⟨rfl, rfl, hw.keeps⟩
  cases hrecording : c.recording with
  | false => exact hidle (Console.deliver_of_not_recording hrecording due) (by simp only [Machine.handOver, hrecording])
  | true =>
    cases due with
    | none => exact hidle (Console.deliver_none c) (by simp only [Machine.handOver, hrecording])
    | some due =>
      obtain ⟨batch, rest⟩ := due
      simp only [Machine.handOver, hrecording]
      refine .bind ((hw.keeps.extend batch).mono ?_)
      rintro succeeded w' ⟨hplace, hscreen, hkeeps⟩
      rw [← Console.handed_deliver hrecording batch rest] at hkeeps
      rw [← hplace]
      cases succeeded with
      | true => exact leads_pure ⟨rfl, hscreen, hkeeps⟩
      | false =>
        refine .bind ((leads_log log droppedEntry w').mono fun _ w'' hlogged => ?_)
        exact leads_pure ⟨rfl, hlogged.screen_eq.trans hscreen, hkeeps.logged hlogged⟩

/-- Handing over what is due follows the console once it has been presented, whatever is made of the fault. -/
theorem follows_deliver (c : Console) (due : Option (List String × History)) (finish : Progress → Progress)
    (hfinish : ∀ p, (finish p).console = p.console) :
    Follows k log.file s.path start
      (do
        let succeeds ← (machine k).handOver log s c due
        (machine k).present c (finish (c.deliver due succeeds)))
      c (finish (c.deliver due (start.disk.filePlace? k.here s.path).isSome)) := by
  intro w hw
  refine .bind ((leads_handOver hw due).mono ?_)
  rintro succeeds w' ⟨hsame, hscreen, hkeeps⟩
  have hwrites : (finish (c.deliver due succeeds)).Writes c := by
    obtain ⟨hlimit, hwritten⟩ := Console.writes_deliver hw.limit_eq due succeeds
    constructor <;> rwa [hfinish]
  rw [← hsame]
  refine Mirrors.present (hscreen.trans hw.screen_eq) ?_ hwrites
  rwa [hfinish]

/-- Whether batches can be handed over does not change while the program runs. -/
def succeeds (k : Conditions) (path : String) (start : World) : Bool :=
  (start.disk.filePlace? k.here path).isSome

theorem follows_takeArrival (c : Console) (arrival : Arrival) :
    Follows k log.file s.path start ((machine k).takeArrival log s c arrival) c
      (c.takeEvent (succeeds k s.path start) (event (succeeds k s.path start) arrival)) := by
  cases arrival with
  -- a tick delivers the batch that is due, by definition
  | tick => exact follows_deliver c c.history.takeBatch? id fun _ => rfl
  | line bytes =>
    cases hbytes : utf8Decode bytes with
    | ok text =>
      simp only [Machine.takeArrival, event, Console.takeEvent, hbytes]
      exact follows_takeLine c (String.ofList text)
    | error flaw =>
      simp only [Machine.takeArrival, event, Console.takeEvent, hbytes]
      refine follows_deliver c c.history.takeAll? (·.andThen fun c => ⟨c, some (Console.inputFault flaw)⟩) fun p => ?_
      rw [Progress.andThen_mk]

theorem follows_closeInput (c : Console) :
    Follows k log.file s.path start ((machine k).closeInput log s c) c (c.finish (succeeds k s.path start)) := by
  intro w hw
  refine .bind ((leads_log log closedEntry w).mono fun _ w' hlogged => ?_)
  exact follows_deliver c c.history.takeAll? id (fun _ => rfl) w' (hw.logged hlogged)

theorem follows_listen (arrivals : List Arrival) (c : Console) :
    Follows k log.file s.path start
      (listen ((machine k).takeArrival log s) ((machine k).closeInput log s) arrivals c) c
      (Console.readEvents (succeeds k s.path start) (events (succeeds k s.path start) arrivals) c) := by
  induction arrivals generalizing c with
  | nil => exact follows_closeInput c
  | cons arrival arrivals ih => exact (follows_takeArrival c arrival).thenDo ih

theorem follows_runInput (c : Console) :
    Follows k log.file s.path start ((machine k).runInput log s c) c
      (c.runInput (events (succeeds k s.path start) k.arrivals) (succeeds k s.path start)) :=
  (follows_start c).thenDo (follows_listen k.arrivals)

end Steps

/-- A conversation on a machine is what the console makes of the script and of what arrives. -/
theorem follows_converse (s : Settings) (script : Option (List Char)) :
    Follows k log.file s.history.path start ((machine k).converse log s script) (console s)
      (converse s script k.arrivals (succeeds k s.history.path start)) := by
  have hinput (c : Console) : Follows k log.file s.history.path start ((machine k).runInput log s.history c) c
      (c.runInput (events (succeeds k s.history.path start) k.arrivals) (succeeds k s.history.path start)) :=
    follows_runInput c
  cases script with
  | none => exact hinput (console s)
  | some text => exact (follows_runScript text (console s)).thenDo hinput

end World

end Stockroom
