import Stockroom.Proofs.Machine

/-!
# What a run comes to

Whatever the packages make of arguments, settings and filters: a run ends before it writes anything if its config is
refused, if its log filter breaks down or if its script cannot be read, and then no file has changed but the log.
Otherwise it ends well: the screen shows the lines of the script and of the input, and the history file, if there is a
place for it, is extended by them (`run_outcome`).
-/

namespace Stockroom

open Text World

namespace Launch

/-! ### Config files -/

section Config

variable {read : SettingsReader} {path : String} {found : Option Entry} {s : Settings}

/-- The settings that the place of a config file stands for: the defaults if there is nothing. -/
def configOf (read : SettingsReader) (found : Option Entry) : Option Settings :=
  match found with
  | none => some {}
  | some .directory => none
  | some (.file bytes) => (utf8Decode bytes).toOption.bind fun text => (read {} text).toOption

/-- Settings by which a history can be kept. -/
def Sound (s : Settings) : Prop :=
  s.history.flushInterval ≠ 0 ∧ s.history.batchSize ≠ 0

private theorem checked_of_sound {s : Settings} (h : Sound s) : s.checked = .ok s := by
  rw [Settings.checked, if_neg h.1, if_neg h.2]

private theorem exists_checked_eq_error {s : Settings} (h : ¬ Sound s) : ∃ fault, s.checked = .error fault := by
  unfold Settings.checked
  split
  · exact ⟨_, rfl⟩
  · rename_i hinterval
    split
    · exact ⟨_, rfl⟩
    · rename_i hbatch
      exact absurd ⟨hinterval, hbatch⟩ h

/-- Flags change nothing that is checked. -/
private theorem sound_applyTo {flags : Flags} {s : Settings} : Sound (flags.applyTo s) ↔ Sound s :=
  Iff.rfl

/-- Loading checks the settings that the place stands for. -/
private theorem load_cases (read : SettingsReader) (path : String) (found : Option Entry) :
    (∃ s, configOf read found = some s ∧ load read path found = s.checked) ∨
      configOf read found = none ∧ ∃ fault, load read path found = .error fault := by
  match found with
  | none => exact .inl ⟨{}, rfl, rfl⟩
  | some .directory => exact .inr ⟨rfl, _, rfl⟩
  | some (.file bytes) =>
    simp only [configOf, load, Settings.ofBytes]
    cases utf8Decode bytes with
    | error flaw => exact .inr ⟨rfl, _, rfl⟩
    | ok text =>
      dsimp only [Except.toOption, Option.bind_some]
      cases read {} text with
      | error reason => exact .inr ⟨rfl, _, rfl⟩
      | ok s => exact .inl ⟨s, rfl, rfl⟩

private theorem settings_of_sound (hread : configOf read found = some s) (hsound : Sound s) (path : String)
    (flags : Flags) : settings read path found flags = .ok (flags.applyTo s) := by
  have hload : load read path found = .ok s := by
    rcases load_cases read path found with ⟨s', hread', hload⟩ | ⟨hnone, -⟩
    · rw [hread] at hread'
      rw [hload, ← Option.some.inj hread', checked_of_sound hsound]
    · rw [hread] at hnone
      cases hnone
  have hchecked : (flags.applyTo s).checked = .ok (flags.applyTo s) := checked_of_sound (sound_applyTo.mpr hsound)
  rw [settings, hload]
  exact hchecked

/-- A config is refused before the flags are looked at. -/
private theorem exists_settings_eq_error (h : ∀ s, configOf read found = some s → ¬ Sound s) (path : String)
    (flags : Flags) : ∃ fault, settings read path found flags = .error fault := by
  obtain ⟨fault, hload⟩ : ∃ fault, load read path found = .error fault := by
    rcases load_cases read path found with ⟨s, hread, hload⟩ | ⟨-, hload⟩
    · rw [hload]
      exact exists_checked_eq_error (h s hread)
    · exact hload
  refine ⟨fault, ?_⟩
  rw [settings, hload]
  rfl

end Config

/-! ### Outcomes -/

/-- The script of a run, if it can be read; there need not be one. -/
def script? (here : Place) (script : Option String) (d : Disk) : Option (Option (List Char)) :=
  match script with
  | none => some none
  | some path => (scriptText path (d.find? here path)).toOption.map some

/-- Where the history goes, if it is to be kept and its file can be extended or made. -/
def historyPlace? (here : Place) (s : HistorySettings) (d : Disk) : Option Place :=
  if s.enabled then d.filePlace? here s.path else none

/-- A run that has ended before it wrote anything.  No file has changed but the log. -/
structure Ended (code : Nat) (log : Option Place) (d : Disk) (r : RunResult) : Prop where
  code_eq : r.code = code
  screen_eq : r.screen = []
  sameBut : Disk.SameBut log d r.disk

/-- A run that has taken the turns `turns` and kept its history at `place`, if that is a place.  No other file has
changed but the log. -/
structure Conversed (s : Settings) (place log : Option Place) (d : Disk) (turns : List Turn) (r : RunResult) :
    Prop where
  code_eq : r.code = 0
  screen_eq : (s.history.enabled = true → place ≠ none) →
    r.screen = utf8 (s.prompt ++ transcript s.prompt Session.new turns).toList
  noticed : s.history.enabled = true → place = none →
    ∃ text, Noticed s.prompt turns text ∧ r.screen = utf8 text.toList
  file?_eq : ∀ other, log ≠ some other → r.disk.file? other =
    if place = some other ∧ turns ≠ [] then some ((d.file? other).getD [] ++ ended (turns.map (·.line)))
    else d.file? other

private theorem Ended.of_sameBut {code : Nat} {log : Option Place} {d e : Disk} {r : RunResult}
    (h : Ended code log e r) (hsame : Disk.SameBut log d e) : Ended code log d r where
  code_eq := h.code_eq
  screen_eq := h.screen_eq
  sameBut other hother := (h.sameBut other hother).trans (hsame other hother)

private theorem Conversed.of_sameBut {s : Settings} {place log : Option Place} {d e : Disk} {turns : List Turn}
    {r : RunResult} (h : Conversed s place log e turns r) (hsame : Disk.SameBut log d e) :
    Conversed s place log d turns r where
  code_eq := h.code_eq
  screen_eq := h.screen_eq
  noticed := h.noticed
  file?_eq other hother := by
    rw [h.file?_eq other hother, hsame other hother]

section Steps

variable {k : Conditions} {log : Log} {s : Settings} {w : World} {input : List Char}

private theorem historyPlace?_eq {here : Place} {h : HistorySettings} {d e : Disk} (hsame : d.SamePaths e) :
    historyPlace? here h e = historyPlace? here h d := by
  rw [historyPlace?, historyPlace?, hsame]

theorem leads_conclude (log : Log) (fault : Option Fault) (w : World) :
    Leads (conclude (machine k) log fault) w fun code w' =>
      code = (if fault.isSome then 1 else 0) ∧ Logged k log.file w w' := by
  cases fault with
  | none => exact leads_pure ⟨rfl, .refl w⟩
  | some f => exact .bind ((leads_log log (faultEntry f) w).mono fun _ _ h => leads_pure ⟨rfl, h⟩)

theorem leads_announce (log : Log) (s : HistorySettings) (w : World) :
    Leads (announce (machine k) log s) w fun _ w' => Logged k log.file w w' := by
  unfold announce
  split
  · exact leads_log log _ w
  · exact leads_pure (.refl w)

/-- Opening the log changes no other file. -/
theorem leads_openLog (v : Surroundings) (s : LogSettings) (w : World) :
    Leads (openLog (machine k) v s) w fun file w' =>
      w'.screen = w.screen ∧ Disk.SameBut (logPlace? k file w'.disk) w.disk w'.disk := by
  cases hfile : s.file with
  | none =>
    simp only [openLog, hfile]
    exact leads_pure ⟨rfl, fun _ _ => rfl⟩
  | some file =>
    simp only [openLog, hfile]
    have hmade := Disk.file?_makeDirectories w.disk k.here (Path.directory (Path.ofLog v.stateHome file))
    generalize Path.ofLog v.stateHome file = path at hmade ⊢
    refine .bind (leads_makeDirectories (.bind ?_))
    generalize w.disk.makeDirectories k.here (Path.directory path) = made at hmade ⊢
    cases hplace : made.filePlace? k.here path with
    | none => exact leads_extend_of_none hplace (leads_pure ⟨rfl, fun other _ => hmade other⟩)
    | some place =>
      refine leads_extend_of_some hplace (leads_pure ⟨rfl, fun other hother => ?_⟩)
      have hlog : logPlace? k (some path) (made.append place []) = some place :=
        (Disk.samePaths_append hplace [] k.here path).trans hplace
      have hne : other ≠ place := fun h => hother (by rw [h]; exact hlog)
      rw [Disk.file?_append _ (Disk.ne_nil_of_filePlace? hplace), if_neg hne, hmade]

theorem leads_readScript (log : Log) (script : Option String) (w : World) :
    Leads (readScript (machine k) log script) w fun text w' =>
      text.toOption = script? k.here script w.disk ∧ Logged k log.file w w' := by
  cases script with
  | none => exact leads_pure ⟨rfl, .refl w⟩
  | some path =>
    refine .bind (leads_find ?_)
    rw [script?]
    cases scriptText path (w.disk.find? k.here path) with
    | error f => exact leads_pure ⟨rfl, .refl w⟩
    | ok text => exact .bind ((leads_log log (scriptEntry path) w).mono fun _ _ h => leads_pure ⟨rfl, h⟩)

private theorem mirrors_console (hscreen : w.screen = []) : Mirrors k log.file s.history.path w (console s) w where
  limit_eq := rfl
  screen_eq := hscreen
  keeps := ⟨.refl _, fun other _ => by cases w.disk.filePlace? k.here s.history.path <;> rfl⟩

/-- The history file that a conversation leaves. -/
private theorem file?_kept_converse {script : Option (List Char)} {arrivals : List Arrival} {here : Place} {d : Disk}
    (h : arrivals.filterMap Arrival.line? = byteLines (utf8 input)) (other : Place) :
    (kept (d.filePlace? here s.history.path)
        (converse s script arrivals (d.filePlace? here s.history.path).isSome).console.handed d).file? other =
      if historyPlace? here s.history d = some other ∧ turns script input ≠ [] then
        some ((d.file? other).getD [] ++ ended ((turns script input).map (·.line)))
      else d.file? other := by
  cases henabled : s.history.enabled with
  | false =>
    rw [handed_converse_of_disabled h henabled, historyPlace?, henabled, if_neg]
    · cases d.filePlace? here s.history.path <;> rfl
    · exact fun hplace => nomatch hplace.1
  | true =>
    rw [historyPlace?, henabled, if_pos rfl]
    cases hplace : d.filePlace? here s.history.path with
    | none => exact (if_neg fun hplace => nomatch hplace.1).symm
    | some place =>
      obtain ⟨hlines, hbatches⟩ : (converse s script arrivals true).console.handed.flatMap (·.1) = _ ∧ _ :=
        handed_converse h henabled
      have hkeep := file?_keepHistory (Disk.ne_nil_of_filePlace? hplace) (fun batch hbatch => (hbatches batch hbatch).2)
        (fun batch hbatch => (hbatches batch hbatch).1) d other
      have hiff : other = place ∧ (turns script input).map (·.line) ≠ [] ↔
          some place = some other ∧ turns script input ≠ [] := by
        rw [Option.some.injEq, Ne, List.map_eq_nil_iff, eq_comm]
      rw [hlines] at hkeep
      simp only [hiff] at hkeep
      exact hkeep

/-- A conversation and the end of the run. -/
theorem leads_converse {script : Option (List Char)} (h : k.arrivals.filterMap Arrival.line? = byteLines (utf8 input))
    (hscreen : w.screen = []) :
    Leads (do conclude (machine k) log (← (machine k).converse log s script).fault) w fun code w' =>
      Conversed s (historyPlace? k.here s.history w.disk) (logPlace? k log.file w.disk) w.disk (turns script input)
        ⟨code, w'.screen, w'.disk⟩ := by
  have hsucceeds (henabled : s.history.enabled = true) :
      succeeds k s.history.path w = (historyPlace? k.here s.history w.disk).isSome := by
    rw [historyPlace?, if_pos henabled, World.succeeds]
  refine .bind ((follows_converse s script w (mirrors_console hscreen)).mono ?_)
  rintro p w' ⟨rfl, hmirrors⟩
  refine (leads_conclude log _ w').mono ?_
  rintro code w'' ⟨hcode, hlogged⟩
  have hdone := hmirrors.logged hlogged
  rw [fault_converse h] at hcode
  refine ⟨hcode, fun hplace => ?_, fun henabled hplace => ?_, fun other hother => ?_⟩
  · refine hdone.screen_eq.trans (written_converse h fun henabled => ?_)
    rw [hsucceeds henabled]
    exact Option.isSome_iff_ne_none.mpr (hplace henabled)
  · have hfails : succeeds k s.history.path w = false := by rw [hsucceeds henabled, hplace]; rfl
    rw [hfails] at hdone
    obtain ⟨text, htext, hwritten⟩ : ∃ text, Noticed s.prompt (turns script input) text ∧ _ = _ :=
      noticed_converse h henabled
    exact ⟨text, htext, hdone.screen_eq.trans hwritten⟩
  · exact (hdone.keeps.files_eq other hother).trans (file?_kept_converse h other)

theorem leads_proceed_of_none (log : Log) (s : Settings) {script : Option String}
    (hscript : script? k.here script w.disk = none) (hscreen : w.screen = []) :
    Leads (proceed (machine k) log s script) w fun code w' =>
      Ended 1 (logPlace? k log.file w.disk) w.disk ⟨code, w'.screen, w'.disk⟩ := by
  refine .bind ((leads_readScript log script w).mono ?_)
  rintro (f | text) w' ⟨hread, hlogged⟩
  · refine (leads_conclude log (some f) w').mono ?_
    rintro code w'' ⟨hcode, hlogged'⟩
    have hall := hlogged.trans hlogged'
    exact ⟨hcode, hall.screen_eq.trans hscreen, hall.sameBut⟩
  · rw [hscript] at hread
    cases hread

theorem leads_proceed_of_some (log : Log) (s : Settings) {script : Option String} {text : Option (List Char)}
    (hscript : script? k.here script w.disk = some text)
    (h : k.arrivals.filterMap Arrival.line? = byteLines (utf8 input)) (hscreen : w.screen = []) :
    Leads (proceed (machine k) log s script) w fun code w' =>
      Conversed s (historyPlace? k.here s.history w.disk) (logPlace? k log.file w.disk) w.disk (turns text input)
        ⟨code, w'.screen, w'.disk⟩ := by
  refine .bind ((leads_readScript log script w).mono ?_)
  rintro (f | text') w' ⟨hread, hlogged⟩
  · rw [hscript] at hread
    cases hread
  · rw [hscript] at hread
    cases hread
    refine (leads_converse h (hlogged.screen_eq.trans hscreen)).mono ?_
    intro code w'' hconversed
    rw [historyPlace?_eq hlogged.samePaths, logPlace?_eq hlogged.samePaths] at hconversed
    exact hconversed.of_sameBut hlogged.sameBut

/-- A log on the error stream leaves the disk alone. -/
theorem leads_refuse {packages : Packages} {v : Surroundings} (f : Fault) (w : World) :
    Leads (refuse (machine k) packages v f) w fun code w' =>
      code = (if (filter? packages v "warn").isSome then 1 else tornCode) ∧
        w'.screen = w.screen ∧ w'.disk = w.disk := by
  unfold refuse
  cases filter? packages v "warn" with
  | none => exact leads_pure ⟨rfl, rfl, rfl⟩
  | some passes =>
    refine .bind ?_
    unfold Machine.log
    split
    · exact .bind (leads_word (leads_complain (leads_pure ⟨rfl, rfl, rfl⟩)))
    · exact leads_pure (leads_pure ⟨rfl, rfl, rfl⟩)

end Steps

section Results

variable {α : Type} {w w' : World}

private theorem resultOf_bind {x : StateM World α} {a : α} (h : x.run w = (a, w')) (f : α → StateM World Nat) :
    World.resultOf (x >>= f) w = World.resultOf (f a) w' := by
  rw [World.resultOf, StateT.run_bind, h]
  rfl

private theorem resultOf_of_leads {x : StateM World Nat} {P : RunResult → Prop}
    (h : Leads x w fun code w' => P ⟨code, w'.screen, w'.disk⟩) : P (World.resultOf x w) :=
  h.run

variable {packages : Packages} {v : Surroundings} {k : Conditions} {args : List String} {flags : Flags} {d : Disk}

private theorem run_find (path : String) (d : Disk) :
    ((World.machine k).find path).run ⟨d, [], 0⟩ = (d.find? k.here path, ⟨d, [], 0⟩) :=
  rfl

private theorem run_of_refused {fault : SettingsFault}
    (hflags : packages.readArguments commandReference v.testFile args = .started flags)
    (hfault : settings packages.readSettings (flags.configPath v.configHome)
      (d.find? k.here (flags.configPath v.configHome)) flags = .error fault) :
    run packages v k args d = World.resultOf (refuse (World.machine k) packages v fault.fault) ⟨d, [], 0⟩ := by
  rw [run, program, hflags]
  refine (resultOf_bind (run_find _ d) _).trans ?_
  rw [hfault]

private theorem run_of_accepted {s : Settings}
    (hflags : packages.readArguments commandReference v.testFile args = .started flags)
    (hsettings : settings packages.readSettings (flags.configPath v.configHome)
      (d.find? k.here (flags.configPath v.configHome)) flags = .ok s) :
    run packages v k args d = World.resultOf (start (World.machine k) packages v s flags.script) ⟨d, [], 0⟩ := by
  rw [run, program, hflags]
  refine (resultOf_bind (run_find _ d) _).trans ?_
  rw [hsettings]

/-- A run with settings that are in order, once the log is there and has its first entry. -/
private theorem resultOf_start {s : Settings} {script file : Option String} {passes : LogFilter} {opened ready : World}
    (hlog : (openLog (World.machine k) v s.log).run w = (file, opened))
    (hfilter : filter? packages v s.log.level = some passes)
    (hready : ((announce (World.machine k) ⟨passes, file⟩ s.history).run opened).2 = ready) :
    World.resultOf (start (World.machine k) packages v s script) w =
      World.resultOf (proceed (World.machine k) ⟨passes, file⟩ s script) ready := by
  have hrun : (announce (World.machine k) ⟨passes, file⟩ s.history).run opened = ((), ready) := Prod.ext rfl hready
  rw [start, resultOf_bind hlog, hfilter]
  exact resultOf_bind hrun _

end Results

/-- Every run that is started: what its exit code, its screen and the files are.  The script is read after the log has
been opened and has its first entry, so it may be the log. -/
theorem run_outcome {packages : Packages} {w : Surroundings} {k : Conditions} {args : List String} {flags : Flags}
    {d : Disk} {r : RunResult}
    (hflags : packages.readArguments commandReference w.testFile args = .started flags)
    (hr : run packages w k args d = r) :
    let config := configOf packages.readSettings (d.find? k.here (flags.configPath w.configHome))
    ((∀ s, config = some s → ¬ Sound s) →
      r.code = (if (filter? packages w "warn").isSome then 1 else tornCode) ∧ r.screen = [] ∧ r.disk = d) ∧
    ∀ read s file opened, config = some read → Sound read → flags.applyTo read = s →
      (openLog (World.machine k) w s.log).run ⟨d, [], 0⟩ = (file, opened) →
      let log := logPlace? k file opened.disk
      (filter? packages w s.log.level = none → Ended tornCode log d r) ∧
      ∀ passes ready, filter? packages w s.log.level = some passes →
        ((announce (World.machine k) ⟨passes, file⟩ s.history).run opened).2 = ready →
        Disk.SameBut log d ready.disk ∧
        (script? k.here flags.script ready.disk = none → Ended 1 log d r) ∧
        ∀ script input, script? k.here flags.script ready.disk = some script →
          k.arrivals.filterMap Arrival.line? = byteLines (utf8 input) →
          Conversed s (historyPlace? k.here s.history ready.disk) log d (turns script input) r := by
  intro config
  subst hr
  refine ⟨fun hrefused => ?_, fun read s file opened hread hsound hs hlog => ?_⟩
  · obtain ⟨fault, hfault⟩ := exists_settings_eq_error hrefused (flags.configPath w.configHome) flags
    rw [run_of_refused hflags hfault]
    refine resultOf_of_leads (P := fun r => r.code = _ ∧ r.screen = [] ∧ r.disk = d) ?_
    exact leads_refuse fault.fault ⟨d, [], 0⟩
  · have hsettings : settings packages.readSettings (flags.configPath w.configHome)
        (d.find? k.here (flags.configPath w.configHome)) flags = .ok s :=
      (settings_of_sound hread hsound _ flags).trans (congrArg _ hs)
    have hopened := (leads_openLog (k := k) w s.log ⟨d, [], 0⟩).run
    rw [hlog] at hopened
    obtain ⟨hscreen, hsame⟩ := hopened
    rw [run_of_accepted hflags hsettings]
    refine ⟨fun htorn => ?_, fun passes ready hfilter hready => ?_⟩
    · rw [start, resultOf_bind hlog, htorn]
      exact ⟨rfl, hscreen, hsame⟩
    · have hannounced : Logged k file opened ready := hready ▸ (leads_announce ⟨passes, file⟩ s.history opened).run
      have hempty : ready.screen = [] := hannounced.screen_eq.trans hscreen
      have hplace : logPlace? k file ready.disk = logPlace? k file opened.disk := logPlace?_eq hannounced.samePaths
      have hbefore : Disk.SameBut (logPlace? k file opened.disk) d ready.disk := fun other hother =>
        (hannounced.sameBut other hother).trans (hsame other hother)
      rw [resultOf_start hlog hfilter hready]
      refine ⟨hbefore, fun hunread => ?_, fun script input hscript harrive => ?_⟩
      · have hended := resultOf_of_leads (leads_proceed_of_none ⟨passes, file⟩ s hunread hempty)
        exact (hplace ▸ hended).of_sameBut hbefore
      · have hconversed := resultOf_of_leads (leads_proceed_of_some ⟨passes, file⟩ s hscript harrive hempty)
        exact (hplace ▸ hconversed).of_sameBut hbefore

/-! ### Two runs -/

/-- A config whose level begins with a blank of three bytes. -/
def tornConfig : String :=
  "[logging]\nlevel = \"\u3000x=off\"\n"

/-- Readers that know two flags and one config.  A filter that begins with such a blank breaks them. -/
def samplePackages : Packages where
  readArguments _ _ args :=
    match args with
    | ["--script", path] => .started { script := some path }
    | ["--config", path] => .started { config := some path }
    | _ => .ended 2 [] []
  readSettings defaults text :=
    if text = tornConfig.toList then .ok { defaults with log := { defaults.log with level := "\u3000x=off" } }
    else .error "not a config"
  readFilter _ := .refused
  readLevel text :=
    if text.toList.head? = some '\u3000' then none
    else some fun entry => entry.severity = .error || entry.severity = .warning

def sampleSurroundings : Surroundings :=
  { configHome := "/config", stateHome := "/state" }

/-- A script whose only line has no end, and a history. -/
def scriptedDisk : Disk :=
  ⟨[(["s.txt"], .file (utf8 "ADD WAREHOUSE 1".toList)), (["command_history.txt"], .file (utf8 "FOO\n".toList))]⟩

def scriptedConditions : Conditions :=
  { arrivals := [.tick, .line (utf8 "LIST WAREHOUSES".toList), .tick] }

theorem run_outcome_scripted :
    ∃ r, run samplePackages sampleSurroundings scriptedConditions ["--script", "s.txt"] scriptedDisk = r ∧
      r.code = 0 ∧
      r.screen = utf8 ">ADD WAREHOUSE 1\n>WAREHOUSE #\t\t\tSTOCK LIMIT\n1\t\t\t\tInfinity\n\n>".toList ∧
      r.disk.file? ["command_history.txt"] = some (utf8 "FOO\nADD WAREHOUSE 1\nLIST WAREHOUSES\n".toList) := by
  let args := ["--script", "s.txt"]
  obtain ⟨r, hr⟩ : ∃ r, run samplePackages sampleSurroundings scriptedConditions args scriptedDisk = r := ⟨_, rfl⟩
  have hflags : samplePackages.readArguments commandReference sampleSurroundings.testFile args =
      .started { script := some "s.txt" } := rfl
  have hread : configOf samplePackages.readSettings (scriptedDisk.find? [] "/config/stockroom/config.toml") =
      some {} := by decide
  have hsound : Sound {} := by unfold Sound; decide
  obtain ⟨-, hstarted⟩ := run_outcome hflags hr
  obtain ⟨-, hready⟩ := hstarted {} {} none ⟨scriptedDisk, [], 0⟩ hread hsound rfl rfl
  obtain ⟨-, -, hconversed⟩ := hready _ ⟨scriptedDisk, [], 0⟩ rfl rfl
  have hdone := hconversed (some "ADD WAREHOUSE 1".toList) "LIST WAREHOUSES".toList (by decide) (by decide +kernel)
  have hplace : historyPlace? [] {} scriptedDisk = some ["command_history.txt"] := by decide
  refine ⟨r, hr, hdone.code_eq, ?_, ?_⟩
  · rw [hdone.screen_eq (by decide)]
    decide +kernel
  · rw [hdone.file?_eq _ nofun]
    decide +kernel

def tornDisk : Disk :=
  ⟨[(["c.toml"], .file (utf8 tornConfig.toList))]⟩

/-- A config that is not refused, no script and an empty input, and still the run ends with a code of its own. -/
theorem run_torn :
    ∃ s, configOf samplePackages.readSettings (tornDisk.find? [] "c.toml") = some s ∧ Sound s ∧
      samplePackages.readArguments commandReference sampleSurroundings.testFile ["--config", "c.toml"] =
        .started { config := some "c.toml" } ∧
      (run samplePackages sampleSurroundings {} ["--config", "c.toml"] tornDisk).code ≠ 0 ∧
      (run samplePackages sampleSurroundings {} ["--config", "c.toml"] tornDisk).screen = [] := by
  have hread : configOf samplePackages.readSettings (tornDisk.find? [] "c.toml") =
      some { log := { level := "\u3000x=off" } } := by decide +kernel
  refine ⟨_, hread, ?_, rfl, ?_, ?_⟩
  · unfold Sound
    decide
  · decide +kernel
  · decide +kernel

end Launch

end Stockroom
