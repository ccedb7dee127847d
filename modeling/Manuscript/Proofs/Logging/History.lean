import Manuscript.Logging.History
import Manuscript.Proofs.Files.Tree

/-!
# Records go where the last configuration sends them

However often the root is configured, it has one handler for the error stream and one for the log
file that the last configuration asks for, if that can be opened, all at the level that was set
last. So a record is written once to each of the two if it has that level at least, and to nothing
else: log files of earlier configurations stay as they are (`records_go_where_configured`).

A configuration sets up the root whatever it was before (`logsTo_of_settings`), and a record leaves
the root alone and the log file in its place (`LogsTo.next_of_record`). The rest is induction over
the records since the last configuration.
-/

namespace Manuscript

/-! ### Files that are added to -/

namespace FileTree

theorem contentAt?_append_self (t : FileTree) (loc : Location) (data : ByteArray) :
    (t.append loc data).contentAt? loc =
      some ((t.contentAt? loc).getD ByteArray.empty ++ data) := by
  rw [append, contentAt?, find?_put, if_pos rfl]

theorem find?_append_of_ne {loc other : Location} (h : other ≠ loc) (t : FileTree)
    (data : ByteArray) : (t.append loc data).find? other = t.find? other := by
  rw [append, find?_put, if_neg h]

end FileTree

/-! ### What settings ask for -/

namespace LogSettings

def logFile? (s : LogSettings) (t : FileTree) (here : Location) : Option Location :=
  ((s.file.filter fun name => !name.isEmpty).map fun name => here.follow (Path.ofText name)).filter
    t.canWrite

/-- Where records go: to the error stream, and to a log file if there is one. -/
def sinks (file : Option Location) : List Sink := .errors :: (file.map Sink.file).toList

/-- The root that has one handler for each of these. -/
def root (s : LogSettings) (file : Option Location) : LogRoot :=
  ⟨s.threshold, (sinks file).map fun sink => ⟨sink, s.threshold, s.layout⟩⟩

/-- What is written of a record: its line if it has the level, and otherwise nothing. -/
def shown (s : LogSettings) (clock : String) (rec : Record) : String :=
  if s.threshold.value ≤ rec.level then s.layout.line clock rec else ""

variable {s : LogSettings} {file : Option Location} {t : FileTree} {here loc : Location}
  {clock : String} {rec : Record}

theorem logFile?_eq_some_iff : s.logFile? t here = some loc ↔ ∃ name, s.file = some name ∧
    name ≠ "" ∧ loc = here.follow (Path.ofText name) ∧ t.canWrite loc = true := by
  simp only [logFile?, Option.filter_eq_some_iff, Option.map_eq_some_iff]
  constructor
  · rintro ⟨⟨name, ⟨hname, hne⟩, rfl⟩, hwrite⟩
    exact ⟨name, hname, by simpa using hne, rfl, hwrite⟩
  · rintro ⟨name, hname, hne, rfl, hwrite⟩
    exact ⟨⟨name, ⟨hname, by simpa using hne⟩, rfl⟩, hwrite⟩

/-- **What becomes of a record** at a root that has been set up. -/
theorem emit_root (s : LogSettings) (file : Option Location) (clock : String) (rec : Record) :
    (s.root file).emit clock rec = if 0 < rec.level ∧ s.threshold.value ≤ rec.level then
      (sinks file).map fun sink => ⟨sink, s.layout.line clock rec⟩ else [] := by
  have hadmits : (s.root file).admits rec.level = true ↔
      0 < rec.level ∧ s.threshold.value ≤ rec.level := by
    rw [LogRoot.admits, Bool.and_eq_true, decide_eq_true_iff]
    exact and_congr_right fun _ => decide_eq_true_iff
  have hhandlers : (s.root file).handlers.isEmpty = false := rfl
  by_cases hlevel : 0 < rec.level ∧ s.threshold.value ≤ rec.level
  · -- what the root admits, each handler admits too
    have hall : ∀ handler ∈ (s.root file).handlers, handler.threshold.admits rec.level = true := by
      intro handler hmem
      obtain ⟨sink, -, rfl⟩ := List.mem_map.mp hmem
      simpa [Threshold.admits] using hlevel.2
    rw [LogRoot.emit, hadmits.mpr hlevel, hhandlers, List.filter_eq_self.mpr hall, if_pos hlevel]
    exact List.map_map
  · rw [LogRoot.emit, Bool.eq_false_iff.mpr ((not_congr hadmits).mpr hlevel), if_neg hlevel]
    rfl

/-- **A configuration sets the root up**, whatever it was before. -/
theorem configured_root (s : LogSettings) (clock : String) (t : FileTree) (here : Location) :
    (LogRoot.configured clock t here s).1 = s.root (s.logFile? t here) := by
  unfold LogRoot.configured logFile?
  cases s.file.filter fun name => !name.isEmpty with
  | none => rfl
  | some name =>
    rw [Option.map_some, Option.filter_some]
    dsimp only
    cases t.canWrite (here.follow (Path.ofText name)) with
    | true => rfl
    | false => rfl

/-- A log file that can be opened is there from then on. -/
theorem configured_emissions (clock : String) (h : s.logFile? t here = some loc) :
    ∃ rec, (LogRoot.configured clock t here s).2 =
      ⟨.file loc, ""⟩ :: (s.root (some loc)).emit clock rec := by
  unfold logFile? at h
  unfold LogRoot.configured
  cases hname : s.file.filter fun name => !name.isEmpty with
  | none =>
    rw [hname] at h
    cases h
  | some name =>
    rw [hname, Option.map_some] at h
    obtain ⟨heq, hwrite⟩ := Option.filter_eq_some_iff.mp h
    obtain rfl := Option.some.inj heq
    dsimp only
    rw [if_pos hwrite]
    exact ⟨_, rfl⟩

/-! ### What reaches the sinks -/

theorem errorText_sinks (file : Option Location) (text : String) :
    Emission.errorText ((sinks file).map fun sink => ⟨sink, text⟩) = text := by
  cases file with
  | none => simp [sinks, Emission.errorText, String.join]
  | some loc => simp [sinks, Emission.errorText, String.join]

/-- The log file gets the text at its end, and no other file changes. -/
theorem store_sinks (t : FileTree) (file : Option Location) (text : String) :
    (∀ loc, file = some loc →
      (Emission.store t ((sinks file).map fun sink => ⟨sink, text⟩)).contentAt? loc =
        some ((t.contentAt? loc).getD ByteArray.empty ++ text.toUTF8)) ∧
    ∀ loc, file ≠ some loc →
      (Emission.store t ((sinks file).map fun sink => ⟨sink, text⟩)).find? loc = t.find? loc := by
  cases file with
  | none => exact ⟨fun loc h => absurd h (by simp), fun loc _ => rfl⟩
  | some log =>
    refine ⟨fun loc h => ?_, fun loc h => ?_⟩
    · obtain rfl := Option.some.inj h
      exact t.contentAt?_append_self log _
    · exact FileTree.find?_append_of_ne (fun heq => h (congrArg some heq.symm)) t _

end LogSettings

/-! ### The settings in force -/

namespace LogStep

def settings? : LogStep → Option LogSettings
  | configure level file trace => some ⟨.ofValue level, file, trace⟩
  | configureFrom env => some (.ofEnvironment env)
  | log _ => none

theorem effect_of_settings {step : LogStep} {s : LogSettings} (h : step.settings? = some s)
    (here : Location) (state : LogState) (clock : String) :
    step.effect here state clock = LogRoot.configured clock state.tree here s := by
  cases step with
  | configure level file trace =>
    obtain rfl := Option.some.inj h
    rfl
  | configureFrom env =>
    obtain rfl := Option.some.inj h
    rfl
  | log rec => cases h

end LogStep

namespace LogState

variable {here : Location} {state : LogState} {s : LogSettings} {file : Option Location}
  {clock : String}

/-- **A state logs to what settings ask for**: the root is set up for it, and the log file is there.
-/
structure LogsTo (s : LogSettings) (file : Option Location) (state : LogState) : Prop where
  root_eq : state.root = s.root file
  isFile : ∀ loc, file = some loc → (state.tree.contentAt? loc).isSome = true

/-- Writing a record keeps the log file. -/
theorem isFile_store {t : FileTree} (h : ∀ loc, file = some loc → (t.contentAt? loc).isSome = true)
    (rec : Record) (loc : Location) (hloc : file = some loc) :
    ((Emission.store t ((s.root file).emit clock rec)).contentAt? loc).isSome = true := by
  rw [LogSettings.emit_root]
  split
  · rw [(LogSettings.store_sinks t file _).1 loc hloc]
    rfl
  · exact h loc hloc

/-- **After a configuration records go where it sends them.** -/
theorem logsTo_of_settings {step : LogStep} (h : step.settings? = some s) (here : Location)
    (state : LogState) (clock : String) :
    LogsTo s (s.logFile? state.tree here) (step.next here state clock) := by
  unfold LogStep.next
  rw [LogStep.effect_of_settings h]
  refine ⟨LogSettings.configured_root s clock state.tree here, fun loc hloc => ?_⟩
  obtain ⟨rec, hemissions⟩ := LogSettings.configured_emissions clock hloc
  dsimp only
  rw [hemissions]
  -- the file is made first, and what is logged about it comes after
  refine isFile_store (t := state.tree.append loc "".toUTF8) (fun other hother => ?_) rec loc rfl
  obtain rfl := Option.some.inj hother
  rw [FileTree.contentAt?_append_self]
  rfl

namespace LogsTo

/-- A record leaves it at that. -/
theorem next_of_record (h : LogsTo s file state) {step : LogStep} (hstep : step.settings? = none)
    (clock : String) : LogsTo s file (step.next here state clock) := by
  cases step with
  | configure | configureFrom => cases hstep
  | log rec =>
    refine ⟨h.root_eq, fun loc hloc => ?_⟩
    show ((Emission.store state.tree (state.root.emit clock rec)).contentAt? loc).isSome = true
    rw [h.root_eq]
    exact isFile_store h.isFile rec loc hloc

theorem after (h : LogsTo s file state) (here : Location) {later : List (String × LogStep)}
    (hlater : ∀ p ∈ later, p.2.settings? = none) : LogsTo s file (state.after here later) := by
  induction later generalizing state with
  | nil => exact h
  | cons p later ih =>
    obtain ⟨hp, hrest⟩ := List.forall_mem_cons.mp hlater
    exact ih (h.next_of_record hp p.1) hrest

end LogsTo

/-! ### Any steps -/

/-- **The root is set up** with one handler for the error stream and one for the log file, if there
is one. It has the level, and so have both. -/
structure SetUp (root : LogRoot) (level : Threshold) (file : Option Location) : Prop where
  level_eq : root.threshold = level
  sinks_eq : root.handlers.map Handler.sink = .errors :: (file.map Sink.file).toList
  levels_eq : ∀ handler ∈ root.handlers, handler.threshold = level

/-- **A record is written once** to the error stream and to the log file, if there is one, or not at
all when its level is lower. No other file changes. -/
structure WritesOnce (here : Location) (state : LogState) (s : LogSettings) (file : Option Location)
    (clock : String) (rec : Record) : Prop where
  emissions_eq : ((LogStep.log rec).effect here state clock).2 =
    if s.threshold.value ≤ rec.level then
      (.errors :: (file.map Sink.file).toList).map fun sink => ⟨sink, s.layout.line clock rec⟩
    else []
  errors_eq : Emission.errorText ((LogStep.log rec).effect here state clock).2 = s.shown clock rec
  file_eq : ∀ loc, file = some loc → ∃ data, state.tree.contentAt? loc = some data ∧
    ((LogStep.log rec).next here state clock).tree.contentAt? loc =
      some (data ++ (s.shown clock rec).toUTF8)
  others_eq : ∀ loc, file ≠ some loc →
    ((LogStep.log rec).next here state clock).tree.find? loc = state.tree.find? loc

namespace LogsTo

theorem setUp (h : LogsTo s file state) : SetUp state.root s.threshold file := by
  rw [h.root_eq]
  refine ⟨rfl, ?_, fun handler hmem => ?_⟩
  · show List.map Handler.sink (List.map _ _) = _
    rw [List.map_map]
    exact List.map_id' _
  · obtain ⟨sink, -, rfl⟩ := List.mem_map.mp hmem
    rfl

theorem writesOnce (h : LogsTo s file state) (clock : String) {rec : Record}
    (hpositive : 0 < rec.level) : WritesOnce here state s file clock rec := by
  have hemit : ((LogStep.log rec).effect here state clock).2 =
      if s.threshold.value ≤ rec.level then
        (LogSettings.sinks file).map fun sink => ⟨sink, s.layout.line clock rec⟩ else [] := by
    show state.root.emit clock rec = _
    rw [h.root_eq, LogSettings.emit_root]
    simp only [hpositive, true_and]
  have htree : ((LogStep.log rec).next here state clock).tree = Emission.store state.tree
      ((LogStep.log rec).effect here state clock).2 := rfl
  rw [hemit] at htree
  refine ⟨hemit, ?_, fun loc hloc => ?_, fun loc hloc => ?_⟩
  · rw [hemit, LogSettings.shown]
    split
    · exact LogSettings.errorText_sinks file _
    · rfl
  · obtain ⟨data, hdata⟩ := Option.isSome_iff_exists.mp (h.isFile loc hloc)
    refine ⟨data, hdata, ?_⟩
    rw [htree, LogSettings.shown]
    split
    · rw [(LogSettings.store_sinks state.tree file _).1 loc hloc, hdata]
      rfl
    · show state.tree.contentAt? loc = _
      rw [hdata]
      simp
  · rw [htree]
    split
    · exact (LogSettings.store_sinks state.tree file _).2 loc hloc
    · rfl

end LogsTo

/-- **Records go where the last configuration sends them.** After a configuration, whatever came
before, and after the records since, the root has one handler for the error stream and one for the
log file that the configuration asks for if that can be opened, all at the level it resolves. A
further record of a positive level is written once to both if it has that level at least, and to
nothing else. -/
theorem records_go_where_configured (here : Location) (start : LogState)
    (before later : List (String × LogStep)) (time : String) {step : LogStep}
    (hstep : step.settings? = some s) (hlater : ∀ p ∈ later, p.2.settings? = none) :
    ∃ file : Option Location,
      (∀ loc, file = some loc ↔ ∃ name, s.file = some name ∧ name ≠ "" ∧
        loc = here.follow (Path.ofText name) ∧
        (start.after here before).tree.canWrite loc = true) ∧
      SetUp (start.after here (before ++ (time, step) :: later)).root s.threshold file ∧
      ∀ clock rec, 0 < rec.level →
        WritesOnce here (start.after here (before ++ (time, step) :: later)) s file clock rec := by
  have hlogs : LogsTo s (s.logFile? (start.after here before).tree here)
      (start.after here (before ++ (time, step) :: later)) := by
    have hafter := (logsTo_of_settings hstep here (start.after here before) time).after here hlater
    unfold LogState.after at hafter ⊢
    rwa [List.foldl_append, List.foldl_cons]
  exact ⟨_, fun loc => LogSettings.logFile?_eq_some_iff, hlogs.setUp,
    fun clock rec hpositive => hlogs.writesOnce clock hpositive⟩

/-- A second configuration at another level with another log file, and an error. -/
theorem records_go_where_configured_twice :
    (LogStep.configure (.str " error") (some "b.log") true).settings? =
        some ⟨.level 40, some "b.log", true⟩ ∧ (0 : Int) < Record.errorLevel ∧
      ((LogStep.log ⟨Record.errorLevel, .root, "no"⟩).effect [""]
        (LogState.after [""] { tree := ⟨[([""], .folder)]⟩ }
          [("1", .configure (.int 10) (some "a.log") false),
            ("2", .configure (.str " error") (some "b.log") true)]) "3").2 =
        [⟨.errors, "[3] [ERROR] [root] no\n"⟩,
          ⟨.file ["", "b.log"], "[3] [ERROR] [root] no\n"⟩] := by
  have hstep : (LogStep.configure (.str " error") (some "b.log") true).settings? =
      some ⟨.level 40, some "b.log", true⟩ := by
    have hlevel : Threshold.ofValue (.str " error") = .level 40 := by decide
    rw [LogStep.settings?, hlevel]
  have hpositive : (0 : Int) < Record.errorLevel := by decide
  obtain ⟨file, hfile, -, hwrites⟩ := records_go_where_configured [""]
    { tree := ⟨[([""], .folder)]⟩ } [("1", .configure (.int 10) (some "a.log") false)] [] "2"
    hstep (by simp)
  have hb : file = some ["", "b.log"] :=
    (hfile _).mpr ⟨"b.log", rfl, by decide, by decide, by decide⟩
  have hwritten := (hwrites "3" ⟨Record.errorLevel, .root, "no"⟩ hpositive).emissions_eq
  rw [hb] at hwritten
  exact ⟨hstep, hpositive, hwritten.trans (by decide)⟩

end LogState

end Manuscript
