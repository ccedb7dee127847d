import Manuscript.CommandLine.Session
import Manuscript.Proofs.Config.Agreement

/-!
# What a conversion comes to, and which files it reads

A conversion settles its configuration, reads the input and then the template, and comes to the
first of these that fails, or else to what converting the two texts comes to (`Comes`). That is its
outcome (`Comes.outcome`, `exists_comes`).
The log file is opened before. That leaves the tree as it was but for the log file (`opened_cases`),
so the conversion comes to what it would in the tree as it was found, unless it reads the log file
(`comes_opened_iff`).
-/

namespace Manuscript

/-! ### Reading texts -/

namespace FileTree

/-- A path leads to a file that holds a text: its bytes in UTF-8, with line breaks made alike. -/
def HoldsText (t : FileTree) (here : Location) (path text : String) : Prop :=
  ∃ data written, t.content? here (Path.ofText path) = some data ∧
    String.fromUTF8? data = some written ∧
    text = String.ofList (Text.normalizeBreaks written.toList)

/-- Why there is no text to be read where a path leads. -/
inductive ReadFails (t : FileTree) (here : Location) (path : String) : Fault → Prop
  | missing (absent : t.content? here (Path.ofText path) = none) :
      ReadFails t here path (.fileNotFound (Path.ofText path).text none)
  | undecodable {data : ByteArray} (present : t.content? here (Path.ofText path) = some data)
      (broken : String.fromUTF8? data = none) :
      ReadFails t here path (.fileAccess (Path.ofText path).text
        (some s!"Cannot decode {(Path.ofText path).text} as utf-8: {detail}"))

section Read

variable {t u : FileTree} {log here : Location} {path text text' : String} {f f' : Fault}

theorem HoldsText.unique (h : t.HoldsText here path text) (h' : t.HoldsText here path text') :
    text = text' := by
  obtain ⟨data, written, hdata, hwritten, rfl⟩ := h
  obtain ⟨data', written', hdata', hwritten', rfl⟩ := h'
  obtain rfl := Option.some.inj (hdata.symm.trans hdata')
  rw [Option.some.inj (hwritten.symm.trans hwritten')]

/-- The text of a file is read, or reading it fails. -/
theorem readText_cases (t : FileTree) (here : Location) (path : String) :
    (∃ text, t.HoldsText here path text ∧
        (t.readText here (Path.ofText path)).outcome = .ok text) ∨
      ∃ f, t.ReadFails here path f ∧
        (t.readText here (Path.ofText path)).outcome = .error (.fault f) := by
  unfold readText textOfBytes?
  cases hdata : t.content? here (Path.ofText path) with
  | none => exact .inr ⟨_, .missing hdata, rfl⟩
  | some data =>
    dsimp only
    cases hwritten : String.fromUTF8? data with
    | none => exact .inr ⟨_, .undecodable hdata hwritten, rfl⟩
    | some written => exact .inl ⟨_, ⟨data, written, hdata, hwritten, rfl⟩, rfl⟩

theorem HoldsText.not_readFails (h : t.HoldsText here path text) : ¬ t.ReadFails here path f := by
  obtain ⟨data, written, hdata, hwritten, -⟩ := h
  rintro (habsent | ⟨hpresent, hbroken⟩)
  · cases hdata.symm.trans habsent
  · obtain rfl := Option.some.inj (hdata.symm.trans hpresent)
    cases hwritten.symm.trans hbroken

theorem ReadFails.unique (h : t.ReadFails here path f) (h' : t.ReadFails here path f') :
    f = f' := by
  cases h with
  | missing habsent =>
    cases h' with
    | missing _ => rfl
    | undecodable hpresent _ => cases habsent.symm.trans hpresent
  | undecodable hpresent _ =>
    cases h' with
    | missing habsent => cases habsent.symm.trans hpresent
    | undecodable _ _ => rfl

theorem readText_of_holdsText (h : t.HoldsText here path text) :
    (t.readText here (Path.ofText path)).outcome = .ok text := by
  obtain ⟨text', htext', hread⟩ | ⟨f, hf, -⟩ := readText_cases t here path
  · rw [h.unique htext', hread]
  · exact absurd hf h.not_readFails

theorem readText_of_readFails (h : t.ReadFails here path f) :
    (t.readText here (Path.ofText path)).outcome = .error (.fault f) := by
  obtain ⟨text, htext, -⟩ | ⟨f', hf', hread⟩ := readText_cases t here path
  · exact absurd h htext.not_readFails
  · rw [h.unique hf', hread]

namespace AgreeBut

theorem holdsText (h : AgreeBut log t u) (hpath : u.locate? here (Path.ofText path) ≠ some log)
    (htext : u.HoldsText here path text) : t.HoldsText here path text := by
  unfold HoldsText
  rw [← h.content?_eq hpath]
  exact htext

theorem readFails (h : AgreeBut log t u) (hpath : u.locate? here (Path.ofText path) ≠ some log)
    (hfails : u.ReadFails here path f) : t.ReadFails here path f := by
  have hcontent := h.content?_eq hpath
  cases hfails with
  | missing habsent => exact .missing (hcontent.symm.trans habsent)
  | undecodable hpresent hbroken => exact .undecodable (hcontent.symm.trans hpresent) hbroken

end AgreeBut

end Read

end FileTree

/-! ### What a conversion comes to -/

/-- The job of converting a text into a filled template, with the options of a configuration. -/
def Config.job (config : Config) (host : Host) (markdown template : String) : Job where
  markdown := markdown
  template := template
  parserOptions := some (.parser config.parser)
  rendererOptions := some (.renderer config.renderer)
  strict := config.template.strict.truthy
  host := host

namespace CommandLine

open FileTree

/-- The configuration of a conversion. -/
def Surroundings.configuration (s : Surroundings) : Outcome Config :=
  (Config.discovered s.tree s.here s.environment s.here).outcome

/-- **What a conversion comes to**: the first step that fails tells, or the conversion of the texts
that were read. -/
inductive Comes (s : Surroundings) (input : String) : Option String → Outcome String → Prop
  | unconfigured {template : Option String} {e : Failure} (failed : s.configuration = .error e) :
      Comes s input template (.error e)
  | unread {template : Option String} {config : Config} {f : Fault}
      (configured : s.configuration = .ok config) (failed : s.tree.ReadFails s.here input f) :
      Comes s input template (.error (.fault f))
  | unnamed {config : Config} {markdown : String} (configured : s.configuration = .ok config)
      (read : s.tree.HoldsText s.here input markdown) :
      Comes s input none (.error (.breakdown .wrongType))
  | unfilled {config : Config} {markdown name : String} {f : Fault}
      (configured : s.configuration = .ok config) (read : s.tree.HoldsText s.here input markdown)
      (failed : s.tree.ReadFails s.here name f) : Comes s input (some name) (.error (.fault f))
  | converted {config : Config} {markdown name template : String}
      (configured : s.configuration = .ok config) (read : s.tree.HoldsText s.here input markdown)
      (filled : s.tree.HoldsText s.here name template) :
      Comes s input (some name) (config.job s.host markdown template).run.outcome

/-- A file is read by a conversion: for its configuration, or as the input or the template if the
steps before succeed. -/
inductive Reads (s : Surroundings) (input : String) (template : Option String) (loc : Location) :
    Prop
  | configuration (read : Config.ReadsConfig s.tree s.here s.environment s.here loc)
  | input {config : Config} (configured : s.configuration = .ok config)
      (located : s.tree.locate? s.here (Path.ofText input) = some loc)
  | template {config : Config} {markdown name : String} (configured : s.configuration = .ok config)
      (read : s.tree.HoldsText s.here input markdown) (named : template = some name)
      (located : s.tree.locate? s.here (Path.ofText name) = some loc)

section Conversion

variable {s : Surroundings} {input : String} {template : Option String} {r r' : Outcome String}
  {log : Location} {u : FileTree}

theorem conversion_outcome (s : Surroundings) (input : String) (template : Option String) :
    (conversion s input template).outcome = s.configuration >>= fun config =>
      (s.tree.readText s.here (Path.ofText input)).outcome >>= fun markdown =>
      (Job.templateText s.tree s.here template).outcome >>= fun filling =>
      (config.job s.host markdown filling).run.outcome := by
  simp only [conversion, Job.runOnFiles, Run.outcome_bind]
  rfl

theorem Comes.outcome (h : Comes s input template r) :
    (conversion s input template).outcome = r := by
  rw [conversion_outcome]
  cases h with
  | unconfigured hconfig => rw [hconfig]; rfl
  | unread hconfig hfails => rw [hconfig, readText_of_readFails hfails]; rfl
  | unnamed hconfig hread => rw [hconfig, readText_of_holdsText hread]; rfl
  | @unfilled _ _ name _ hconfig hread hfails =>
    have htemplate : (Job.templateText s.tree s.here (some name)).outcome = _ :=
      readText_of_readFails hfails
    rw [hconfig, readText_of_holdsText hread, htemplate]
    rfl
  | @converted _ _ name _ hconfig hread hfilled =>
    have htemplate : (Job.templateText s.tree s.here (some name)).outcome = _ :=
      readText_of_holdsText hfilled
    rw [hconfig, readText_of_holdsText hread, htemplate]
    rfl

theorem exists_comes (s : Surroundings) (input : String) (template : Option String) :
    ∃ r, Comes s input template r := by
  cases hconfig : s.configuration with
  | error e => exact ⟨_, .unconfigured hconfig⟩
  | ok config =>
    obtain ⟨markdown, hread, -⟩ | ⟨f, hfails, -⟩ := readText_cases s.tree s.here input
    · cases template with
      | none => exact ⟨_, .unnamed hconfig hread⟩
      | some name =>
        obtain ⟨filling, hfilled, -⟩ | ⟨f, hfails, -⟩ := readText_cases s.tree s.here name
        · exact ⟨_, .converted hconfig hread hfilled⟩
        · exact ⟨_, .unfilled hconfig hread hfails⟩
    · exact ⟨_, .unread hconfig hfails⟩

theorem Comes.unique (h : Comes s input template r) (h' : Comes s input template r') : r = r' :=
  h.outcome.symm.trans h'.outcome

/-- A conversion that comes to a text has converted the texts of two files. -/
theorem Comes.of_ok {text : String} (h : Comes s input template (.ok text)) :
    ∃ config markdown name filling, s.configuration = .ok config ∧
      s.tree.HoldsText s.here input markdown ∧ template = some name ∧
      s.tree.HoldsText s.here name filling ∧
      (config.job s.host markdown filling).run.outcome = .ok text := by
  generalize hr : (Except.ok text : Outcome String) = r at h
  cases h with
  | converted hok hread hfilled => exact ⟨_, _, _, _, hok, hread, rfl, hfilled, rfl⟩
  | _ => cases hr

/-- A conversion comes to the same where the tree agrees but for a file that it does not read. -/
theorem Comes.of_agreeBut (h : AgreeBut log s.tree u)
    (hlog : ¬ Reads { s with tree := u } input template log)
    (hcomes : Comes { s with tree := u } input template r) : Comes s input template r := by
  have hconfig : Surroundings.configuration { s with tree := u } = s.configuration :=
    Config.discovered_congr h fun hread => hlog (.configuration hread)
  have hinput : ∀ config, Surroundings.configuration { s with tree := u } = .ok config →
      u.locate? s.here (Path.ofText input) ≠ some log :=
    fun config hok hlocated => hlog (.input hok hlocated)
  cases hcomes with
  | unconfigured hfailed => exact .unconfigured (hconfig.symm.trans hfailed)
  | unread hok hfails =>
    exact .unread (hconfig.symm.trans hok) (h.readFails (hinput _ hok) hfails)
  | unnamed hok hread =>
    exact .unnamed (hconfig.symm.trans hok) (h.holdsText (hinput _ hok) hread)
  | unfilled hok hread hfails =>
    refine .unfilled (hconfig.symm.trans hok) (h.holdsText (hinput _ hok) hread) ?_
    exact h.readFails (fun hlocated => hlog (.template hok hread rfl hlocated)) hfails
  | converted hok hread hfilled =>
    refine .converted (hconfig.symm.trans hok) (h.holdsText (hinput _ hok) hread) ?_
    exact h.holdsText (fun hlocated => hlog (.template hok hread rfl hlocated)) hfilled

end Conversion

/-! ### Opening the log -/

/-- A file is the log file that the environment asks for, and can be written. -/
def LogsTo (s : Surroundings) (log : Location) : Prop :=
  ∃ name, s.environment.value? LogSettings.fileVariable = some name ∧
    log = s.here.follow (Path.ofText name) ∧ s.tree.canWrite log = true

/-- The surroundings once the log is open. -/
def Surroundings.opened (s : Surroundings) : Surroundings :=
  { s with tree := Emission.store s.tree (LogRoot.configured s.clock s.tree s.here
      (LogSettings.ofEnvironment s.environment)).2 }

section Opening

variable {s : Surroundings} {input : String} {template : Option String} {r : Outcome String}
  {t : FileTree} {log : Location}

theorem store_of_errors {es : List Emission} (hes : ∀ e ∈ es, e.sink = .errors) (t : FileTree) :
    Emission.store t es = t := by
  induction es with
  | nil => rfl
  | cons e es ih =>
    obtain ⟨sink, text⟩ := e
    obtain rfl : sink = .errors := hes _ List.mem_cons_self
    exact ih fun e he => hes e (List.mem_cons_of_mem _ he)

/-- What goes to the error stream and to one file leaves a tree as it was but for that file. -/
theorem store_cases {es : List Emission} (hes : ∀ e ∈ es, e.sink = .errors ∨ e.sink = .file log)
    (hlog : t.isFolder log = false) :
    Emission.store t es = t ∨ AgreeBut log t (Emission.store t es) := by
  induction es generalizing t with
  | nil => exact .inl rfl
  | cons e es ih =>
    obtain ⟨sink, text⟩ := e
    have hrest : ∀ e ∈ es, e.sink = .errors ∨ e.sink = .file log :=
      fun e he => hes e (List.mem_cons_of_mem _ he)
    obtain rfl | rfl : sink = .errors ∨ sink = .file log := hes _ List.mem_cons_self
    · exact ih hrest hlog
    · have hfirst := agreeBut_append hlog text.toUTF8
      have hstored : Emission.store t (⟨.file log, text⟩ :: es) =
          Emission.store (t.append log text.toUTF8) es := rfl
      rw [hstored]
      obtain hsame | hagree := ih hrest (isFolder_eq_false_of_contentAt? hfirst.isFile)
      · rw [hsame]
        exact .inr hfirst
      · exact .inr (hfirst.trans hagree)

/-- A record goes to the sinks of the handlers, or to the error stream. -/
theorem sink_of_mem_emit (allowed : Sink → Prop) {root : LogRoot} (herrors : allowed .errors)
    (hhandlers : ∀ handler ∈ root.handlers, allowed handler.sink) {clock : String} {rec : Record}
    {e : Emission} (he : e ∈ root.emit clock rec) : allowed e.sink := by
  unfold LogRoot.emit at he
  split_ifs at he
  · cases he
  · obtain rfl := List.mem_singleton.mp he
    exact herrors
  · cases he
  · obtain ⟨handler, hmem, rfl⟩ := List.mem_map.mp he
    exact hhandlers handler (List.mem_of_mem_filter hmem)

/-- What is logged when the log is opened goes to the error stream, or to the log file as well. -/
theorem configured_cases (s : Surroundings) (settings : LogSettings) :
    (∀ e ∈ (LogRoot.configured s.clock s.tree s.here settings).2, e.sink = .errors) ∨
      ∃ name, settings.file = some name ∧
        s.tree.canWrite (s.here.follow (Path.ofText name)) = true ∧
        ∀ e ∈ (LogRoot.configured s.clock s.tree s.here settings).2,
          e.sink = .errors ∨ e.sink = .file (s.here.follow (Path.ofText name)) := by
  unfold LogRoot.configured
  cases hname : settings.file.filter fun name => !name.isEmpty with
  | none => exact .inl (by simp)
  | some name =>
    have hfile : settings.file = some name := (Option.filter_eq_some_iff.mp hname).1
    dsimp only
    split_ifs with hwrite
    · refine .inr ⟨name, hfile, hwrite, fun e he => ?_⟩
      obtain rfl | he := List.mem_cons.mp he
      · exact .inr rfl
      · refine sink_of_mem_emit (fun k => k = .errors ∨ k = .file _) (.inl rfl)
          (fun handler hmem => ?_) he
        obtain rfl | rfl : handler = ⟨.errors, settings.threshold, settings.layout⟩ ∨
            handler = ⟨.file (s.here.follow (Path.ofText name)), settings.threshold,
              settings.layout⟩ := by
          simpa [LogRoot.withFile, LogRoot.console] using hmem
        · exact .inl rfl
        · exact .inr rfl
    · refine .inl fun e he => sink_of_mem_emit (· = .errors) rfl (fun handler hmem => ?_) he
      obtain rfl := List.mem_singleton.mp hmem
      rfl

/-- **Opening the log leaves the tree as it was**, but for the log file. -/
theorem opened_cases (s : Surroundings) :
    s.opened.tree = s.tree ∨ ∃ log, LogsTo s log ∧ AgreeBut log s.tree s.opened.tree := by
  obtain herrors | ⟨name, hname, hwrite, hsinks⟩ :=
    configured_cases s (LogSettings.ofEnvironment s.environment)
  · exact .inl (store_of_errors herrors s.tree)
  · have hfolder : s.tree.isFolder (s.here.follow (Path.ofText name)) = false := by
      simpa using (Bool.and_eq_true_iff.mp hwrite).2
    obtain hsame | hagree := store_cases hsinks hfolder
    · exact .inl hsame
    · exact .inr ⟨_, ⟨name, hname, rfl, hwrite⟩, hagree⟩

/-- **Opening the log does not change what a conversion comes to**, unless it reads the log file. -/
theorem comes_opened_iff (hlog : ∀ log, LogsTo s log → ¬ Reads s.opened input template log) :
    Comes s.opened input template r ↔ Comes s input template r := by
  have hforward : ∀ {r}, Comes s.opened input template r → Comes s input template r := by
    intro r hcomes
    obtain hsame | ⟨log, hlogs, hagree⟩ := opened_cases s
    · have hs : s.opened = s := congrArg (fun t => { s with tree := t }) hsame
      rwa [hs] at hcomes
    · exact hcomes.of_agreeBut hagree (hlog log hlogs)
  refine ⟨hforward, fun hcomes => ?_⟩
  obtain ⟨r', hr'⟩ := exists_comes s.opened input template
  rwa [hcomes.unique (hforward hr')]

end Opening

end CommandLine

end Manuscript
