import Manuscript.Proofs.CommandLine.Reads
import Manuscript.Proofs.Conversion.Body

/-!
# What goes to the output, and with which exit code

A run of the command that is asked for a conversion answers with what the conversion comes to once
the log is open (`run_cases`): only a text goes to the output, a fault goes to the error stream and
decides the exit code by its family (`isExitCode_exitCode`), and what is no fault escapes. Unless
the log file is read, that is what the conversion comes to in the tree as it was found
(`output_only_on_success`).
-/

namespace Manuscript

/-! ### Exit codes -/

namespace FaultKind

def familyCodes : List (FaultKind × ℕ) :=
  [(.dependency, 2), (.validation, 3), (.file, 4), (.parsing, 6), (.rendering, 7), (.template, 11)]

/-- A number is the exit code for a kind: that of its family, or one if it is in no family. -/
structure IsExitCode (kind : FaultKind) (code : ℕ) : Prop where
  ofFamily : ∀ p ∈ familyCodes, Within p.1 kind → code = p.2
  otherwise : (∀ p ∈ familyCodes, ¬ Within p.1 kind) → code = 1

/-- **The exit code for a kind** is that of its family. -/
theorem isExitCode_exitCode (kind : FaultKind) : IsExitCode kind kind.exitCode := by
  constructor <;> unfold Within <;> cases kind <;> decide +kernel

theorem exitCode_ne_zero (kind : FaultKind) : kind.exitCode ≠ 0 := by
  unfold exitCode
  dsimp only
  split_ifs <;> decide

end FaultKind

namespace CommandLine

open FileTree

variable {s : Surroundings} {args : List String} {input : String} {template : Option String}

/-! ### Answers -/

theorem errorText_append (es es' : List Emission) :
    Emission.errorText (es ++ es') = Emission.errorText es ++ Emission.errorText es' := by
  simp only [Emission.errorText, List.filter_append, List.map_append, String.join_append]

/-- **What the command answers**, by what the conversion comes to once the log is open. -/
inductive Answers (reply : Reply) : Outcome String → Prop
  | success {text : String} (exit : reply.exit = .ok 0) (output : reply.output = text ++ "\n") :
      Answers reply (.ok text)
  | fault {f : Fault} {before : String} (exit : reply.exit = .ok f.kind.exitCode)
      (output : reply.output = "") (errors : reply.errors = before ++ faultText f) :
      Answers reply (.error (.fault f))
  | escape {e : Failure} (noFault : ∀ f, e ≠ .fault f) (exit : reply.exit = .error e)
      (output : reply.output = "") : Answers reply (.error e)

/-- **A run answers with what the conversion comes to** once the log is open. -/
theorem run_answers (h : Request.ofArguments args = .convert input template) :
    Answers (run s args) (conversion s.opened input template).outcome := by
  have hrun : run s args = convert s input template := by rw [run, h]
  have hopened : conversion s.opened input template = conversion { s with
    tree := Emission.store s.tree (LogRoot.configured s.clock s.tree s.here
      (LogSettings.ofEnvironment s.environment)).2 } input template := rfl
  rw [hrun, hopened, convert]
  dsimp only
  cases (conversion { s with tree := _ } input template).outcome with
  | ok text => exact .success rfl rfl
  | error e =>
    cases e with
    | fault f => exact .fault rfl rfl (errorText_append _ _)
    | rejection r => exact .escape (by simp) rfl rfl
    | breakdown b => exact .escape (by simp) rfl rfl

/-- **The output is written on success only**, if the log file is not read. Exit code zero means
that the texts of both files were converted under the configuration that was found, and the result
is the output. A fault, wherever it comes up, leaves the output empty, ends the error stream with
its message, and sets the exit code of its family. With any other failure the output is empty too.
-/
theorem output_only_on_success (h : Request.ofArguments args = .convert input template)
    (hlog : ∀ log, LogsTo s log → ¬ Reads s.opened input template log) :
    ((run s args).output ≠ "" → (run s args).exit = .ok 0) ∧
    ((run s args).exit = .ok 0 → ∃ config markdown name filling text,
      s.configuration = .ok config ∧ s.tree.HoldsText s.here input markdown ∧
      template = some name ∧ s.tree.HoldsText s.here name filling ∧
      (config.job s.host markdown filling).run.outcome = .ok text ∧
      (run s args).output = text ++ "\n") ∧
    (∀ text, Comes s input template (.ok text) →
      (run s args).exit = .ok 0 ∧ (run s args).output = text ++ "\n") ∧
    (∀ f, Comes s input template (.error (.fault f)) → (run s args).output = "" ∧
      (∃ before, (run s args).errors = before ++ ("Error: " ++ f.report ++ "\n")) ∧
      ∃ code, (run s args).exit = .ok code ∧ f.kind.IsExitCode code) ∧
    ∀ e, (run s args).exit = .error e → (run s args).output = "" := by
  have hanswers : ∀ {r}, Comes s input template r → Answers (run s args) r := by
    intro r hr
    rw [← ((comes_opened_iff hlog).mpr hr).outcome]
    exact run_answers h
  obtain ⟨r, hr⟩ := exists_comes s input template
  refine ⟨fun hne => ?_, fun hzero => ?_, fun text htext => ?_, fun f hf => ?_, fun e he => ?_⟩
  · cases hanswers hr with
    | success hexit _ => exact hexit
    | fault _ hempty _ => exact absurd hempty hne
    | escape _ _ hempty => exact absurd hempty hne
  · cases hanswers hr with
    | success _ houtput =>
      obtain ⟨config, markdown, name, filling, hok, hread, hname, hfilled, hrun⟩ := hr.of_ok
      exact ⟨config, markdown, name, filling, _, hok, hread, hname, hfilled, hrun, houtput⟩
    | fault hexit _ _ =>
      exact absurd (Except.ok.inj (hexit.symm.trans hzero)) (FaultKind.exitCode_ne_zero _)
    | escape _ hexit _ => cases hexit.symm.trans hzero
  · cases hanswers htext with
    | success hexit houtput => exact ⟨hexit, houtput⟩
  · cases hanswers hf with
    | fault hexit hempty herrors =>
      exact ⟨hempty, ⟨_, herrors⟩, _, hexit, f.kind.isExitCode_exitCode⟩
    | escape hno _ _ => exact absurd rfl (hno f)
  · cases hanswers hr with
    | success hexit _ => cases hexit.symm.trans he
    | fault hexit _ _ => cases hexit.symm.trans he
    | escape _ _ hempty => exact hempty

/-- A text, a template, and a log file that is not there yet. -/
def desk : Surroundings where
  tree := ⟨[([""], .folder), (["", "paper.md"], .file "---\n---\nhi\n".toUTF8),
    (["", "plain.tex"], .file "%body%".toUTF8)]⟩
  here := [""]
  environment := [("MD2LATEX_LOG_FILE", "run.log")]
  clock := ""

theorem logsTo_desk_iff {log : Location} : LogsTo desk log ↔ log = ["", "run.log"] := by
  constructor
  · rintro ⟨name, hname, rfl, -⟩
    obtain rfl : "run.log" = name := by
      have hvalue : desk.environment.value? LogSettings.fileVariable = some "run.log" := by decide
      exact Option.some.inj (hvalue.symm.trans hname)
    decide
  · rintro rfl
    exact ⟨"run.log", by decide, by decide, by decide⟩

theorem not_reads_desk :
    ¬ Reads desk.opened "paper.md" (some "plain.tex") ["", "run.log"] := by
  rintro (hread | ⟨-, hlocated⟩ | ⟨-, -, hname, hlocated⟩)
  · obtain ⟨p, -, name, hname, hlog⟩ := hread.liesAt (by decide)
    have hlast := congrArg List.getLast? hlog
    rw [List.getLast?_concat] at hlast
    obtain rfl : "run.log" = name := Option.some.inj hlast
    exact absurd (List.mem_of_getElem? hname) (by decide)
  · exact absurd hlocated (by decide)
  · obtain rfl := Option.some.inj hname
    exact absurd hlocated (by decide)

theorem run_desk_job :
    (Config.job {} .complete "---\n---\nhi\n" "%body%").run.outcome = .ok "hi" := by
  have hparse : (Markdown.parse {} "---\n---\nhi\n").outcome =
      .ok (.document [.frontMatter "" "yaml" [], .paragraph [.text "hi" []] []] []) := by
    have hfront : Markdown.frontBlock? {} (Markdown.dropMark "---\n---\nhi\n") =
        some ⟨"yaml", "", "hi\n"⟩ := by decide +kernel
    have hblocks : Markdown.blocks (Markdown.tokens {} "hi\n") =
        .ok [.paragraph [.text "hi" []] []] := rfl
    exact Markdown.parse_outcome_of_stages hfront hblocks
  have hextract : (Job.extracted (.document [.frontMatter "" "yaml" [],
      .paragraph [.text "hi" []] []] [])).outcome =
      .ok (.document [.paragraph [.text "hi" []] []] [], []) := rfl
  have hrender : (Latex.render {} (.document [.paragraph [.text "hi" []] []] [])).outcome =
      .ok "hi" := by
    rw [Latex.render_eq_meaning rfl _ (by decide +kernel)]
    simp only [@Latex.meaning_of_some {} "" (.document _ _) _ rfl,
      @Latex.meaning_of_some {} "" (.paragraph _ _) _ rfl,
      @Latex.meaning_of_none {} "" (.text _ _) rfl, Node.parts, List.mapM_cons, List.mapM_nil]
    rfl
  have hfill : (Template.fill "%body%" "hi" [] true).outcome = .ok "hi" := by
    have hsegments : Template.segments "%body%".toList = [.placeholder "body".toList] := by
      decide +kernel
    rw [Template.fill, hsegments]
    rfl
  have hparsed : (Config.job {} .complete "---\n---\nhi\n" "%body%").parsed.outcome = _ :=
    Job.parsed_complete rfl hparse rfl
  refine Run.bind_ok_iff.mpr ⟨_, hparsed, Run.bind_ok_iff.mpr ⟨_, hextract, ?_⟩⟩
  refine Run.bind_ok_iff.mpr ⟨_, hrender, Run.bind_ok_iff.mpr ⟨(), rfl, hfill⟩⟩

theorem comes_desk : Comes desk "paper.md" (some "plain.tex") (.ok "hi") := by
  have hconfig : desk.configuration = .ok {} := by
    have hfind : (Config.find? desk.tree [""]).outcome = .ok none := rfl
    have hdiscover :
        (Config.discover? desk.tree desk.environment desk.here).outcome = .ok none := by
      rw [Config.discover?_of_unnamed (by decide)]
      exact congrArg (Except.map _) hfind
    rw [Surroundings.configuration, Config.discovered_outcome, hdiscover]
    rfl
  rw [← run_desk_job]
  exact .converted hconfig ⟨_, _, rfl, Config.fromUTF8?_toUTF8 _, by decide⟩
    ⟨_, _, rfl, Config.fromUTF8?_toUTF8 _, by decide⟩

/-- A text is converted, and what is logged goes elsewhere. -/
theorem output_only_on_success_desk :
    Request.ofArguments ["paper.md", "plain.tex"] = .convert "paper.md" (some "plain.tex") ∧
      (∀ log, LogsTo desk log → ¬ Reads desk.opened "paper.md" (some "plain.tex") log) ∧
      (run desk ["paper.md", "plain.tex"]).exit = .ok 0 ∧
      (run desk ["paper.md", "plain.tex"]).output = "hi\n" := by
  have hargs : Request.ofArguments ["paper.md", "plain.tex"] =
      .convert "paper.md" (some "plain.tex") := by decide
  have hlog : ∀ log, LogsTo desk log → ¬ Reads desk.opened "paper.md" (some "plain.tex") log := by
    intro log hlogs
    obtain rfl := logsTo_desk_iff.mp hlogs
    exact not_reads_desk
  obtain ⟨-, -, hsuccess, -, -⟩ := output_only_on_success hargs hlog
  exact ⟨hargs, hlog, hsuccess "hi" comes_desk⟩

end CommandLine

end Manuscript
