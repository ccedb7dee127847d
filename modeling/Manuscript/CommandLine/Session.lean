import Manuscript.CommandLine.Arguments
import Manuscript.Config.Build
import Manuscript.Convert
import Manuscript.Logging.Root

/-!
One run of the command. The text of the filled template goes to the output and nothing else does;
log records and the message of a fault go to the error stream, and the family of the fault is the
exit code.
-/

namespace Manuscript

namespace Job

/-- What is logged before two files are read; a template that is not named shows as an empty list.
-/
def filesRecord (input : String) (template : Option String) : Record :=
  let shown := template.getD "[]"
  .debug .conversion s!"Converting {input} with template {shown}"

/-- The text of the template that a path leads to; without a path there is none. -/
def templateText (t : FileTree) (here : Location) : Option String → Run String
  | some s => t.readText here (Path.ofText s)
  | none => Run.fail (.breakdown .wrongType)

/-- Converts the files that two paths lead to. -/
def runOnFiles (t : FileTree) (here : Location) (input : String) (template : Option String)
    (parserOptions rendererOptions : Option AnyOptions) (strict : Bool)
    (host : Host := .complete) : Run String := do
  Run.write (filesRecord input template)
  let markdown ← t.readText here (Path.ofText input)
  let template ← templateText t here template
  Job.run { markdown, template, parserOptions, rendererOptions, strict, host }

end Job

namespace CommandLine

/-- Where and when a command is run. -/
structure Surroundings where
  tree : FileTree
  here : Location
  environment : Environment
  /-- the time that log lines show -/
  clock : String
  host : Host := .complete

/-- What a run of the command leaves. A failure that is no fault has no exit code. -/
structure Reply where
  exit : Outcome Nat
  output : String := ""
  emissions : List Emission := []

namespace Reply

def errors (r : Reply) : String := Emission.errorText r.emissions

end Reply

/-- The conversion that a command asks for, under the configuration that is found. -/
def conversion (s : Surroundings) (input : String) (template : Option String) : Run String := do
  let config ← Config.discovered s.tree s.here s.environment s.here
  Job.runOnFiles s.tree s.here input template (some (.parser config.parser))
    (some (.renderer config.renderer)) config.template.strict.truthy s.host

def failureRecord : Record := .debug .commandLine "Conversion failed"

def faultText (f : Fault) : String := s!"Error: {f.report}\n"

/-- Converts a file and reports how it went. -/
def convert (s : Surroundings) (input : String) (template : Option String) : Reply :=
  let (root, opening) :=
    LogRoot.configured s.clock s.tree s.here (LogSettings.ofEnvironment s.environment)
  let run := conversion { s with tree := Emission.store s.tree opening } input template
  let logged := opening ++ root.emitAll s.clock run.log
  match run.outcome with
  | .ok text => { exit := .ok 0, output := text ++ "\n", emissions := logged }
  | .error (.fault f) =>
    { exit := .ok f.kind.exitCode
      emissions := logged ++ root.emit s.clock failureRecord ++ [⟨.errors, faultText f⟩] }
  | .error e => { exit := .error e, emissions := logged }

/-- The exit code for a command line that cannot be understood. -/
def misuseCode : Nat := 2

def run (s : Surroundings) (args : List String) : Reply :=
  match Request.ofArguments args with
  | .help => { exit := .ok 0, output := helpText }
  | .misuse m => { exit := .ok misuseCode, emissions := [⟨.errors, m.report⟩] }
  | .convert input template => convert s input template

end CommandLine

end Manuscript
