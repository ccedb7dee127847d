import Manuscript.Config.Search
import Manuscript.Logging.Threshold

/-!
Where log records go. The root has a threshold and handlers, each with a sink, a threshold and a
layout of its own; configuring the root replaces all of them by one for the error stream and, if a
log file was asked for and can be opened, one for that file.
-/

namespace Manuscript

/-- How a record is laid out as a line. -/
inductive Layout where
  /-- the name of the level and the message -/
  | plain
  /-- the time and the channel too -/
  | trace
  deriving DecidableEq

namespace Layout

def pattern : Layout → String
  | plain => "%(levelname)s: %(message)s"
  | trace => "[%(asctime)s] [%(levelname)s] [%(name)s] %(message)s"

def timePattern : Layout → Option String
  | plain => none
  | trace => some "%Y-%m-%d %H:%M:%S"

def line (clock : String) (r : Record) : Layout → String
  | plain => s!"{Record.levelName r.level}: {r.message}\n"
  | trace => s!"[{clock}] [{Record.levelName r.level}] [{r.channel.name}] {r.message}\n"

end Layout

/-- Where lines are written to. -/
inductive Sink where
  | errors
  | file (loc : Location)
  deriving DecidableEq

/-- One way for records to leave. -/
structure Handler where
  sink : Sink
  threshold : Threshold
  layout : Layout
  deriving DecidableEq

/-- A piece of text that goes to a sink. -/
structure Emission where
  sink : Sink
  text : String
  deriving DecidableEq

namespace Emission

def errorText (es : List Emission) : String :=
  String.join ((es.filter fun e => e.sink == .errors).map Emission.text)

/-- Adds what goes to files to those files. -/
def store (t : FileTree) (es : List Emission) : FileTree :=
  es.foldl (fun t e => match e.sink with
    | .errors => t
    | .file loc => t.append loc e.text.toUTF8) t

end Emission

/-- The root of all channels. -/
structure LogRoot where
  threshold : Threshold := .level Record.warningLevel
  handlers : List Handler := []
  deriving DecidableEq

/-- What the root is configured with. -/
structure LogSettings where
  threshold : Threshold
  file : Option String := none
  trace : Bool := false

namespace LogSettings

def layout (s : LogSettings) : Layout := if s.trace then .trace else .plain

def levelVariable : String := "MD2LATEX_LOG_LEVEL"

def fileVariable : String := "MD2LATEX_LOG_FILE"

def ofEnvironment (env : Environment) : LogSettings :=
  let level := (env.value? levelVariable).getD "WARNING"
  ⟨.ofName level, env.value? fileVariable, Threshold.nameOf level == "DEBUG"⟩

end LogSettings

namespace LogRoot

def admits (r : LogRoot) (level : Int) : Bool := 0 < level && r.threshold.admits level

/-- What becomes of a record. Without handlers, warnings and above are written bare. -/
def emit (clock : String) (r : LogRoot) (rec : Record) : List Emission :=
  if !r.admits rec.level then []
  else if r.handlers.isEmpty then
    if Record.warningLevel ≤ rec.level then [⟨.errors, rec.message ++ "\n"⟩] else []
  else
    (r.handlers.filter fun h => h.threshold.admits rec.level).map fun h =>
      ⟨h.sink, h.layout.line clock rec⟩

def emitAll (clock : String) (r : LogRoot) (recs : List Record) : List Emission :=
  recs.flatMap (r.emit clock)

def openedRecord (name : String) : Record :=
  ⟨Record.infoLevel, .root, s!"Logging to file: {name}"⟩

/-- What is logged about a log file that cannot be opened. -/
def refusedRecord (name : String) : Record :=
  .warning .root s!"Could not create log file {name}: {detail}"

/-- The root with a handler for the error stream alone. -/
def console (s : LogSettings) : LogRoot := ⟨s.threshold, [⟨.errors, s.threshold, s.layout⟩]⟩

/-- The root with a second handler for a file. -/
def withFile (s : LogSettings) (loc : Location) : LogRoot :=
  { console s with handlers := (console s).handlers ++ [⟨.file loc, s.threshold, s.layout⟩] }

/-- Configures the root. A log file is made where its path leads without a look at the folders on
the way; an empty name asks for none. -/
def configured (clock : String) (t : FileTree) (here : Location) (s : LogSettings) :
    LogRoot × List Emission :=
  match s.file.filter fun name => !name.isEmpty with
  | none => (console s, [])
  | some name =>
    let loc := here.follow (Path.ofText name)
    if t.canWrite loc then
      (withFile s loc, ⟨.file loc, ""⟩ :: (withFile s loc).emit clock (openedRecord name))
    else (console s, (console s).emit clock (refusedRecord name))

end LogRoot

end Manuscript
