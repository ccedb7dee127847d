import Manuscript.Fault

/-!
Log records, and runs: an outcome together with the records written on the way to it.
-/

namespace Manuscript

/-- The parts of the program that write log records. -/
inductive Channel where
  | markdown
  | metadata
  | renderer
  | directives
  | template
  | conversion
  | commandLine
  | configuration
  | files
  | root
  | named (name : String)
  deriving DecidableEq

namespace Channel

/-- The name under which a channel's records appear. -/
def name : Channel → String
  | markdown => "md2latex.parsers.markdown"
  | metadata => "md2latex.metadata"
  | renderer => "md2latex.renderers.latex"
  | directives => "md2latex.renderers.directives"
  | template => "md2latex.template"
  | conversion => "md2latex.api"
  | commandLine => "md2latex.cli"
  | configuration => "md2latex.cli.config"
  | files => "md2latex.utils.io_utils"
  | root => "root"
  | named name => name

end Channel

/-- A log record. -/
structure Record where
  level : Int
  channel : Channel
  message : String
  deriving DecidableEq

namespace Record

def debugLevel : Int := 10
def infoLevel : Int := 20
def warningLevel : Int := 30
def errorLevel : Int := 40

def debug (channel : Channel) (message : String) : Record := ⟨debugLevel, channel, message⟩

def warning (channel : Channel) (message : String) : Record := ⟨warningLevel, channel, message⟩

/-- The name of a level. -/
def levelName (level : Int) : String :=
  if level = 50 then "CRITICAL"
  else if level = 40 then "ERROR"
  else if level = 30 then "WARNING"
  else if level = 20 then "INFO"
  else if level = 10 then "DEBUG"
  else if level = 0 then "NOTSET"
  else s!"Level {level}"

end Record

/-- An outcome, and the records written on the way to it. -/
structure Run (α : Type) where
  outcome : Outcome α
  log : List Record

namespace Run

def pure (a : α) : Run α := ⟨.ok a, []⟩

/-- Goes on with the result; a failure ends the run and keeps what was logged. -/
def bind (r : Run α) (f : α → Run β) : Run β :=
  match r.outcome with
  | .ok a => ⟨(f a).outcome, r.log ++ (f a).log⟩
  | .error e => ⟨.error e, r.log⟩

instance : Monad Run where
  pure := Run.pure
  bind := Run.bind

def fail (e : Failure) : Run α := ⟨.error e, []⟩

def fault (f : Fault) : Run α := fail (.fault f)

/-- Writes one record. -/
def write (r : Record) : Run Unit := ⟨.ok (), [r]⟩

def writeAll (rs : List Record) : Run Unit := ⟨.ok (), rs⟩

/-- An outcome without records. -/
def ofOutcome (o : Outcome α) : Run α := ⟨o, []⟩

end Run

end Manuscript
