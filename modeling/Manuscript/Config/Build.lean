import Manuscript.Config.Search
import Manuscript.Options.Any

/-!
Turning a configuration into options. It has a section for each stage, a mapping whose keys are
fields of that stage's options.
-/

namespace Manuscript

/-- The options of all stages. -/
structure Config where
  parser : ParserOptions := {}
  renderer : RendererOptions := {}
  template : TemplateOptions := {}

namespace Config

/-- The sections of a configuration. -/
def sections : List (String × OptionsKind) :=
  [("markdown", .parser), ("latex", .renderer), ("template", .template)]

/-- The keys of a configuration that are no sections. -/
def unknownSections (given : Entries) : List Value :=
  let known := sections.map Prod.fst
  (given.map Prod.fst).filter fun
    | .str s => !known.contains s
    | _ => true

/-- Refuses sections that are not known, named in order; a key that is not even a text cannot be
named. -/
def checkSections (given : Entries) : Outcome Unit :=
  let unknown := unknownSections given
  if unknown.isEmpty then .ok ()
  else match AnyOptions.texts? unknown with
    | some names => invalid (.unknownSections (AnyOptions.sorted names))
    | none => .error (.breakdown .wrongType)

/-- The options of one section. What its mapping does not admit is told with the section's name. -/
def buildSection (given : Entries) (name : String) (kind : OptionsKind) : Outcome AnyOptions :=
  match (Value.field? name given).getD (.map []) with
  | .map table =>
    match AnyOptions.ofMapping kind table with
    | .error (.rejection r) => invalid (.invalidSection name (.map table) r.message)
    | .error (.breakdown .wrongType) =>
      invalid (.unnamedKeys name table ((AnyOptions.default kind).unknownKeys table))
    | other => other
  | v => invalid (.sectionNotTable name v)

/-- Takes the options of one stage into a configuration. -/
def withOptions (c : Config) : AnyOptions → Config
  | .parser o => { c with parser := o }
  | .renderer o => { c with renderer := o }
  | .template o => { c with template := o }

/-- The options that a configuration describes. -/
def build (given : Entries) : Outcome Config := do
  checkSections given
  sections.foldlM (fun c (name, kind) => do
    return c.withOptions (← buildSection given name kind)) {}

/-- The options for a run of the command: those of the configuration file, if there is one. -/
def discovered (t : FileTree) (here : Location) (env : Environment) (start : Location) :
    Run Config := do
  match ← discover? t env start with
  | none =>
    Run.write (.debug .configuration "No configuration file found; using defaults")
    return {}
  | some file =>
    Run.write (.debug .configuration s!"Loading configuration from {file.text}")
    let entries ← Run.ofOutcome (load t here file)
    Run.ofOutcome (build entries)

end Config

end Manuscript
