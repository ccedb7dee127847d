import Manuscript.Options.Basic

/-!
Options of any stage: building them from a mapping, deriving a changed copy, and the check that a
stage was given options of its own. A mapping may hold only the names of fields.
-/

namespace Manuscript

/-- The stages that have options. -/
inductive OptionsKind where
  | parser
  | renderer
  | template
  deriving DecidableEq

namespace OptionsKind

/-- The type of a stage's options. -/
def typeName : OptionsKind → TypeName
  | parser => .parserOptions
  | renderer => .rendererOptions
  | template => .templateOptions

end OptionsKind

/-- Options of one of the stages. -/
inductive AnyOptions where
  | parser (o : ParserOptions)
  | renderer (o : RendererOptions)
  | template (o : TemplateOptions)

namespace AnyOptions

def kind : AnyOptions → OptionsKind
  | parser _ => .parser
  | renderer _ => .renderer
  | template _ => .template

def fields : AnyOptions → List (String × Value)
  | parser o => o.fields
  | renderer o => o.fields
  | template o => o.fields

def default : OptionsKind → AnyOptions
  | .parser => parser {}
  | .renderer => renderer {}
  | .template => template {}

/-- The keys of a mapping that are not fields. -/
def unknownKeys (o : AnyOptions) (given : Entries) : List Value :=
  let known := o.fields.map Prod.fst
  (given.map Prod.fst).filter fun
    | .str s => !known.contains s
    | _ => true

/-- Takes the values of known fields. -/
def assign (o : AnyOptions) (given : Entries) : Outcome AnyOptions :=
  match o with
  | parser p => .ok (parser (p.update given))
  | renderer r => (r.update given).map renderer
  | template t => .ok (template (t.update given))

/-- A copy with the fields of a mapping; a key that is no field is refused. -/
def update (o : AnyOptions) (given : Entries) : Outcome AnyOptions :=
  if (o.unknownKeys given).isEmpty then o.assign given else .error (.breakdown .wrongType)

/-- The texts of a list of values, if all of them are texts. -/
def texts? : List Value → Option (List String)
  | [] => some []
  | .str s :: rest => (texts? rest).map (s :: ·)
  | _ :: _ => none

def sorted (names : List String) : List String := names.mergeSort fun a b => !(b < a)

/-- Builds the options of a stage from a mapping. Unknown keys are named in order; a key that is not
even a text cannot be named. -/
def ofMapping (kind : OptionsKind) (given : Entries) : Outcome AnyOptions :=
  let o := default kind
  let unknown := o.unknownKeys given
  if unknown.isEmpty then o.assign given
  else match texts? unknown with
    | some names => .error (.rejection (.unknownFields kind.typeName (sorted names)))
    | none => .error (.breakdown .wrongType)

/-- The options for parsing; none given means the defaults. -/
def forParsing : Option AnyOptions → Outcome ParserOptions
  | none => .ok {}
  | some (parser o) => .ok o
  | some other =>
    .error (.fault (.invalidOptions "markdown" .parserOptions other.kind.typeName none))

/-- The options for rendering; none given means the defaults. -/
def forRendering : Option AnyOptions → Outcome RendererOptions
  | none => .ok {}
  | some (renderer o) => .ok o
  | some other =>
    .error (.fault (.invalidOptions "latex" .rendererOptions other.kind.typeName none))

end AnyOptions

end Manuscript
