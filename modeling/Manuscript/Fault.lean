import Manuscript.Value.Text

/-!
Why a request fails. A fault is a problem that the program reports with a message; faults form
families, and the family decides the exit code. A rejection is a value that an option or a node does
not admit. A breakdown is a failure that no part of the program answers for.
-/

namespace Manuscript

/-- The kinds of faults. -/
inductive FaultKind where
  | general
  | validation
  | invalidOptions
  | file
  | fileNotFound
  | fileAccess
  | parsing
  | frontmatter
  | missingFrontmatter
  | rendering
  | unknownNodeType
  | directive
  | unknownDirective
  | unsupportedImage
  | template
  | unresolvedField
  | dependency
  deriving DecidableEq

namespace FaultKind

/-- The wider kind that a kind belongs to. -/
def parent? : FaultKind → Option FaultKind
  | general => none
  | validation | file | parsing | rendering | template | dependency => some general
  | invalidOptions => some validation
  | fileNotFound | fileAccess => some file
  | frontmatter => some parsing
  | missingFrontmatter => some frontmatter
  | unknownNodeType | directive | unsupportedImage => some rendering
  | unknownDirective => some directive
  | unresolvedField => some template

/-- How many steps a kind is away from the most general one. -/
def depth : FaultKind → Nat
  | general => 0
  | validation | file | parsing | rendering | template | dependency => 1
  | missingFrontmatter | unknownDirective => 3
  | _ => 2

theorem depth_parent {k p : FaultKind} (h : k.parent? = some p) : p.depth < k.depth := by
  cases k <;> simp_all [parent?] <;> subst h <;> decide

/-- The wider kinds of a kind, nearest first. -/
def ancestors (k : FaultKind) : List FaultKind :=
  match _h : k.parent? with
  | none => []
  | some p => p :: ancestors p
termination_by k.depth
decreasing_by exact depth_parent _h

/-- The exit code of the command line for a kind: that of its family. -/
def exitCode (k : FaultKind) : Nat :=
  let family := k :: k.ancestors
  if family.contains dependency then 2
  else if family.contains validation then 3
  else if family.contains file then 4
  else if family.contains parsing then 6
  else if family.contains rendering then 7
  else if family.contains template then 11
  else 1

end FaultKind

/-- Why options or a configuration are not valid. -/
inductive ValidationCause where
  | stated (message : String) (parameter : Option String) (value : Value)
  | unknownSections (names : List String)
  | sectionNotTable (table : String) (value : Value)
  | invalidSection (table : String) (value : Value) (reason : String)
  | unnamedKeys (table : String) (entries : Entries) (keys : List Value)
  | configMissing (path : String)
  | configFormat (extension : String)
  | configUnreadable (path : String)
  | configNotMapping (path : String) (found : String)
  | projectUnreadable (path : String)
  | projectNotTable (path : String) (found : String)

/-- The place of a message where the wording of a decoder stands. -/
def detail : String := "<detail>"

namespace ValidationCause

def message : ValidationCause → String
  | stated message _ _ => message
  | unknownSections names => "Unknown configuration section(s): " ++ ", ".intercalate names
  | sectionNotTable name value =>
    s!"Configuration section [{name}] must be a table, got {value.typeName}"
  | invalidSection name _ reason => s!"Invalid [{name}] configuration: {reason}"
  | unnamedKeys name _ _ => s!"Invalid [{name}] configuration: {detail}"
  | configMissing path => s!"Configuration file does not exist: {path}"
  | configFormat extension =>
    s!"Unsupported config file format: {extension}. Use .json, .toml, or .yaml"
  | configUnreadable path => s!"Error reading config file {path}: {detail}"
  | configNotMapping path found =>
    s!"Config file {path} must contain a mapping at root level, got {found}"
  | projectUnreadable path => s!"Invalid TOML in pyproject.toml {path}: {detail}"
  | projectNotTable path found => s!"[tool.md2latex] section in {path} must be a table, got {found}"

/-- Why keys that are not all texts cannot be listed: one that is no text cannot be joined to
others, and keys of different kinds have no common order. -/
def keyProblem : List Value → String
  | a :: b :: _ =>
    if a.typeName == b.typeName then s!"sequence item 0: expected str instance, {a.typeName} found"
    else s!"'<' not supported between instances of '{b.typeName}' and '{a.typeName}'"
  | [a] => s!"sequence item 0: expected str instance, {a.typeName} found"
  | [] => ""

def report : ValidationCause → String
  | unnamedKeys name _ keys => s!"Invalid [{name}] configuration: {keyProblem keys}"
  | cause => cause.message

def parameter : ValidationCause → Option String
  | stated _ parameter _ => parameter
  | sectionNotTable name _ | invalidSection name _ _ | unnamedKeys name _ _ => some name
  | _ => some "config"

def value : ValidationCause → Value
  | stated _ _ value | sectionNotTable _ value | invalidSection _ value _ => value
  | unnamedKeys _ entries _ => .map entries
  | _ => .null

end ValidationCause

/-- Why a document cannot be parsed. -/
inductive ParsingCause where
  | stated (message : String) (stage : Option String)
  | unsupportedBlock (kind : Value)
  | unsupportedInline (kind : Value)
  | unexpectedListChild (kind : Value)
  | directiveSyntax (language : Option String)
  | directiveNotMapping (language : Option String) (found : String)

namespace ParsingCause

/-- How messages name a code block: by its language, if it has one. -/
def blockName (language : Option String) : String :=
  match language with
  | some l => if l.isEmpty then "plain" else l
  | none => "plain"

def message : ParsingCause → String
  | stated message _ => message
  | unsupportedBlock kind => "Unsupported markdown block element: " ++ kind.literal
  | unsupportedInline kind => "Unsupported markdown inline element: " ++ kind.literal
  | unexpectedListChild kind => "Unexpected list child: " ++ kind.literal
  | directiveSyntax language =>
    s!"Invalid directive metadata in {blockName language} code block: {detail}"
  | directiveNotMapping language found =>
    s!"Directive metadata in {blockName language} code block must be a mapping, got {found}"

/-- The stage of parsing at which the problem showed. -/
def stage : ParsingCause → Option String
  | stated _ stage => stage
  | unsupportedBlock _ | unsupportedInline _ | unexpectedListChild _ => some "tokens"
  | directiveSyntax _ | directiveNotMapping _ _ => some "code_frontmatter"

end ParsingCause

/-- Why a metadata block cannot be decoded. -/
inductive FrontmatterCause where
  | stated (message : String)
  | invalidYaml
  | invalidToml
  | unsupportedFormat (format : String)
  | notMapping (found : String)

namespace FrontmatterCause

def message : FrontmatterCause → String
  | stated message => message
  | invalidYaml => s!"Invalid YAML frontmatter: {detail}"
  | invalidToml => s!"Invalid TOML frontmatter: {detail}"
  | unsupportedFormat format => "Unsupported frontmatter format: " ++ Text.quoted format
  | notMapping found => s!"Frontmatter must be a mapping, got {found}"

end FrontmatterCause

/-- Why a tree cannot be rendered, where no narrower kind says it. -/
inductive RenderingCause where
  | stated (message : String) (stage : Option String)
  | noVerbDelimiter (content : String)

namespace RenderingCause

def message : RenderingCause → String
  | stated message _ => message
  | noVerbDelimiter content =>
    s!"cannot render inline code {Text.quoted content}: every \\verb delimiter occurs in it"

def stage : RenderingCause → Option String
  | stated _ stage => stage
  | noVerbDelimiter _ => some "inline_code"

end RenderingCause

/-- Why a code-block directive cannot be rendered. -/
inductive DirectiveCause where
  | stated (message : String) (directive : Option String)
  | tableWithoutAlignment

namespace DirectiveCause

def message : DirectiveCause → String
  | stated message _ => message
  | tableWithoutAlignment => "csv directive requires an 'alignment' entry in its metadata"

def directive : DirectiveCause → Option String
  | stated _ directive => directive
  | tableWithoutAlignment => some "csv"

end DirectiveCause

/-- Why a template cannot be filled, where no narrower kind says it. -/
inductive TemplateCause where
  | stated (message : String)
  | mappingField (name : String)

namespace TemplateCause

def message : TemplateCause → String
  | stated message => message
  | mappingField name =>
    s!"template field {Text.quoted name} is a mapping and cannot be inserted as text"

end TemplateCause

/-- A package that is required: its name and the versions that will do. -/
structure Requirement where
  name : String
  spec : String
  deriving DecidableEq

/-- A package whose installed version will not do. -/
structure Mismatch where
  name : String
  spec : String
  installed : String
  deriving DecidableEq

/-- A problem that the program reports. -/
inductive Fault where
  | general (message : String)
  | validation (cause : ValidationCause)
  | invalidOptions (component : String) (expected received : TypeName) (message : Option String)
  | file (message : String) (path : Option String)
  | fileNotFound (path : String) (message : Option String)
  | fileAccess (path : String) (message : Option String)
  | parsing (cause : ParsingCause)
  | frontmatter (cause : FrontmatterCause)
  | missingFrontmatter (found : Option String)
  | rendering (cause : RenderingCause)
  | unknownNodeType (name : String)
  | directive (cause : DirectiveCause)
  | unknownDirective (tag : String)
  | unsupportedImage (url extension : String)
  | template (cause : TemplateCause)
  | unresolvedField (name : String)
  | dependency (component : String) (missing : List Requirement) (mismatches : List Mismatch)
      (message : Option String)

namespace Fault

def kind : Fault → FaultKind
  | general _ => .general
  | validation _ => .validation
  | invalidOptions _ _ _ _ => .invalidOptions
  | file _ _ => .file
  | fileNotFound _ _ => .fileNotFound
  | fileAccess _ _ => .fileAccess
  | parsing _ => .parsing
  | frontmatter _ => .frontmatter
  | missingFrontmatter _ => .missingFrontmatter
  | rendering _ => .rendering
  | unknownNodeType _ => .unknownNodeType
  | directive _ => .directive
  | unknownDirective _ => .unknownDirective
  | unsupportedImage _ _ => .unsupportedImage
  | template _ => .template
  | unresolvedField _ => .unresolvedField
  | dependency _ _ _ _ => .dependency

def installHint (needed : List Requirement) : String :=
  let shown := needed.map fun r => if r.spec.isEmpty then r.name else s!"\"{r.name}{r.spec}\""
  if needed.isEmpty then ""
  else "\nInstall with: pip install --upgrade " ++ " ".intercalate shown

/-- The message about missing packages and unmet versions. -/
def dependencyMessage (component : String) (missing : List Requirement)
    (mismatches : List Mismatch) : String :=
  let names := missing.map fun r => s!"'{r.name}{r.spec}'"
  let unmet := mismatches.map fun m =>
    s!"'{m.name}' (requires {m.spec}, but {m.installed} is installed)"
  let parts :=
    (if missing.isEmpty then []
      else [s!"{component} requires the following packages: " ++ ", ".intercalate names])
    ++ (if mismatches.isEmpty then []
      else [s!"{component} has version mismatches: " ++ ", ".intercalate unmet])
  "\n".intercalate parts
    ++ installHint (missing ++ mismatches.map fun m => ⟨m.name, m.spec⟩)

/-- The message of a fault. -/
def message : Fault → String
  | general message => message
  | validation cause => cause.message
  | invalidOptions component expected received message => message.getD
      (s!"{component} expected options of type '{expected.name}' but received " ++
        s!"'{received.name}'.")
  | file message _ => message
  | fileNotFound path message => message.getD s!"File not found: {path}"
  | fileAccess path message => message.getD s!"Cannot access file: {path}"
  | parsing cause => cause.message
  | frontmatter cause => cause.message
  | missingFrontmatter none => "missing frontmatter: document is empty"
  | missingFrontmatter (some found) =>
    s!"missing frontmatter: document starts with {found} instead of a metadata block"
  | rendering cause => cause.message
  | unknownNodeType name => s!"unknown node type: {name}"
  | directive cause => cause.message
  | unknownDirective tag => "unknown directive: " ++ Text.quoted tag
  | unsupportedImage url extension => s!"unsupported image type {Text.quoted extension}: {url}"
  | template cause => cause.message
  | unresolvedField name =>
    s!"unresolved template field: {Text.quoted name} is not defined in the frontmatter"
  | dependency component missing mismatches message =>
    message.getD (dependencyMessage component missing mismatches)

def report : Fault → String
  | validation cause => cause.report
  | f => f.message

/-- A text that may be absent, as a value. -/
def optional (s : Option String) : Value :=
  match s with
  | some t => .str t
  | none => .null

/-- What a fault tells besides its message. -/
def details : Fault → List (String × Value)
  | general _ => []
  | validation cause =>
    [("parameter_name", optional cause.parameter), ("parameter_value", cause.value)]
  | invalidOptions component expected received _ =>
    [("parameter_name", .str "options"), ("parameter_value", .type received),
      ("converter_name", .str component), ("expected_type", .type expected),
      ("received_type", .type received)]
  | file _ path => [("file_path", optional path)]
  | fileNotFound path _ => [("file_path", .str path)]
  | fileAccess path _ => [("file_path", .str path)]
  | parsing cause => [("parsing_stage", optional cause.stage)]
  | frontmatter _ => [("parsing_stage", .str "frontmatter")]
  | missingFrontmatter found =>
    [("parsing_stage", .str "frontmatter"), ("found", optional found)]
  | rendering cause => [("rendering_stage", optional cause.stage)]
  | unknownNodeType name => [("rendering_stage", .str "node"), ("node_type", .str name)]
  | directive cause =>
    [("rendering_stage", .str "directive"), ("directive", optional cause.directive)]
  | unknownDirective tag => [("rendering_stage", .str "directive"), ("directive", .str tag)]
  | unsupportedImage url extension =>
    [("rendering_stage", .str "image"), ("url", .str url), ("extension", .str extension)]
  | template _ => []
  | unresolvedField name => [("field_name", .str name)]
  | dependency component missing mismatches _ =>
    [("converter_name", .str component),
      ("missing_packages", .list (missing.map fun r => .tuple [.str r.name, .str r.spec])),
      ("version_mismatches",
        .list (mismatches.map fun m => .tuple [.str m.name, .str m.spec, .str m.installed]))]

end Fault

/-- A value that an option or a node does not admit. -/
inductive Rejection where
  | headingLevel (level : Value)
  | imageMode (given : Value)
  | emptyImageWidth
  | unknownFields (options : TypeName) (names : List String)

namespace Rejection

def message : Rejection → String
  | headingLevel level => s!"Heading level must be >= 1, got {level.text}"
  | imageMode given => s!"unsupported_image_mode must be one of ('error', 'skip'), got "
      ++ given.literal
  | emptyImageWidth => "image_width must not be empty"
  | unknownFields options names => s!"Unknown {options.name} field(s): " ++ ", ".intercalate names

end Rejection

/-- A failure that no part of the program answers for. -/
inductive Breakdown where
  /-- bytes that are not text -/
  | undecodableBytes
  /-- a scalar that looks like a number or a moment and denotes none -/
  | impossibleValue
  /-- a value of a kind that lacks what is asked of it -/
  | missingAttribute
  /-- a value of a kind that an operation does not take -/
  | wrongType
  /-- a word outside a fixed table -/
  | missingKey
  /-- a position outside a text -/
  | outOfRange
  | invalidVersion
  | invalidSpecifier
  /-- a part of the program that is not installed -/
  | missingModule
  /-- a request that the system turns down -/
  | systemRefusal
  | unforeseen
  deriving DecidableEq

namespace Breakdown

/-- The exit code of a breakdown: a missing part counts as a missing dependency. -/
def exitCode : Breakdown → Nat
  | missingModule => FaultKind.exitCode .dependency
  | _ => FaultKind.exitCode .general

/-- The text of a breakdown that carries values: a single one is shown as it is, several as a
tuple. A missing key is shown as a literal, a refusal of the system as its number and its reason.
-/
def text (b : Breakdown) (carried : List Value) : String :=
  match b, carried with
  | _, [] => ""
  | missingKey, [v] => v.literal
  | systemRefusal, [code, reason] => s!"[Errno {code.text}] {reason.text}"
  | systemRefusal, [code, reason, path] => s!"[Errno {code.text}] {reason.text}: {path.literal}"
  | _, [v] => v.text
  | _, vs => (Value.tuple vs).text

end Breakdown

/-- Why a request fails. -/
inductive Failure where
  | fault (f : Fault)
  | rejection (r : Rejection)
  | breakdown (b : Breakdown)

/-- The exit code of a failure. -/
def Failure.exitCode : Failure → Nat
  | fault f => f.kind.exitCode
  | rejection _ => FaultKind.exitCode .general
  | breakdown b => b.exitCode

abbrev Outcome (α : Type) := Except Failure α

end Manuscript
