import Manuscript.Frontmatter.Split
import Manuscript.Tree.Directive
import Manuscript.Yaml.Loader

/-!
Code blocks. The info text gives the language and further words; a metadata block at the top of the
code is decoded and taken off.
-/

namespace Manuscript.Markdown

/-- The info text of a code block, in its parts. -/
structure FenceInfo where
  text : String
  language : String
  /-- what follows the language, if anything does -/
  rest : Option String

namespace FenceInfo

/-- Takes an info text apart; a blank one says nothing. -/
def ofText? (s : String) : Option FenceInfo :=
  let cs := Text.trim s.toList
  if cs.isEmpty then none
  else
    let language := cs.takeWhile fun c => !Text.isBlank c
    let rest := (cs.drop language.length).dropWhile Text.isBlank
    some ⟨String.ofList cs, String.ofList language,
      if rest.isEmpty then none else some (String.ofList rest)⟩

/-- What is kept of an info text with the code block. -/
def metadata (i : FenceInfo) : Entries :=
  [(.str "info_string", .str i.text)] ++
    match i.rest with
    | some rest => [(.str "info_attrs", .str rest)]
    | none => []

end FenceInfo

def dropFinalBreak (s : String) : String :=
  match s.toList.reverse with
  | '\n' :: before => String.ofList before.reverse
  | _ => s

/-- The fields of the metadata block of a code block, with a loader for YAML. -/
def fieldsWith (l : Yaml.Loader α) (block : String) (language : Option String) : Outcome α :=
  match l.load block with
  | .ok (.mapping fields) => .ok fields
  | .ok .nothing => .ok (l.ofEntries [])
  | .ok (.other typeName) => .error (.fault (.parsing (.directiveNotMapping language typeName)))
  | .error .malformed => .error (.fault (.parsing (.directiveSyntax language)))
  | .error (.breakdown b) => .error (.breakdown b)

/-- The info text among the attributes. What is given as such and is no text cannot be taken apart
unless it counts as nothing. -/
def infoOf (given : Option Value) : Outcome (Option FenceInfo) :=
  match given with
  | none => .ok none
  | some (.str s) => .ok (FenceInfo.ofText? s)
  | some v => if v.truthy then .error (.breakdown .missingAttribute) else .ok none

/-- A code block, with a loader for its metadata block and a way to make a directive of the fields.
-/
def codeBlockWith (l : Yaml.Loader α) (directive : α → Directive) (raw : String)
    (info : Option FenceInfo) : Outcome Node := do
  let code := dropFinalBreak raw
  let language := info.map FenceInfo.language
  let metadata := (info.map FenceInfo.metadata).getD []
  match Frontmatter.split? [("---", "yaml")] code with
  | some s =>
    let fields ← fieldsWith l s.block language
    return .codeBlock s.rest language (directive fields) metadata
  | none => return .codeBlock code language {} metadata

/-- A code block. -/
def codeBlock (raw : String) (info : Option FenceInfo) : Outcome Node :=
  codeBlockWith .usual Directive.ofMapping raw info

end Manuscript.Markdown
