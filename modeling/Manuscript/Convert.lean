import Manuscript.Frontmatter.Extract
import Manuscript.Latex.Renderer
import Manuscript.Markdown.Parse
import Manuscript.Options.Any
import Manuscript.Template.Fill

/-!
Converting a markdown text into a filled template: the text is parsed, its metadata taken off, the
rest rendered, and the result put into the template. The first step that fails ends the conversion.
-/

namespace Manuscript

/-- What a conversion is asked for. -/
structure Job where
  markdown : String
  template : String
  parserOptions : Option AnyOptions := none
  rendererOptions : Option AnyOptions := none
  strict : Bool := true
  host : Host := .complete

namespace Job

def parsed (job : Job) : Run Node := do
  Markdown.parseOn job.host (← Run.ofOutcome (AnyOptions.forParsing job.parserOptions)) job.markdown

def extracted (document : Node) : Run (Node × Entries) :=
  match document with
  | .document children metadata => Frontmatter.extract children metadata
  | _ => Run.fault (.missingFrontmatter none)

/-- A body as LaTeX. -/
def rendered (job : Job) (body : Node) : Run String := do
  Latex.render (← Run.ofOutcome (AnyOptions.forRendering job.rendererOptions)) body

def blocksOf : Node → List Node
  | .document children _ => children
  | _ => []

def renderedRecord (body : Node) (text : String) : Record :=
  .debug .conversion s!"Rendered {(blocksOf body).length} body blocks into {text.length} characters"

/-- The template filled with a rendered body and the metadata. -/
def filled (job : Job) (text : String) (metadata : Entries) : Run String :=
  Template.fill job.template text metadata job.strict

/-- The whole conversion. -/
def run (job : Job) : Run String := do
  let document ← job.parsed
  let (body, metadata) ← extracted document
  let text ← job.rendered body
  Run.write (renderedRecord body text)
  job.filled text metadata

end Job

end Manuscript
