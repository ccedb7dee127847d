import Manuscript.Dependency
import Manuscript.Frontmatter.Split
import Manuscript.Log
import Manuscript.Markdown.Build
import Manuscript.Markdown.Stream

/-!
Parsing a markdown text into a document. A metadata block on top of the text becomes the first
child, undecoded; the rest is taken apart into tokens, of which the other children are built.
-/

namespace Manuscript.Markdown

/-- Drops one byte order mark from the start. -/
def dropMark (text : String) : String :=
  match text.toList with
  | c :: rest => if c.toNat = 0xFEFF then String.ofList rest else text
  | [] => text

/-- The metadata block on top of a text, if there is one and it is wanted. -/
def frontBlock? (o : ParserOptions) (text : String) : Option Frontmatter.Split :=
  if o.frontmatter.truthy then Frontmatter.split? Frontmatter.delimiters text else none

def frontNode (s : Frontmatter.Split) : Node := .frontMatter s.block s.format []

def frontRecord (s : Frontmatter.Split) : Record :=
  .debug .markdown s!"Found {s.format} frontmatter ({s.block.length} characters)"

def parsedRecord (children : List Node) : Record :=
  .debug .markdown s!"Parsed markdown into {children.length} top-level nodes"

/-- The document of a text. -/
def parse (o : ParserOptions) (text : String) : Run Node := do
  let text := dropMark text
  let front := frontBlock? o text
  Run.writeAll (front.toList.map frontRecord)
  let body ← Run.ofOutcome (blocks (tokens o ((front.map Frontmatter.Split.rest).getD text)))
  let children := front.toList.map frontNode ++ body
  Run.write (parsedRecord children)
  return .document children []

/-- The packages that parsing needs. -/
def neededPackages : List Package :=
  [⟨"mistune", "mistune", ">=3.0.0"⟩, ⟨"pyyaml", "yaml", ">=6.0"⟩]

/-- The document of a text, if the host has what parsing needs. -/
def parseOn (host : Host) (o : ParserOptions) (text : String) : Run Node :=
  host.guarded "markdown" neededPackages (parse o text)

/-- The text that bytes write. -/
def decodeText (data : ByteArray) : Outcome String :=
  match String.fromUTF8? data with
  | some s => .ok s
  | none => .error (.breakdown .undecodableBytes)

def parseBytes (o : ParserOptions) (data : ByteArray) : Run Node := do
  parse o (← Run.ofOutcome (decodeText data))

end Manuscript.Markdown
