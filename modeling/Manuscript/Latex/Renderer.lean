import Manuscript.Latex.Escape
import Manuscript.Latex.Image
import Manuscript.Latex.Verb

/-!
Rendering a tree. A renderer writes pieces to one output; while it renders the content of a
heading, a link or a list item, the output is put aside and an empty one takes its place. A node
kind without a rule ends the rendering. The pieces are put together at the end, which fails when a
block separator is no text.
-/

namespace Manuscript.Latex

/-- What a renderer has written: the pieces of its current output, the last one first, and the log.
-/
structure Page where
  output : List Value
  log : List Record

/-- Steps that write to a page; a failing step leaves the page as it was at the failure. -/
abbrev Writing := EStateM Failure Page

namespace Writing

def emit (v : Value) : Writing Unit := modify fun p => { p with output := v :: p.output }

def emitText (s : String) : Writing Unit := emit (.str s)

/-- Runs a step that does not write to the output. -/
def ofRun (r : Run α) : Writing α := fun p =>
  let page := { p with log := p.log ++ r.log }
  match r.outcome with
  | .ok a => .ok a page
  | .error e => .error e page

/-- Puts pieces together, the last one first; only texts can be. -/
def joinPieces : List Value → Option String
  | [] => some ""
  | .str s :: rest => (joinPieces rest).map (· ++ s)
  | _ :: _ => none

/-- The current output as one text. -/
def gather : Writing String := do
  match joinPieces (← get).output with
  | some s => return s
  | none => throw (.breakdown .wrongType)

/-- Runs a step on an empty output and gives what it wrote; the output before is put back, whether
the step succeeds or fails. -/
def capture (step : Writing Unit) : Writing String := fun p =>
  match (do step; gather) { p with output := [] } with
  | .ok s q => .ok s { q with output := p.output }
  | .error e q => .error e { q with output := p.output }

end Writing

open Writing

/-- Ends the rendering at a node without a rule. -/
def reject (n : Node) : Writing Unit := throw (.fault (.unknownNodeType n.typeName))

def plainText (o : RendererOptions) (content : String) : String :=
  if o.escapeSpecial.truthy then escape content else content

mutual

/-- Renders a node. -/
def visit (o : RendererOptions) : Node → Writing Unit
  | .document children _ => visitBlocks o true children
  | .paragraph content _ => visitChildren o content
  | .listItem children _ _ => visitChildren o children
  | .heading level content _ => do
    let inner ← capture (visitInline o content)
    emitText (command (if level = 1 then "section" else "subsection") inner)
  | .list ordered items _ _ _ => do
    let environment := if ordered then "enumerate" else "itemize"
    emitText (command "begin" environment)
    visitItems o items
    emitText (command "end" environment)
  | .codeBlock content language directive _ => do
    emitText (← ofRun (codeBlock language content directive))
  | .mathBlock content _ => emitText ("\\[ " ++ content ++ " \\]")
  | .htmlBlock content _ =>
    ofRun (Run.write (.debug .renderer ("Dropping HTML block: "
      ++ String.ofList (content.toList.take 50))))
  | .text content _ => emitText (plainText o content)
  | .link url content _ _ => do
    let inner ← capture (visitInline o content)
    emitText (command "href" url ++ "\x7b" ++ inner ++ "\x7d")
  | .image url altText _ _ => do emitText (← ofRun (image o url altText))
  | .code content _ => do emitText (← ofRun (.ofOutcome (verb content)))
  | .mathInline content _ => emitText ("$" ++ content ++ "$")
  | .htmlInline _ _ => pure ()
  | .foreign _ => throw (.breakdown .missingAttribute)
  | n => reject n

/-- Renders the blocks of a document; the separator stands before each block but the first. -/
def visitBlocks (o : RendererOptions) (first : Bool) : List Node → Writing Unit
  | [] => pure ()
  | n :: ns => do
    if !first && o.blockSeparator.truthy then emit o.blockSeparator
    visitChild o n
    visitBlocks o false ns

/-- Renders a node of a list of children; a value that is no node is refused by the name of its
type. -/
def visitChild (o : RendererOptions) : Node → Writing Unit
  | .foreign v => reject (.foreign v)
  | n => visit o n

def visitChildren (o : RendererOptions) : List Node → Writing Unit
  | [] => pure ()
  | n :: ns => do visitChild o n; visitChildren o ns

/-- Renders the content of a heading or a link, where nothing checks for values that are no
nodes. -/
def visitInline (o : RendererOptions) : List Node → Writing Unit
  | [] => pure ()
  | n :: ns => do visit o n; visitInline o ns

def visitItems (o : RendererOptions) : List Node → Writing Unit
  | [] => pure ()
  | n :: ns => do
    let inner ← capture (visit o n)
    emitText (command "item" inner ++ "\n")
    visitItems o ns

end

/-- A renderer: its options, and the output left by its last use. -/
structure Renderer where
  options : RendererOptions
  output : List Value := []

namespace Renderer

/-- Renders a node or refuses a value that is none. The output is cleared first. -/
def render (r : Renderer) (n : Node) : Run String × Renderer :=
  let start : Page := ⟨[], []⟩
  let step : Writing String := do visitChild r.options n; gather
  match step start with
  | .ok s p => (⟨.ok s, p.log⟩, { r with output := p.output })
  | .error e p => (⟨.error e, p.log⟩, { r with output := p.output })

end Renderer

/-- Renders a tree with a new renderer. -/
def render (o : RendererOptions) (n : Node) : Run String :=
  (({ options := o } : Renderer).render n).1

end Manuscript.Latex
