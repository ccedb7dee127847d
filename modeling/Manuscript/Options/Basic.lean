import Manuscript.Fault
import Manuscript.Text.Blank
import Manuscript.Value.Key

/-!
The options of the three stages: parsing, rendering and filling the template. Fields hold decoded
values as they were given; only the mode for unsupported images and the image width are checked.
A switch is on when its value counts as true.
-/

namespace Manuscript

/-- Which constructs of the markup are recognised. -/
structure ParserOptions where
  frontmatter : Value := .bool true
  math : Value := .bool true
  tables : Value := .bool true
  footnotes : Value := .bool true
  strikethrough : Value := .bool true
  taskLists : Value := .bool true

/-- What happens to an image that is neither a picture nor an attachment. -/
inductive ImageMode where
  | error
  | skip
  deriving DecidableEq

namespace ImageMode

def name : ImageMode → String
  | error => "error"
  | skip => "skip"

def ofValue? : Value → Option ImageMode
  | .str s => if s = "error" then some error else if s = "skip" then some skip else none
  | _ => none

end ImageMode

/-- How the tree is rendered. -/
structure RendererOptions where
  escapeSpecial : Value := .bool false
  imageWidth : Value := .str "0.25\\linewidth"
  imageMode : ImageMode := .error
  blockSeparator : Value := .str ""

/-- How the template is filled. -/
structure TemplateOptions where
  strict : Value := .bool true

namespace ParserOptions

def fields (o : ParserOptions) : List (String × Value) :=
  [("parse_frontmatter", o.frontmatter), ("parse_math", o.math), ("parse_tables", o.tables),
    ("parse_footnotes", o.footnotes), ("parse_strikethrough", o.strikethrough),
    ("parse_task_lists", o.taskLists)]

/-- Takes the values of fields from a mapping; the other fields stay. -/
def update (o : ParserOptions) (given : Entries) : ParserOptions where
  frontmatter := (Value.field? "parse_frontmatter" given).getD o.frontmatter
  math := (Value.field? "parse_math" given).getD o.math
  tables := (Value.field? "parse_tables" given).getD o.tables
  footnotes := (Value.field? "parse_footnotes" given).getD o.footnotes
  strikethrough := (Value.field? "parse_strikethrough" given).getD o.strikethrough
  taskLists := (Value.field? "parse_task_lists" given).getD o.taskLists

end ParserOptions

namespace RendererOptions

def fields (o : RendererOptions) : List (String × Value) :=
  [("escape_special", o.escapeSpecial), ("image_width", o.imageWidth),
    ("unsupported_image_mode", .str o.imageMode.name), ("block_separator", o.blockSeparator)]

/-- Checks an image width: a text with something in it. -/
def checkWidth : Value → Outcome Unit
  | .str s => if Text.allBlank s then .error (.rejection .emptyImageWidth) else .ok ()
  | .bytes data =>
    if data.all fun b => b == 32 || (9 ≤ b && b ≤ 13) then .error (.rejection .emptyImageWidth)
    else .ok ()
  | _ => .error (.breakdown .missingAttribute)

/-- Takes the values of fields from a mapping, and checks the result. -/
def update (o : RendererOptions) (given : Entries) : Outcome RendererOptions := do
  let mode := (Value.field? "unsupported_image_mode" given).getD (.str o.imageMode.name)
  let width := (Value.field? "image_width" given).getD o.imageWidth
  match ImageMode.ofValue? mode with
  | none => .error (.rejection (.imageMode mode))
  | some imageMode =>
    checkWidth width
    return {
      escapeSpecial := (Value.field? "escape_special" given).getD o.escapeSpecial
      imageWidth := width
      imageMode := imageMode
      blockSeparator := (Value.field? "block_separator" given).getD o.blockSeparator }

end RendererOptions

namespace TemplateOptions

def fields (o : TemplateOptions) : List (String × Value) := [("strict", o.strict)]

/-- Takes the values of fields from a mapping; the other fields stay. -/
def update (o : TemplateOptions) (given : Entries) : TemplateOptions where
  strict := (Value.field? "strict" given).getD o.strict

end TemplateOptions

end Manuscript
