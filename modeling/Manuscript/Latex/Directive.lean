import Manuscript.Log
import Manuscript.Text.Lines
import Manuscript.Tree.Node

/-!
Fenced code blocks are directives: a block tagged `figure` wraps raw LaTeX in a figure, a block
tagged `csv` is a table of comma separated cells, and a block without a tag is dropped.
-/

namespace Manuscript.Latex

/-- A command with one argument in braces. -/
def command (name argument : String) : String := "\\" ++ name ++ "\x7b" ++ argument ++ "\x7d"

/-- The label, marked with the kind of thing it labels, and the caption, each on a line of its own;
an absent or empty one is left out. -/
def labelAndCaption (d : Manuscript.Directive) (mark : String) : String :=
  let label := d.label.getD ""
  let caption := d.caption.getD ""
  (if label.isEmpty then "" else command "label" (mark ++ ":" ++ label) ++ "\n")
    ++ (if caption.isEmpty then "" else command "caption" caption ++ "\n")

def figure (content : String) (d : Manuscript.Directive) : String :=
  command "begin" "figure" ++ "\n" ++ content ++ "\n" ++ labelAndCaption d "fig"
    ++ command "end" "figure" ++ "\n"

/-- One character of a table row: an ampersand is escaped, a comma separates cells. -/
def cellChar (c : Char) : List Char :=
  if c = '&' then ['\\', '&'] else if c = ',' then ['&'] else [c]

def tableRow (line : List Char) : String := String.ofList (line.flatMap cellChar)

/-- The rows of a table; a rule stands before the second one. -/
def tableRows (content : String) : List String :=
  match (Text.splitAt '\n' content.toList).map tableRow with
  | first :: second :: rest => first :: ("\\hline\n" ++ second) :: rest
  | rows => rows

def table (content alignment : String) (d : Manuscript.Directive) : String :=
  command "begin" "table" ++ "\\centering" ++ command "begin" "tabular" ++ "\x7b" ++ alignment
    ++ "\x7d" ++ "\\\\".intercalate (tableRows content) ++ command "end" "tabular"
    ++ labelAndCaption d "tab" ++ command "end" "table"

/-- The LaTeX of a code block. -/
def codeBlock (language : Option String) (content : String) (d : Manuscript.Directive) :
    Run String :=
  let tag := language.getD ""
  if tag = "figure" then Run.pure (figure content d)
  else if tag = "csv" then
    let alignment := d.alignment.getD ""
    if alignment.isEmpty then Run.fault (.directive .tableWithoutAlignment)
    else Run.pure (table content alignment d)
  else if tag = "" then
    ⟨.ok "", [.debug .directives
      s!"Dropping code block without a directive ({content.length} characters)"]⟩
  else Run.fault (.unknownDirective tag)

end Manuscript.Latex
