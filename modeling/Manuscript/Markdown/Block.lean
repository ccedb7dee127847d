import Manuscript.Markdown.Target

/-!
Blocks: the first of the two stages of reading markdown. The text of paragraphs, headings and cells
is still as it was written; definitions of links and footnotes are set aside.
-/

namespace Manuscript.Markdown

/-- A cell of a table. -/
structure Cell where
  text : List Char
  alignment : Option String := none

/-- A block whose running text has not been read yet. -/
inductive Block where
  | blank
  | heading (level : Nat) (text : List Char)
  | paragraph (text : List Char)
  | code (raw : List Char) (info : Option String)
  | quote (children : List Block)
  | list (start : Option Nat) (items : List Block)
  /-- an item of a list, and whether it is ticked if it is a task -/
  | item (task : Option Bool) (children : List Block)
  | rule
  | html (raw : List Char)
  | math (raw : List Char)
  | table (header : List Cell) (rows : List (List Cell))

/-- What is defined in a text: link targets and the texts of footnotes, by their keys. -/
structure Definitions where
  links : List (String × Target) := []
  notes : List (String × List Char) := []

namespace Definitions

/-- Defines a link; the first definition of a label counts. -/
def addLink (d : Definitions) (key : String) (target : Target) : Definitions :=
  if (d.links.lookup key).isSome then d else { d with links := d.links ++ [(key, target)] }

/-- Defines a footnote; the first definition of a label counts. -/
def addNote (d : Definitions) (key : String) (text : List Char) : Definitions :=
  if (d.notes.lookup key).isSome then d else { d with notes := d.notes ++ [(key, text)] }

end Definitions

end Manuscript.Markdown
