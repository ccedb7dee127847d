import Manuscript.Log
import Manuscript.Tree.Node

/-!
Dispatch on the kind of a node: every kind has a rule of its own name.
-/

namespace Manuscript.Node

/-- The name of the rule for a node's kind; a value that is no node has none. -/
def ruleName? : Node → Option String
  | document .. => some "visit_document"
  | frontMatter .. => some "visit_front_matter"
  | heading .. => some "visit_heading"
  | paragraph .. => some "visit_paragraph"
  | codeBlock .. => some "visit_code_block"
  | list .. => some "visit_list"
  | listItem .. => some "visit_list_item"
  | mathBlock .. => some "visit_math_block"
  | htmlBlock .. => some "visit_html_block"
  | blockQuote .. => some "visit_block_quote"
  | thematicBreak .. => some "visit_thematic_break"
  | table .. => some "visit_table"
  | tableRow .. => some "visit_table_row"
  | tableCell .. => some "visit_table_cell"
  | footnoteDefinition .. => some "visit_footnote_definition"
  | text .. => some "visit_text"
  | link .. => some "visit_link"
  | image .. => some "visit_image"
  | code .. => some "visit_code"
  | mathInline .. => some "visit_math_inline"
  | htmlInline .. => some "visit_html_inline"
  | emphasis .. => some "visit_emphasis"
  | strong .. => some "visit_strong"
  | strikethrough .. => some "visit_strikethrough"
  | lineBreak .. => some "visit_line_break"
  | footnoteReference .. => some "visit_footnote_reference"
  | foreign _ => none

/-- The calls that dispatching a node makes: one, of its rule with the node's kind. -/
def calls (n : Node) : Outcome (List (String × String)) :=
  match n.ruleName? with
  | some rule => .ok [(rule, n.typeName)]
  | none => .error (.breakdown .missingAttribute)

end Manuscript.Node
