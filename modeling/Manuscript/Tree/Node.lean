import Manuscript.Value.Basic

/-!
The tree of a document. One type holds blocks and inline elements alike, because a tree built by
hand may put any node, and even a value that is no node, in any place; what a parsed tree looks
like is a theorem about parsing.
-/

namespace Manuscript

/-- What a code block says about itself in the metadata at its top. -/
structure Directive where
  label : Option String := none
  caption : Option String := none
  alignment : Option String := none
  extra : Entries := []

/-- The state of an item of a task list. -/
inductive Task where
  | checked
  | unchecked
  deriving DecidableEq

/-- A node of a document tree. -/
inductive Node where
  | document (children : List Node) (metadata : Entries)
  | frontMatter (content format : String) (metadata : Entries)
  | heading (level : Nat) (content : List Node) (metadata : Entries)
  | paragraph (content : List Node) (metadata : Entries)
  | codeBlock (content : String) (language : Option String) (directive : Directive)
      (metadata : Entries)
  | list (ordered : Bool) (items : List Node) (start : Int) (tight : Bool) (metadata : Entries)
  | listItem (children : List Node) (task : Option Task) (metadata : Entries)
  | mathBlock (content : String) (metadata : Entries)
  | htmlBlock (content : String) (metadata : Entries)
  | blockQuote (children : List Node) (metadata : Entries)
  | thematicBreak (metadata : Entries)
  | table (rows : List Node) (header : Option Node) (metadata : Entries)
  | tableRow (cells : List Node) (isHeader : Bool) (metadata : Entries)
  | tableCell (content : List Node) (alignment : Option String) (metadata : Entries)
  | footnoteDefinition (identifier : String) (content : List Node) (metadata : Entries)
  | text (content : String) (metadata : Entries)
  | link (url : String) (content : List Node) (title : Option String) (metadata : Entries)
  | image (url altText : String) (title : Option String) (metadata : Entries)
  | code (content : String) (metadata : Entries)
  | mathInline (content : String) (metadata : Entries)
  | htmlInline (content : String) (metadata : Entries)
  | emphasis (content : List Node) (metadata : Entries)
  | strong (content : List Node) (metadata : Entries)
  | strikethrough (content : List Node) (metadata : Entries)
  | lineBreak (metadata : Entries)
  | footnoteReference (identifier : String) (metadata : Entries)
  /-- a value that stands where a node should -/
  | foreign (value : Value)

namespace Node

/-- The name of a node's kind, or of the type of a value that is no node. -/
def typeName : Node → String
  | document .. => "Document"
  | frontMatter .. => "FrontMatter"
  | heading .. => "Heading"
  | paragraph .. => "Paragraph"
  | codeBlock .. => "CodeBlock"
  | list .. => "List"
  | listItem .. => "ListItem"
  | mathBlock .. => "MathBlock"
  | htmlBlock .. => "HTMLBlock"
  | blockQuote .. => "BlockQuote"
  | thematicBreak .. => "ThematicBreak"
  | table .. => "Table"
  | tableRow .. => "TableRow"
  | tableCell .. => "TableCell"
  | footnoteDefinition .. => "FootnoteDefinition"
  | text .. => "Text"
  | link .. => "Link"
  | image .. => "Image"
  | code .. => "Code"
  | mathInline .. => "MathInline"
  | htmlInline .. => "HTMLInline"
  | emphasis .. => "Emphasis"
  | strong .. => "Strong"
  | strikethrough .. => "Strikethrough"
  | lineBreak .. => "LineBreak"
  | footnoteReference .. => "FootnoteReference"
  | foreign v => v.typeName

/-- The metadata of a node. -/
def metadata : Node → Entries
  | document _ m | frontMatter _ _ m | heading _ _ m | paragraph _ m | codeBlock _ _ _ m
  | list _ _ _ _ m | listItem _ _ m | mathBlock _ m | htmlBlock _ m | blockQuote _ m
  | thematicBreak m | table _ _ m | tableRow _ _ m | tableCell _ _ m | footnoteDefinition _ _ m
  | text _ m | link _ _ _ m | image _ _ _ m | code _ m | mathInline _ m | htmlInline _ m
  | emphasis _ m | strong _ m | strikethrough _ m | lineBreak m | footnoteReference _ m => m
  | foreign _ => []

end Node

end Manuscript
