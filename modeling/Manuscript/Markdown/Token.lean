import Manuscript.Fault
import Manuscript.Value.Key

/-!
Tokens: what a markdown text is taken apart into before its tree is built. A token has a kind, may
carry a raw text and attributes, and may have children. Tokens can come from elsewhere, so a kind
may be unknown, the children may be no list, and a token may be no token at all.
-/

namespace Manuscript

/-- What a token stands for. -/
inductive TokenKind where
  | blankLine
  | heading
  | paragraph
  | blockText
  | blockCode
  | blockQuote
  | list
  | listItem
  | taskListItem
  | table
  | tableHead
  | tableBody
  | tableRow
  | tableCell
  | thematicBreak
  | blockHtml
  | blockMath
  | footnotes
  | footnoteItem
  | text
  | softBreak
  | lineBreak
  | codeSpan
  | link
  | image
  | inlineHtml
  | inlineMath
  | emphasis
  | strong
  | strikethrough
  | footnoteReference
  /-- a kind that has no meaning, by what was given as its name -/
  | other (name : Value)

namespace TokenKind

/-- The names of the kinds. -/
def named : List (String × TokenKind) :=
  [("blank_line", blankLine), ("heading", heading), ("paragraph", paragraph),
    ("block_text", blockText), ("block_code", blockCode), ("block_quote", blockQuote),
    ("list", list), ("list_item", listItem), ("task_list_item", taskListItem), ("table", table),
    ("table_head", tableHead), ("table_body", tableBody), ("table_row", tableRow),
    ("table_cell", tableCell), ("thematic_break", thematicBreak), ("block_html", blockHtml),
    ("block_math", blockMath), ("footnotes", footnotes), ("footnote_item", footnoteItem),
    ("text", text), ("softbreak", softBreak), ("linebreak", lineBreak), ("codespan", codeSpan),
    ("link", link), ("image", image), ("inline_html", inlineHtml), ("inline_math", inlineMath),
    ("emphasis", emphasis), ("strong", strong), ("strikethrough", strikethrough),
    ("footnote_ref", footnoteReference)]

/-- The kind with a name. -/
def ofName (name : Value) : TokenKind :=
  match name with
  | .str s => (named.lookup s).getD (other name)
  | _ => other name

/-- The name of a kind. -/
def name : TokenKind → Value
  | blankLine => .str "blank_line"
  | heading => .str "heading"
  | paragraph => .str "paragraph"
  | blockText => .str "block_text"
  | blockCode => .str "block_code"
  | blockQuote => .str "block_quote"
  | list => .str "list"
  | listItem => .str "list_item"
  | taskListItem => .str "task_list_item"
  | table => .str "table"
  | tableHead => .str "table_head"
  | tableBody => .str "table_body"
  | tableRow => .str "table_row"
  | tableCell => .str "table_cell"
  | thematicBreak => .str "thematic_break"
  | blockHtml => .str "block_html"
  | blockMath => .str "block_math"
  | footnotes => .str "footnotes"
  | footnoteItem => .str "footnote_item"
  | text => .str "text"
  | softBreak => .str "softbreak"
  | lineBreak => .str "linebreak"
  | codeSpan => .str "codespan"
  | link => .str "link"
  | image => .str "image"
  | inlineHtml => .str "inline_html"
  | inlineMath => .str "inline_math"
  | emphasis => .str "emphasis"
  | strong => .str "strong"
  | strikethrough => .str "strikethrough"
  | footnoteReference => .str "footnote_ref"
  | other name => name

end TokenKind

namespace Markdown

/-- What a token says about itself. -/
structure Head where
  kind : TokenKind
  raw : Option Value := none
  /-- the attributes; `none` if what was given as such is no mapping -/
  attributes : Option Entries := some []

namespace Head

def attribute? (h : Head) (name : String) : Option Value :=
  h.attributes.bind (Value.field? name)

/-- The raw value; a token that has none counts as having the empty text. -/
def rawValue (h : Head) : Value := h.raw.getD (.str "")

end Head

/-- A token. -/
inductive Token where
  /-- a token without children -/
  | leaf (head : Head)
  /-- a token with a list of children, which may be empty -/
  | branch (head : Head) (children : List Token)
  /-- a token whose children are no list -/
  | misfit (head : Head) (children : Value)
  /-- a value that stands where a token should -/
  | stray (value : Value)

/-- What comes of going through a value as if it were a list of tokens: what has no elements gives
none, and the elements of a text or a mapping are no tokens. -/
def elementsOf (v : Value) : Outcome (List Value) :=
  match v with
  | .str s => .ok (s.toList.map fun c => .str c.toString)
  | .map es => .ok (es.map Prod.fst)
  | .list vs | .tuple vs | .set vs => .ok vs
  | .bytes data => .ok (data.map fun b => .int b.toNat)
  | _ => .error (.breakdown .wrongType)

/-- Going through a value that must not have elements. -/
def emptyList {α : Type} (v : Value) : Outcome (List α) := do
  if (← elementsOf v).isEmpty then .ok [] else .error (.breakdown .missingAttribute)

end Markdown

end Manuscript
