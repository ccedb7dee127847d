import Manuscript.Markdown.Inline
import Manuscript.Markdown.Outline
import Manuscript.Markdown.Task
import Manuscript.Options.Basic

/-!
The tokens of a markdown text: its outline with the running text read, and the footnotes that were
referred to at the end.
-/

namespace Manuscript.Markdown

def optionalText (s : Option String) : Value :=
  match s with
  | some t => .str t
  | none => .null

def withText (setting : InlineSetting) (h : Head) (text : List Char) (notes : List String) :
    Token × List String :=
  let (children, notes) := inlineTokens setting text notes
  (.branch h children, notes)

/-- The tokens of the cells of a row. -/
def cellTokens (setting : InlineSetting) (notes : List String) :
    List Cell → List Token × List String
  | [] => ([], notes)
  | c :: cs =>
    let h : Head :=
      { kind := .tableCell, attributes := some [(.str "align", optionalText c.alignment)] }
    let (first, notes) := withText setting h c.text notes
    let (others, notes) := cellTokens setting notes cs
    (first :: others, notes)

/-- The tokens of the rows of a table. -/
def rowTokens (setting : InlineSetting) (notes : List String) :
    List (List Cell) → List Token × List String
  | [] => ([], notes)
  | r :: rs =>
    let (cells, notes) := cellTokens setting notes r
    let (others, notes) := rowTokens setting notes rs
    (.branch { kind := .tableRow } cells :: others, notes)

/-- The attributes of a list. -/
def listAttributes (start : Option Nat) : Entries :=
  match start with
  | none => [(.str "ordered", .bool false)]
  | some n =>
    (.str "ordered", .bool true) :: if n = 1 then [] else [(.str "start", .int n)]

def itemHead (task : Option Bool) : Head :=
  match task with
  | none => { kind := .listItem }
  | some ticked => { kind := .taskListItem, attributes := some [(.str "checked", .bool ticked)] }

mutual

/-- The token of a block, and the footnotes referred to so far. -/
def blockToken (setting : InlineSetting) (notes : List String) : Block → Token × List String
  | .blank => (.leaf { kind := .blankLine }, notes)
  | .heading level text =>
    let head := { kind := .heading, attributes := some [(.str "level", .int level)] }
    withText setting head text notes
  | .paragraph text => withText setting { kind := .paragraph } text notes
  | .code raw info =>
    let attributes : Entries := match info with
      | some i => [(.str "info", .str i)]
      | none => []
    let raw := Value.str (String.ofList raw)
    (.leaf { kind := .blockCode, raw := some raw, attributes := some attributes }, notes)
  | .quote children =>
    let (inner, notes) := blockTokens setting notes children
    (.branch { kind := .blockQuote } inner, notes)
  | .list start items =>
    let (inner, notes) := blockTokens setting notes items
    (.branch { kind := .list, attributes := some (listAttributes start) } inner, notes)
  | .item task children =>
    let (inner, notes) := blockTokens setting notes children
    (.branch (itemHead task) inner, notes)
  | .rule => (.leaf { kind := .thematicBreak }, notes)
  | .html raw => (textual .blockHtml raw, notes)
  | .math raw => (textual .blockMath raw, notes)
  | .table header rows =>
    let (head, notes) := cellTokens setting notes header
    let (inner, notes) := rowTokens setting notes rows
    (.branch { kind := .table }
      [.branch { kind := .tableHead } head, .branch { kind := .tableBody } inner], notes)

/-- The tokens of blocks, and the footnotes referred to so far. -/
def blockTokens (setting : InlineSetting) (notes : List String) :
    List Block → List Token × List String
  | [] => ([], notes)
  | b :: bs =>
    let (first, notes) := blockToken setting notes b
    let (others, notes) := blockTokens setting notes bs
    (first :: others, notes)

end

/-- The blocks of a footnote: its text is an outline of its own if it has further lines. -/
def noteBlocks (extensions : Extensions) (text : List Char) : List Block :=
  match dedented text with
  | some inner => (outline extensions inner).1
  | none => [.paragraph (Text.trim text)]

def noteToken (extensions : Extensions) (setting : InlineSetting) (key : String) : Token :=
  let text := (setting.defs.notes.lookup key).getD []
  let (inner, _) := blockTokens setting [] (noteBlocks extensions text)
  .branch { kind := .footnoteItem, attributes := some [(.str "key", .str key)] } inner

def noteSection (extensions : Extensions) (setting : InlineSetting) (notes : List String) :
    List Token :=
  if notes.isEmpty then []
  else [.branch { kind := .footnotes } (notes.map (noteToken extensions setting))]

/-- The text as it is read: line breaks are line feeds, and the last line is ended. -/
def prepared (text : String) : List Char :=
  let cs := Text.normalizeBreaks text.toList
  if cs.getLast? = some '\n' then cs else cs ++ ['\n']

/-- The tokens of a text. -/
def tokens (o : ParserOptions) (text : String) : List Token :=
  let extensions : Extensions :=
    { notes := o.footnotes.truthy, math := o.math.truthy, tables := o.tables.truthy }
  let (blocks, defs) := outline extensions (prepared text)
  let blocks := if o.taskLists.truthy then markAllTasks blocks else blocks
  let setting : InlineSetting :=
    { strikethrough := o.strikethrough.truthy, notes := o.footnotes.truthy, math := o.math.truthy,
      defs := defs }
  let (body, notes) := blockTokens setting [] blocks
  body ++ noteSection extensions setting notes

end Manuscript.Markdown
