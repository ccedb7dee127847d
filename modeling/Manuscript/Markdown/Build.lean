import Manuscript.Markdown.Fence
import Manuscript.Markdown.PlainText
import Manuscript.Tree.Heading

/-!
Building the tree from tokens. Blocks become block nodes, inline tokens inline nodes; blank lines
vanish, and a section of footnotes becomes its definitions. A token of a kind that its place does
not know is an error.
-/

namespace Manuscript.Markdown

/-! ### Inline tokens -/

def Head.textAttribute (h : Head) (name : String) : String :=
  ((h.attribute? name).map Value.text).getD ""

/-- The text under an attribute; null counts as absent. -/
def Head.optionalAttribute (h : Head) (name : String) : Option String :=
  match h.attribute? name with
  | none | some .null => none
  | some v => some v.text

def inlineNode (h : Head) (content : List Node) : Outcome Node :=
  match h.kind with
  | .text => .ok (.text h.rawValue.text [])
  | .softBreak => .ok (.text "\n" [])
  | .lineBreak => .ok (.lineBreak [])
  | .codeSpan => .ok (.code h.rawValue.text [])
  | .inlineHtml => .ok (.htmlInline h.rawValue.text [])
  | .inlineMath => .ok (.mathInline h.rawValue.text [])
  | .footnoteReference => .ok (.footnoteReference h.rawValue.text [])
  | .link => .ok (.link (h.textAttribute "url") content (h.optionalAttribute "title") [])
  | .emphasis => .ok (.emphasis content [])
  | .strong => .ok (.strong content [])
  | .strikethrough => .ok (.strikethrough content [])
  | kind =>
    if kind.name.isKey then .error (.fault (.parsing (.unsupportedInline kind.name)))
    else .error (.breakdown .wrongType)

def imageNode (h : Head) (alt : String) : Node :=
  .image (h.textAttribute "url") alt (h.optionalAttribute "title") []

mutual

def inline : Token → Outcome Node
  | .leaf h =>
    match h.kind with
    | .image => .ok (imageNode h "")
    | _ => inlineNode h []
  | .branch h children =>
    match h.kind with
    | .image => (plainText children).map (imageNode h)
    | .link | .emphasis | .strong | .strikethrough => do inlineNode h (← inlines children)
    | _ => inlineNode h []
  | .misfit h v =>
    match h.kind with
    | .image => (elementsOf v).map fun _ => imageNode h ""
    | _ => inlineNode h []
  | .stray _ => .error (.breakdown .missingAttribute)

def inlines : List Token → Outcome (List Node)
  | [] => .ok []
  | t :: ts => do
    let first ← inline t
    let rest ← inlines ts
    return first :: rest

end

/-- The inline nodes of a token's children; children that are no list count as none. -/
def content : Token → Outcome (List Node)
  | .branch _ children => inlines children
  | .leaf _ | .misfit _ _ => .ok []
  | .stray _ => .error (.breakdown .missingAttribute)

/-! ### Tables -/

/-- Applies a step to the children of a token. -/
def overChildren {α : Type} (step : List Token → Outcome (List α)) : Token → Outcome (List α)
  | .leaf _ => .ok []
  | .branch _ children => step children
  | .misfit _ v => emptyList v
  | .stray _ => .error (.breakdown .missingAttribute)

/-- The head of a token; a stray value has none. -/
def headOf : Token → Outcome Head
  | .leaf h | .branch h _ | .misfit h _ => .ok h
  | .stray _ => .error (.breakdown .missingAttribute)

def cell (t : Token) : Outcome Node := do
  let h ← headOf t
  return .tableCell (← content t) (h.optionalAttribute "align") []

def row (t : Token) : Outcome Node := do
  return .tableRow (← overChildren (·.mapM cell) t) false []

/-- The header and the rows of a table. The last header counts; other parts are passed over. -/
def tableParts : List Token → Outcome (Option Node × List Node)
  | [] => .ok (none, [])
  | t :: ts => do
    let h ← headOf t
    match h.kind with
    | .tableHead =>
      let cells ← overChildren (·.mapM cell) t
      let (header, rows) ← tableParts ts
      return (some (header.getD (.tableRow cells true [])), rows)
    | .tableBody =>
      let first ← overChildren (·.mapM row) t
      let (header, rows) ← tableParts ts
      return (header, first ++ rows)
    | _ => tableParts ts

/-! ### Blocks -/

/-- The level among the attributes of a heading. -/
def headingLevel (h : Head) : Outcome Int :=
  match h.attribute? "level" with
  | none => .ok 1
  | some (.int n) => .ok n
  | some (.bool true) => .ok 1
  | some (.bool false) => .error (.rejection (.headingLevel (.bool false)))
  | some (.float x) =>
    match Node.wholeLevel? x with
    | some n => .ok n
    | none => .error (.rejection (.headingLevel (.float x)))
  | some _ => .error (.breakdown .wrongType)

def headingNode (h : Head) (content : List Node) : Outcome Node := do
  Node.heading? (← headingLevel h) content []

def codeNode (h : Head) : Outcome Node :=
  match h.rawValue with
  | .str raw => do codeBlock raw (← infoOf (h.attribute? "info"))
  | _ => .error (.breakdown .missingAttribute)

/-- A list with its items. -/
def listNode (h : Head) (items : List Node) : Node :=
  let start : Int := match h.attribute? "start" with
    | some (.int n) => n
    | _ => 1
  .list ((h.attribute? "ordered").any Value.truthy) items start
    ((h.attribute? "tight").all Value.truthy) []

/-- An item of a list, of a kind that can be one. -/
def itemNode (h : Head) (children : List Node) : Node :=
  let checked := (h.attribute? "checked").any Value.truthy
  let task : Option Task := match h.kind, h.attributes with
    | .taskListItem, some _ => some (if checked then .checked else .unchecked)
    | _, _ => none
  .listItem children task []

def isItemKind : TokenKind → Bool
  | .listItem | .taskListItem => true
  | _ => false

/-- Refuses an item of another kind. -/
def checkItem (h : Head) : Outcome Unit :=
  if isItemKind h.kind then .ok ()
  else .error (.fault (.parsing (.unexpectedListChild h.kind.name)))

def footnoteNode (h : Head) (content : List Node) : Node :=
  .footnoteDefinition (h.textAttribute "key") content []

/-- The nodes of a block without children. -/
def leafBlock (h : Head) : Outcome (List Node) :=
  match h.kind with
  | .blankLine | .footnotes => .ok []
  | .heading => do return [← headingNode h []]
  | .paragraph | .blockText => .ok [.paragraph [] []]
  | .blockCode => do return [← codeNode h]
  | .blockQuote => .ok [.blockQuote [] []]
  | .list => .ok [listNode h []]
  | .table => .ok [.table [] none []]
  | .thematicBreak => .ok [.thematicBreak []]
  | .blockHtml => .ok [.htmlBlock h.rawValue.text []]
  | .blockMath => .ok [.mathBlock h.rawValue.text []]
  | kind => .error (.fault (.parsing (.unsupportedBlock kind.name)))

/-- The nodes of a block whose children are no list. -/
def misfitBlock (h : Head) (v : Value) : Outcome (List Node) :=
  match h.kind with
  | .blockQuote | .table | .footnotes => do
    let _ ← (emptyList v : Outcome (List Node))
    leafBlock h
  | .list => do
    let _ ← elementsOf v
    leafBlock h
  | _ => leafBlock h

mutual

def block : Token → Outcome (List Node)
  | .leaf h => leafBlock h
  | .branch h children =>
    match h.kind with
    | .heading => do return [← headingNode h (← inlines children)]
    | .paragraph | .blockText => do return [.paragraph (← inlines children) []]
    | .blockQuote => do return [.blockQuote (← blocks children) []]
    | .list => do return [listNode h (← items children)]
    | .table => do
      let (header, rows) ← tableParts children
      return [.table rows header []]
    | .footnotes => footnotes children
    | _ => leafBlock h
  | .misfit h v => misfitBlock h v
  | .stray _ => .error (.breakdown .missingAttribute)

def blocks : List Token → Outcome (List Node)
  | [] => .ok []
  | t :: ts => do
    let first ← block t
    let rest ← blocks ts
    return first ++ rest

/-- The items of a list; what is no token is passed over. -/
def items : List Token → Outcome (List Node)
  | [] => .ok []
  | .leaf h :: ts => do
    checkItem h
    let rest ← items ts
    return itemNode h [] :: rest
  | .branch h children :: ts => do
    checkItem h
    let inner ← blocks children
    let rest ← items ts
    return itemNode h inner :: rest
  | .misfit h v :: ts => do
    checkItem h
    let inner ← emptyList v
    let rest ← items ts
    return itemNode h inner :: rest
  | .stray _ :: ts => items ts

def footnotes : List Token → Outcome (List Node)
  | [] => .ok []
  | .leaf h :: ts => do
    let rest ← footnotes ts
    return footnoteNode h [] :: rest
  | .branch h children :: ts => do
    let inner ← blocks children
    let rest ← footnotes ts
    return footnoteNode h inner :: rest
  | .misfit h v :: ts => do
    let inner ← emptyList v
    let rest ← footnotes ts
    return footnoteNode h inner :: rest
  | .stray _ :: _ => .error (.breakdown .missingAttribute)

end

end Manuscript.Markdown
