import Manuscript.Markdown.Line

/-!
Raw HTML: tags, comments, instructions, declarations and character data. Inline a construct is
taken as a whole; as a block it reaches to a closing mark or to the next blank line.
-/

namespace Manuscript.Markdown

/-! ### Tags -/

/-- The name of a tag: a letter, then letters, digits and hyphens. -/
def tagName? (cs : List Char) : Option (List Char × List Char) :=
  match cs with
  | c :: rest =>
    if c.isAlpha then
      let more := rest.takeWhile fun x => x.isAlphanum || x == '-'
      some (c :: more, rest.drop more.length)
    else none
  | [] => none

def isAttributeStart (c : Char) : Bool := c.isAlpha || c == '_' || c == ':'

def isAttributeChar (c : Char) : Bool := isAttributeStart c || c.isDigit || c == '.' || c == '-'

/-- Whether a character can stand in the value of an attribute without quotes. -/
def isBareValueChar (c : Char) : Bool :=
  !(Text.isBlank c || c == '!' || c == '"' || c == '\'' || c == '=' || c == '<' || c == '>' ||
    c.toNat == 96)

def afterChar? (x : Char) (cs : List Char) : Option (List Char) :=
  let before := cs.takeWhile (· != x)
  match cs.drop before.length with
  | _ :: rest => some rest
  | [] => none

def skipValue? (cs : List Char) : Option (List Char) :=
  match cs with
  | '"' :: rest => afterChar? '"' rest
  | '\'' :: rest => afterChar? '\'' rest
  | _ =>
    let value := cs.takeWhile isBareValueChar
    if value.isEmpty then none else some (cs.drop value.length)

def skipAssignment (cs : List Char) : List Char :=
  match cs.dropWhile Text.isBlank with
  | '=' :: rest => (skipValue? (rest.dropWhile Text.isBlank)).getD cs
  | _ => cs

/-- Passes over attributes: white space, a name and perhaps a value, any number of times. -/
def skipAttributes : Nat → List Char → List Char
  | 0, cs => cs
  | fuel + 1, cs =>
    match cs, cs.dropWhile Text.isBlank with
    | b :: _, c :: rest =>
      if Text.isBlank b && isAttributeStart c then
        skipAttributes fuel (skipAssignment (rest.dropWhile isAttributeChar))
      else cs
    | _, _ => cs

/-- Passes over an opening tag after its angle bracket. -/
def skipOpenTag? (cs : List Char) : Option (List Char) := do
  let (_, rest) ← tagName? cs
  match (skipAttributes rest.length rest).dropWhile Text.isBlank with
  | '>' :: after => some after
  | '/' :: '>' :: after => some after
  | _ => none

/-- Passes over a closing tag after its angle bracket and slash. -/
def skipCloseTag? (cs : List Char) : Option (List Char) := do
  let (_, rest) ← tagName? cs
  match rest.dropWhile Text.isBlank with
  | '>' :: after => some after
  | _ => none

/-! ### Other constructs -/

/-- What stands after the first occurrence of a mark. -/
def afterMark? (mark : List Char) : List Char → Option (List Char)
  | [] => if mark.isEmpty then some [] else none
  | c :: rest =>
    if mark.isPrefixOf (c :: rest) then some ((c :: rest).drop mark.length)
    else afterMark? mark rest

/-- Passes over at least one character and a mark. -/
def afterSomethingAndMark? (mark : String) : List Char → Option (List Char)
  | [] => none
  | _ :: rest => afterMark? mark.toList rest

/-- Passes over a comment after its opening mark. It is not empty, does not start with `>` or `->`,
and holds no two hyphens before those of its closing mark. -/
def skipComment? (cs : List Char) : Option (List Char) :=
  if ['>'].isPrefixOf cs || ['-', '>'].isPrefixOf cs || ['-', '-'].isPrefixOf cs then none
  else match afterMark? ['-', '-'] (cs.drop 1) with
    | some ('>' :: after) => some after
    | _ => none

def skipInlineHtml? (cs : List Char) : Option (List Char) :=
  match cs with
  | '<' :: '/' :: rest => skipCloseTag? rest
  | '<' :: '!' :: '-' :: '-' :: rest => skipComment? rest
  | '<' :: '?' :: rest => afterSomethingAndMark? "?>" rest
  | '<' :: '!' :: '[' :: 'C' :: 'D' :: 'A' :: 'T' :: 'A' :: rest =>
    afterSomethingAndMark? "]]>" rest
  | '<' :: '!' :: c :: rest => if 'A' ≤ c && c ≤ 'Z' then afterSomethingAndMark? ">" rest else none
  | '<' :: rest => skipOpenTag? rest
  | _ => none

/-! ### Blocks -/

/-- The tags that start a block wherever a line starts with them. -/
def blockTags : List String :=
  ["address", "article", "aside", "base", "basefont", "blockquote", "body", "caption", "center",
    "col", "colgroup", "dd", "details", "dialog", "dir", "div", "dl", "dt", "fieldset",
    "figcaption", "figure", "footer", "form", "frame", "frameset", "h1", "h2", "h3", "h4", "h5",
    "h6", "head", "header", "hr", "html", "iframe", "legend", "li", "link", "main", "menu",
    "menuitem", "meta", "nav", "noframes", "ol", "optgroup", "option", "p", "param", "section",
    "source", "summary", "table", "tbody", "td", "tfoot", "th", "thead", "title", "tr", "track",
    "ul"]

def verbatimTags : List String := ["pre", "script", "style", "textarea"]

/-- How far a block of HTML reaches. -/
inductive HtmlReach where
  /-- through the line that holds a mark, looked for after some characters of the first line -/
  | mark (text : List Char) (skip : Nat)
  /-- up to the next blank line -/
  | blankLine
  /-- up to the next blank line, if the line does not go on a paragraph -/
  | blankLineAlone
  /-- nowhere: the tag is part of a paragraph -/
  | inline
  deriving DecidableEq

def isWholeLine (rest : List Char) : Bool :=
  match rest.dropWhile isSpace with
  | '>' :: after => after.all isSpace
  | _ => false

/-- How far the block reaches that a line starts, if the line starts with HTML. -/
def htmlReach? (l : Line) : Option HtmlReach := do
  let indent := spaces l
  let text ← afterIndent? 3 (body l)
  match text with
  | '<' :: '!' :: '-' :: '-' :: _ => some (.mark "-->".toList (indent + 4))
  | '<' :: '?' :: _ => some (.mark "?>".toList (indent + 2))
  | '<' :: '!' :: '[' :: 'C' :: 'D' :: 'A' :: 'T' :: 'A' :: '[' :: _ =>
    some (.mark "]]>".toList (indent + 9))
  | '<' :: '!' :: c :: _ => if 'A' ≤ c && c ≤ 'Z' then some (.mark ['>'] (indent + 3)) else none
  | '<' :: '/' :: rest =>
    let (name, after) ← tagName? rest
    if blockTags.contains (String.ofList (name.map Char.toLower)) then some .blankLine
    else some (if isWholeLine after then .blankLineAlone else .inline)
  | '<' :: rest =>
    let (name, after) ← tagName? rest
    let tag := String.ofList (name.map Char.toLower)
    if verbatimTags.contains tag then
      some (.mark (('<' :: '/' :: tag.toList) ++ ['>']) (indent + 1 + name.length))
    else if blockTags.contains tag then some .blankLine
    else
      let whole := isWholeLine (skipAttributes after.length after)
      some (if whole then .blankLineAlone else .inline)
  | _ => none

/-- Whether a line, indented by at most `most` spaces, starts with HTML that ends an unfinished
item or quote. A tag counts if white space or nothing follows its name. -/
def htmlInterrupts (most : Nat) (l : Line) : Bool :=
  match afterIndent? most (body l) with
  | some ('<' :: '!' :: '-' :: '-' :: _) | some ('<' :: '?' :: _)
  | some ('<' :: '!' :: '[' :: 'C' :: 'D' :: 'A' :: 'T' :: 'A' :: '[' :: _) => true
  | some ('<' :: '!' :: c :: _) => 'A' ≤ c && c ≤ 'Z'
  | some ('<' :: '/' :: rest) => tagEnds rest
  | some ('<' :: rest) => tagEnds rest
  | _ => false
where
  /-- whether a known tag stands here, with white space or nothing after it -/
  tagEnds (cs : List Char) : Bool :=
    match tagName? cs with
    | some (name, after) =>
      (blockTags ++ verbatimTags).contains (String.ofList name) && (after.head?.all isSpace)
    | none => false

def hasMark (mark : List Char) (cs : List Char) : Bool := (afterMark? mark cs).isSome

/-- The lines through the first one that holds a mark, and those after it. -/
def throughMark (mark : List Char) : List Line → List Line × List Line
  | [] => ([], [])
  | l :: ls =>
    if hasMark mark l then ([l], ls)
    else
      let (inside, after) := throughMark mark ls
      (l :: inside, after)

def takeHtml (reach : HtmlReach) (ls : List Line) : List Line × List Line :=
  match reach, ls with
  | _, [] => ([], [])
  | .mark text skip, l :: rest =>
    if hasMark text (l.drop skip) then ([l], rest)
    else
      let (inside, after) := throughMark text rest
      (l :: inside, after)
  | .inline, ls => ([], ls)
  | _, ls => (ls.takeWhile fun l => !isBlankLine l, ls.dropWhile fun l => !isBlankLine l)

end Manuscript.Markdown
