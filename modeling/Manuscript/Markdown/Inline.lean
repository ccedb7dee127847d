import Manuscript.Markdown.Block
import Manuscript.Markdown.Emphasis
import Manuscript.Markdown.Html
import Manuscript.Markdown.Math

/-!
Running text: code, links, images, references, raw HTML, formulas, line breaks, escapes and
emphasis. A text is read from left to right into pieces; a closing bracket looks back for the one
that opens it. What no rule takes is plain text.
-/

namespace Manuscript.Markdown

/-- What running text is read with. -/
structure InlineSetting where
  strikethrough : Bool := false
  notes : Bool := false
  math : Bool := false
  defs : Definitions := {}

/-- A piece of running text. -/
inductive Piece where
  /-- text that is one with the plain text beside it -/
  | plain (text : List Char)
  | part (p : Part)
  /-- a bracket that may open a link or an image, and the text after it -/
  | bracket (image active : Bool) (after : List Char)

def bracketText (image : Bool) : List Char := if image then ['!', '['] else ['[']

/-- Puts plain text that is complete before other parts. -/
def flush (text : List Char) (rest : List Part) : List Part :=
  if text.isEmpty then rest else .token (textToken text) :: rest

/-- The parts that pieces make after plain text. A bracket that is still open is plain text. -/
def partsAfter (text : List Char) : List Piece → List Part
  | [] => flush text []
  | .plain more :: ps => partsAfter (text ++ more) ps
  | .bracket image _ _ :: ps => partsAfter (text ++ bracketText image) ps
  | .part p :: ps => flush text (p :: partsAfter [] ps)

/-- The tokens that pieces make; the latest piece comes first. -/
def tokensOf (latest : List Piece) : List Token := resolve (partsAfter [] latest.reverse)

/-- Running text that is being read. -/
structure Scan where
  /-- the pieces read, the latest first -/
  pieces : List Piece := []
  /-- the character before the next one -/
  last : Option Char := none
  /-- whether a raw anchor is open, in which no link can stand -/
  inAnchor : Bool := false
  /-- the footnotes referred to, in order -/
  notes : List String := []

namespace Scan

def addPlain (s : Scan) (text : List Char) : Scan :=
  { s with pieces := .plain text :: s.pieces, last := text.getLast?.or s.last }

def addToken (s : Scan) (t : Token) (last : Char) : Scan :=
  { s with pieces := .part (.token t) :: s.pieces, last := some last }

end Scan

/-! ### Constructs that hold no others -/

def escapedMarks : List Char → List Char
  | '\\' :: c :: rest => if isMark c then c :: escapedMarks rest else []
  | _ => []

/-- The text up to a run of exactly `n` backticks. -/
def untilTicks (n : Nat) : Nat → List Char → Option (List Char × List Char)
  | 0, _ => none
  | fuel + 1, cs =>
    match cs with
    | [] => none
    | c :: rest =>
      if c = Char.ofNat 96 then
        let ticks := cs.takeWhile (· == Char.ofNat 96)
        let after := cs.drop ticks.length
        if ticks.length = n then some ([], after)
        else (untilTicks n fuel after).map fun (code, out) => (ticks ++ code, out)
      else (untilTicks n fuel rest).map fun (code, out) => (c :: code, out)

/-- The text of a code span: line feeds are spaces, and one space is dropped from both ends unless
there is nothing else. -/
def codeText (raw : List Char) : List Char :=
  let text := raw.map fun c => if c = '\n' then ' ' else c
  match text with
  | ' ' :: rest =>
    match rest.reverse with
    | ' ' :: inner => if text.all Text.isBlank then text else inner.reverse
    | _ => text
  | _ => text

def isSchemeChar (c : Char) : Bool := c.isAlphanum || c == '.' || c == '+' || c == '-'

/-- An address in angle brackets, after the opening one. -/
def webAddress? (cs : List Char) : Option (List Char × List Char) :=
  let scheme := cs.takeWhile isSchemeChar
  match cs.drop scheme.length with
  | ':' :: more =>
    let body := more.takeWhile fun c => !(c == '<' || c == '>' || c.toNat ≤ 32)
    match more.drop body.length with
    | '>' :: after =>
      if scheme.head?.any Char.isAlpha && 2 ≤ scheme.length && scheme.length ≤ 32 then
        some (scheme ++ ':' :: body, after)
      else none
    | _ => none
  | _ => none

def isMailboxChar (c : Char) : Bool :=
  c.isAlphanum || ".!#$%&'*+/=?^_\x60\x7b|\x7d~-".toList.contains c

def isHostPart (cs : List Char) : Bool :=
  cs.head?.any Char.isAlphanum && cs.getLast?.any Char.isAlphanum && cs.length ≤ 63 &&
    cs.all fun c => c.isAlphanum || c == '-'

/-- A mail address in angle brackets, after the opening one. -/
def mailAddress? (cs : List Char) : Option (List Char × List Char) :=
  let inside := cs.takeWhile (· != '>')
  let mailbox := inside.takeWhile isMailboxChar
  match inside.drop mailbox.length, cs.drop inside.length with
  | '@' :: host, _ :: after =>
    if !mailbox.isEmpty && (Text.splitAt '.' host).all isHostPart then some (inside, after)
    else none
  | _, _ => none

def addressLink (url shown : List Char) : Token :=
  .branch { kind := .link, attributes := some [(.str "url", .str (Text.address url))] }
    [textToken shown]

/-- Whether an inline tag opens or closes an anchor. -/
def isAnchorTag (start : List Char) (html : List Char) : Bool :=
  match html.drop start.length with
  | a :: e :: _ =>
    start.isPrefixOf html && (a == 'a' || a == 'A') && (e == ' ' || e == '>')
  | _ => false

/-- The text that two tildes strike through, after the opening ones. `solid` tells whether the
character before is neither white space nor a tilde, `escaping` whether a backslash escapes the
next one. -/
def struck? (solid escaping : Bool) : List Char → Option (List Char × List Char)
  | [] => none
  | c :: rest =>
    let goOn (_ : Unit) : Option (List Char × List Char) :=
      let solidNext := if c = '~' then escaping else !Text.isBlank c
      (struck? solidNext (c == '\\' && !escaping) rest).map fun (t, after) => (c :: t, after)
    match c, rest with
    | '~', '~' :: after => if solid && after.head? != some '~' then some ([], after) else goOn ()
    | _, _ => goOn ()

/-- The part of a text before what is left of it. -/
def before (cs rest : List Char) : List Char := cs.take (cs.length - rest.length)

/-! ### Links -/

/-- The latest opening bracket: the pieces after it, the bracket, and the pieces before it. -/
def openBracket? : List Piece → Option (List Piece × (Bool × Bool × List Char) × List Piece)
  | [] => none
  | .bracket image active after :: ps => some ([], (image, active, after), ps)
  | p :: ps => (openBracket? ps).map fun (inside, b, rest) => (p :: inside, b, rest)

/-- In a link no further link can stand, so brackets before it open no links. -/
def deactivate : Piece → Piece
  | .bracket false _ after => .bracket false false after
  | p => p

/-- The target of a reference: of the label in the brackets that follow, or of the text itself. -/
def referenceTarget? (defs : Definitions) (text rest : List Char) :
    Option (Target × List Char) := do
  let own := match label? (text ++ [']']) with
    | some (l, []) => some l
    | _ => none
  let (label, after) := match rest with
    | '[' :: more => match label? more with
      | some (l, out) => (if l.isEmpty then own else some l, out)
      | none => (own, rest)
    | _ => (own, rest)
  let target ← defs.links.lookup (labelKey (← label))
  return (target, after)

/-- The target of a link whose text is closed by a bracket before `rest`. -/
def targetAfter? (defs : Definitions) (text rest : List Char) : Option (Target × List Char) :=
  let inParens := match rest with
    | '(' :: more => inlineTarget? more
    | _ => none
  match inParens with
  | some found => some found
  | none => referenceTarget? defs text rest

def targetAttributes (t : Target) : Entries :=
  [(.str "url", .str t.url)] ++
    match t.title with
    | some title => [(.str "title", .str title)]
    | none => []

/-- Reads a closing bracket, which stands before `rest`. -/
def closeBracket (setting : InlineSetting) (s : Scan) (rest : List Char) : Scan × List Char :=
  match openBracket? s.pieces with
  | none => (s.addPlain [']'], rest)
  | some (inside, (image, active, opened), earlier) =>
    let text := opened.take (opened.length - rest.length - 1)
    let found := if image || active then targetAfter? setting.defs text rest else none
    match found with
    | none =>
      let pieces := inside ++ .plain (bracketText image) :: earlier
      ({ s with pieces := pieces }.addPlain [']'], rest)
    | some (target, after) =>
      let kind : TokenKind := if image then .image else .link
      let token := Token.branch { kind := kind, attributes := some (targetAttributes target) }
        (tokensOf inside)
      let earlier := if image then earlier else earlier.map deactivate
      ({ s with pieces := earlier }.addToken token ')', after)

/-! ### Reading from left to right -/

/-- Reads what an angle bracket starts. -/
def readAngle (s : Scan) (cs rest : List Char) : Scan × List Char :=
  match webAddress? rest with
  | some (url, after) =>
    if s.inAnchor then (s.addPlain (before cs after), after)
    else (s.addToken (addressLink url url) '>', after)
  | none => match mailAddress? rest with
    | some (mail, after) =>
      if s.inAnchor then (s.addPlain (before cs after), after)
      else (s.addToken (addressLink ("mailto:".toList ++ mail) mail) '>', after)
    | none => match skipInlineHtml? cs with
      | some after =>
        let html := before cs after
        let s := s.addToken (textual .inlineHtml html) '>'
        let inAnchor := if isAnchorTag ['<'] html then true
          else if isAnchorTag ['<', '/'] html then false else s.inAnchor
        ({ s with inAnchor := inAnchor }, after)
      | none => (s.addPlain ['<'], rest)

/-- Reads an opening bracket: a reference to a footnote, or what may become a link. -/
def readBracket (setting : InlineSetting) (s : Scan) (rest : List Char) : Scan × List Char :=
  let note := match setting.notes, rest with
    | true, '^' :: more => label? more
    | _, _ => none
  match note with
  | some (label, after) =>
    let key := labelKey label
    if (setting.defs.notes.lookup key).isSome then
      let notes := if s.notes.contains key then s.notes else s.notes ++ [key]
      ({ s with notes := notes }.addToken (textual .footnoteReference key.toList) ']', after)
    else (s.addPlain (['[', '^'] ++ label ++ [']']), after)
  | none =>
    if s.inAnchor then (s.addPlain ['['], rest)
    else ({ s with pieces := .bracket false true rest :: s.pieces, last := some '[' }, rest)

/-- Reads white space before or at a line feed, or a backslash there: the line breaks, hard after
two spaces or a backslash. -/
def readBreak? (s : Scan) (cs : List Char) : Option (Scan × List Char) :=
  let n := spaces cs
  match cs.drop n, cs with
  | '\n' :: rest, _ =>
    let kind : TokenKind := if 2 ≤ n then .lineBreak else .softBreak
    some (s.addToken (.leaf { kind := kind }) ' ', rest.dropWhile Text.isBlank)
  | _, '\\' :: '\n' :: rest =>
    some (s.addToken (.leaf { kind := .lineBreak }) ' ', rest.dropWhile Text.isBlank)
  | _, _ => none

/-- Reads a run of backticks: code, if the same run follows later. -/
def readTicks (s : Scan) (cs : List Char) : Scan × List Char :=
  let ticks := cs.takeWhile (· == Char.ofNat 96)
  let rest := cs.drop ticks.length
  match untilTicks ticks.length rest.length rest with
  | some (raw, after) => (s.addToken (textual .codeSpan (codeText raw)) (Char.ofNat 96), after)
  | none => (s.addPlain ticks, rest)

def readSign (s : Scan) (rest : List Char) : Scan × List Char :=
  let double := match rest with
    | '$' :: more => doubleFormula? more
    | _ => none
  match double with
  | some (formula, after) => (s.addToken (textual .blockMath formula) '$', after)
  | none => match formula? rest with
    | some (formula, after) => (s.addToken (textual .inlineMath formula) '$', after)
    | none => (s.addPlain ['$'], rest)

/-- Reads a run of stars or low lines. -/
def readMarks (s : Scan) (c : Char) (cs : List Char) : Scan × List Char :=
  let marks := cs.takeWhile (· == c)
  let rest := cs.drop marks.length
  let run := MarkRun.between s.last rest.head? c marks.length
  ({ s with pieces := .part (.run run) :: s.pieces, last := some c }, rest)

/-- The text that two tildes at the start strike through, if they do. -/
def strike? (cs : List Char) : Option (List Char × List Char) :=
  match cs with
  | '~' :: '~' :: c :: rest =>
    if Text.isBlank c || c == '~' then none else struck? false false (c :: rest)
  | _ => none

def scan (setting : InlineSetting) : Nat → Scan → List Char → Scan
  | 0, s, _ => s
  | _, s, [] => s
  | fuel + 1, s, c :: rest =>
    let goOn (next : Scan × List Char) : Scan := scan setting fuel next.1 next.2
    let plain (_ : Unit) : Scan := scan setting fuel (s.addPlain [c]) rest
    if c = '\\' then
      let marks := escapedMarks (c :: rest)
      match marks.getLast?, readBreak? s (c :: rest) with
      | some m, _ => goOn (s.addToken (textToken marks) m, (c :: rest).drop (2 * marks.length))
      | none, some next => goOn next
      | none, none => plain ()
    else if c = ' ' || c = '\n' then
      match readBreak? s (c :: rest) with
      | some next => goOn next
      | none => plain ()
    else if c = Char.ofNat 96 then goOn (readTicks s (c :: rest))
    else if c = '*' || c = '_' then goOn (readMarks s c (c :: rest))
    else if c = '~' && setting.strikethrough then
      match strike? (c :: rest) with
      | some (text, after) =>
        let inner := scan setting fuel { s with pieces := [], last := none } text
        let token := Token.branch { kind := .strikethrough } (tokensOf inner.pieces)
        goOn ({ s with notes := inner.notes }.addToken token '~', after)
      | none => plain ()
    else if c = '$' && setting.math then goOn (readSign s rest)
    else if c = '[' then goOn (readBracket setting s rest)
    else if c = ']' then goOn (closeBracket setting s rest)
    else if c = '<' then goOn (readAngle s (c :: rest) rest)
    else if c = '!' then
      match rest with
      | '[' :: more =>
        let bracket := Piece.bracket true true more
        goOn ({ s with pieces := bracket :: s.pieces, last := some '[' }, more)
      | _ => plain ()
    else plain ()

def isMargin (c : Char) : Bool :=
  c == ' ' || c == '\r' || c == '\n' || c == '\t' || c.toNat == 12

/-- The tokens of running text, and the footnotes referred to so far. An empty text is one empty
token. -/
def inlineTokens (setting : InlineSetting) (text : List Char) (notes : List String) :
    List Token × List String :=
  let inside := Text.trimBoth isMargin text
  if inside.isEmpty then ([textToken []], notes)
  else
    let s := scan setting inside.length { notes := notes } inside
    (tokensOf s.pieces, s.notes)

end Manuscript.Markdown
