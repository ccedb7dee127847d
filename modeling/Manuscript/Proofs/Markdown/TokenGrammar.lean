import Manuscript.Markdown.Stream

/-!
# The grammar of tokens

A text is taken apart into tokens of known kinds only. Where a kind stands without children is told
by `leafSites`, where it stands with children, and what these are, by `branchSites?`. A kind that
belongs to an extension comes up only if the options switch the extension on (`Enabled`). A token is
`Emitted` in a place when it and all that it holds keep to these tables.

One kind stands in two sorts of places: a formula set off by two dollar signs is a block of its own,
and is also found in running text.
-/

namespace Manuscript

namespace Markdown

/-- The sorts of places for tokens. -/
inductive Site where
  | block
  | item
  /-- the head or the body of a table -/
  | part
  | row
  | cell
  /-- the definition of a footnote -/
  | note
  | inline
  deriving DecidableEq

end Markdown

namespace TokenKind

open Markdown (Site)

/-- Where a token of a kind stands without children. -/
def leafSites : TokenKind → List Site
  | blankLine | blockCode | thematicBreak | blockHtml => [.block]
  | blockMath => [.block, .inline]
  | text | softBreak | lineBreak | codeSpan | inlineHtml | inlineMath | footnoteReference =>
    [.inline]
  | _ => []

/-- Where a token of a kind stands with children, and the places of these. -/
def branchSites? : TokenKind → Option (Site × Site)
  | heading | paragraph => some (.block, .inline)
  | blockQuote => some (.block, .block)
  | list => some (.block, .item)
  | listItem | taskListItem => some (.item, .block)
  | table => some (.block, .part)
  | tableHead => some (.part, .cell)
  | tableBody => some (.part, .row)
  | tableRow => some (.row, .cell)
  | tableCell => some (.cell, .inline)
  | footnotes => some (.block, .note)
  | footnoteItem => some (.note, .block)
  | link | image | emphasis | strong | strikethrough => some (.inline, .inline)
  | _ => none

/-- The options switch on what a kind belongs to. -/
def Enabled (o : ParserOptions) : TokenKind → Prop
  | blockMath | inlineMath => o.math.truthy = true
  | table | tableHead | tableBody | tableRow | tableCell => o.tables.truthy = true
  | footnotes | footnoteItem | footnoteReference => o.footnotes.truthy = true
  | strikethrough => o.strikethrough.truthy = true
  | taskListItem => o.taskLists.truthy = true
  | _ => True

end TokenKind

namespace Markdown

/-- The head of a heading gives a level. -/
def Head.LevelFits (h : Head) : Prop :=
  h.kind = .heading → ∃ n : Nat, 1 ≤ n ∧ h.attribute? "level" = some (.int n)

/-- **A token is emitted in a sort of places** when a text that is read by the options can hold it
there. -/
inductive Token.Emitted (o : ParserOptions) : Site → Token → Prop where
  | leaf {site : Site} {h : Head} (place : site ∈ h.kind.leafSites) (enabled : h.kind.Enabled o) :
      Emitted o site (.leaf h)
  | branch {site inside : Site} {h : Head} {children : List Token}
      (places : h.kind.branchSites? = some (site, inside)) (enabled : h.kind.Enabled o)
      (level : h.LevelFits) (emitted : ∀ t ∈ children, Emitted o inside t) :
      Emitted o site (.branch h children)

abbrev AllEmitted (o : ParserOptions) (site : Site) (ts : List Token) : Prop :=
  ∀ t ∈ ts, t.Emitted o site

namespace Token.Emitted

variable {o : ParserOptions} {site : Site}

theorem cons {t : Token} {ts : List Token} (h : t.Emitted o site) (hs : AllEmitted o site ts) :
    AllEmitted o site (t :: ts) :=
  List.forall_mem_cons.mpr ⟨h, hs⟩

theorem textual {kind : TokenKind} {text : List Char} (place : site ∈ kind.leafSites)
    (enabled : kind.Enabled o) : (textual kind text).Emitted o site :=
  .leaf place enabled

/-- A token of a kind other than headings. -/
theorem branch_of_ne_heading {inside : Site} {h : Head} {children : List Token}
    (places : h.kind.branchSites? = some (site, inside)) (enabled : h.kind.Enabled o)
    (hkind : h.kind ≠ .heading) (emitted : AllEmitted o inside children) :
    (Token.branch h children).Emitted o site :=
  .branch places enabled (fun hh => absurd hh hkind) emitted

end Token.Emitted

end Markdown

end Manuscript
