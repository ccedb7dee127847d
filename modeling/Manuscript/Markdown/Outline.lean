import Manuscript.Markdown.Footnote
import Manuscript.Markdown.Html
import Manuscript.Markdown.Marker
import Manuscript.Markdown.Math
import Manuscript.Markdown.Table

/-!
The outline of a text: its blocks. Lines are read one after the other; the first rule that
recognises a line takes it, with as many lines after it as belong to the block, and a line that no
rule takes goes on the paragraph before it. The text inside a quote or an item is an outline of its
own.
-/

namespace Manuscript.Markdown

/-- Which blocks are recognised besides those of every outline. -/
structure Extensions where
  notes : Bool := false
  math : Bool := false
  tables : Bool := false

/-- Which blocks are recognised. -/
structure Rules where
  quotes : Bool := true
  lists : Bool := true
  extensions : Extensions := {}

def nestingLimit : Nat := 20

/-- An outline that is being read. -/
structure Reader where
  /-- the blocks read, the latest first -/
  done : List Block
  rest : List Line
  defs : Definitions

/-- How the text inside a block is read: by which rules and at which depth. -/
abbrev Inside := Rules → Nat → List Line → Definitions → List Block × Definitions

namespace Reader

def add (r : Reader) (b : Block) (rest : List Line) : Reader :=
  { r with done := b :: r.done, rest := rest }

def addText (r : Reader) (text : List Char) (rest : List Line) : Reader :=
  match r.done with
  | .paragraph t :: before => { r with done := .paragraph (t ++ text) :: before, rest := rest }
  | _ => r.add (.paragraph text) rest

/-- Takes the next line as text. -/
def takeText (r : Reader) : Reader :=
  match r.rest with
  | [] => r
  | l :: ls => r.addText l ls

/-- Whether the last block is a paragraph. -/
def inParagraph (r : Reader) : Bool :=
  match r.done with
  | .paragraph _ :: _ => true
  | _ => false

/-! ### Blocks without blocks inside -/

def trimBreaks (cs : List Char) : List Char := Text.trimBoth (· == '\n') cs

/-- The lines that go on indented code, and those after them: indented lines and lines of white
space. -/
def indentedLines : List Line → List Line × List Line
  | [] => ([], [])
  | l :: ls =>
    if isIndented l || l.all Text.isBlank then
      let (inside, after) := indentedLines ls
      (l :: inside, after)
    else ([], l :: ls)

/-- Takes indented code. White space at the start of the line after it belongs to the code, and the
rest of that line is text. -/
def takeIndented (r : Reader) (l : Line) (ls : List Line) : Reader :=
  let (inside, after) := indentedLines ls
  let lead := ((after.head?).getD []).takeWhile Text.isBlank
  let shown := ((l :: inside) ++ [lead]).map fun x => dropSpaces 4 (tabToColumn 4 x)
  let block := Block.code (trimBreaks shown.flatten) none
  match lead, after with
  | _ :: _, next :: others => (r.add block []).addText (next.drop lead.length) others
  | _, _ => r.add block after

/-- Takes fenced code, up to its closing fence or the end. -/
def takeFenced (r : Reader) (f : Fence) (ls : List Line) : Reader :=
  let inside := ls.takeWhile fun l => !f.closes l
  let code := (inside.map (dropSpaces f.indent)).flatten
  r.add (.code code f.infoText) (ls.drop (inside.length + 1))

def takeBlank (r : Reader) : Reader := r.add .blank (r.rest.dropWhile isBlankLine)

/-- Takes a line of HTML, with the block that it starts. In a paragraph a tag of no block is text.
-/
def takeHtml? (r : Reader) (reach : HtmlReach) : Option Reader :=
  let whole : Reader :=
    let (inside, after) := takeHtml reach r.rest
    r.add (.html inside.flatten) after
  match reach with
  | .inline => if r.inParagraph then some r.takeText else none
  | .blankLineAlone => some (if r.inParagraph then r.takeText else whole)
  | _ => some whole

/-- Takes the definition of a link, whose label has been read. -/
def takeDefinition? (r : Reader) (label rest : List Char) : Option Reader := do
  if r.inParagraph then return r.takeText
  let key := labelKey label
  if key.isEmpty then none
  let (target, after) ← definitionTarget? rest
  return { r with rest := linesOf after, defs := r.defs.addLink key target }

end Reader

/-- The label of a link definition that lines start with, and the text after its colon. -/
def definitionLabel? (ls : List Line) : Option (List Char × List Char) := do
  let first ← ls.head?
  match ← afterIndent? 3 first with
  | '[' :: _ =>
    let (label, rest) ← label? (ls.flatten.drop (spaces first + 1))
    match rest with
    | ':' :: after => some (label, after)
    | _ => none
  | _ => none

/-! ### Quotes -/

def quotedLine (rest : List Char) : Line := dropSpaces 1 (tabToColumn 3 rest)

/-- How the lines of a block end: before other lines, or in a block that interrupts it. -/
inductive Ending where
  | before (rest : List Line)
  | interrupted (after : Reader)

/-- The lines of a quote after its first one. A line without the mark goes on the text of the quote
unless it is interrupted or the line before was blank. -/
def lazyQuote (interrupt : List Line → Option Reader) (blank : Bool) :
    List Line → List Line × Ending
  | [] => ([], .before [])
  | l :: ls =>
    match afterQuoteMark? 3 l with
    | some text =>
      let line := quotedLine (text ++ if isEnded l then ['\n'] else [])
      let (lines, ending) := lazyQuote interrupt (line.all Text.isBlank) ls
      (line :: lines, ending)
    | none =>
      if blank then ([], .before (l :: ls))
      else match interrupt (l :: ls) with
        | some after => ([], .interrupted after)
        | none =>
          let (lines, ending) := lazyQuote interrupt false ls
          (tabToColumn 3 l :: lines, ending)

/-- The lines of a quote after its first one, where every line must have the mark. -/
def strictQuote : List Line → List Line × Ending
  | [] => ([], .before [])
  | l :: ls =>
    match afterQuoteMark? 3 l with
    | some text =>
      let (lines, ending) := strictQuote ls
      (quotedLine (text ++ if isEnded l then ['\n'] else []) :: lines, ending)
    | none => ([], .before (l :: ls))

/-- Whether a quote that starts with a line cannot be gone on by lines without the mark. -/
def isStrictStart (l : Line) : Bool := isBlankLine l || isIndented l || (fence? 3 l).isSome

/-- Puts a quote before the block that interrupted it. -/
def beforeLast (b : Block) : List Block → List Block
  | [] => [b]
  | last :: before => last :: b :: before

/-! ### Lists -/

/-- The text after the mark of an item, and the column at which the item's text stands. -/
def itemStart (m : ItemMark) : List Char × Nat :=
  let text := tabToSpaces (tabToColumn 3 m.text)
  let lead := (text.takeWhile Text.isBlank).length
  if text.all Text.isBlank then ([], m.width + 1)
  else
    let gap := if 5 ≤ spaces text then 1 else lead
    (text.drop gap ++ ['\n'], m.width + gap)

/-- How the lines of an item end. -/
inductive ItemEnding where
  | next (mark : ItemMark) (rest : List Line)
  | ended (rest : List Line)
  | interrupted (after : Reader)

/-- What is known of an item while its lines are read. -/
structure ItemFrame where
  /-- how far a line may be indented to interrupt the item -/
  most : Nat
  bullet : Char
  column : Nat
  /-- whether nothing follows the mark on its line -/
  isEmpty : Bool

/-- The lines of an item after its first one. A line that is not indented goes on the text of the
item unless it is interrupted or the line before was blank. `started` tells whether the lines so
far hold any text, `blank` whether the last one was blank. -/
def itemLines (f : ItemFrame) (interrupt : List Line → Option Reader) (started blank : Bool) :
    List Line → List Line × ItemEnding
  | [] => ([], .ended [])
  | l :: ls =>
    if isBlankLine l then
      let (lines, ending) := itemLines f interrupt started true ls
      (['\n'] :: lines, ending)
    else
      let line := tabToColumn 4 l
      if f.column ≤ spaces line then
        if blank && f.isEmpty && !started then ([], .ended (l :: ls))
        else
          let (lines, ending) := itemLines f interrupt (started || !line.all Text.isBlank) false ls
          (line :: lines, ending)
      else
        let stays : List Line × ItemEnding :=
          if blank then ([], .ended (l :: ls))
          else
            let started := started || !line.all Text.isBlank
            let (lines, ending) := itemLines f interrupt started false ls
            (line :: lines, ending)
        if isRule f.most l then
          match interrupt (l :: ls) with
          | some after => ([], .interrupted after)
          | none => stays
        else match nextItemMark? f.most f.bullet l with
          | some mark => ([], .next mark ls)
          | none =>
            match interrupt (l :: ls) with
            | some after => ([], .interrupted after)
            | none => if (itemMark? f.most l).isSome then ([], .ended (l :: ls)) else stays

/-- A line of an item as the outline inside the item sees it. -/
def innerLine (column : Nat) (l : Line) : Line :=
  if column ≤ spaces l then tabToSpaces (l.drop column) else l

/-- Drops blank lines from the end of a text. -/
def dropBlankEnd (cs : List Char) : List Char :=
  let text := Text.trimRight cs
  let ending := cs.drop text.length
  let before := ending.takeWhile (· != '\n')
  if before.length < ending.length then text ++ before ++ ['\n'] else cs

/-! ### Outlines -/

/-- What is fixed while an outline is read. -/
structure Setting where
  inside : Inside
  rules : Rules
  depth : Nat

namespace Setting

def quoteRules (s : Setting) : Rules := { quotes := s.depth + 1 < nestingLimit }

def itemRules (s : Setting) : Rules := { lists := s.depth + 1 < nestingLimit }

mutual

/-- Takes a quote, whose mark is followed by `text`. -/
def takeQuote (s : Setting) : Nat → Reader → List Char → List Line → Reader
  | 0, r, _, _ => r
  | fuel + 1, r, text, ls =>
    let first := quotedLine (text ++ ['\n'])
    let interrupt (rest : List Line) : Option Reader :=
      s.interruptQuote fuel { r with rest := rest }
    let (lines, ending) :=
      if isStrictStart first then strictQuote ls else lazyQuote interrupt false ls
    let inner := (first :: lines).map tabToSpaces
    match ending with
    | .before rest =>
      let (children, defs) := s.inside s.quoteRules (s.depth + 1) inner r.defs
      { done := .quote children :: r.done, rest := rest, defs := defs }
    | .interrupted after =>
      let (children, defs) := s.inside s.quoteRules (s.depth + 1) inner after.defs
      { done := beforeLast (.quote children) after.done, rest := after.rest, defs := defs }

/-- Takes the block that interrupts a quote, if one starts here. -/
def interruptQuote (s : Setting) : Nat → Reader → Option Reader
  | 0, _ => none
  | fuel + 1, r =>
    match r.rest with
    | [] => none
    | l :: ls =>
      if isBlankLine l then some r.takeBlank
      else if isRule 3 l then some (r.add .rule ls)
      else match fence? 3 l with
        | some f => if f.opens then some (r.takeFenced f ls) else none
        | none => match itemMark? 3 l with
          | some m => some (s.takeList fuel r m ls)
          | none => if htmlInterrupts 3 l then (htmlReach? l).bind r.takeHtml? else none

/-- Takes a list, whose first item has the given mark. An empty item, or a number other than one,
does not interrupt a paragraph. -/
def takeList (s : Setting) : Nat → Reader → ItemMark → List Line → Reader
  | 0, r, _, _ => r
  | fuel + 1, r, m, ls =>
    let number := Text.numberOf m.digits
    if r.inParagraph && (m.isEmpty || (m.isOrdered && number != 1)) then r.takeText
    else
      let (items, after, shown) := s.takeItems fuel { r with rest := ls } m
      let block := Block.list (if m.isOrdered then some number else none) items
      let added := after.done.length - shown
      { after with done := after.done.take added ++ [block] ++ after.done.drop added }

/-- Takes the items of a list; also tells how many blocks stand before the list. -/
def takeItems (s : Setting) : Nat → Reader → ItemMark → List Block × Reader × Nat
  | 0, r, _ => ([], r, r.done.length)
  | fuel + 1, r, m =>
    let (text, column) := itemStart m
    let frame : ItemFrame := ⟨min m.width 3, m.bullet, column, text.isEmpty⟩
    let interrupt (rest : List Line) : Option Reader :=
      s.interruptItem fuel frame.most { r with rest := rest }
    let (lines, ending) := itemLines frame interrupt false false r.rest
    let inner := linesOf (dropBlankEnd (text ++ (lines.map (innerLine column)).flatten))
    match ending with
    | .next mark rest =>
      let (children, defs) := s.inside s.itemRules (s.depth + 1) inner r.defs
      let (items, after, shown) := s.takeItems fuel { r with rest := rest, defs := defs } mark
      (.item none children :: items, after, shown)
    | .ended rest =>
      let (children, defs) := s.inside s.itemRules (s.depth + 1) inner r.defs
      ([.item none children], { r with rest := rest, defs := defs }, r.done.length)
    | .interrupted after =>
      let (children, defs) := s.inside s.itemRules (s.depth + 1) inner after.defs
      ([.item none children], { after with defs := defs }, r.done.length)

/-- Takes the block that interrupts an item, if one starts here. -/
def interruptItem (s : Setting) : Nat → Nat → Reader → Option Reader
  | 0, _, _ => none
  | fuel + 1, most, r =>
    match r.rest with
    | [] => none
    | l :: ls =>
      if isRule most l then some (r.add .rule ls)
      else match fence? most l with
        | some f => if f.opens then some (r.takeFenced f ls) else none
        | none => match signHeading? most l with
          | some (level, text) => some (r.add (.heading level text) ls)
          | none => match afterQuoteMark? most l with
            | some text => some (s.takeQuote fuel r text ls)
            | none => if htmlInterrupts most l then (htmlReach? l).bind r.takeHtml? else none

end

/-- A bound on how often blocks of one outline can interrupt each other. -/
def reachOf (r : Reader) : Nat := 3 * r.rest.length + 4

/-- Takes a heading that is marked by the line below it. A line of dashes can be a rule or an item
too. -/
def takeUnderline? (s : Setting) (r : Reader) (level : Nat) (l : Line) (ls : List Line) :
    Option Reader :=
  match r.done with
  | .paragraph t :: before => some { r with done := .heading level t :: before, rest := ls }
  | _ =>
    if isRule 3 l then some (r.add .rule ls)
    else (itemMark? 3 l).map fun m => s.takeList (reachOf r) r m ls

/-- Takes a table, if the next lines seem to be one. -/
def takeTable? (r : Reader) : Option Reader :=
  match barredTable? r.rest with
  | some attempt => attempt.map fun (t, after) => r.add t after
  | none => match bareTable? r.rest with
    | some attempt => attempt.map fun (t, after) => r.add t after
    | none => none

/-- Takes a block by the rules that may be switched off, or by the last ones of every outline. -/
def takeOther? (s : Setting) (r : Reader) (l : Line) (ls : List Line) : Option Reader :=
  let extensions := s.rules.extensions
  let math := if extensions.math then mathBlock? r.rest else none
  let mark := if s.rules.lists then itemMark? 3 l else none
  let note := if extensions.notes then noteDefinition? r.rest else none
  match math, mark, note with
  | some (formula, after), _, _ => some (r.add (.math formula) after)
  | none, some m, _ => some (s.takeList (reachOf r) r m ls)
  | none, none, some (key, text, after) =>
    some { r with rest := after, defs := r.defs.addNote key text }
  | none, none, none =>
    match definitionLabel? r.rest with
    | some (label, rest) => r.takeDefinition? label rest
    | none => match htmlReach? l with
      | some reach => r.takeHtml? reach
      | none =>
        if isBlankLine l then some r.takeBlank
        else if extensions.tables then takeTable? r else none

/-- Takes the block that the next line starts. -/
def takeBlock? (s : Setting) (r : Reader) : Option Reader :=
  match r.rest with
  | [] => none
  | l :: ls =>
    match fence? 3 l with
    | some f => if f.opens then some (r.takeFenced f ls) else none
    | none =>
      if isIndented l then some (if r.inParagraph then r.takeText else r.takeIndented l ls)
      else match signHeading? 3 l with
        | some (level, text) => some (r.add (.heading level text) ls)
        | none => match underline? l with
          | some level => s.takeUnderline? r level l ls
          | none =>
            if isRule 3 l then some (r.add .rule ls)
            else
              let quote := if s.rules.quotes then afterQuoteMark? 3 l else none
              match quote with
              | some text => some (s.takeQuote (reachOf r) r text ls)
              | none => s.takeOther? r l ls

/-- Reads on to the end. -/
def readAll (s : Setting) : Nat → Reader → Reader
  | 0, r => r
  | fuel + 1, r =>
    if r.rest.isEmpty then r else s.readAll fuel ((s.takeBlock? r).getD r.takeText)

end Setting

/-- The outline of lines, to a depth that no text of this length exceeds. -/
def outlineWithin : Nat → Inside
  | 0, _, _, ls, defs => ([.paragraph ls.flatten], defs)
  | fuel + 1, rules, depth, ls, defs =>
    let setting : Setting := ⟨outlineWithin fuel, rules, depth⟩
    let r := setting.readAll ls.length ⟨[], ls, defs⟩
    (r.done.reverse, r.defs)

/-- The outline of a text, and what it defines. -/
def outline (extensions : Extensions) (text : List Char) : List Block × Definitions :=
  outlineWithin (text.length + 1) { extensions := extensions } 0 (linesOf text) {}

end Manuscript.Markdown
