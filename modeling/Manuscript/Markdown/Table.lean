import Manuscript.Markdown.Block
import Manuscript.Text.Lines

/-!
Tables: a line of headings, a line of dashes and colons that aligns the columns, and lines of cells.
All lines stand between bars, or none needs to. Every row must have as many cells as the header.
-/

namespace Manuscript.Markdown

/-- Splits a line at the bars that no backslash precedes. Spaces around a bar belong to it. -/
def splitCells : List Char → List (List Char)
  | [] => [[]]
  | '\\' :: '|' :: rest =>
    match splitCells rest with
    | [] => [['\\', '|']]
    | c :: cs => ('\\' :: '|' :: c) :: cs
  | c :: rest =>
    let others := splitCells rest
    if c = '|' then [] :: others
    else match others with
      | [] => [[c]]
      | x :: xs => (c :: x) :: xs

def cellsOf (text : List Char) : List (List Char) := (splitCells (Text.trim text)).map Text.trim

def allDashes (cs : List Char) : Bool := !cs.isEmpty && cs.all (· == '-')

/-- How a cell of the aligning line aligns its column. -/
def alignment (cell : List Char) : Option String :=
  match Text.trimBoth (· == ' ') cell with
  | ':' :: rest =>
    match rest.reverse with
    | ':' :: inner => if allDashes inner then some "center" else none
    | inner => if allDashes inner then some "left" else none
  | text => match text.reverse with
    | ':' :: inner => if allDashes inner then some "right" else none
    | _ => none

/-- The text between the outer bars of a line. -/
def betweenBars? (l : Line) : Option (List Char) := do
  match ← afterIndent? 3 (body l) with
  | '|' :: rest => match (Text.dropEnd isSpace rest).reverse with
    | '|' :: inner => some inner.reverse
    | _ => none
  | _ => none

/-- Whether a text can align columns: dashes and colons first, then bars and spaces too. -/
def isAligning (cs : List Char) : Bool :=
  let isDash (c : Char) : Bool := c == '-' || c == ':'
  cs.head?.any isDash && cs.all fun c => isDash c || c == '|' || c == ' '

/-- A row under a header, if it has as many cells. -/
def rowUnder? (alignments : List (Option String)) (text : List Char) : Option (List Cell) :=
  let cells := cellsOf text
  if cells.length = alignments.length then
    some (List.zipWith (fun t a => ⟨t, a⟩) cells alignments)
  else none

/-- The table made of a header, an aligning line and rows. -/
def tableOf? (header aligning : List Char) (rows : List (List Char)) : Option Block := do
  let alignments := (cellsOf aligning).map alignment
  let head ← rowUnder? alignments header
  let inside ← rows.mapM (rowUnder? alignments)
  some (.table head inside)

def isLineFeed (l : Line) : Bool := l == ['\n']

/-- What comes of a table that seems to start: the block and the lines after it, or no block if the
cells do not fit. -/
abbrev TableAttempt := Option (Block × List Line)

/-- A table between bars, if the first two lines look like one. -/
def barredTable? (ls : List Line) : Option TableAttempt :=
  match ls with
  | first :: second :: rest => do
    let header ← betweenBars? first
    let aligning ← betweenBars? second
    let dashes := aligning.dropWhile (· == ' ')
    if header.isEmpty || !isEnded first || !isEnded second || !isAligning dashes then none
    let rows := rest.takeWhile fun l => (betweenBars? l).isSome
    let texts := rows.filterMap betweenBars?
    let after := (rest.drop rows.length).dropWhile isLineFeed
    if texts.any List.isEmpty then some none
    else some ((tableOf? header aligning texts).map fun t => (t, after))
  | _ => none

/-- Whether a line can be the header of a table without outer bars. -/
def isBareHeader (l : Line) : Bool :=
  match afterIndent? 3 (body l) with
  | some (c :: rest) => !Text.isBlank c && rest.contains '|'
  | _ => false

/-- Whether a line can align the columns of a table without outer bars. -/
def isBareAligning (l : Line) : Bool :=
  match afterIndent? 3 (body l) with
  | some text =>
    let rest := (text.dropWhile fun c => c == '-' || c == ':').dropWhile (· == ' ')
    isAligning text && rest.head? == some '|'
  | none => false

/-- A table without outer bars, if the first two lines look like one. -/
def bareTable? (ls : List Line) : Option TableAttempt :=
  match ls with
  | first :: second :: rest =>
    if isBareHeader first && isBareAligning second && isEnded first && isEnded second then
      let rows := rest.takeWhile fun l => (body l).contains '|'
      let after := (rest.drop rows.length).dropWhile isLineFeed
      some ((tableOf? (body first) (body second) (rows.map body)).map fun t => (t, after))
    else none
  | _ => none

end Manuscript.Markdown
