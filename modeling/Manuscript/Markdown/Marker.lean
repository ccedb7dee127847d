import Manuscript.Markdown.Line
import Manuscript.Markdown.Target
import Manuscript.Text.Digit

/-!
What the start of a line marks: headings, rules, fences, quotes and list items. A mark may be
indented by a few spaces.
-/

namespace Manuscript.Markdown

/-! ### Headings and rules -/

/-- Drops number signs at the end that stand alone, with the white space before them. -/
def dropClosingSigns (text : List Char) : List Char :=
  let signs := text.reverse.takeWhile (· == '#')
  let before := text.take (text.length - signs.length)
  if signs.isEmpty then text
  else match before.getLast? with
    | none => []
    | some c => if Text.isBlank c then Text.trimRight before else text

/-- A heading by number signs: its level and its text. -/
def signHeading? (most : Nat) (l : Line) : Option (Nat × List Char) := do
  let text ← afterIndent? most (body l)
  let level := (text.takeWhile (· == '#')).length
  let rest := text.drop level
  if 1 ≤ level && level ≤ 6 && rest.head?.all isSpace then
    some (level, dropClosingSigns (Text.trim rest))
  else none

/-- The level of the heading that a line makes of the paragraph before it. -/
def underline? (l : Line) : Option Nat := do
  let text ← afterIndent? 3 (body l)
  let marks := text.takeWhile fun c => c == '=' || c == '-'
  if (text.drop marks.length).all isSpace then
    (marks.getLast?).map fun c => if c = '=' then 1 else 2
  else none

/-- Whether a line is a rule: three or more of one mark with nothing but spaces between them. -/
def isRule (most : Nat) (l : Line) : Bool :=
  match afterIndent? most (body l) with
  | some (c :: rest) =>
    (c == '-' || c == '_' || c == '*') && rest.all (fun x => x == c || isSpace x) &&
      2 ≤ rest.count c
  | _ => false

/-! ### Fences -/

/-- A line that opens fenced code. -/
structure Fence where
  indent : Nat
  mark : Char
  length : Nat
  /-- what follows the fence on its line -/
  info : List Char

def backtick : Char := Char.ofNat 96

/-- A line that begins with three or more fence marks. -/
def fence? (most : Nat) (l : Line) : Option Fence := do
  let text ← afterIndent? most (body l)
  match text with
  | c :: _ =>
    let n := (text.takeWhile (· == c)).length
    if (c == backtick || c == '~') && 3 ≤ n then
      some ⟨spaces l, c, n, (text.drop n).dropWhile isSpace⟩
    else none
  | [] => none

namespace Fence

/-- Whether a fence really opens code: after backticks no further backtick may follow. -/
def opens (f : Fence) : Bool := !(f.mark == backtick && f.info.contains backtick)

def closes (f : Fence) (l : Line) : Bool :=
  match afterIndent? 3 (body l) with
  | some text =>
    f.length ≤ (text.takeWhile (· == f.mark)).length && (text.dropWhile (· == f.mark)).all isSpace
  | none => false

def infoText (f : Fence) : Option String :=
  if f.info.isEmpty then none else some (String.ofList (Text.trim (dropEscapes f.info)))

end Fence

/-! ### Quotes -/

def afterQuoteMark? (most : Nat) (l : Line) : Option (List Char) := do
  match ← afterIndent? most (body l) with
  | '>' :: rest => some rest
  | _ => none

/-! ### Lists -/

/-- The mark of a list item and what follows it on its line. -/
structure ItemMark where
  indent : Nat
  /-- the digits of an ordered item -/
  digits : List Char
  bullet : Char
  text : List Char

namespace ItemMark

def isOrdered (m : ItemMark) : Bool := m.bullet == '.' || m.bullet == ')'

/-- The columns up to the end of the mark. -/
def width (m : ItemMark) : Nat := m.indent + m.digits.length + 1

/-- Whether only white space follows the mark. -/
def isEmpty (m : ItemMark) : Bool := m.text.all Text.isBlank

end ItemMark

/-- The mark of an item with at most nine digits. -/
def itemMark? (most : Nat) (l : Line) : Option ItemMark := do
  let text ← afterIndent? most (body l)
  let digits := text.takeWhile Text.isDigit
  match text.drop digits.length with
  | c :: rest =>
    let ordered := c == '.' || c == ')'
    let known := if digits.isEmpty then c == '*' || c == '+' || c == '-' else ordered
    if known && digits.length ≤ 9 && rest.head?.all isSpace then some ⟨spaces l, digits, c, rest⟩
    else none
  | [] => none

/-- The mark of the next item of a list with the same bullet. -/
def nextItemMark? (most : Nat) (bullet : Char) (l : Line) : Option ItemMark := do
  let text ← afterIndent? most (body l)
  let digits := if bullet == '.' || bullet == ')' then text.takeWhile Text.isDigit else []
  match text.drop digits.length with
  | c :: rest =>
    if c == bullet && digits.length ≤ 9 && rest.head?.all isSpace then
      some ⟨spaces l, digits, c, rest⟩
    else none
  | [] => none

end Manuscript.Markdown
