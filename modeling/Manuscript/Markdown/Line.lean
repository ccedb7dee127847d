import Manuscript.Text.Blank

/-!
Lines of a markdown text. A line keeps the line feed that ends it; only the last one may lack it.
White space at the start of a line counts in columns, so tabs are spread out before a line is cut.
-/

namespace Manuscript.Markdown

abbrev Line := List Char

def linesOf : List Char → List Line
  | [] => []
  | c :: rest =>
    if c = '\n' then ['\n'] :: linesOf rest
    else match linesOf rest with
      | [] => [[c]]
      | l :: ls => (c :: l) :: ls

/-- A line without its line feed. -/
def body (l : Line) : List Char := l.takeWhile (· != '\n')

def isEnded (l : Line) : Bool := l.getLast? == some '\n'

def isSpace (c : Char) : Bool := c == ' ' || c == '\t'

/-- White space that a blank line may hold. -/
def isGap (c : Char) : Bool := isSpace c || c.toNat == 11 || c.toNat == 12

def isBlankLine (l : Line) : Bool := isEnded l && (body l).all isGap

/-- Passes over at most `n` spaces. -/
def dropSpaces : Nat → List Char → List Char
  | n + 1, ' ' :: rest => dropSpaces n rest
  | _, cs => cs

def spaces (cs : List Char) : Nat := (cs.takeWhile (· == ' ')).length

/-- What stands after the spaces at the start of a line, if there are at most `most` of them. -/
def afterIndent? (most : Nat) (cs : List Char) : Option (List Char) :=
  if spaces cs ≤ most then some (cs.drop (spaces cs)) else none

/-- Whether a line is indented so far that it is code, and holds something after the indent. -/
def isIndented (l : Line) : Bool :=
  let cs := body l
  let n := spaces cs
  (4 ≤ n && 4 < cs.length) ||
    match cs.drop n with
    | '\t' :: _ :: _ => true
    | _ => false

/-- A tab within the first columns becomes spaces: as many as are wanted after the spaces before
it. -/
def spreadTab (wanted : Nat → Nat) (l : Line) : Line :=
  let n := spaces l
  match l.drop n with
  | '\t' :: rest => if n ≤ 3 then List.replicate (n + wanted n) ' ' ++ rest else l
  | _ => l

/-- A tab at the start of a line fills up to a column. -/
def tabToColumn (column : Nat) (l : Line) : Line := spreadTab (fun n => column - n) l

/-- A tab at the start of a line becomes four spaces. -/
def tabToSpaces (l : Line) : Line := spreadTab (fun _ => 4) l

end Manuscript.Markdown
