import Manuscript.Text.Lines

/-!
Paths as they are written: a start, and the names on the way. Empty names and single dots do not
count, a pair of dots stays, since only a file tree tells where it leads.
-/

namespace Manuscript

/-- Where a path starts. -/
inductive PathStart where
  | here
  | top
  /-- two slashes, which stay two -/
  | doubleTop
  deriving DecidableEq

/-- A path. -/
structure Path where
  start : PathStart
  names : List String
  deriving DecidableEq

namespace PathStart

/-- Where a written path starts: any number of slashes but two counts as one. -/
def ofChars : List Char → PathStart
  | '/' :: '/' :: '/' :: _ => top
  | '/' :: '/' :: _ => doubleTop
  | '/' :: _ => top
  | _ => here

def text : PathStart → String
  | here => ""
  | top => "/"
  | doubleTop => "//"

end PathStart

namespace Path

def counts (name : String) : Bool := !(name.isEmpty || name == ".")

def ofText (s : String) : Path :=
  ⟨.ofChars s.toList, (Text.pieces '/' s).filter counts⟩

/-- The text of a path; the empty path is a dot. -/
def text (p : Path) : String :=
  if p.names.isEmpty && p.start == .here then "." else p.start.text ++ "/".intercalate p.names

/-- The last name of a path. -/
def name (p : Path) : String := p.names.getLast?.getD ""

/-- The ending of a name: its last dot and what follows, unless the dot is first or last. -/
def suffixOf (name : String) : String :=
  let cs := name.toList
  let ending := (cs.reverse.takeWhile (· != '.')).reverse
  if ending.length = cs.length || ending.isEmpty || ending.length + 1 = cs.length then ""
  else "." ++ String.ofList ending

def suffix (p : Path) : String := suffixOf p.name

end Path

end Manuscript
