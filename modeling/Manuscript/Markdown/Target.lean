import Manuscript.Markdown.Line
import Manuscript.Text.LetterCase
import Manuscript.Text.Percent

/-!
Link targets: labels in brackets, destinations, titles, and the two forms that join them. A step
gives what it read and the text after it.
-/

namespace Manuscript.Markdown

/-- Where a link leads. -/
structure Target where
  url : String
  title : Option String := none

def isMark (c : Char) : Bool :=
  let n := c.toNat
  (33 ≤ n && n ≤ 47) || (58 ≤ n && n ≤ 64) || (91 ≤ n && n ≤ 96) || (123 ≤ n && n ≤ 126)

/-- Drops the backslashes that escape. -/
def dropEscapes : List Char → List Char
  | [] => []
  | [c] => [c]
  | a :: b :: rest =>
    if a = '\\' && isMark b then b :: dropEscapes rest else a :: dropEscapes (b :: rest)

/-! ### Labels -/

def labelLimit : Nat := 500

/-- A label up to its closing bracket; brackets inside are escaped. -/
def labelWithin : Nat → List Char → Option (List Char × List Char)
  | _, ']' :: rest => some ([], rest)
  | 0, _ => none
  | n + 1, '\\' :: c :: rest =>
    if c = '\n' then none else (labelWithin n rest).map fun (l, after) => ('\\' :: c :: l, after)
  | n + 1, c :: rest =>
    if c = '[' || c = '\\' then none else (labelWithin n rest).map fun (l, after) => (c :: l, after)
  | _, [] => none

def label? (cs : List Char) : Option (List Char × List Char) := labelWithin labelLimit cs

/-- What two labels must have in common to be the same: the words, regardless of letter case. -/
def labelKey (label : List Char) : String :=
  let joined := " ".intercalate ((Text.words label).map String.ofList)
  Text.toUpper (Text.toLower joined)

/-! ### Destinations -/

/-- Passes over spaces and tabs with at most one line feed among them. -/
def skipToNextLine (cs : List Char) : List Char :=
  match cs.dropWhile isSpace with
  | '\n' :: rest => rest.dropWhile isSpace
  | other => other

/-- A destination in angle brackets, after the opening one. -/
def angled? (cs : List Char) : Option (List Char × List Char) :=
  let inside := cs.takeWhile fun c =>
    !(c == '<' || c == '>' || c == '\n' || c == '\\' || c.toNat == 0)
  match cs.drop inside.length with
  | '>' :: rest => some (inside, rest)
  | _ => none

/-- The destination of a definition: up to white space. -/
def definitionDestination? (cs : List Char) : Option (List Char × List Char) :=
  match skipToNextLine cs with
  | '<' :: rest => angled? rest
  | text =>
    let url := text.takeWhile fun c => !Text.isBlank c
    if url.isEmpty then none else some (url, text.drop url.length)

/-- A destination with balanced parentheses, up to white space or the parenthesis that closes the
link; `open` counts the parentheses inside. -/
def balanced : Nat → List Char → Option (List Char × List Char)
  | _, [] => none
  | depth, '\\' :: c :: rest =>
    if isMark c then (balanced depth rest).map fun (u, after) => ('\\' :: c :: u, after)
    else if c = ' ' || c = '\t' || c = '\n' then
      if depth = 0 then some (['\\'], c :: rest) else none
    else (balanced depth (c :: rest)).map fun (u, after) => ('\\' :: u, after)
  | depth, '(' :: rest => (balanced (depth + 1) rest).map fun (u, after) => ('(' :: u, after)
  | 0, ')' :: rest => some ([], ')' :: rest)
  | depth + 1, ')' :: rest => (balanced depth rest).map fun (u, after) => (')' :: u, after)
  | depth, c :: rest =>
    if c = ' ' || c = '\t' || c = '\n' then if depth = 0 then some ([], c :: rest) else none
    else (balanced depth rest).map fun (u, after) => (c :: u, after)

/-- The destination of a link, after its opening parenthesis. -/
def linkDestination? (cs : List Char) : Option (List Char × List Char) :=
  match skipToNextLine cs with
  | '<' :: rest => angled? rest
  | text => balanced 0 text

/-! ### Titles -/

/-- A title up to its closing mark; an escaped one belongs to the title. -/
def titleBody (close : Char) : List Char → Option (List Char × List Char)
  | [] => none
  | '\\' :: c :: rest =>
    if isMark c then (titleBody close rest).map fun (t, after) => ('\\' :: c :: t, after)
    else (titleBody close (c :: rest)).map fun (t, after) => ('\\' :: t, after)
  | c :: rest =>
    if c = close then some ([], rest)
    else if c.toNat = 0 then none
    else (titleBody close rest).map fun (t, after) => (c :: t, after)

/-- A title: white space, and a text in quotes or parentheses. -/
def title? (cs : List Char) : Option (List Char × List Char) :=
  match cs with
  | c :: _ =>
    if !(isSpace c || c == '\n') then none
    else match cs.dropWhile fun c => isSpace c || c == '\n' with
      | '"' :: rest => titleBody '"' rest
      | '\'' :: rest => titleBody '\'' rest
      | '(' :: rest => titleBody ')' rest
      | _ => none
  | [] => none

/-- The text of a title. An empty one counts as none. -/
def titleText (title : Option (List Char)) : Option String :=
  match title with
  | none | some [] => none
  | some t => some (String.ofList (dropEscapes t))

/-- The target that a destination and a title make. -/
def targetOf (destination : List Char) (title : Option (List Char)) : Target :=
  ⟨Text.address (dropEscapes destination), titleText title⟩

/-! ### Inline targets and definitions -/

def closeParen? (cs : List Char) : Option (List Char) :=
  match cs.dropWhile Text.isBlank with
  | ')' :: rest => some rest
  | _ => none

/-- The target of a link in parentheses, after the opening one. -/
def inlineTarget? (cs : List Char) : Option (Target × List Char) := do
  let (url, rest) ← linkDestination? cs
  match title? rest with
  | some (title, after) =>
    let after ← closeParen? after
    some (targetOf url (some title), after)
  | none =>
    let after ← closeParen? rest
    some (targetOf url none, after)

/-- What stands after the end of a line that holds nothing more. -/
def restOfLine? (cs : List Char) : Option (List Char) :=
  match cs.dropWhile isSpace with
  | '\n' :: rest => some rest
  | _ => none

/-- The text before the first blank line. -/
def beforeBlankLine (cs : List Char) : List Char :=
  match linesOf cs with
  | [] => []
  | first :: others => first ++ (others.takeWhile fun l => !isBlankLine l).flatten

/-- The title of a definition: before the next blank line, and with nothing after it on its line. -/
def definitionTitle? (cs : List Char) : Option (List Char × List Char) := do
  let (title, rest) ← title? (beforeBlankLine cs)
  let after ← restOfLine? (cs.drop ((beforeBlankLine cs).length - rest.length))
  some (title, after)

/-- The target of a definition, after the colon. -/
def definitionTarget? (cs : List Char) : Option (Target × List Char) := do
  let (url, rest) ← definitionDestination? cs
  match definitionTitle? rest with
  | some (title, after) => some (targetOf url (some title), after)
  | none =>
    let after ← restOfLine? rest
    some (targetOf url none, after)

end Manuscript.Markdown
