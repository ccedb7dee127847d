import Manuscript.Markdown.Block
import Manuscript.Text.Lines

/-!
Footnotes. A definition starts a line and goes on over indented lines; its text is read as blocks
of its own when a reference has called for it.
-/

namespace Manuscript.Markdown

def noteLabel? (cs : List Char) : Option (String × List Char) :=
  (label? cs).map fun (l, rest) => (labelKey l, rest)

/-- Whether a line goes on a footnote whose definition is indented by `lead` spaces. -/
def goesOnNote (lead : Nat) (l : Line) : Bool :=
  isEnded l && lead < spaces l && spaces l ≤ lead + 4

def noteLines (lead : Nat) : List Line → List Line × List Line
  | [] => ([], [])
  | l :: ls =>
    if goesOnNote lead l || l == ['\n'] then
      let (inside, after) := noteLines lead ls
      (l :: inside, after)
    else ([], l :: ls)

/-- A definition of a footnote: its key, its text, and the lines after it. -/
def noteDefinition? (ls : List Line) : Option (String × List Char × List Line) := do
  let first ← ls.head?
  match ← afterIndent? 3 first with
  | '[' :: '^' :: _ =>
    let lead := spaces first
    let (key, rest) ← noteLabel? (ls.flatten.drop (lead + 2))
    match rest with
    | ':' :: c :: text =>
      if !(isSpace c || c == '\n') then none
      match linesOf text with
      | [] => some (key, [], [])
      | l :: others =>
        let (more, after) := noteLines lead others
        some (key, l ++ more.flatten, after)
    | _ => none
  | _ => none

/-- The text of a footnote without the indentation of its lines, if it has further lines with text.
What the first such line is indented by, or more, is taken off every line. -/
def dedented (text : List Char) : Option (List Char) :=
  let others := (Text.lines text).drop 1
  let indent := others.findSome? fun l =>
    let inside := l.takeWhile fun c => !Text.isLineEnd c
    if inside.isEmpty then none else some (inside.takeWhile Text.isBlank).length
  indent.map fun n =>
    let dedent (l : Line) : Line := if n ≤ spaces l then l.drop (spaces l) else l
    Text.trim ((linesOf text).map dedent).flatten

end Manuscript.Markdown
