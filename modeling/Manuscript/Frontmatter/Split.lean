import Manuscript.Text.Blank
import Manuscript.Text.Lines

/-!
Splitting a delimited block off the top of a text. The first line is a delimiter, and the block ends
at the next line that holds the same delimiter and white space after it at most.
-/

namespace Manuscript.Frontmatter

/-- A text that starts with a delimited block. -/
structure Split where
  format : String
  block : String
  rest : String
  deriving DecidableEq

/-- The delimiters of metadata blocks and their formats. -/
def delimiters : List (String × String) := [("---", "yaml"), ("+++", "toml")]

/-- A line without the carriage returns and line feeds at its end. -/
def withoutBreak (line : List Char) : List Char :=
  Text.dropEnd (fun c => c == '\r' || c == '\n') line

/-- Whether a line closes a block opened by a delimiter. -/
def closes (delimiter : List Char) (line : List Char) : Bool := Text.trimRight line == delimiter

/-- The lines before the first one that satisfies `p`, and those after it. -/
def breakAt? (p : List Char → Bool) :
    List (List Char) → Option (List (List Char) × List (List Char))
  | [] => none
  | l :: ls => if p l then some ([], ls) else (breakAt? p ls).map fun (a, b) => (l :: a, b)

/-- Splits a text at the block on its top, if it starts with a complete one. -/
def split? (formats : List (String × String)) (content : String) : Option Split :=
  match Text.lines content.toList with
  | [] => none
  | first :: others =>
    let opening := withoutBreak first
    match formats.lookup (String.ofList opening) with
    | none => none
    | some format => (breakAt? (closes opening) others).map fun (inside, after) =>
      ⟨format, String.ofList inside.flatten, String.ofList after.flatten⟩

end Manuscript.Frontmatter
