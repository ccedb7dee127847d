import Manuscript.Fault

/-!
Code inside a line stands between two equal delimiters that do not occur in it.
-/

namespace Manuscript.Latex

/-- The characters that may delimit code inside a line, in order of preference. -/
def verbDelimiters : List Char := ['|', '!', '+', '@', '#', '=', '/', ':', ';', '~']

/-- The first delimiter that does not occur in the code. -/
def verbDelimiter? (content : String) : Option Char :=
  verbDelimiters.find? fun c => !content.toList.contains c

/-- Code inside a line. -/
def verb (content : String) : Outcome String :=
  match verbDelimiter? content with
  | some c => .ok ("\\verb" ++ c.toString ++ content ++ c.toString)
  | none => .error (.fault (.rendering (.noVerbDelimiter content)))

end Manuscript.Latex
