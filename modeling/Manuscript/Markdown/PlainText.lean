import Manuscript.Markdown.Token
import Manuscript.Value.Text

/-!
The text of inline tokens: their raw texts one after the other, those of children in place of the
parent's own.
-/

namespace Manuscript.Markdown

/-- The text of a token without children. -/
def Head.plainText (h : Head) : String :=
  match h.kind with
  | .softBreak => "\n"
  | _ => h.rawValue.text

mutual

/-- The text of a token; what is no token has none. -/
def plainTextOf : Token → Outcome String
  | .leaf h => .ok h.plainText
  | .branch h children =>
    match h.kind with
    | .softBreak => .ok "\n"
    | _ => plainText children
  | .misfit h v =>
    match h.kind with
    | .softBreak => .ok "\n"
    | _ => (elementsOf v).map fun _ => ""
  | .stray _ => .ok ""

def plainText : List Token → Outcome String
  | [] => .ok ""
  | t :: ts => do
    let first ← plainTextOf t
    let rest ← plainText ts
    return first ++ rest

end

end Manuscript.Markdown
