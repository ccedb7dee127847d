import Manuscript.Fault

/-!
The text that stands for a metadata value in a filled template. Null is empty, a list is its
elements with commas between, whatever their nesting; a mapping has no text.
-/

namespace Manuscript.Template

mutual

/-- The text of a value, for the placeholder of a name. -/
def fieldText (name : String) : Value → Outcome String
  | .null => .ok ""
  | .str s => .ok s
  | .bool b => .ok (if b then "true" else "false")
  | .list items => (fieldTexts name items).map (",".intercalate ·)
  | .tuple items => (fieldTexts name items).map (",".intercalate ·)
  | .map _ => .error (.fault (.template (.mappingField name)))
  | v => .ok v.text

def fieldTexts (name : String) : List Value → Outcome (List String)
  | [] => .ok []
  | v :: vs => do
    let s ← fieldText name v
    let rest ← fieldTexts name vs
    return s :: rest

end

end Manuscript.Template
