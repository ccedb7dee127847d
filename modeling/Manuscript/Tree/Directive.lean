import Manuscript.Tree.Node
import Manuscript.Value.Key
import Manuscript.Value.Text

/-!
The metadata of a code block. Label, caption and alignment are taken as texts, a null one as absent;
all other entries are kept as they are.
-/

namespace Manuscript.Directive

/-- The text under a name; null counts as absent. -/
def textField (name : String) (entries : Entries) : Option String :=
  match Value.field? name entries with
  | none | some .null => none
  | some v => some v.text

def isKnown : Value → Bool
  | .str s => s == "label" || s == "caption" || s == "alignment"
  | _ => false

/-- Splits a mapping into the known fields and the rest. -/
def ofMapping (entries : Entries) : Directive where
  label := textField "label" entries
  caption := textField "caption" entries
  alignment := textField "alignment" entries
  extra := entries.filter fun e => !isKnown e.1

end Manuscript.Directive
