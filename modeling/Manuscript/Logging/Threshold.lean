import Manuscript.Log
import Manuscript.Text.Blank
import Manuscript.Text.LetterCase

/-!
The level from which on records are written. It is given as a number, as a truth value, which
counts as one or zero, or by a name; whatever is none of these means warnings and above.
-/

namespace Manuscript

/-- The level from which on records are written. -/
inductive Threshold where
  | level (n : Int)
  | switch (on : Bool)
  deriving DecidableEq

namespace Threshold

def value : Threshold → Int
  | level n => n
  | switch on => if on then 1 else 0

def names : List (String × Int) :=
  [("CRITICAL", 50), ("FATAL", 50), ("ERROR", 40), ("WARNING", 30), ("WARN", 30), ("INFO", 20),
    ("DEBUG", 10), ("NOTSET", 0)]

/-- The name of a level as it is looked up: without blanks around it and in capital letters. -/
def nameOf (s : String) : String := Text.toUpper (Text.trimmed s)

def ofName (s : String) : Threshold := level ((names.lookup (nameOf s)).getD Record.warningLevel)

def ofValue : Value → Threshold
  | .int n => level n
  | .bool b => switch b
  | v => ofName v.text

def admits (t : Threshold) (level : Int) : Bool := t.value ≤ level

end Threshold

end Manuscript
