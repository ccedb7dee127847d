import Manuscript.Fault
import Manuscript.Tree.Node

/-!
Headings are numbered from level 1; a heading of a lower level cannot be made. All that is ever made
of a level is whether it is the first.
-/

namespace Manuscript.Node

/-- A heading, if the level admits one. -/
def heading? (level : Int) (content : List Node) (metadata : Entries) : Outcome Node :=
  if level < 1 then .error (.rejection (.headingLevel (.int level)))
  else .ok (heading level.toNat content metadata)

/-- The whole level that a number of at least one stands for: a fraction for the next one, what is
not finite for the second. -/
def wholeLevel? (x : Binary64) : Option Int :=
  match x.read with
  | .nan | .infinite false => some 2
  | .infinite true => none
  | .finite .. => do
    let (num, den) ← x.fraction?
    if num < den then none else some ((num + den - 1) / den)

end Manuscript.Node
