import Manuscript.Log
import Manuscript.Template.Field
import Manuscript.Template.Placeholder
import Manuscript.Value.Key

/-!
Filling a template: the body stands for its own placeholder, metadata values for the others. A name
without a value is an error, or stays as it is written and is warned about once.
-/

namespace Manuscript.Template

/-- The placeholder that the rendered document replaces. -/
def bodyName : String := "body"

/-- What a segment becomes, and the name it leaves unresolved. -/
def fillSegment (body : String) (metadata : Entries) (strict : Bool) :
    Segment → Outcome (String × List String)
  | .literal text => .ok (String.ofList text, [])
  | .placeholder cs =>
    let name := String.ofList cs
    if name = bodyName then .ok (body, [])
    else match Value.field? name metadata with
      | some v => (fieldText name v).map fun s => (s, [])
      | none =>
        if strict then .error (.fault (.unresolvedField name))
        else .ok ("%" ++ name ++ "%", [name])

/-- What a list of segments becomes, and the names it leaves unresolved. -/
def fillSegments (body : String) (metadata : Entries) (strict : Bool) :
    List Segment → Outcome (String × List String)
  | [] => .ok ("", [])
  | s :: rest => do
    let (text, names) ← fillSegment body metadata strict s
    let (texts, more) ← fillSegments body metadata strict rest
    return (text ++ texts, names ++ more)

/-- The warning about a name without a value. -/
def unresolvedWarning (name : String) : Record :=
  .warning .template
    s!"Template field {Text.quoted name} is not defined in the frontmatter; left unchanged"

/-- Fills a template. -/
def fill (template body : String) (metadata : Entries) (strict : Bool) : Run String :=
  match fillSegments body metadata strict (segments template.toList) with
  | .error e => Run.fail e
  | .ok (text, unresolved) => ⟨.ok text, (distinct unresolved).map unresolvedWarning⟩

end Manuscript.Template
