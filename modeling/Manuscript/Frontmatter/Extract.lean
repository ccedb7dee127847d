import Manuscript.Frontmatter.Decode
import Manuscript.Log
import Manuscript.Tree.Node

/-!
Taking the metadata off a document: the first child must be the metadata block, and the body is the
document without it.
-/

namespace Manuscript.Frontmatter

def extractedRecord (fields : Entries) : Record :=
  .debug .metadata (s!"Extracted {fields.length} frontmatter field(s): "
    ++ ", ".intercalate (fields.map fun e => e.1.text))

/-- The body of a document and its metadata. -/
def extract (children : List Node) (metadata : Entries) : Run (Node × Entries) :=
  match children with
  | [] => Run.fault (.missingFrontmatter none)
  | .frontMatter content format _ :: rest =>
    match decode format content with
    | .error e => Run.fail e
    | .ok fields => ⟨.ok (.document rest metadata, fields), [extractedRecord fields]⟩
  | other :: _ => Run.fault (.missingFrontmatter (some other.typeName))

end Manuscript.Frontmatter
