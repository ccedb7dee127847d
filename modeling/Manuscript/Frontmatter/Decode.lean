import Manuscript.Text.Blank
import Manuscript.Toml.Reader
import Manuscript.Yaml.Loader

/-!
Decoding a metadata block. A blank block has no fields; any other must be a mapping in its format.
-/

namespace Manuscript.Frontmatter

/-- The mapping at the root of a decoded YAML document; nothing counts as an empty one. -/
def mappingOf (l : Yaml.Loader α) : Root α → Outcome α
  | .mapping fields => .ok fields
  | .nothing => .ok (l.ofEntries [])
  | .other typeName => .error (.fault (.frontmatter (.notMapping typeName)))

/-- The fields of a metadata block, with a loader for YAML. -/
def decodeWith (l : Yaml.Loader α) (format content : String) : Outcome α :=
  if Text.allBlank content then .ok (l.ofEntries [])
  else if format = "toml" then
    match Toml.read? content with
    | some entries => .ok (l.ofEntries entries)
    | none => .error (.fault (.frontmatter .invalidToml))
  else if format = "yaml" then
    match l.load content with
    | .ok root => mappingOf l root
    | .error .malformed => .error (.fault (.frontmatter .invalidYaml))
    | .error (.breakdown b) => .error (.breakdown b)
  else .error (.fault (.frontmatter (.unsupportedFormat format)))

/-- The fields of a metadata block. -/
def decode (format content : String) : Outcome Entries := decodeWith .usual format content

end Manuscript.Frontmatter
