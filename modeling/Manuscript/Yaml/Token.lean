/-!
The tokens of a YAML text.
-/

namespace Manuscript.Yaml

/-- The parts of a tag: the handle, if it has one, and what follows. -/
structure TagParts where
  handle : Option String
  suffix : String
  deriving DecidableEq

/-- A token. -/
inductive Token where
  | versionDirective (major : Nat)
  | tagDirective (handle expansion : String)
  | otherDirective
  | documentStart
  | documentEnd
  | streamEnd
  | blockSequenceStart
  | blockMappingStart
  | blockEnd
  | flowSequenceStart
  | flowSequenceEnd
  | flowMappingStart
  | flowMappingEnd
  | flowEntry
  | blockEntry
  | key
  | value
  | alias (name : String)
  | anchor (name : String)
  | tag (parts : TagParts)
  | scalar (text : String) (plain : Bool)
  deriving DecidableEq

end Manuscript.Yaml
