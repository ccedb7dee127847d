import Manuscript.Files.Text
import Manuscript.Json.Reader
import Manuscript.Text.LetterCase
import Manuscript.Toml.Reader
import Manuscript.Value.Key
import Manuscript.Yaml.Loader

/-!
Loading a configuration file. The ending of its name decides the format; a project file holds the
configuration in a section of its own.
-/

namespace Manuscript

/-- A configuration file: one that was named, or one that was found at a location. -/
inductive ConfigFile where
  | named (p : Path)
  | found (loc : Location)

namespace ConfigFile

/-- How messages name the file. -/
def text : ConfigFile → String
  | named p => p.text
  | found loc => Location.text loc

/-- The last name of the file. -/
def name : ConfigFile → String
  | named p => p.name
  | found loc => loc.getLast?.getD ""

def content? (t : FileTree) (here : Location) : ConfigFile → Option ByteArray
  | named p => t.content? here p
  | found loc => t.contentAt? loc

end ConfigFile

namespace Config

def projectName : String := "pyproject.toml"

/-- The formats of configuration files. -/
inductive Format where
  | toml
  | yaml
  | json
  | project
  deriving DecidableEq

/-- The format that the name of a file tells. -/
def formatOf? (name : String) : Option Format :=
  let ending := Text.toLower (Path.suffixOf name)
  if Text.toLower name = projectName then some .project
  else if ending = ".toml" then some .toml
  else if ending = ".yaml" || ending = ".yml" then some .yaml
  else if ending = ".json" then some .json
  else none

/-- A failure of validation. -/
def invalid (cause : ValidationCause) : Outcome α := .error (.fault (.validation cause))

/-- The entry of a table, an empty table if there is none. Only tables have entries. -/
def subtable (name : String) : Value → Outcome Value
  | .map entries => .ok ((Value.field? name entries).getD (.map []))
  | _ => .error (.breakdown .missingAttribute)

/-- The configuration section of a project file; `shown` is how messages name the file. -/
def projectSection (shown : String) (data : ByteArray) : Outcome Entries := do
  match String.fromUTF8? data with
  | none => .error (.breakdown .undecodableBytes)
  | some text =>
    match Toml.read? text with
    | none => invalid (.projectUnreadable shown)
    | some tables =>
      match ← subtable "md2latex" (← subtable "tool" (.map tables)) with
      | .map entries => return entries
      | v => invalid (.projectNotTable shown v.typeName)

/-- The root of a configuration file as a mapping; nothing counts as an empty one. -/
def rootMapping (l : Yaml.Loader α) (shown : String) : Root α → Outcome α
  | .nothing => .ok (l.ofEntries [])
  | .mapping fields => .ok fields
  | .other typeName => invalid (.configNotMapping shown typeName)

/-- The text of a configuration file. -/
def configText (data : ByteArray) : Outcome String :=
  match textOfBytes? data with
  | some text => .ok text
  | none => .error (.breakdown .undecodableBytes)

/-- The root of what a file of a format holds, with a loader for YAML. -/
def decodeWith (l : Yaml.Loader α) (shown : String) (data : ByteArray) :
    Format → Outcome (Root α)
  | .project => (projectSection shown data).map fun entries => .mapping (l.ofEntries entries)
  | .toml =>
    match String.fromUTF8? data with
    | none => .error (.breakdown .undecodableBytes)
    | some text =>
      match Toml.read? text with
      | some tables => .ok (.mapping (l.ofEntries tables))
      | none => invalid (.configUnreadable shown)
  | .yaml =>
    match l.loadFile data with
    | .ok root => .ok root
    | .error .malformed => invalid (.configUnreadable shown)
    | .error (.breakdown b) => .error (.breakdown b)
  | .json => do
    match Json.read? (← configText data) with
    | some v => return v.root.map l.ofEntries
    | none => invalid (.configUnreadable shown)

/-- The mapping that a configuration file holds, with a loader for YAML. -/
def loadWith (l : Yaml.Loader α) (t : FileTree) (here : Location) (f : ConfigFile) :
    Outcome α :=
  match f.content? t here with
  | none => invalid (.configMissing f.text)
  | some data =>
    match formatOf? f.name with
    | none => invalid (.configFormat (Text.toLower (Path.suffixOf f.name)))
    | some format => do rootMapping l f.text (← decodeWith l f.text data format)

/-- The mapping that a configuration file holds. -/
def load (t : FileTree) (here : Location) (f : ConfigFile) : Outcome Entries :=
  loadWith .usual t here f

end Config

end Manuscript
